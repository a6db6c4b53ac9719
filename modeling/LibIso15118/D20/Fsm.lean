import LibIso15118.D20.State.Setup
import LibIso15118.D20.State.Service
import LibIso15118.D20.State.ChargeLoop
import LibIso15118.D20.State.Stop

set_option autoImplicit false

namespace LibIso15118

open Datatypes Shared

/-- The virtual call `m_current_state->feed`: the state object as it is left, and the result. -/
def State.feed (platform : Platform) (env : Env) (state : State) (ev : Event) :
    Feed (State × Result) := do
  match state with
  | .supportedAppProtocol =>
      return (.supportedAppProtocol, ← State.SupportedAppProtocol.feed platform ev)
  | .sessionSetup => return (.sessionSetup, ← State.SessionSetup.feed platform env ev)
  | .authorizationSetup =>
      return (.authorizationSetup, ← State.AuthorizationSetup.feed platform env ev)
  | .authorization self => do
      let (self, result) ← State.Authorization.feed platform env self ev
      return (.authorization self, result)
  | .serviceDiscovery => return (.serviceDiscovery, ← State.ServiceDiscovery.feed platform env ev)
  | .serviceDetail => return (.serviceDetail, ← State.ServiceDetail.feed platform env ev)
  | .serviceSelection => return (.serviceSelection, ← State.ServiceSelection.feed platform env ev)
  | .acChargeParameterDiscovery self => do
      let (self, result) ← State.AcChargeParameterDiscovery.feed platform env self ev
      return (.acChargeParameterDiscovery self, result)
  | .dcChargeParameterDiscovery =>
      return (.dcChargeParameterDiscovery,
        ← State.DcChargeParameterDiscovery.feed platform env ev)
  | .scheduleExchange self => do
      let (self, result) ← State.ScheduleExchange.feed platform env self ev
      return (.scheduleExchange self, result)
  | .dcCableCheck self => do
      let (self, result) ← State.DcCableCheck.feed platform env self ev
      return (.dcCableCheck self, result)
  | .dcPreCharge self => do
      let (self, result) ← State.DcPreCharge.feed platform env self ev
      return (.dcPreCharge self, result)
  | .powerDelivery self => do
      let (self, result) ← State.PowerDelivery.feed platform env self ev
      return (.powerDelivery self, result)
  | .acChargeLoop self => do
      let (self, result) ← State.AcChargeLoop.feed platform env self ev
      return (.acChargeLoop self, result)
  | .dcChargeLoop self => do
      let (self, result) ← State.DcChargeLoop.feed platform env self ev
      return (.dcChargeLoop self, result)
  | .dcWeldingDetection self => do
      let (self, result) ← State.DcWeldingDetection.feed platform env self ev
      return (.dcWeldingDetection self, result)
  | .sessionStop => return (.sessionStop, ← State.SessionStop.feed platform env ev)

/-- `FeedResult`; as a `bool` it is false exactly for `unhandled`. -/
inductive FeedResult where
  | unhandled
  | transition
  | noTransition
  deriving DecidableEq

structure Fsm where
  state : State
  ctx : Context

abbrev FsmAct := Act Fsm Output Exn

namespace Fsm

/-- The machine and the context that the constructor of `Session` builds. -/
def new (config : SessionConfig) (pauseCtx : Option PauseContext) (id : SessionId) : Fsm :=
  { state := .supportedAppProtocol
    ctx := { session := .new id, sessionConfig := config, pauseCtx } }

def modifyCtx (f : Context → Context) : FsmAct Unit :=
  Act.modify fun fsm => { fsm with ctx := f fsm.ctx }

/-- `FSM::feed` -/
def feed (platform : Platform) (env : Env) (ev : Event) : FsmAct FeedResult := fun fsm =>
  let outcome := fsm.state.feed platform env ev fsm.ctx
  match outcome.result with
  | .error e => ⟨.error e, ⟨fsm.state, outcome.state⟩, outcome.log⟩
  | .ok (state, result) =>
      if result.unhandled then ⟨.ok .unhandled, ⟨state, outcome.state⟩, outcome.log⟩
      else
        match result.newState with
        | none => ⟨.ok .noTransition, ⟨state, outcome.state⟩, outcome.log⟩
        | some next => ⟨.ok .transition, ⟨next.enter outcome.state, outcome.state⟩, outcome.log⟩

@[simp] theorem wp_modifyCtx (f : Context → Context) (fsm : Fsm)
    (post : Except Exn Unit → Fsm → List Output → Prop) :
    Act.wp (modifyCtx f) post fsm ↔ post (.ok ()) { fsm with ctx := f fsm.ctx } [] := Iff.rfl

/-- Where `FSM::feed` leaves the machine, from what the state object returned. -/
def land (fsm : Fsm) (result : Except Exn (State × Result)) (ctx : Context) :
    Except Exn FeedResult × Fsm :=
  match result with
  | .error e => (.error e, ⟨fsm.state, ctx⟩)
  | .ok (state, result) =>
      if result.unhandled then (.ok .unhandled, ⟨state, ctx⟩)
      else
        match result.newState with
        | none => (.ok .noTransition, ⟨state, ctx⟩)
        | some next => (.ok .transition, ⟨next.enter ctx, ctx⟩)

theorem wp_feed (platform : Platform) (env : Env) (ev : Event) (fsm : Fsm)
    (post : Except Exn FeedResult → Fsm → List Output → Prop) :
    Act.wp (feed platform env ev) post fsm ↔
      Act.wp (fsm.state.feed platform env ev)
        (fun result ctx log => post (land fsm result ctx).1 (land fsm result ctx).2 log) fsm.ctx := by
  simp only [Act.wp, feed, land]
  rcases (fsm.state.feed platform env ev fsm.ctx).result with e | ⟨state, result⟩
  · rfl
  · by_cases unhandled : result.unhandled
    · simp [unhandled]
    · cases newState : result.newState <;> simp [unhandled, newState]

end Fsm

end LibIso15118
