import LibIso15118.Fsm.Events
import LibIso15118.Fsm.Exchange

set_option autoImplicit false

namespace LibIso15118

open Datatypes Shared

namespace ControlEvent

def stopCharging? : ControlEvent → Option Bool
  | .stopCharging stop => some stop
  | _ => none

def pauseCharging? : ControlEvent → Option Bool
  | .pauseCharging pause => some pause
  | _ => none

end ControlEvent

structure Told where
  stop : Bool := false
  pause : Bool := false

def Told.receive (told : Told) (event : ControlEvent) : Told :=
  { stop := event.stopCharging?.getD told.stop
    pause := event.pauseCharging?.getD told.pause }

def State.told? : State → Option Told
  | .acChargeLoop self => some ⟨self.stop, self.pause⟩
  | .dcChargeLoop self => some ⟨self.stop, self.pause⟩
  | _ => none

theorem State.told?_elsewhere {state : State} (elsewhere : state.id.isChargeLoop = false) :
    state.told? = none := by
  cases state <;> first | rfl | cases elsewhere

theorem State.told?_afterControl (state : State) (event : ControlEvent) :
    (state.afterControl event).told? = state.told?.map (·.receive event) := by
  cases state <;> cases event <;> rfl

theorem State.told?_afterTimeout (state : State) (type : TimeoutType) :
    (state.afterTimeout type).told? = state.told? := by
  cases state <;> cases type <;> rfl

theorem StateId.create_told? (next : StateId) (ctx : Context) :
    (next.create.enter ctx).told? = if next.isChargeLoop then some {} else none := by
  cases next <;> rfl

theorem StateId.isChargeLoop_left {id next : StateId} (successor : next ∈ id.successors)
    (loop : next.isChargeLoop = true) : id ≠ next := by
  rintro rfl
  cases id <;> simp [StateId.isChargeLoop, StateId.successors] at loop successor

section Message

variable (platform : Platform) (env : Env) (ctx : Context) {variant : Variant}
  (pending : ctx.request = some variant)
include pending

theorem State.message_told (state : State) :
    Act.wp (state.feed platform env .v2gtpMessage) (fun result _ _ =>
      ∀ state' res, result = .ok (state', res) → state'.told? = state.told?) ctx := by
  -- A message does not change the two members.
  by_cases elsewhere : state.id.isChargeLoop = false
  · refine Act.wp_mono _ _ (State.message_frame platform env ctx pending state) ?_
    intro result ctx' log frame state' res returned
    have same := (frame.next state' res returned).1
    rw [State.told?_elsewhere elsewhere, State.told?_elsewhere (same ▸ elsewhere)]
  · cases state
    case acChargeLoop self =>
      simp only [State.feed, State.AcChargeLoop.feed, Act.wp_bind, Feed.wp_pullRequest _ pending]
      split
      · simp [State.told?]
      · simp [State.told?]
      · simp only [Act.wp_bind, Act.wp_pure]
        apply wp_stopOnSequenceError
        simp
    case dcChargeLoop self =>
      simp only [State.feed, State.DcChargeLoop.feed, Act.wp_bind, Feed.wp_pullRequest _ pending]
      split
      · simp [State.told?]
      · simp [State.told?]
      · simp only [Act.wp_bind, Act.wp_pure]
        apply wp_stopOnSequenceError
        simp
    all_goals exact absurd rfl elsewhere

end Message

namespace Fsm

variable (platform : Platform) {fsm : Fsm}

def Tells (fsm : Fsm) (input : Input) (fsm' : Fsm) : Prop :=
  fsm'.state.id = fsm.state.id ∧
      fsm'.state.told? = input.event?.elim fsm.state.told? (fun event => fsm.state.told?.map (·.receive event)) ∨
    ∃ next ∈ fsm.state.id.successors, fsm'.state = next.create.enter fsm'.ctx

theorem step_tells (idle : fsm.ctx.request = none) (input : Input) :
    Tells fsm input (step platform input fsm).state := by
  cases input with
  | message env variant =>
      suffices spec : Act.wp (step platform (.message env variant))
          (fun _ fsm' _ => Tells fsm (.message env variant) fsm') fsm from spec
      rw [wp_step_message platform env variant fsm idle]
      have pending := messageContext_request fsm.ctx variant
      refine Act.wp_mono _ _ (Act.wp_and _ _ (State.message_frame platform env _ pending fsm.state)
        (State.message_told platform env _ pending fsm.state)) ?_
      rintro (e | ⟨state', unhandled, newState⟩) ctx' log ⟨frame, told⟩
      · exact .inl ⟨rfl, rfl⟩
      · obtain ⟨same, follows⟩ := frame.next state' ⟨unhandled, newState⟩ rfl
        cases newState with
        | none =>
            obtain rfl : unhandled = true := follows
            exact .inl ⟨same, told state' _ rfl⟩
        | some new =>
            obtain ⟨rfl, next, successor, rfl⟩ := follows
            exact .inr ⟨next, successor, rfl⟩
  | control env event =>
      suffices spec : Act.wp (step platform (.control env event))
          (fun _ fsm' _ => Tells fsm (.control env event) fsm') fsm from spec
      by_cases resumes : fsm.state.Resumes event
      · obtain ⟨self, req, closed, delivery, saved, rfl⟩ := resumes
        rw [wp_step_control_resumed platform env closed fsm self req delivery saved]
        refine ⟨fun _ => .inl ?_, fun _ => .inr ⟨.acChargeLoop, ?_, rfl⟩⟩
        · rw [delivery]
          exact ⟨rfl, rfl⟩
        · simp [delivery, State.id, StateId.successors]
      · apply wp_step_control_quiet platform env event fsm resumes
        intro timeouts _
        exact .inl ⟨fsm.state.afterControl_id event, fsm.state.told?_afterControl event⟩
  | timeout env type =>
      apply wp_step_timeout platform env type fsm (fun _ fsm' _ => Tells fsm (.timeout env type) fsm')
      intro pending log _
      exact .inl ⟨fsm.state.afterTimeout_id type, fsm.state.told?_afterTimeout type⟩
  | _ => exact .inl ⟨rfl, rfl⟩

def toldSince (id : StateId) (past : List FsmStep) : Told :=
  { stop := (latest (·.stopCharging?) (stay id past)).getD false
    pause := (latest (·.pauseCharging?) (stay id past)).getD false }

theorem toldSince_concat (past : List FsmStep) (record : FsmStep) :
    toldSince record.before.state.id (past ++ [record]) =
      record.input.event?.elim (toldSince record.before.state.id past)
        (toldSince record.before.state.id past).receive := by
  simp only [toldSince, stay_concat, if_true, latest_concat]
  generalize record.input.event? = event
  cases event with
  | none => rfl
  | some event => cases event <;> rfl

structure ToldInvariant (past : List FsmStep) (fsm : Fsm) : Prop where
  idle : fsm.ctx.request = none
  told : fsm.state.id.isChargeLoop = true → fsm.state.told? = some (toldSince fsm.state.id past)

theorem toldInvariant_step {past : List FsmStep} (inv : ToldInvariant past fsm) (input : Input) :
    ToldInvariant (past ++ [Machine.stepOf (step platform) fsm input]) (step platform input fsm).state := by
  refine ⟨(step_frame platform fsm input inv.idle).idle, fun loop => ?_⟩
  rcases step_tells platform inv.idle input with ⟨same, told⟩ | ⟨next, successor, entered⟩
  · rw [same] at loop ⊢
    rw [told, inv.told loop]
    have concat := toldSince_concat past (Machine.stepOf (step platform) fsm input)
    rw [Machine.stepOf_before, Machine.stepOf_input] at concat
    rw [concat]
    cases input.event? <;> rfl
  · rw [entered, State.enter_id, StateId.create_id] at loop ⊢
    rw [StateId.create_told?, if_pos loop, toldSince, stay_concat, Machine.stepOf_before,
      if_neg (StateId.isChargeLoop_left successor loop)]
    rfl

theorem toldInvariant_reached (config : SessionConfig) (pauseCtx : Option PauseContext) (id : SessionId)
    (inputs : List Input) :
    ToldInvariant (run platform config pauseCtx id inputs) (reached platform config pauseCtx id inputs) :=
  Machine.run_induction (step platform) (Fsm.new config pauseCtx id) (motive := ToldInvariant)
    ⟨rfl, by simp [StateId.isChargeLoop, State.id]⟩ (fun _ _ input inv => toldInvariant_step platform inv input)
    inputs

def Missed (kind : ControlEvent → Option Bool) (id : StateId) (past : List FsmStep) : Prop :=
  latest kind past = some true ∧ latest kind (stay id past) = none

/-- The requests of the operator that decide on the status have reached the charge loop. -/
def Heard (id : StateId) (past : List FsmStep) : Prop :=
  ¬Missed (·.stopCharging?) id past ∧
    (latest (·.stopCharging?) past = some true ∨ ¬Missed (·.pauseCharging?) id past)

/-- The status that the last requests of the operator ask for, in whatever state they were delivered. -/
def requestedStatus (past : List FsmStep) (controlMode : ControlMode) : Option EvseStatus :=
  if latest (·.stopCharging?) past = some true then some ⟨0, .terminate⟩
  else if latest (·.pauseCharging?) past = some true then
    some ⟨if controlMode = .dynamic then 60 else 0, .pause⟩
  else none

theorem requestedStatus_eq (past : List FsmStep) (controlMode : ControlMode) :
    requestedStatus past controlMode = chargeLoopStatus ((latest (·.stopCharging?) past).getD false)
      ((latest (·.pauseCharging?) past).getD false) controlMode := by
  have asked (event : Option Bool) : event = some true ↔ event.getD false = true := by
    cases event <;> simp
  simp only [requestedStatus, chargeLoopStatus, asked]

theorem latest_stay {kind : ControlEvent → Option Bool} {id : StateId} {past : List FsmStep} {value : Bool}
    (received : latest kind (stay id past) = some value) : latest kind past = some value := by
  obtain ⟨earlier, whole⟩ : stay id past <:+ past := List.rtakeWhile_suffix _ past
  have split : latest kind past = (latest kind (stay id past)).or (latest kind earlier) := by
    rw [← whole, latest, List.filterMap_append, List.getLast?_append, whole]
    rfl
  rw [split, received, Option.some_or]

theorem latest_stay_iff (kind : ControlEvent → Option Bool) (id : StateId) (past : List FsmStep) :
    (latest kind (stay id past)).getD false = (latest kind past).getD false ↔ ¬Missed kind id past := by
  -- The charge loop knows the last event of a kind, unless it has missed it.
  cases inside : latest kind (stay id past) with
  | some value => simp [latest_stay inside, Missed, inside]
  | none =>
      cases whole : latest kind past with
      | none => simp [Missed, whole]
      | some value => cases value <;> simp [Missed, whole, inside]

theorem chargeLoopStatus_eq_iff {stop pause stop' pause' : Bool} (controlMode : ControlMode) :
    chargeLoopStatus stop pause controlMode = chargeLoopStatus stop' pause' controlMode ↔
      stop = stop' ∧ (stop' = true ∨ pause = pause') := by
  cases stop <;> cases pause <;> cases stop' <;> cases pause' <;> simp [chargeLoopStatus]

theorem toldStatus_iff (id : StateId) (past : List FsmStep) (controlMode : ControlMode) :
    chargeLoopStatus (toldSince id past).stop (toldSince id past).pause controlMode =
        requestedStatus past controlMode ↔ Heard id past := by
  rw [requestedStatus_eq, chargeLoopStatus_eq_iff]
  simp only [toldSince, latest_stay_iff, Heard]
  cases latest (·.stopCharging?) past <;> simp

end Fsm

def Response.status? : Response → Option (Option EvseStatus)
  | .acChargeLoop res => some res.status
  | .dcChargeLoop res => some res.status
  | _ => none

section Handlers

variable (env : Env) {session : Session}

theorem handleAcChargeLoop_status {req : AcChargeLoopRequest} {self : State.AcChargeLoop}
    {limits : AcTransferLimits} {provider : AcDerControlProvider}
    (ok : (handleAcChargeLoop env req session self limits provider).response.responseCode = .ok) :
    (handleAcChargeLoop env req session self limits provider).response.status =
      chargeLoopStatus self.stop self.pause session.selectedServices.selectedControlMode := by
  revert ok
  simp only [handleAcChargeLoop]
  repeat' split
  all_goals
    intro ok
    first
      | cases ok; done
      | rfl

theorem handleDcChargeLoop_status {req : DcChargeLoopRequest} {self : State.DcChargeLoop}
    {limits : DcTransferLimits} (ok : (handleDcChargeLoop env req session self limits).responseCode = .ok) :
    (handleDcChargeLoop env req session self limits).status =
      chargeLoopStatus self.stop self.pause session.selectedServices.selectedControlMode := by
  revert ok
  simp only [handleDcChargeLoop]
  repeat' split
  all_goals
    intro ok
    first
      | cases ok; done
      | rfl

end Handlers

namespace Fsm

variable (platform : Platform)

theorem okAnswer_status {fsm : Fsm} {input : Input} {out : Response} {status : Option EvseStatus}
    (answer : OkAnswer fsm input out) (ok : out.code? = some .ok) (reported : out.status? = some status) :
    ∃ told, fsm.state.told? = some told ∧ fsm.state.id.isChargeLoop = true ∧
      status = chargeLoopStatus told.stop told.pause
        fsm.ctx.session.selectedServices.selectedControlMode := by
  cases answer with
  | resumed env event res => cases reported
  | message env req _ accepts answer =>
      cases req
      case acChargeLoop req =>
        obtain ⟨self, state, rfl⟩ := answer
        obtain rfl := Option.some.inj reported
        refine ⟨⟨self.stop, self.pause⟩, by rw [state]; rfl, by rw [state]; rfl, ?_⟩
        exact handleAcChargeLoop_status env (Option.some.inj ok)
      case dcChargeLoop req =>
        obtain ⟨self, state, rfl⟩ := answer
        obtain rfl := Option.some.inj reported
        refine ⟨⟨self.stop, self.pause⟩, by rw [state]; rfl, by rw [state]; rfl, ?_⟩
        exact handleDcChargeLoop_status env (Option.some.inj ok)
      case sessionSetup | authorization | serviceDetail | acChargeParameterDiscovery | scheduleExchange =>
        obtain ⟨_, _, rfl⟩ := answer
        cases reported
      case dcCableCheck | dcPreCharge | dcWeldingDetection =>
        obtain ⟨_, rfl⟩ := answer
        cases reported
      all_goals
        obtain rfl := answer
        cases reported

/-- A charge loop that answers OK reports what the operator has asked for last, exactly when the requests
that decide on it have reached it. -/
theorem loop_status_iff (config : SessionConfig) (pauseCtx : Option PauseContext) (id : SessionId)
    (inputs : List Input) {past future : List FsmStep} {record : FsmStep}
    (split : run platform config pauseCtx id inputs = past ++ record :: future) {out : Response}
    (sent : out ∈ responses record.outputs) (ok : out.code? = some .ok) {status : Option EvseStatus}
    (reported : out.status? = some status) :
    status = requestedStatus past record.before.ctx.session.selectedServices.selectedControlMode ↔
      Heard record.before.state.id past := by
  obtain ⟨before, input, after, -, rfl, rfl⟩ := Machine.split_of_steps _ split
  have inv := toldInvariant_reached platform config pauseCtx id before
  obtain ⟨told, held, loop, rfl⟩ := okAnswer_status (step_okAnswer platform inv.idle input out sent ok) ok reported
  obtain rfl := Option.some.inj ((inv.told loop).symm.trans held)
  exact toldStatus_iff _ _ _

end Fsm

namespace Sample

def stopCharging : Input := .control {} (.stopCharging true)

def dcCharging : List Input := reachDcPowerDelivery (sessionId 1) ++ [deliver (sessionId 1) .start]

def dcLoop : Input :=
  receive (sessionId 1) (.dcChargeLoop ⟨{ sessionId := sessionId 1 }, none, false, ⟨400, 0⟩, .scheduled {}⟩)

def stoppedEarly : List Input :=
  reachDcPowerDelivery (sessionId 1) ++ [stopCharging, deliver (sessionId 1) .start]

def Reports (status : Option EvseStatus) (out : Response) : Bool :=
  out.code? = some .ok ∧ out.status? = some status

end Sample

namespace Fsm

open Sample

theorem loop_status_heard :
    ∃ out ∈ responses (Machine.stepOf (step platform)
        (reached platform config none (sessionId 9) (dcCharging ++ [stopCharging])) dcLoop).outputs,
      Reports (some ⟨0, .terminate⟩) out = true ∧
        (some ⟨0, .terminate⟩ = requestedStatus
            (run platform config none (sessionId 9) (dcCharging ++ [stopCharging]))
            (reached platform config none (sessionId 9)
              (dcCharging ++ [stopCharging])).ctx.session.selectedServices.selectedControlMode ↔
          Heard (reached platform config none (sessionId 9) (dcCharging ++ [stopCharging])).state.id
            (run platform config none (sessionId 9) (dcCharging ++ [stopCharging]))) := by
  obtain ⟨out, sent, reports⟩ := List.any_eq_true.mp (show (responses (Machine.stepOf (step platform)
    (reached platform config none (sessionId 9) (dcCharging ++ [stopCharging])) dcLoop).outputs).any
      (Reports (some ⟨0, .terminate⟩)) = true by decide +kernel)
  have split := run_concat platform config none (sessionId 9) (dcCharging ++ [stopCharging]) dcLoop
  obtain ⟨ok, reported⟩ := of_decide_eq_true reports
  have status := loop_status_iff platform config none (sessionId 9) _ split sent ok reported
  rw [Machine.stepOf_before] at status
  exact ⟨out, sent, reports, status⟩

/-- The operator has asked for a stop, and the answer carries no status. -/
theorem loop_status_missed :
    ¬∀ (platform : Platform) (config : SessionConfig) (pauseCtx : Option PauseContext) (id : SessionId)
      (inputs : List Input) (past future : List FsmStep) (record : FsmStep),
      run platform config pauseCtx id inputs = past ++ record :: future →
      ∀ out ∈ responses record.outputs, out.code? = some .ok → ∀ status, out.status? = some status →
        status = requestedStatus past record.before.ctx.session.selectedServices.selectedControlMode := by
  intro requested
  obtain ⟨out, sent, reports⟩ := List.any_eq_true.mp (show (responses (Machine.stepOf (step platform)
    (reached platform config none (sessionId 9) stoppedEarly) dcLoop).outputs).any (Reports none) = true by
      decide +kernel)
  have split := run_concat platform config none (sessionId 9) stoppedEarly dcLoop
  obtain ⟨ok, reported⟩ := of_decide_eq_true reports
  have status := requested platform config none (sessionId 9) _ _ [] _ split out sent ok none reported
  have stopped : latest (·.stopCharging?) (run platform config none (sessionId 9) stoppedEarly) = some true := by
    decide +kernel
  rw [requestedStatus, if_pos stopped] at status
  cases status

end Fsm

end LibIso15118
