import LibIso15118.Fsm.Run

set_option autoImplicit false

/-!
# Control events and what is kept of them

The context stores the last event of every kind. A state that uses an event copies it when it is entered,
`ScheduleExchange` excepted, and follows the events that come while it is the current one.
-/

namespace LibIso15118

open Datatypes Shared

def Input.event? : Input → Option ControlEvent
  | .control _ event => some event
  | _ => none

namespace ControlEvent

def dcTransferLimits? : ControlEvent → Option DcTransferLimits
  | .dcTransferLimits limits => some limits
  | _ => none

def acTransferLimits? : ControlEvent → Option AcTransferLimits
  | .acTransferLimits limits => some limits
  | _ => none

def dynamicModeParameters? : ControlEvent → Option UpdateDynamicModeParameters
  | .updateDynamicModeParameters parameters => some parameters
  | _ => none

def acTargetPower? : ControlEvent → Option AcTargetPower
  | .acTargetPower power => some power
  | _ => none

def acPresentPower? : ControlEvent → Option AcPresentPower
  | .acPresentPower power => some power
  | _ => none

end ControlEvent

def Stored.receive (stored : Stored) (event : ControlEvent) : Stored :=
  { dcLimits := event.dcTransferLimits?.getD stored.dcLimits
    acLimits := event.acTransferLimits?.getD stored.acLimits
    dynamicModeParameters := event.dynamicModeParameters?.or stored.dynamicModeParameters
    acTargetPower := event.acTargetPower?.or stored.acTargetPower
    acPresentPower := event.acPresentPower?.or stored.acPresentPower }

def Held.receive (held : Held) (event : ControlEvent) : Held :=
  { dynamicParameters := held.dynamicParameters.map event.dynamicModeParameters?.getD
    targetPowers := held.targetPowers.map event.acTargetPower?.getD
    presentPowers := held.presentPowers.map event.acPresentPower?.getD
    targetFrequency := held.targetFrequency }

/-- What the members of the current state hold; `stayed` is the last event that `ScheduleExchange` has
received since it was entered. -/
def StateId.holds (stored : Stored) (stayed : Option UpdateDynamicModeParameters) : StateId → Held
  | .acChargeParameterDiscovery => { presentPowers := some (stored.acPresentPower.getD {}) }
  | .scheduleExchange => { dynamicParameters := some (stayed.getD {}) }
  | .acChargeLoop =>
      { dynamicParameters := some (stored.dynamicModeParameters.getD {})
        targetPowers := some (stored.acTargetPower.getD {})
        presentPowers := some (stored.acPresentPower.getD {})
        targetFrequency := some 0 }
  | .dcChargeLoop => { dynamicParameters := some (stored.dynamicModeParameters.getD {}) }
  | _ => {}

theorem StateId.enter_held (next : StateId) (ctx : Context) :
    (next.create.enter ctx).held = next.holds ctx.stored none := by
  cases next <;> rfl

theorem StateId.holds_receive (id : StateId) (stored : Stored)
    (stayed : Option UpdateDynamicModeParameters) (event : ControlEvent) :
    (id.holds stored stayed).receive event =
      id.holds (stored.receive event) (event.dynamicModeParameters?.or stayed) := by
  cases id <;> cases event <;> rfl

theorem State.afterControl_held (state : State) (event : ControlEvent) :
    (state.afterControl event).held = state.held.receive event := by
  cases state <;> cases event <;> rfl

theorem State.afterTimeout_held (state : State) (type : TimeoutType) :
    (state.afterTimeout type).held = state.held := by
  cases state <;> cases type <;> rfl

namespace Fsm

variable (platform : Platform)

theorem controlContext_stored (ctx : Context) (event : ControlEvent) :
    (controlContext ctx event).stored = ctx.stored.receive event := by
  cases event <;> rfl

structure Receives (fsm : Fsm) (input : Input) (fsm' : Fsm) : Prop where
  stored : fsm'.ctx.stored = input.event?.elim fsm.ctx.stored fsm.ctx.stored.receive
  held : (fsm'.state.id = fsm.state.id ∧
      fsm'.state.held = input.event?.elim fsm.state.held fsm.state.held.receive) ∨
    ∃ next ∈ fsm.state.id.successors, fsm'.state = next.create.enter fsm'.ctx

theorem message_receives (env : Env) (variant : Variant) (fsm : Fsm) (idle : fsm.ctx.request = none) :
    Act.wp (step platform (.message env variant))
      (fun _ fsm' _ => Receives fsm (.message env variant) fsm') fsm := by
  rw [wp_step_message platform env variant fsm idle]
  refine Act.wp_mono _ _ (State.message_frame platform env (messageContext fsm.ctx variant)
    (messageContext_request fsm.ctx variant) fsm.state) ?_
  intro result ctx' log frame
  constructor
  · have stored : (fsm.settle result ctx').ctx.stored = ctx'.stored := by
      rcases settle_ctx fsm ctx' result with same | same <;> simp [same, Context.stored]
    exact stored.trans frame.stored
  · rcases result with e | ⟨state', unhandled, newState⟩
    · exact .inl ⟨rfl, rfl⟩
    · obtain ⟨same, follows⟩ := frame.next state' ⟨unhandled, newState⟩ rfl
      cases newState with
      | none =>
          obtain rfl : unhandled = true := follows
          exact .inl ⟨same, frame.held state' _ rfl⟩
      | some new =>
          obtain ⟨rfl, next, successor, rfl⟩ := follows
          exact .inr ⟨next, successor, rfl⟩

theorem step_receives (fsm : Fsm) (input : Input) (idle : fsm.ctx.request = none) :
    Receives fsm input (step platform input fsm).state := by
  cases input with
  | message env variant => exact message_receives platform env variant fsm idle
  | control env event =>
      suffices spec : Act.wp (step platform (.control env event))
          (fun _ fsm' _ => Receives fsm (.control env event) fsm') fsm from spec
      by_cases resumes : fsm.state.Resumes event
      · obtain ⟨self, req, closed, delivery, saved, rfl⟩ := id resumes
        rw [wp_step_control_resumed platform env closed fsm self req delivery saved]
        refine ⟨fun _ => ⟨rfl, .inl ?_⟩, fun _ => ⟨rfl, .inr ⟨.acChargeLoop, ?_, rfl⟩⟩⟩
        · rw [delivery]
          exact ⟨rfl, rfl⟩
        · simp [delivery, State.id, StateId.successors]
      · apply wp_step_control_quiet platform env event fsm resumes
        intro timeouts _
        exact ⟨controlContext_stored fsm.ctx event,
          .inl ⟨fsm.state.afterControl_id event, fsm.state.afterControl_held event⟩⟩
  | timeout env type =>
      apply wp_step_timeout platform env type fsm (fun _ fsm' _ => Receives fsm (.timeout env type) fsm')
      intro pending log _
      exact ⟨rfl, .inl ⟨fsm.state.afterTimeout_id type, fsm.state.afterTimeout_held type⟩⟩
  | _ => exact ⟨rfl, .inl ⟨rfl, rfl⟩⟩

def latest {α : Type} (kind : ControlEvent → Option α) (past : List FsmStep) : Option α :=
  (past.filterMap fun record => record.input.event?.bind kind).getLast?

theorem latest_concat {α : Type} (kind : ControlEvent → Option α) (past : List FsmStep) (record : FsmStep) :
    latest kind (past ++ [record]) = (record.input.event?.bind kind).or (latest kind past) := by
  cases event : record.input.event?.bind kind <;> simp [latest, event]

/-- The last event of every kind that a run has delivered, and else what was configured. -/
def delivered (config : SessionConfig) (past : List FsmStep) : Stored :=
  { dcLimits := (latest (·.dcTransferLimits?) past).getD config.dcLimits
    acLimits := (latest (·.acTransferLimits?) past).getD config.acLimits
    dynamicModeParameters := latest (·.dynamicModeParameters?) past
    acTargetPower := latest (·.acTargetPower?) past
    acPresentPower := latest (·.acPresentPower?) past }

/-- The parameters that have been delivered since `ScheduleExchange` was entered. -/
def stayed (past : List FsmStep) : Option UpdateDynamicModeParameters :=
  latest (·.dynamicModeParameters?) (stay .scheduleExchange past)

theorem delivered_concat (config : SessionConfig) (past : List FsmStep) (record : FsmStep) :
    delivered config (past ++ [record]) =
      record.input.event?.elim (delivered config past) (delivered config past).receive := by
  simp only [delivered, latest_concat]
  generalize record.input.event? = event
  cases event with
  | none => rfl
  | some event => cases event <;> rfl

structure EventInvariant (config : SessionConfig) (past : List FsmStep) (fsm : Fsm) : Prop where
  idle : fsm.ctx.request = none
  stored : fsm.ctx.stored = delivered config past
  held : fsm.state.held = fsm.state.id.holds (delivered config past) (stayed past)

theorem eventInvariant_step {config : SessionConfig} {past : List FsmStep} {fsm : Fsm}
    (inv : EventInvariant config past fsm) (input : Input) :
    EventInvariant config (past ++ [Machine.stepOf (step platform) fsm input])
      (step platform input fsm).state := by
  have receives := step_receives platform fsm input inv.idle
  have stored : (step platform input fsm).state.ctx.stored =
      delivered config (past ++ [Machine.stepOf (step platform) fsm input]) := by
    rw [receives.stored, inv.stored, delivered_concat]
    rfl
  refine ⟨(step_frame platform fsm input inv.idle).idle, stored, ?_⟩
  rw [← stored]
  rcases receives.held with ⟨same, held⟩ | ⟨next, successor, entered⟩
  · rw [held, same, inv.held, ← inv.stored, receives.stored]
    by_cases inside : fsm.state.id = .scheduleExchange
    · have stays : stayed (past ++ [Machine.stepOf (step platform) fsm input]) =
          (input.event?.bind (·.dynamicModeParameters?)).or (stayed past) := by
        rw [stayed, stay_concat, Machine.stepOf_before, if_pos inside, latest_concat]
        rfl
      rw [stays]
      cases input.event? with
      | none => rfl
      | some event => exact StateId.holds_receive _ _ _ event
    · -- the other states do not look at what came since `ScheduleExchange` was entered
      have apart (stored : Stored) (stayed stayed' : Option UpdateDynamicModeParameters) :
          fsm.state.id.holds stored stayed = fsm.state.id.holds stored stayed' := by
        cases id : fsm.state.id <;> first | rfl | exact absurd id inside
      cases input.event? with
      | none => exact apart _ _ _
      | some event => exact (StateId.holds_receive _ _ _ event).trans (apart _ _ _)
  · rw [entered, State.enter_id, StateId.create_id, StateId.enter_held]
    by_cases inside : fsm.state.id = .scheduleExchange
    · rw [inside] at successor
      simp only [StateId.successors, List.mem_cons, List.not_mem_nil, or_false] at successor
      rcases successor with rfl | rfl <;> rfl
    · rw [stayed, stay_concat, Machine.stepOf_before, if_neg inside]
      rfl

theorem eventInvariant_reached (config : SessionConfig) (pauseCtx : Option PauseContext) (id : SessionId)
    (inputs : List Input) :
    EventInvariant config (run platform config pauseCtx id inputs)
      (reached platform config pauseCtx id inputs) :=
  Machine.run_induction (step platform) (Fsm.new config pauseCtx id) (motive := EventInvariant config)
    ⟨rfl, rfl, rfl⟩ (fun _ _ input inv => eventInvariant_step platform inv input) inputs

end Fsm

end LibIso15118
