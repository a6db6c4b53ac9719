import LibIso15118.Fsm.Phases
import LibIso15118.Fsm.Events

set_option autoImplicit false

namespace LibIso15118

open Datatypes Shared

/-- A member variable of some of the states, with the events that set it. -/
structure Member (α : Type) where
  read : State → Option α
  kind : ControlEvent → Option α
  initial : α

namespace Member

variable {α : Type}

structure Follows (platform : Platform) (member : Member α) : Prop where
  control : ∀ state event, member.read (state.afterControl event) =
    (member.read state).map ((member.kind event).getD ·)
  timeout : ∀ state type, member.read (state.afterTimeout type) = member.read state
  created : ∀ (next : StateId) ctx value, member.read (next.create.enter ctx) = some value →
    value = member.initial
  message : ∀ env (ctx : Context) variant, ctx.request = some variant → ∀ state,
    Act.wp (state.feed platform env .v2gtpMessage) (fun result _ _ =>
      ∀ state' res, result = .ok (state', res) → member.read state' = member.read state) ctx

def since (member : Member α) (id : StateId) (past : List FsmStep) : α :=
  (Fsm.latest member.kind (Fsm.stay id past)).getD member.initial

theorem since_concat (member : Member α) (past : List FsmStep) (record : FsmStep) :
    member.since record.before.state.id (past ++ [record]) =
      (record.input.event?.bind member.kind).getD (member.since record.before.state.id past) := by
  rw [since, Fsm.stay_concat, if_pos rfl, Fsm.latest_concat]
  cases record.input.event?.bind member.kind <;> rfl

end Member

namespace Fsm

variable (platform : Platform) {α : Type} {member : Member α}

def Hears (member : Member α) (fsm : Fsm) (input : Input) (fsm' : Fsm) : Prop :=
  fsm'.state.id = fsm.state.id ∧
      member.read fsm'.state = (member.read fsm.state).map ((input.event?.bind member.kind).getD ·) ∨
    ∃ next ∈ fsm.state.id.successors, fsm'.state = next.create.enter fsm'.ctx

theorem step_hears (follows : member.Follows platform) {fsm : Fsm} (idle : fsm.ctx.request = none)
    (input : Input) :
    Hears member fsm input (step platform input fsm).state := by
  cases input with
  | message env variant =>
      suffices spec : Act.wp (step platform (.message env variant))
          (fun _ fsm' _ => Hears member fsm (.message env variant) fsm') fsm from spec
      rw [wp_step_message platform env variant fsm idle]
      have pending := messageContext_request fsm.ctx variant
      refine Act.wp_mono _ _ (Act.wp_and _ _ (State.message_frame platform env _ pending fsm.state)
        (follows.message env _ variant pending fsm.state)) ?_
      rintro (e | ⟨state', unhandled, newState⟩) ctx' log ⟨frame, kept⟩
      · exact .inl ⟨rfl, by simp [Input.event?]⟩
      · obtain ⟨same, asked⟩ := frame.next state' ⟨unhandled, newState⟩ rfl
        cases newState with
        | none =>
            obtain rfl : unhandled = true := asked
            exact .inl ⟨same, by simpa [Input.event?] using kept state' _ rfl⟩
        | some new =>
            obtain ⟨rfl, next, successor, rfl⟩ := asked
            exact .inr ⟨next, successor, rfl⟩
  | control env event =>
      suffices spec : Act.wp (step platform (.control env event))
          (fun _ fsm' _ => Hears member fsm (.control env event) fsm') fsm from spec
      by_cases resumes : fsm.state.Resumes event
      · obtain ⟨self, req, closed, delivery, saved, rfl⟩ := resumes
        rw [wp_step_control_resumed platform env closed fsm self req delivery saved]
        have heard := follows.control fsm.state (.closedContactor closed)
        rw [delivery] at heard
        refine ⟨fun _ => .inl ⟨by rw [delivery]; rfl, by rw [delivery]; exact heard⟩,
          fun _ => .inr ⟨.acChargeLoop, ?_, rfl⟩⟩
        simp [delivery, State.id, StateId.successors]
      · apply wp_step_control_quiet platform env event fsm resumes
        intro timeouts _
        exact .inl ⟨fsm.state.afterControl_id event, follows.control fsm.state event⟩
  | timeout env type =>
      apply wp_step_timeout platform env type fsm (fun _ fsm' _ => Hears member fsm (.timeout env type) fsm')
      intro pending log _
      exact .inl ⟨fsm.state.afterTimeout_id type,
        by simpa [Input.event?] using follows.timeout fsm.state type⟩
  | _ => exact .inl ⟨rfl, by simp [step, modifyCtx, stopSession, Input.event?]⟩

structure MemberInvariant (member : Member α) (past : List FsmStep) (fsm : Fsm) : Prop where
  idle : fsm.ctx.request = none
  held : ∀ value, member.read fsm.state = some value → value = member.since fsm.state.id past

theorem memberInvariant_step (follows : member.Follows platform) {past : List FsmStep} {fsm : Fsm}
    (inv : MemberInvariant member past fsm) (input : Input) :
    MemberInvariant member (past ++ [Machine.stepOf (step platform) fsm input])
      (step platform input fsm).state := by
  refine ⟨(step_frame platform fsm input inv.idle).idle, fun value read => ?_⟩
  rcases step_hears platform follows inv.idle input with ⟨same, heard⟩ | ⟨next, successor, entered⟩
  · have concat := member.since_concat past (Machine.stepOf (step platform) fsm input)
    rw [Machine.stepOf_before, Machine.stepOf_input] at concat
    rw [heard, Option.map_eq_some_iff] at read
    obtain ⟨before, there, rfl⟩ := read
    rw [same, concat, inv.held before there]
  · -- the new state has heard of nothing yet
    have apart : fsm.state.id ≠ next := by
      intro same
      have later := StateId.rank_lt_of_mem_successors successor
      rw [same] at later
      exact lt_irrefl _ later
    rw [entered] at read ⊢
    rw [State.enter_id, StateId.create_id, Member.since, stay_concat, Machine.stepOf_before, if_neg apart]
    exact follows.created next _ value read

theorem memberInvariant_reached (follows : member.Follows platform) (config : SessionConfig)
    (pauseCtx : Option PauseContext) (id : SessionId) (inputs : List Input)
    (silent : member.read .supportedAppProtocol = none) :
    MemberInvariant member (run platform config pauseCtx id inputs)
      (reached platform config pauseCtx id inputs) :=
  Machine.run_induction (step platform) (Fsm.new config pauseCtx id) (motive := MemberInvariant member)
    ⟨rfl, fun value read => by simp [silent] at read⟩
    (fun _ _ input inv => memberInvariant_step platform follows inv input) inputs

end Fsm

end LibIso15118
