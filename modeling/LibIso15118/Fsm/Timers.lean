import LibIso15118.Fsm.Exchange

set_option autoImplicit false

namespace LibIso15118

open Datatypes Shared

def Timeouts.Unarmed (timeouts : Timeouts) : Prop := ∀ type ≠ .sequence, timeouts.deadline type = none

namespace Timeouts.Unarmed

variable {timeouts : Timeouts}

theorem stopTimeout (unarmed : timeouts.Unarmed) (type : TimeoutType) : (timeouts.stopTimeout type).Unarmed := by
  intro other different
  by_cases same : other = type <;> simp [same, unarmed other different]

theorem startTimeout (unarmed : timeouts.Unarmed) (now : TimePoint) (timeoutMs : Nat) :
    (timeouts.startTimeout now .sequence timeoutMs).Unarmed := by
  intro other different
  rw [startTimeout_of_ne timeouts now timeoutMs different]
  exact unarmed other different

theorem startStop (unarmed : timeouts.Unarmed) (now : TimePoint) (type : TimeoutType) (timeoutMs : Nat) :
    ((timeouts.startTimeout now type timeoutMs).stopTimeout type).Unarmed := by
  intro other different
  by_cases same : other = type
  · simp [same]
  · simp [same, unarmed other different]

end Timeouts.Unarmed

section Message

variable (platform : Platform) (env : Env) (ctx : Context) {variant : Variant}
variable (pending : ctx.request = some variant)
include pending

def Disarms (ctx : Context) (result : Except Exn (State × Result)) (ctx' : Context) : Prop :=
  (∃ state', result = .ok (state', {})) ∨ (ctx.timeouts.Unarmed → ctx'.timeouts.Unarmed)

theorem authorization_disarms (self : State.Authorization) :
    Act.wp (State.feed platform env (.authorization self) .v2gtpMessage)
      (fun result ctx' _ => Disarms ctx result ctx') ctx := by
  simp only [State.feed, State.Authorization.feed, Act.wp_bind, Feed.wp_pullRequest _ pending]
  split
  · simp only [Act.wp_bind, Act.wp_get, Act.wp_pure, Act.wp_ite, Feed.wp_respond, Feed.wp_stopSession,
      Feed.wp_startTimeout, Feed.wp_stopTimeout, Platform.stringsFit, Bool.not_eq_true, true_implies,
      reduceCtorEq, false_implies, and_true]
    refine ⟨fun _ => ⟨fun _ => ?_, fun _ => ⟨fun _ => ?_, fun _ => ?_⟩⟩,
      fun _ => ⟨fun _ => ?_, fun _ => ⟨fun _ => ?_, fun _ => ?_⟩⟩⟩
    · exact .inl ⟨_, rfl⟩
    · exact .inr fun unarmed => unarmed.startStop _ _ _
    · exact .inl ⟨_, rfl⟩
    · exact .inl ⟨_, rfl⟩
    · exact .inr fun unarmed => unarmed.stopTimeout _
    · exact .inl ⟨_, rfl⟩
  · simp only [Act.wp_bind, wp_stopOnRequest, Act.wp_pure]
    exact .inl ⟨_, rfl⟩
  · simp only [Act.wp_bind, Act.wp_pure]
    apply wp_stopOnSequenceError
    exact fun _ _ _ => .inl ⟨_, rfl⟩

theorem scheduleExchange_disarms (self : State.ScheduleExchange) :
    Act.wp (State.feed platform env (.scheduleExchange self) .v2gtpMessage)
      (fun result ctx' _ => Disarms ctx result ctx') ctx := by
  simp only [State.feed, State.ScheduleExchange.feed, Act.wp_bind, Feed.wp_pullRequest _ pending]
  split
  · simp only [Act.wp_bind, Act.wp_get, Act.wp_pure, Act.wp_ite, Feed.wp_feedback, Feed.wp_respond,
      Feed.wp_stopSession, Feed.wp_startTimeout, Feed.wp_stopTimeout, Platform.stringsFit,
      Bool.not_eq_true, true_implies, reduceCtorEq, false_implies, and_true]
    refine ⟨fun _ => ?_, fun _ => ?_⟩
    · refine ⟨fun _ => ?_, fun _ => ⟨fun _ => ?_, fun _ => ⟨fun _ => ?_, fun _ => ⟨fun _ => ?_, fun _ => ?_⟩⟩⟩⟩
      · exact .inl ⟨_, rfl⟩
      · exact .inl ⟨_, rfl⟩
      · exact .inr fun unarmed => unarmed.startStop _ _ _
      · exact .inr fun unarmed => unarmed.startStop _ _ _
      · exact .inl ⟨_, rfl⟩
    · refine ⟨fun _ => ?_, fun _ => ⟨fun _ => ?_, fun _ => ⟨fun _ => ?_, fun _ => ⟨fun _ => ?_, fun _ => ?_⟩⟩⟩⟩
      · exact .inl ⟨_, rfl⟩
      · exact .inl ⟨_, rfl⟩
      · exact .inr fun unarmed => unarmed.stopTimeout _
      · exact .inr fun unarmed => unarmed.stopTimeout _
      · exact .inl ⟨_, rfl⟩
  · simp only [Act.wp_bind, wp_stopOnRequest, Act.wp_pure]
    exact .inl ⟨_, rfl⟩
  · simp only [Act.wp_bind, Act.wp_pure]
    apply wp_stopOnSequenceError
    exact fun _ _ _ => .inl ⟨_, rfl⟩

theorem powerDelivery_disarms (self : State.PowerDelivery) :
    Act.wp (State.feed platform env (.powerDelivery self) .v2gtpMessage)
      (fun result ctx' _ => Disarms ctx result ctx') ctx := by
  simp only [State.feed, State.PowerDelivery.feed, Act.wp_bind, Feed.wp_pullRequest _ pending]
  split
  · simp only [State.PowerDelivery.feedPreCharge, Act.wp_bind, Act.wp_get, Act.wp_pure, Act.wp_ite,
      Feed.wp_feedback, Feed.wp_respond, Feed.wp_stopSession, Platform.stringsFit, true_implies,
      reduceCtorEq, false_implies, and_true]
    exact ⟨fun _ => .inl ⟨_, rfl⟩, fun _ => .inl ⟨_, rfl⟩⟩
  · apply wp_feedPowerDelivery
    · exact fun _ => .inl ⟨_, rfl⟩
    · exact fun _ => .inr id
  · simp only [Act.wp_bind, Act.wp_pure]
    apply wp_stopOnSequenceError
    exact fun _ _ _ => .inl ⟨_, rfl⟩

theorem State.feed_disarms (state : State) :
    Act.wp (state.feed platform env .v2gtpMessage) (fun result ctx' _ => Disarms ctx result ctx') ctx := by
  cases state
  case authorization self => exact authorization_disarms platform env ctx pending self
  case scheduleExchange self => exact scheduleExchange_disarms platform env ctx pending self
  case powerDelivery self => exact powerDelivery_disarms platform env ctx pending self
  all_goals
    refine Act.wp_mono _ _ (State.message_frame platform env ctx pending _) fun result ctx' _ frame => ?_
    have same : ctx'.timeouts = ctx.timeouts :=
      frame.timeouts (by simp [State.id]) (by simp [State.id]) (by simp [State.id])
    exact .inr fun unarmed => same ▸ unarmed

end Message

namespace Fsm

variable (platform : Platform) {fsm : Fsm}

def Disarmed (fsm : Fsm) : Prop := fsm.ctx.sessionStopped = false → fsm.ctx.timeouts.Unarmed

theorem disarmed_step (idle : fsm.ctx.request = none) (disarmed : fsm.Disarmed) (input : Input) :
    (step platform input fsm).state.Disarmed := by
  intro running
  have running' : fsm.ctx.sessionStopped = false := by
    by_contra stopped
    exact absurd ((step_frame platform fsm input idle).stopped (by simpa using stopped)) (by simp [running])
  have unarmed := disarmed running'
  revert running
  cases input with
  | message env variant =>
      suffices spec : Act.wp (step platform (.message env variant))
          (fun _ fsm' _ => fsm'.ctx.sessionStopped = false → fsm'.ctx.timeouts.Unarmed) fsm from spec
      rw [wp_step_message platform env variant fsm idle]
      have pending := messageContext_request fsm.ctx variant
      have prepared : (messageContext fsm.ctx variant).timeouts.Unarmed := by
        unfold messageContext
        split
        · exact unarmed.stopTimeout _
        · exact unarmed
      refine Act.wp_mono _ _ (State.feed_disarms platform env _ pending fsm.state) ?_
      rintro result ctx' log (⟨state', rfl⟩ | disarms)
      · simp
      · intro _
        rcases settle_ctx fsm ctx' result with same | same <;> rw [same] <;> exact disarms prepared
  | control env event =>
      suffices spec : Act.wp (step platform (.control env event))
          (fun _ fsm' _ => fsm'.ctx.sessionStopped = false → fsm'.ctx.timeouts.Unarmed) fsm from spec
      by_cases resumes : fsm.state.Resumes event
      · obtain ⟨self, req, closed, delivery, saved, rfl⟩ := id resumes
        rw [wp_step_control_resumed platform env closed fsm self req delivery saved]
        exact ⟨fun _ _ => unarmed.stopTimeout _, fun _ _ => unarmed.stopTimeout _⟩
      · apply wp_step_control_quiet platform env event fsm resumes
        rintro timeouts (rfl | ⟨-, -, rfl⟩) _
        · exact unarmed
        · exact unarmed.stopTimeout _
  | timeout env type =>
      apply wp_step_timeout platform env type fsm
        (fun _ fsm' _ => fsm'.ctx.sessionStopped = false → fsm'.ctx.timeouts.Unarmed)
      simp
  | responseWritten now => exact fun _ => unarmed.startTimeout now _
  | _ => exact fun _ => unarmed

end Fsm

end LibIso15118
