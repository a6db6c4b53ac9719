import LibIso15118.Fsm.Branches

set_option autoImplicit false

namespace LibIso15118

open Datatypes Shared

/-- The messages that a state answers: the requests that it accepts and does not keep, and what it does not
expect when there is a response for its type. -/
def State.Answers (state : State) (env : Env) (session : Session) (variant : Variant) : Prop :=
  (∃ req, variant = .request req ∧ state.id.accepts req = true ∧ ¬state.Defers session req) ∨
    (∀ req, variant = .request req → state.id.accepts req = false) ∧ state.id ≠ .supportedAppProtocol ∧
      (sequenceErrorResponse (setupHeader env session) variant.getType).isSome = true

section Message

variable (platform : Platform) (env : Env) (ctx : Context) {variant : Variant}
variable (state : State) (pending : ctx.request = some variant)
include pending

theorem State.deferred_unanswered {req : Request} (defers : state.Defers ctx.session req)
    (message : variant = .request req) :
    Act.wp (state.feed platform env .v2gtpMessage) (fun _ ctx' log =>
      responses log = [] ∧ ctx'.pendingResponse = ctx.pendingResponse) ctx := by
  subst message
  cases state <;> cases req <;> try exact defers.elim
  rename_i self req
  simp only [State.feed, State.PowerDelivery.feed, Act.wp_bind, Feed.wp_pullRequest _ pending]
  apply wp_feedPowerDelivery
  · intro _
    exact ⟨by simp [Output.response?], rfl⟩
  · exact fun ready => absurd defers ready

theorem State.feed_exchanged :
    Act.wp (state.feed platform env .v2gtpMessage) (fun result ctx' log =>
      (state.Answers env ctx.session variant → (∃ e, result = .error e) ∨
        ∃ out, responses log = [out] ∧ ctx'.pendingResponse = platform.encode out) ∧
      (¬state.Answers env ctx.session variant →
        responses log = [] ∧ ctx'.pendingResponse = ctx.pendingResponse)) ctx := by
  by_cases accepted : ∃ req, variant = .request req ∧ state.id.accepts req = true
  · obtain ⟨req, rfl, accepts⟩ := accepted
    by_cases defers : state.Defers ctx.session req
    · refine Act.wp_mono _ _ (State.deferred_unanswered platform env ctx state pending defers rfl) ?_
      refine fun _ _ _ silent => ⟨fun answers => ?_, fun _ => silent⟩
      rcases answers with ⟨_, ⟨⟩, _, ready⟩ | ⟨refused, _⟩
      · exact absurd defers ready
      · exact absurd (refused req rfl) (by simp [accepts])
    · refine Act.wp_mono _ _ (State.message_branch platform env ctx state pending accepts) ?_
      refine fun result ctx' log branch => ⟨fun _ => ?_, fun silent => ?_⟩
      · rcases branch.exchanged with ⟨unsent, _⟩ | sent
        · exact .inl ((branch.silent unsent).resolve_right fun deferred => defers deferred.1)
        · exact .inr sent
      · exact absurd (.inl ⟨req, rfl, accepts, defers⟩) silent
  · have unexpected : ∀ req, variant = .request req → state.id.accepts req = false := by
      intro req message
      by_contra accepts
      exact accepted ⟨req, message, by simpa using accepts⟩
    have silent (unsent : ¬(state.id ≠ .supportedAppProtocol ∧
        (sequenceErrorResponse (setupHeader env ctx.session) variant.getType).isSome = true)) :
        ¬state.Answers env ctx.session variant := by
      rintro (expected | ⟨-, sent⟩)
      · obtain ⟨req, message, accepts, -⟩ := expected
        exact accepted ⟨req, message, accepts⟩
      · exact unsent sent
    by_cases later : state.id = .supportedAppProtocol
    · obtain rfl := State.eq_supportedAppProtocol later
      have unanswered := silent fun sent => sent.1 rfl
      simp only [State.feed, State.SupportedAppProtocol.feed, Act.wp_bind, Act.wp_ite,
        Feed.wp_pullRequest _ pending]
      simp only [ne_eq, not_true_eq_false, false_implies, not_false_eq_true, true_implies, true_and]
      split
      · simp [State.id, StateId.accepts] at unexpected
      · exact ⟨fun answers => absurd answers unanswered, fun _ => ⟨rfl, rfl⟩⟩
    · rw [State.wp_refused platform env pending state unexpected later]
      cases answer : sequenceErrorResponse (setupHeader env ctx.session) variant.getType with
      | none =>
          have unanswered := silent (by simp [answer])
          exact ⟨fun answers => absurd answers unanswered,
            fun _ => ⟨by simp [refusedLog, answer], by simp [refusedContext, answer]⟩⟩
      | some res =>
          refine ⟨fun _ => .inr ⟨res, by simp [refusedLog, answer, Output.response?],
            by simp [refusedContext, answer]⟩, fun unanswered => ?_⟩
          exact absurd (.inr ⟨unexpected, later, by simp [answer]⟩) unanswered

theorem State.moved_answers :
    Act.wp (state.feed platform env .v2gtpMessage) (fun result ctx' log =>
      ∀ state' new, result = .ok (state', .createState new) →
        ∃ req, variant = .request req ∧ state.id.accepts req = true ∧
          ∃ out, responses log = [out] ∧ ctx'.pendingResponse = platform.encode out) ctx := by
  -- A message that makes the state ask for another one is accepted and answered.
  by_cases accepted : ∃ req, variant = .request req ∧ state.id.accepts req = true
  · obtain ⟨req, rfl, accepts⟩ := accepted
    refine Act.wp_mono _ _ (State.message_branch platform env ctx state pending accepts) ?_
    rintro result ctx' log branch state' new rfl
    refine ⟨req, rfl, accepts, ?_⟩
    rcases branch.exchanged with ⟨unsent, -⟩ | sent
    · rcases branch.silent unsent with ⟨_, ⟨⟩⟩ | ⟨-, _, ⟨⟩⟩
    · exact sent
  · have unexpected : ∀ req, variant = .request req → state.id.accepts req = false := by
      intro req message
      by_contra accepts
      exact accepted ⟨req, message, by simpa using accepts⟩
    by_cases later : state.id = .supportedAppProtocol
    · obtain rfl := State.eq_supportedAppProtocol later
      simp only [State.feed, State.SupportedAppProtocol.feed, Act.wp_bind, Act.wp_ite,
        Feed.wp_pullRequest _ pending]
      simp only [ne_eq, not_true_eq_false, false_implies, not_false_eq_true, true_implies, true_and]
      split
      · simp [State.id, StateId.accepts] at unexpected
      · rintro _ _ ⟨⟩
    · rw [State.wp_refused platform env pending state unexpected later]
      rintro _ _ ⟨⟩

end Message

namespace Fsm

def Answers (fsm : Fsm) : Input → Prop
  | .control _ event => fsm.state.Resumes event
  | .timeout _ type => fsm.state.id = .powerDelivery ∧ type = .contactor
  | .message env variant => fsm.state.Answers env fsm.ctx.session variant
  | _ => False

variable (platform : Platform) {fsm : Fsm}

structure Exchanges (fsm : Fsm) (input : Input) (result : Except Exn Unit) (fsm' : Fsm)
    (log : List Output) : Prop where
  answered : fsm.Answers input → (∃ e, result = .error e) ∨
    ∃ out, responses log = [out] ∧ fsm'.ctx.pendingResponse = platform.encode out
  unanswered : ¬fsm.Answers input →
    responses log = [] ∧ (input ≠ .takeResponse → fsm'.ctx.pendingResponse = fsm.ctx.pendingResponse)

theorem step_exchanges (idle : fsm.ctx.request = none) (input : Input) :
    Exchanges platform fsm input (step platform input fsm).result (step platform input fsm).state
      (step platform input fsm).log := by
  cases input with
  | message env variant =>
      suffices spec : Act.wp (step platform (.message env variant))
          (Exchanges platform fsm (.message env variant)) fsm from spec
      rw [wp_step_message platform env variant fsm idle]
      have pending := messageContext_request fsm.ctx variant
      refine Act.wp_mono _ _ (State.feed_exchanged platform env _ fsm.state pending) ?_
      rintro result ctx' log ⟨answered, unanswered⟩
      have settled : (fsm.settle result ctx').ctx.pendingResponse = ctx'.pendingResponse := by
        rcases settle_ctx fsm ctx' result with same | stopped
        · rw [same]
        · rw [stopped]
      constructor
      · intro answers
        rcases answered answers with ⟨e, rfl⟩ | ⟨out, sent, held⟩
        · exact .inl ⟨e, rfl⟩
        · exact .inr ⟨out, by simpa [Output.response?] using sent, settled.trans held⟩
      · intro silent
        obtain ⟨unsent, kept⟩ := unanswered silent
        exact ⟨by simpa [Output.response?] using unsent, fun _ => settled.trans kept⟩
  | control env event =>
      suffices spec : Act.wp (step platform (.control env event))
          (Exchanges platform fsm (.control env event)) fsm from spec
      by_cases resumes : fsm.state.Resumes event
      · obtain ⟨self, req, closed, delivery, saved, rfl⟩ := id resumes
        rw [wp_step_control_resumed platform env closed fsm self req delivery saved]
        refine ⟨fun _ => ⟨fun _ => .inr ⟨_, rfl, rfl⟩, fun silent => absurd resumes silent⟩,
          fun _ => ⟨fun _ => .inr ⟨_, rfl, rfl⟩, fun silent => absurd resumes silent⟩⟩
      · apply wp_step_control_quiet platform env event fsm resumes
        intro timeouts _
        exact ⟨fun answers => absurd answers resumes, fun _ => ⟨rfl, fun _ => by simp⟩⟩
  | timeout env type =>
      apply wp_step_timeout platform env type fsm
      rintro pending log (⟨⟨other, rfl⟩, rfl⟩ | ⟨delivery, contactor, res, -, -, rfl, rfl⟩)
      · exact ⟨fun answers => absurd answers other, fun _ => ⟨rfl, fun _ => rfl⟩⟩
      · exact ⟨fun _ => .inr ⟨res, rfl, rfl⟩, fun silent => absurd ⟨delivery, contactor⟩ silent⟩
  | takeResponse => exact ⟨fun answers => answers.elim, fun _ => ⟨rfl, fun other => absurd rfl other⟩⟩
  | _ => exact ⟨fun answers => answers.elim, fun _ => ⟨rfl, fun _ => rfl⟩⟩

inductive OkAnswer (fsm : Fsm) : Input → Response → Prop
  | message (env : Env) (req : Request) (out : Response) (accepts : fsm.state.id.accepts req = true)
      (answer : req.Answer env (messageContext fsm.ctx (.request req)) fsm.state out) :
      OkAnswer fsm (.message env (.request req)) out
  | resumed (env : Env) (event : ControlEvent) (res : PowerDeliveryResponse) :
      OkAnswer fsm (.control env event) (.powerDelivery res)

theorem message_okAnswer (idle : fsm.ctx.request = none) (env : Env) (variant : Variant) :
    Act.wp (step platform (.message env variant)) (fun _ _ log => ∀ out ∈ responses log,
      out.code? = some .ok → OkAnswer fsm (.message env variant) out) fsm := by
  rw [wp_step_message platform env variant fsm idle]
  have pending := messageContext_request fsm.ctx variant
  by_cases accepted : ∃ req, variant = .request req ∧ fsm.state.id.accepts req = true
  · obtain ⟨req, rfl, accepts⟩ := accepted
    refine Act.wp_mono _ _ (State.message_branch platform env _ fsm.state pending accepts) ?_
    intro result ctx' log branch out member _
    have sent : out ∈ responses log := by simpa [Output.response?] using member
    exact .message env req out accepts (branch.answer out sent)
  · apply State.wp_unexpected platform env pending
    · intro req same
      by_contra accepts
      exact accepted ⟨req, same, Bool.eq_true_of_not_eq_false accepts⟩
    · intro response log failed out member ok
      have sent : .respond out ∈ log := by simpa [Output.response?, mem_responses] using member
      obtain ⟨_, ⟨⟩, code⟩ := failed _ sent
      rw [code] at ok
      cases ok

theorem step_okAnswer (idle : fsm.ctx.request = none) (input : Input) :
    ∀ out ∈ responses (step platform input fsm).log, out.code? = some .ok → OkAnswer fsm input out := by
  cases input with
  | message env variant => exact message_okAnswer platform idle env variant
  | control env event =>
      suffices spec : Act.wp (step platform (.control env event)) (fun _ _ log => ∀ out ∈ responses log,
          out.code? = some .ok → OkAnswer fsm (.control env event) out) fsm from spec
      by_cases resumes : fsm.state.Resumes event
      · obtain ⟨self, req, closed, delivery, saved, rfl⟩ := resumes
        rw [wp_step_control_resumed platform env closed fsm self req delivery saved]
        simp only [responses_cons, responses_nil, Output.response?, Option.toList_some, List.append_nil,
          List.mem_singleton, forall_eq]
        exact ⟨fun _ _ => .resumed env _ _, fun _ _ => .resumed env _ _⟩
      · apply wp_step_control_quiet platform env event fsm resumes
        simp
  | timeout env type =>
      apply wp_step_timeout platform env type fsm (fun _ _ log => ∀ out ∈ responses log,
        out.code? = some .ok → OkAnswer fsm (.timeout env type) out)
      intro pending log answered out member ok
      rcases answered with ⟨-, rfl⟩ | ⟨-, -, res, failed, -, -, rfl⟩
      · simp at member
      · obtain rfl : out = res := by simpa [Output.response?] using member
        cases out <;> simp_all [Response.isFailed, Response.code?]
  | _ => simp [step, modifyCtx, stopSession]

end Fsm

end LibIso15118
