import LibIso15118.Fsm.Step

set_option autoImplicit false

namespace LibIso15118

open Datatypes Shared

theorem handlePowerDelivery_isFailed (env : Env) (req : PowerDeliveryRequest) (session : Session) :
    (handlePowerDelivery env req session false).responseCode.isFailed = true ↔
      session.id ≠ req.header.sessionId := by
  unfold handlePowerDelivery validateHeader
  by_cases own : session.id = req.header.sessionId
  · by_cases standby : req.chargeProgress = .standby <;> simp [own, standby]
  · simp [own]

theorem handlePowerDelivery_ok {env : Env} {req : PowerDeliveryRequest} {session : Session}
    (own : session.id = req.header.sessionId) (start : req.chargeProgress = .start) :
    (handlePowerDelivery env req session false).responseCode = .ok := by
  simp [handlePowerDelivery, validateHeader, own, start]

section FeedPowerDelivery

variable (platform : Platform) (env : Env) (self : State.PowerDelivery) (req : PowerDeliveryRequest)

/-- A `PowerDeliveryReq` that is not answered before the contactor reports. -/
def State.PowerDelivery.Defers (session : Session) : Prop :=
  session.isAcCharger = true ∧ self.acConnectorClosed = false ∧ req.chargeProgress = .start

def setupFinishedLog : List Output :=
  if req.chargeProgress = .start then [.feedback (.signal .setupFinished)] else []

def deliveryResult (session : Session) : Result :=
  if session.id ≠ req.header.sessionId then {}
  else if session.isAcCharger then .createState (.acChargeLoop {})
  else if session.isDcCharger then .createState (.dcChargeLoop {})
  else {}

theorem wp_feedPowerDelivery (ctx : Context)
    (post : Except Exn (State.PowerDelivery × Result) → Context → List Output → Prop)
    (deferred : self.Defers req ctx.session →
      post (.ok ({ self with previousReq := some req }, {}))
        { ctx with timeouts := ctx.timeouts.startTimeout env.now .contactor 3000 }
        (setupFinishedLog req ++ [.feedback (.signal .acCloseContactor)]))
    (answered : ¬self.Defers req ctx.session →
      post (.ok (self, deliveryResult req ctx.session))
        { ctx with
          pendingResponse :=
            platform.encode (.powerDelivery (handlePowerDelivery env req ctx.session false))
          sessionStopped := (deliveryResult req ctx.session).unhandled || ctx.sessionStopped }
        (setupFinishedLog req ++
          [.respond (.powerDelivery (handlePowerDelivery env req ctx.session false))])) :
    Act.wp (State.PowerDelivery.feedPowerDelivery platform env self req) post ctx := by
  by_cases defers : self.Defers req ctx.session
  · obtain ⟨ac, opened, start⟩ := defers
    simpa [State.PowerDelivery.feedPowerDelivery, setupFinishedLog, ac, opened, start] using
      deferred ⟨ac, opened, start⟩
  · have failed := handlePowerDelivery_isFailed env req ctx.session
    have ready : ¬(ctx.session.isAcCharger = true ∧ self.acConnectorClosed = false ∧
        req.chargeProgress = .start) := defers
    specialize answered defers
    simp only [State.PowerDelivery.feedPowerDelivery, Act.wp_bind, Act.wp_get, Act.wp_ite, ready,
      false_implies, not_false_eq_true, true_implies, true_and, Feed.wp_signal, Feed.wp_respond,
      Feed.wp_stopSession, Act.wp_pure, Platform.stringsFit, Bool.true_eq_false]
    by_cases own : ctx.session.id = req.header.sessionId
    · by_cases ac : ctx.session.isAcCharger = true
      · by_cases start : req.chargeProgress = .start <;>
          simpa [failed, own, ac, start, deliveryResult, setupFinishedLog] using answered
      · by_cases dc : ctx.session.isDcCharger = true <;> by_cases start : req.chargeProgress = .start <;>
          simpa [failed, own, ac, dc, start, deliveryResult, setupFinishedLog] using answered
    · by_cases start : req.chargeProgress = .start <;>
        simpa [failed, own, start, deliveryResult, setupFinishedLog] using answered

@[simp] theorem responses_setupFinishedLog : responses (setupFinishedLog req) = [] := by
  unfold setupFinishedLog
  split <;> rfl

end FeedPowerDelivery

namespace Fsm

variable (platform : Platform)

/-- What a step of a machine in `PowerDelivery` does. A charge loop is entered by the answer to a
request, given at once or when the contactor reports. -/
inductive DeliveryStep (fsm : Fsm) (self : State.PowerDelivery) (input : Input) :
    Fsm → List Output → Prop
  | stay (fsm' : Fsm) (log : List Output) (self' : State.PowerDelivery)
      (state : fsm'.state = .powerDelivery self')
      (closed : self'.acConnectorClosed = true → self.acConnectorClosed = true ∨
        ∃ env closed, input = .control env (.closedContactor closed))
      (saved : ∀ req, self'.previousReq = some req → self.previousReq = some req ∨
        (∃ env, input = .message env (.request (.powerDelivery req))) ∧
          req.chargeProgress = .start ∧ fsm.ctx.session.isAcCharger = true)
      (refused : fsm.ctx.session.isAcCharger = true → ∀ res, .powerDelivery res ∈ responses log →
        res.responseCode.isFailed = true) :
      DeliveryStep fsm self input fsm' log
  | answered (fsm' : Fsm) (log : List Output) (env : Env) (req : PowerDeliveryRequest)
      (message : input = .message env (.request (.powerDelivery req)))
      (own : fsm.ctx.session.id = req.header.sessionId)
      (closed : fsm.ctx.session.isAcCharger = true → self.acConnectorClosed = false →
        req.chargeProgress ≠ .start)
      (answer : responses log =
        [.powerDelivery (handlePowerDelivery env req fsm.ctx.session false)])
      (kind : fsm.ctx.session.isAcCharger = false → fsm.ctx.session.isDcCharger = true)
      (state : fsm'.state.id =
        if fsm.ctx.session.isAcCharger then .acChargeLoop else .dcChargeLoop) :
      DeliveryStep fsm self input fsm' log
  | resumed (fsm' : Fsm) (log : List Output) (env : Env) (closed : Bool) (req : PowerDeliveryRequest)
      (event : input = .control env (.closedContactor closed))
      (saved : self.previousReq = some req)
      (own : fsm.ctx.session.id = req.header.sessionId)
      (answer : responses log =
        [.powerDelivery (handlePowerDelivery env req fsm.ctx.session false)])
      (state : fsm'.state.id = .acChargeLoop) :
      DeliveryStep fsm self input fsm' log

variable {fsm : Fsm} {self : State.PowerDelivery} (delivery : fsm.state = .powerDelivery self)
include delivery

theorem powerDelivery_control (env : Env) (event : ControlEvent) :
    Act.wp (step platform (.control env event))
      (fun _ fsm' log => DeliveryStep fsm self (.control env event) fsm' log) fsm := by
  by_cases resumes : fsm.state.Resumes event
  · obtain ⟨self', req, closed, same, saved, rfl⟩ := resumes
    obtain rfl : self' = self := by simpa [delivery] using same.symm
    rw [wp_step_control_resumed platform env closed fsm self' req delivery saved]
    constructor
    · intro failed
      refine .stay _ _ { self' with acConnectorClosed := true } rfl ?_ ?_ ?_
      · exact fun _ => .inr ⟨env, closed, rfl⟩
      · exact fun req previous => .inl previous
      · simpa [Output.response?] using fun _ => failed
    · intro accepted
      have own : fsm.ctx.session.id = req.header.sessionId := by
        by_contra other
        rw [(handlePowerDelivery_isFailed env req _).mpr other] at accepted
        exact absurd accepted (by simp)
      exact .resumed _ _ env closed req rfl saved own rfl rfl
  · apply wp_step_control_quiet platform env event fsm resumes
    rintro timeouts -
    rw [delivery]
    cases event
    case closedContactor closed =>
      exact .stay _ _ { self with acConnectorClosed := true } rfl (fun _ => .inr ⟨env, closed, rfl⟩)
        (fun req previous => .inl previous) (by simp)
    case presentVoltageCurrent voltage current =>
      exact .stay _ _ { self with presentVoltage := voltage } rfl .inl
        (fun req previous => .inl previous) (by simp)
    all_goals exact .stay _ _ self rfl .inl (fun req previous => .inl previous) (by simp)

theorem powerDelivery_message (idle : fsm.ctx.request = none) (env : Env) (variant : Variant) :
    Act.wp (step platform (.message env variant))
      (fun _ fsm' log => DeliveryStep fsm self (.message env variant) fsm' log) fsm := by
  rw [wp_step_message platform env variant fsm idle, delivery]
  simp only [State.feed, State.PowerDelivery.feed, Act.wp_bind,
    Feed.wp_pullRequest _ (messageContext_request fsm.ctx variant)]
  split
  · rename_i req
    have stays (ctx : Context) : DeliveryStep fsm self (.message env (.request (.dcPreCharge req)))
        ⟨.powerDelivery self, ctx⟩
        [.feedback (.v2gMessage (Variant.request (.dcPreCharge req)).getType),
          .feedback (.dcPreChargeTargetVoltage (fromRationalNumber req.targetVoltage)),
          .respond (.dcPreCharge (handleDcPreCharge env req fsm.ctx.session self.presentVoltage))] :=
      .stay _ _ self rfl .inl (fun _ previous => .inl previous) (by simp [Output.response?])
    simp [State.PowerDelivery.feedPreCharge, Platform.stringsFit, settle, stays]
  · rename_i req
    apply wp_feedPowerDelivery
    · rintro ⟨ac, opened, start⟩
      refine .stay _ _ { self with previousReq := some req } rfl .inl ?_ ?_
      · rintro _ ⟨⟩
        exact .inr ⟨⟨env, rfl⟩, start, ac⟩
      · simp [Output.response?]
    · intro ready
      simp only [messageContext_session, Act.wp_pure, List.nil_append, List.append_nil] at ready ⊢
      have answer : responses (.feedback (.v2gMessage (Variant.request (.powerDelivery req)).getType) ::
          (setupFinishedLog req ++
            [.respond (.powerDelivery (handlePowerDelivery env req fsm.ctx.session false))])) =
            [.powerDelivery (handlePowerDelivery env req fsm.ctx.session false)] := by
        simp [Output.response?]
      by_cases own : fsm.ctx.session.id = req.header.sessionId
      · have enters := fun fsm' => @DeliveryStep.answered fsm self _ fsm' _ env req rfl own
          (fun ac opened start => ready ⟨ac, opened, start⟩) answer
        by_cases ac : fsm.ctx.session.isAcCharger = true
        · rw [show deliveryResult req fsm.ctx.session = .createState (.acChargeLoop {}) by
            simp [deliveryResult, own, ac]]
          exact enters _ (by simp [ac]) (by simp [ac]; rfl)
        · by_cases dc : fsm.ctx.session.isDcCharger = true
          · rw [show deliveryResult req fsm.ctx.session = .createState (.dcChargeLoop {}) by
              simp [deliveryResult, own, ac, dc]]
            exact enters _ (fun _ => dc) (by simp [ac]; rfl)
          · rw [show deliveryResult req fsm.ctx.session = {} by simp [deliveryResult, own, ac, dc]]
            exact .stay _ _ self rfl .inl (fun _ => .inl) (fun ac' => absurd ac' ac)
      · have failed := (handlePowerDelivery_isFailed env req fsm.ctx.session).mpr own
        rw [show deliveryResult req fsm.ctx.session = {} by simp [deliveryResult, own]]
        refine .stay _ _ self rfl .inl (fun _ => .inl) ?_
        intro _ res member
        rw [answer, List.mem_singleton] at member
        cases member
        exact failed
  · simp only [Act.wp_bind, Act.wp_pure]
    apply wp_stopOnSequenceError
    intro pending log refused
    refine .stay _ _ self rfl .inl (fun _ previous => .inl previous) ?_
    intro _ res answered
    have sent : .respond (.powerDelivery res) ∈ log := by
      simpa [Output.response?, mem_responses] using answered
    obtain ⟨_, ⟨⟩, failed⟩ := refused _ sent
    simp only [Response.code?, Option.some.injEq] at failed
    rw [failed]
    rfl

theorem powerDelivery_step (idle : fsm.ctx.request = none) (input : Input) :
    DeliveryStep fsm self input (step platform input fsm).state (step platform input fsm).log := by
  cases input with
  | control env event => exact powerDelivery_control platform delivery env event
  | message env variant => exact powerDelivery_message platform delivery idle env variant
  | timeout env type =>
      apply wp_step_timeout platform env type fsm
        (fun _ fsm' log => DeliveryStep fsm self (.timeout env type) fsm' log)
      intro pending log answered
      refine .stay _ _ self (by simp [delivery, State.afterTimeout]) .inl (fun _ => .inl) ?_
      intro _ res member
      rcases answered with ⟨-, rfl⟩ | ⟨-, -, out, failed, -, -, rfl⟩
      · simp at member
      · obtain rfl : .powerDelivery res = out := by simpa [Output.response?] using member
        simpa [Response.isFailed, Response.code?] using failed
  | _ => exact .stay _ _ self delivery .inl (fun _ => .inl) (by simp [step, modifyCtx, stopSession])

theorem powerDelivery_saves (idle : fsm.ctx.request = none) (input : Input) (self' : State.PowerDelivery)
    (stays : (step platform input fsm).state.state = .powerDelivery self') :
    self'.previousReq = self.previousReq ∨ (step platform input fsm).state.ctx.sessionStopped = true := by
  -- A request is saved only in a step that stops the session: it counts as unhandled.
  suffices spec : Act.wp (step platform input) (fun _ fsm' _ => ∀ self', fsm'.state = .powerDelivery self' →
      self'.previousReq = self.previousReq ∨ fsm'.ctx.sessionStopped = true) fsm from spec self' stays
  cases input with
  | control env event =>
      by_cases resumes : fsm.state.Resumes event
      · obtain ⟨self, req, closed, delivery', saved, rfl⟩ := resumes
        rw [wp_step_control_resumed platform env closed fsm self req delivery' saved]
        exact ⟨fun _ _ _ => .inr rfl, fun _ _ => by simp [State.enter]⟩
      · apply wp_step_control_quiet platform env event fsm resumes
        intro timeouts _ self' state
        left
        rw [delivery] at state
        cases event <;> cases state <;> rfl
  | message env variant =>
      rw [wp_step_message platform env variant fsm idle, delivery]
      have pending := messageContext_request fsm.ctx variant
      simp only [State.feed, State.PowerDelivery.feed, Act.wp_bind, Feed.wp_pullRequest _ pending]
      split
      · simp [State.PowerDelivery.feedPreCharge, Platform.stringsFit, settle]
      · rename_i req
        apply wp_feedPowerDelivery
        · exact fun _ _ _ => .inr rfl
        · intro _
          simp only [deliveryResult]
          repeat' split
          all_goals simp [settle, State.enter]
      · simp only [Act.wp_bind, Act.wp_pure]
        apply wp_stopOnSequenceError
        exact fun _ _ _ _ _ => .inr rfl
  | timeout env type =>
      exact wp_step_timeout platform env type fsm _ fun _ _ _ _ _ => .inr rfl
  | _ =>
      intro self' state
      obtain rfl := State.powerDelivery.inj (delivery.symm.trans state)
      exact .inl rfl

end Fsm

end LibIso15118
