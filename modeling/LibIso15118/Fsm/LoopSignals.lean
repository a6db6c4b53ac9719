import LibIso15118.Fsm.Phases

set_option autoImplicit false

namespace LibIso15118

open Datatypes Shared

/-- `first_entry_in_charge_loop` -/
def State.firstEntryInLoop? : State → Option Bool
  | .acChargeLoop self => some self.firstEntryInChargeLoop
  | .dcChargeLoop self => some self.firstEntryInChargeLoop
  | _ => none

@[simp] theorem State.firstEntryInLoop?_afterControl (state : State) (event : ControlEvent) :
    (state.afterControl event).firstEntryInLoop? = state.firstEntryInLoop? := by
  cases state <;> try rfl
  all_goals cases event <;> rfl

@[simp] theorem State.firstEntryInLoop?_afterTimeout (state : State) (type : TimeoutType) :
    (state.afterTimeout type).firstEntryInLoop? = state.firstEntryInLoop? := by
  cases state <;> cases type <;> rfl

def Request.isChargeLoop : Request → Bool
  | .acChargeLoop _ | .dcChargeLoop _ => true
  | _ => false

/-- The requests that come from this session and fit its energy service, control mode and limits. -/
def Session.AcceptsAcLoop (session : Session) (limits : AcTransferLimits)
    (provider : AcDerControlProvider) (req : AcChargeLoopRequest) : Prop :=
  session.id = req.header.sessionId ∧
    ∃ mode, acClResControlMode req.controlMode session.selectedServices limits {} {} provider = .ok mode

def Session.AcceptsDcLoop (session : Session) (limits : DcTransferLimits) (req : DcChargeLoopRequest) :
    Prop :=
  session.id = req.header.sessionId ∧
    (dcClResControlMode req.controlMode session.selectedServices limits {}).isSome = true

theorem handleAcChargeLoop_accepts (env : Env) (req : AcChargeLoopRequest) (session : Session)
    (self : State.AcChargeLoop) (limits : AcTransferLimits) (provider : AcDerControlProvider) :
    (handleAcChargeLoop env req session self limits provider).response.responseCode.isFailed = false ↔
      session.AcceptsAcLoop limits provider req := by
  have fits (self : State.AcChargeLoop) (dynamic : DynamicClResControlMode) :
      (∃ mode, acClResControlMode req.controlMode session.selectedServices limits self dynamic provider =
          .ok mode) ↔
        ∃ mode, acClResControlMode req.controlMode session.selectedServices limits {} {} provider =
          .ok mode := by
    -- neither the parameters nor the powers decide whether there is a control mode
    cases req.controlMode <;> simp only [acClResControlMode] <;> split_ifs <;> try simp
    all_goals cases checkedAcDerControl provider session.selectedServices <;> simp
  unfold handleAcChargeLoop Session.AcceptsAcLoop validateHeader
  by_cases own : session.id = req.header.sessionId
  · simp only [own, decide_true, Bool.true_eq_false, if_false, true_and]
    rw [← fits self (selectedDynamicClRes session.selectedServices self.dynamicParameters
      (setupHeader env session).timestamp)]
    split
    · rename_i reason mode
      simp [mode]
      rfl
    · rename_i controlMode mode
      simp [mode]
  · simp [own]

theorem handleDcChargeLoop_accepts (env : Env) (req : DcChargeLoopRequest) (session : Session)
    (self : State.DcChargeLoop) (limits : DcTransferLimits) :
    (handleDcChargeLoop env req session self limits).responseCode.isFailed = false ↔
      session.AcceptsDcLoop limits req := by
  have fits (dynamic : DynamicClResControlMode) :
      (dcClResControlMode req.controlMode session.selectedServices limits dynamic).isSome =
        (dcClResControlMode req.controlMode session.selectedServices limits {}).isSome := by
    cases req.controlMode <;> simp only [dcClResControlMode] <;> split_ifs <;> simp
  unfold handleDcChargeLoop Session.AcceptsDcLoop validateHeader
  by_cases own : session.id = req.header.sessionId
  · simp only [own, decide_true, Bool.true_eq_false, if_false, true_and]
    rw [← fits (selectedDynamicClRes session.selectedServices self.dynamicParameters
      (setupHeader env session).timestamp)]
    split
    · rename_i mode
      simp [mode]
      rfl
    · rename_i controlMode mode
      simp [mode]
  · simp [own]

section Feed

variable (platform : Platform) (env : Env) (ctx : Context)

structure LoopAnswer (state : State) (first : Bool) (res : Response)
    (result : Except Exn (State × Result)) (log : List Output) : Prop where
  sent : ∃ rest, log = (if first then [.feedback (.signal .chargeLoopStarted)] else []) ++
    .respond res :: rest ∧ signals rest = [] ∧ responses rest = []
  stays : ∃ state', result = .ok (state', {}) ∧ state'.id = state.id ∧ state'.firstEntryInLoop? = some false

theorem acChargeLoop_answers (self : State.AcChargeLoop) (req : AcChargeLoopRequest)
    (pending : ctx.request = some (.request (.acChargeLoop req))) :
    Act.wp (State.feed platform env (.acChargeLoop self) .v2gtpMessage)
      (fun result _ log => LoopAnswer (.acChargeLoop self) self.firstEntryInChargeLoop
        (.acChargeLoop (handleAcChargeLoop env req ctx.session
          { self with firstEntryInChargeLoop := false } ctx.sessionConfig.acLimits
          ctx.sessionConfig.acDerControlProvider).response) result log) ctx := by
  simp only [State.feed, State.AcChargeLoop.feed, Act.wp_bind, Feed.wp_pullRequest _ pending]
  simp only [Act.wp_bind, Act.wp_get, Act.wp_pure, Act.wp_ite, Feed.wp_feedback, Feed.wp_signal,
    Feed.wp_feedbackIfSome, Feed.wp_respond, Feed.wp_stopSession, Platform.stringsFit,
    Bool.not_eq_true, true_implies, reduceCtorEq, false_implies, and_true]
  refine ⟨fun first => ?_, fun first => ?_⟩ <;>
    refine ⟨fun _ => ⟨fun _ => ⟨?_, _, rfl, rfl, rfl⟩, fun _ => ⟨?_, _, rfl, rfl, rfl⟩⟩,
      fun _ => ⟨?_, _, rfl, rfl, rfl⟩⟩ <;>
    simp only [first, if_true, Bool.false_eq_true, if_false]
  · exact ⟨_, rfl, rfl, rfl⟩
  · exact ⟨_, rfl, rfl, rfl⟩
  · cases req.displayParameters <;> exact ⟨_, rfl, rfl, rfl⟩
  · exact ⟨_, rfl, rfl, rfl⟩
  · exact ⟨_, rfl, rfl, rfl⟩
  · cases req.displayParameters <;> exact ⟨_, rfl, rfl, rfl⟩

theorem dcChargeLoop_answers (self : State.DcChargeLoop) (req : DcChargeLoopRequest)
    (pending : ctx.request = some (.request (.dcChargeLoop req))) :
    Act.wp (State.feed platform env (.dcChargeLoop self) .v2gtpMessage)
      (fun result _ log => LoopAnswer (.dcChargeLoop self) self.firstEntryInChargeLoop
        (.dcChargeLoop (handleDcChargeLoop env req ctx.session
          { self with firstEntryInChargeLoop := false } ctx.sessionConfig.dcLimits)) result log) ctx := by
  simp only [State.feed, State.DcChargeLoop.feed, Act.wp_bind, Feed.wp_pullRequest _ pending]
  simp only [Act.wp_bind, Act.wp_get, Act.wp_pure, Act.wp_ite, Feed.wp_feedback, Feed.wp_signal,
    Feed.wp_feedbackIfSome, Feed.wp_respond, Feed.wp_stopSession, Platform.stringsFit,
    Bool.not_eq_true, true_implies, reduceCtorEq, false_implies, and_true]
  refine ⟨fun first => ?_, fun first => ?_⟩ <;>
    refine ⟨fun _ => ⟨?_, _, rfl, rfl, rfl⟩, fun _ => ⟨?_, _, rfl, rfl, rfl⟩⟩ <;>
    simp only [first, if_true, Bool.false_eq_true, if_false]
  · exact ⟨_, rfl, rfl, rfl⟩
  · cases req.displayParameters <;> exact ⟨_, rfl, rfl, rfl⟩
  · exact ⟨_, rfl, rfl, rfl⟩
  · cases req.displayParameters <;> exact ⟨_, rfl, rfl, rfl⟩

structure LoopDelivery (state : State) (first : Option Bool) (result : Except Exn (State × Result))
    (log : List Output) : Prop where
  unstarted : .chargeLoopStarted ∉ signals log
  sent : ∃ res, responses log = [res] ∧
    ((∃ state', result = .ok (state', {}) ∧ state'.id = state.id ∧
        state'.firstEntryInLoop? = if res.isFailed then state.firstEntryInLoop? else first) ∨
      ∃ state' new, result = .ok (state', .createState new) ∧ new.id ≠ state.id)

theorem acChargeLoop_delivers (self : State.AcChargeLoop) (req : PowerDeliveryRequest)
    (pending : ctx.request = some (.request (.powerDelivery req))) :
    Act.wp (State.feed platform env (.acChargeLoop self) .v2gtpMessage)
      (fun result _ log => LoopDelivery (.acChargeLoop self) (some self.firstEntryInChargeLoop)
        result log) ctx := by
  simp only [State.feed, State.AcChargeLoop.feed, Act.wp_bind, Feed.wp_pullRequest _ pending]
  simp only [Act.wp_bind, Act.wp_get, Act.wp_pure, Act.wp_ite, Feed.wp_signal, Feed.wp_respond,
    Feed.wp_stopSession, Platform.stringsFit, Bool.not_eq_true, true_implies, reduceCtorEq,
    false_implies, and_true]
  refine ⟨fun _ => ?_, fun _ => ⟨fun _ => ?_, fun _ => ?_⟩⟩
  · exact ⟨by simp [Output.signal?], _, rfl, .inl ⟨_, rfl, rfl, (ite_self _).symm⟩⟩
  · exact ⟨by simp [Output.signal?], _, rfl, .inr ⟨_, _, rfl, by simp [State.id]⟩⟩
  · exact ⟨by simp [Output.signal?], _, rfl, .inl ⟨_, rfl, rfl, (ite_self _).symm⟩⟩

theorem dcChargeLoop_delivers (self : State.DcChargeLoop) (req : PowerDeliveryRequest)
    (pending : ctx.request = some (.request (.powerDelivery req))) :
    Act.wp (State.feed platform env (.dcChargeLoop self) .v2gtpMessage)
      (fun result _ log => LoopDelivery (.dcChargeLoop self) (some true) result log) ctx := by
  simp only [State.feed, State.DcChargeLoop.feed, Act.wp_bind, Feed.wp_pullRequest _ pending]
  simp only [Act.wp_bind, Act.wp_get, Act.wp_pure, Act.wp_ite, Feed.wp_signal, Feed.wp_respond,
    Feed.wp_stopSession, Platform.stringsFit, Bool.not_eq_true, true_implies, reduceCtorEq,
    false_implies, and_true]
  refine ⟨fun failed => ?_, fun fine => ⟨fun _ => ?_, fun _ => ?_⟩⟩
  · exact ⟨by simp [Output.signal?], _, rfl, .inl ⟨_, rfl, rfl, (if_pos failed).symm⟩⟩
  · exact ⟨by simp [Output.signal?], _, rfl, .inr ⟨_, _, rfl, by simp [State.id]⟩⟩
  · refine ⟨by simp [Output.signal?], _, rfl, .inl ⟨_, rfl, rfl, ?_⟩⟩
    exact (if_neg (by simpa [Response.isFailed, Response.code?] using fine)).symm

end Feed

namespace Fsm

def AcceptsLoop (fsm : Fsm) : Request → Prop
  | .acChargeLoop req => fsm.ctx.session.AcceptsAcLoop fsm.ctx.sessionConfig.acLimits
      fsm.ctx.sessionConfig.acDerControlProvider req
  | .dcChargeLoop req => fsm.ctx.session.AcceptsDcLoop fsm.ctx.sessionConfig.dcLimits req
  | _ => False

inductive LoopStep (fsm : Fsm) : Input → Fsm → List Output → Prop
  | request (env : Env) (req : Request) (first : Bool) (res : Response) (start rest : List Output)
      (fsm' : Fsm) (log : List Output) (flag : fsm.state.firstEntryInLoop? = some first)
      (loops : req.isChargeLoop = true) (split : log = start ++ .respond res :: rest)
      (accepts : fsm.state.id.accepts req = true) (sound : res.isFailed = false ↔ fsm.AcceptsLoop req)
      (started : signals start = if first then [.chargeLoopStarted] else [])
      (before : responses start = []) (unsignalled : signals rest = []) (after : responses rest = [])
      (stays : fsm'.state.id = fsm.state.id) (entered : fsm'.state.firstEntryInLoop? = some false) :
      LoopStep fsm (.message env (.request req)) fsm' log
  | delivery (env : Env) (req : PowerDeliveryRequest) (first : Option Bool) (res : Response)
      (fsm' : Fsm) (log : List Output) (unstarted : .chargeLoopStarted ∉ signals log)
      (sent : responses log = [res])
      (flag : fsm'.state.id = fsm.state.id →
        fsm'.state.firstEntryInLoop? = if res.isFailed then fsm.state.firstEntryInLoop? else first)
      (renewed : fsm.state.id = .dcChargeLoop ∧ first = some true ∨ first = fsm.state.firstEntryInLoop?) :
      LoopStep fsm (.message env (.request (.powerDelivery req))) fsm' log
  | other (input : Input) (fsm' : Fsm) (log : List Output) (unstarted : .chargeLoopStarted ∉ signals log)
      (unexpected : ∀ env req, input = .message env (.request req) → req.isChargeLoop = true →
        fsm.state.id.accepts req = false ∧ ∀ res ∈ responses log, res.isFailed = true)
      (flag : fsm'.state.id = fsm.state.id → fsm'.state.firstEntryInLoop? = fsm.state.firstEntryInLoop?) :
      LoopStep fsm input fsm' log

section Step

variable (platform : Platform) {fsm : Fsm}

theorem LoopStep.of_answer {env : Env} {req : Request} {first : Bool} {res : Response}
    {result : Except Exn (State × Result)} {ctx' : Context} {log : List Output}
    (answer : LoopAnswer fsm.state first res result log) (flag : fsm.state.firstEntryInLoop? = some first)
    (loops : req.isChargeLoop = true) (accepts : fsm.state.id.accepts req = true)
    (sound : res.isFailed = false ↔ fsm.AcceptsLoop req) :
    LoopStep fsm (.message env (.request req)) (fsm.settle result ctx')
      (.feedback (.v2gMessage (Variant.request req).getType) :: log) := by
  obtain ⟨⟨rest, rfl, unsignalled, after⟩, state', rfl, stays, entered⟩ := answer
  rw [← List.cons_append]
  refine .request env req first res _ rest _ _ flag loops rfl accepts sound ?_ ?_ unsignalled after
    stays entered
  · cases first <;> rfl
  · cases first <;> rfl

theorem LoopStep.of_delivery {env : Env} {req : PowerDeliveryRequest} {first : Option Bool}
    {result : Except Exn (State × Result)} {ctx' : Context} {log : List Output}
    (delivery : LoopDelivery fsm.state first result log)
    (renewed : fsm.state.id = .dcChargeLoop ∧ first = some true ∨ first = fsm.state.firstEntryInLoop?) :
    LoopStep fsm (.message env (.request (.powerDelivery req))) (fsm.settle result ctx')
      (.feedback (.v2gMessage (Variant.request (.powerDelivery req)).getType) :: log) := by
  obtain ⟨unstarted, res, sent, ⟨state', rfl, -, flag⟩ | ⟨state', new, rfl, other⟩⟩ := delivery
  · exact .delivery env req first res _ _ unstarted sent (fun _ => flag) renewed
  · refine .delivery env req first res _ _ unstarted sent (fun stays => ?_) renewed
    rw [settle_createState, State.enter_id] at stays
    exact absurd stays other

theorem acChargeLoop_loopStep {self : State.AcChargeLoop} (state : fsm.state = .acChargeLoop self)
    (idle : fsm.ctx.request = none) (env : Env) (req : Request)
    (accepts : fsm.state.id.accepts req = true) :
    Act.wp (step platform (.message env (.request req)))
      (fun _ fsm' log => LoopStep fsm (.message env (.request req)) fsm' log) fsm := by
  rw [wp_step_message platform env _ fsm idle]
  have pending := messageContext_request fsm.ctx (.request req)
  rw [state] at accepts
  cases req <;> try exact absurd accepts Bool.false_ne_true
  case powerDelivery req =>
    have delivers := acChargeLoop_delivers platform env _ self req pending
    rw [← state] at delivers
    refine Act.wp_mono _ _ delivers fun result ctx' log delivery => ?_
    exact .of_delivery delivery (.inr (by rw [state]; rfl))
  case acChargeLoop req =>
    have answers := acChargeLoop_answers platform env _ self req pending
    rw [← state] at answers
    refine Act.wp_mono _ _ answers fun result ctx' log answer => ?_
    refine .of_answer answer (by rw [state]; rfl) rfl (by rw [state]; rfl) ?_
    exact handleAcChargeLoop_accepts env req _ _ _ _

theorem dcChargeLoop_loopStep {self : State.DcChargeLoop} (state : fsm.state = .dcChargeLoop self)
    (idle : fsm.ctx.request = none) (env : Env) (req : Request)
    (accepts : fsm.state.id.accepts req = true) :
    Act.wp (step platform (.message env (.request req)))
      (fun _ fsm' log => LoopStep fsm (.message env (.request req)) fsm' log) fsm := by
  rw [wp_step_message platform env _ fsm idle]
  have pending := messageContext_request fsm.ctx (.request req)
  rw [state] at accepts
  cases req <;> try exact absurd accepts Bool.false_ne_true
  case powerDelivery req =>
    have delivers := dcChargeLoop_delivers platform env _ self req pending
    rw [← state] at delivers
    refine Act.wp_mono _ _ delivers fun result ctx' log delivery => ?_
    exact .of_delivery delivery (.inl ⟨by rw [state]; rfl, rfl⟩)
  case dcChargeLoop req =>
    have answers := dcChargeLoop_answers platform env _ self req pending
    rw [← state] at answers
    refine Act.wp_mono _ _ answers fun result ctx' log answer => ?_
    refine .of_answer answer (by rw [state]; rfl) rfl (by rw [state]; rfl) ?_
    exact handleDcChargeLoop_accepts env req _ _ _

theorem unstarted_elsewhere (idle : fsm.ctx.request = none) (input : Input)
    (unexpected : ∀ env req, input = .message env (.request req) → req.isChargeLoop = true →
      fsm.state.id.accepts req = false) :
    .chargeLoopStarted ∉ signals (step platform input fsm).log := by
  intro sent
  have offered := (step_signals platform idle input).subset sent
  unfold Input.signals at offered
  split at offered
  · rename_i env req
    split_ifs at offered with accepts
    unfold State.signals at offered
    split at offered
    case h_2 => split at offered <;> simp at offered
    case h_3 => split at offered <;> simp at offered
    case h_7 | h_8 => exact absurd accepts (by simp [unexpected _ _ rfl rfl])
    all_goals simp at offered
  · simp at offered

theorem message_loopStep (idle : fsm.ctx.request = none) (env : Env) (variant : Variant) :
    Act.wp (step platform (.message env variant))
      (fun _ fsm' log => LoopStep fsm (.message env variant) fsm' log) fsm := by
  by_cases accepted : ∃ req, variant = .request req ∧ fsm.state.id.accepts req = true
  · obtain ⟨req, rfl, accepts⟩ := accepted
    cases state : fsm.state
    case acChargeLoop self => exact acChargeLoop_loopStep platform state idle env req accepts
    case dcChargeLoop self => exact dcChargeLoop_loopStep platform state idle env req accepts
    all_goals
      have elsewhere : ∀ env' req', Input.message env (.request req) = .message env' (.request req') →
          req'.isChargeLoop = true → fsm.state.id.accepts req' = false := by
        rintro env' req' ⟨⟩ loops
        rw [state]
        cases req
        case acChargeLoop | dcChargeLoop => rfl
        all_goals cases loops
      refine .other _ _ _ (unstarted_elsewhere platform idle _ elsewhere) ?_ ?_
      · intro env' req' same loops
        obtain ⟨-, rfl⟩ : env = env' ∧ req = req' := by simpa using same
        exact absurd accepts (by simp [elsewhere _ _ rfl loops])
      · intro stays
        rw [state] at stays ⊢
        cases state' : (step platform (.message env (.request req)) fsm).state.state <;>
          simp [state', State.id] at stays
        rfl
  · have unexpected : ∀ req, variant = .request req → fsm.state.id.accepts req = false := by
      intro req same
      by_contra accepts
      exact accepted ⟨req, same, Bool.eq_true_of_not_eq_false accepts⟩
    rw [wp_step_message platform env _ fsm idle]
    apply State.wp_unexpected platform env (messageContext_request fsm.ctx variant) _ unexpected
    intro response log refused
    refine .other _ _ _ ?_ ?_ fun _ => rfl
    · intro sent
      obtain ⟨_, ⟨⟩, -⟩ := refused _ (by simpa [Output.signal?, mem_signals] using sent)
    · rintro env' req ⟨⟩ _
      refine ⟨unexpected req rfl, fun res sent => ?_⟩
      obtain ⟨_, same, code⟩ :=
        refused (.respond res) (by simpa [Output.response?, mem_responses] using sent)
      cases same
      cases res <;> simp_all [Response.isFailed, Response.code?] <;> rfl

theorem loopStep (idle : fsm.ctx.request = none) (input : Input) :
    LoopStep fsm input (step platform input fsm).state (step platform input fsm).log := by
  have unstarted (silent : ∀ env variant, input ≠ .message env variant) :
      .chargeLoopStarted ∉ signals (step platform input fsm).log :=
    unstarted_elsewhere platform idle input fun env req same => absurd same (silent env _)
  cases input with
  | message env variant => exact message_loopStep platform idle env variant
  | control env event =>
      refine .other _ _ _ (unstarted (by simp)) (by simp) fun stays => ?_
      by_cases resumes : fsm.state.Resumes event
      · obtain ⟨self, req, closed, delivery, saved, rfl⟩ := resumes
        cases state' : (step platform (.control env (.closedContactor closed)) fsm).state.state <;>
          simp [state', delivery, State.id] at stays
        rw [delivery]
        rfl
      · exact wp_step_control_quiet platform env event fsm resumes
          (fun _ fsm' _ => fsm'.state.firstEntryInLoop? = fsm.state.firstEntryInLoop?) fun _ _ => by simp
  | timeout env type =>
      refine .other _ _ _ (unstarted (by simp)) (by simp) fun stays => ?_
      exact wp_step_timeout platform env type fsm
        (fun _ fsm' _ => fsm'.state.firstEntryInLoop? = fsm.state.firstEntryInLoop?) fun _ _ _ => by simp
  | _ => exact .other _ _ _ (unstarted (by simp)) (by simp) fun _ => rfl

end Step

def LoopAnswered (record : FsmStep) (failed : Bool) : Prop :=
  (∃ env req, record.input = .message env (.request req) ∧ req.isChargeLoop = true) ∧
    ∃ res ∈ responses record.outputs, res.isFailed = failed

def DeliveryAccepted (record : FsmStep) : Prop :=
  (∃ env req, record.input = .message env (.request (.powerDelivery req))) ∧
    ∃ res ∈ responses record.outputs, res.isFailed = false

/-- What a step signals of a charge loop, after the earlier steps of the stay in its state. -/
structure LoopSignalling (stayed : List FsmStep) (record : FsmStep) : Prop where
  started : LoopAnswered record false → (∀ earlier ∈ stayed, ¬LoopAnswered earlier false) →
    (signals record.outputs).count .chargeLoopStarted = 1 ∧
      ∃ before res after, record.outputs = before ++ .respond res :: after ∧
        .chargeLoopStarted ∈ signals before
  once : (signals record.outputs).count .chargeLoopStarted ≤ 1
  renewed : Signals record .chargeLoopStarted → ∀ before earlier between,
    stayed = before ++ earlier :: between → Signals earlier .chargeLoopStarted →
      ∃ delivery ∈ between, DeliveryAccepted delivery
  finished : Signals record .chargeLoopFinished → (∃ earlier ∈ stayed, LoopAnswered earlier false) →
    ∃ earlier ∈ stayed, Signals earlier .chargeLoopStarted
  refused : LoopAnswered record true → ¬Signals record .chargeLoopStarted

/-- No `AC_ChargeLoopReq` is accepted, and the first `DC_ChargeLoopReq` is not refused. -/
def LoopSound (fsm : Fsm) : Input → Prop
  | .message _ (.request (.acChargeLoop req)) =>
      fsm.state.id = .acChargeLoop → ¬fsm.AcceptsLoop (.acChargeLoop req)
  | .message _ (.request (.dcChargeLoop req)) =>
      fsm.state.id = .dcChargeLoop → fsm.state.firstEntryInLoop? = some true →
        fsm.AcceptsLoop (.dcChargeLoop req)
  | _ => True

theorem split_concat {stayed before between : List FsmStep} {record earlier : FsmStep}
    (split : stayed ++ [record] = before ++ earlier :: between) :
    earlier = record ∨ ∃ between', between = between' ++ [record] ∧ stayed = before ++ earlier :: between' := by
  rcases between.eq_nil_or_concat with rfl | ⟨between', last, rfl⟩
  · exact .inl (List.cons.inj (List.append_inj' split rfl).2).1.symm
  · rw [List.concat_eq_append, ← List.cons_append, ← List.append_assoc] at split
    obtain ⟨same, last⟩ := List.append_inj' split rfl
    exact .inr ⟨between', by rw [List.concat_eq_append, (List.cons.inj last).1], same⟩

structure LoopInvariant (past : List FsmStep) (fsm : Fsm) : Prop where
  idle : fsm.ctx.request = none
  unset : fsm.state.id = .acChargeLoop → fsm.state.firstEntryInLoop? = some false
  unaccepted : fsm.state.id = .acChargeLoop → ∀ record ∈ stay .acChargeLoop past,
    ¬LoopAnswered record false
  passed : fsm.state.id = .dcChargeLoop → fsm.state.firstEntryInLoop? = some false →
    ∃ record ∈ stay .dcChargeLoop past, LoopAnswered record false
  signalled : (∃ record ∈ stay fsm.state.id past, LoopAnswered record false) →
    ∃ record ∈ stay fsm.state.id past, Signals record .chargeLoopStarted
  entered : fsm.state.firstEntryInLoop? = some true → ∀ before earlier between,
    stay fsm.state.id past = before ++ earlier :: between → Signals earlier .chargeLoopStarted →
      ∃ delivery ∈ between, DeliveryAccepted delivery

section Run

variable (platform : Platform) {past : List FsmStep} {fsm : Fsm}

theorem unset_step (idle : fsm.ctx.request = none)
    (unset : fsm.state.id = .acChargeLoop → fsm.state.firstEntryInLoop? = some false) (input : Input)
    (loop : (step platform input fsm).state.state.id = .acChargeLoop) :
    (step platform input fsm).state.state.firstEntryInLoop? = some false := by
  -- The charge loop of AC starts with `false`, and nothing sets the variable.
  rcases (step_frame platform fsm input idle).next with same | ⟨next, -, created⟩
  · rw [same] at loop
    cases loopStep platform idle input with
    | request _ _ _ _ _ _ _ _ _ _ _ _ _ _ _ _ _ _ entered => exact entered
    | delivery _ _ _ _ _ _ _ _ kept renewed =>
        rw [kept same]
        rcases renewed with ⟨dc, -⟩ | rfl
        · rw [loop] at dc
          cases dc
        · simpa using unset loop
    | other _ _ _ _ _ kept => exact (kept same).trans (unset loop)
  · rw [created] at loop ⊢
    cases next <;> simp [StateId.create, State.enter, State.id] at loop
    rfl

theorem unset_reached (config : SessionConfig) (pauseCtx : Option PauseContext) (id : SessionId)
    (inputs : List Input) (loop : (reached platform config pauseCtx id inputs).state.id = .acChargeLoop) :
    (reached platform config pauseCtx id inputs).state.firstEntryInLoop? = some false := by
  have inv := Machine.run_induction (step platform) (Fsm.new config pauseCtx id)
    (motive := fun _ fsm => fsm.ctx.request = none ∧
      (fsm.state.id = .acChargeLoop → fsm.state.firstEntryInLoop? = some false))
    ⟨rfl, by simp [State.id]⟩ ?_ inputs
  · exact inv.2 loop
  · rintro _ fsm input ⟨idle, unset⟩
    exact ⟨(step_frame platform fsm input idle).idle, unset_step platform idle unset input⟩

theorem LoopSound.loop {env : Env} {req : Request}
    (sound : fsm.LoopSound (.message env (.request req))) (loops : req.isChargeLoop = true)
    (accepts : fsm.state.id.accepts req = true) :
    fsm.state.id = .acChargeLoop ∧ ¬fsm.AcceptsLoop req ∨
      fsm.state.id = .dcChargeLoop ∧ (fsm.state.firstEntryInLoop? = some true → fsm.AcceptsLoop req) := by
  cases req <;> try cases loops
  case acChargeLoop req =>
    have loop : fsm.state.id = .acChargeLoop := by
      cases id : fsm.state.id <;> rw [id] at accepts <;> first | rfl | cases accepts
    exact .inl ⟨loop, sound loop⟩
  case dcChargeLoop req =>
    have loop : fsm.state.id = .dcChargeLoop := by
      cases id : fsm.state.id <;> rw [id] at accepts <;> first | rfl | cases accepts
    exact .inr ⟨loop, sound loop⟩

variable {platform} {input : Input}

theorem LoopAnswered.passes (idle : fsm.ctx.request = none) (sound : fsm.LoopSound input)
    (accepted : LoopAnswered (Machine.stepOf (step platform) fsm input) false) :
    fsm.state.id = .dcChargeLoop ∧ (fsm.state.firstEntryInLoop? = some false ∨
      (signals (step platform input fsm).log).count .chargeLoopStarted = 1 ∧
        ∃ before res after, (step platform input fsm).log = before ++ .respond res :: after ∧
          .chargeLoopStarted ∈ signals before) := by
  obtain ⟨⟨env, req, same, loops⟩, res, sent, fine⟩ := accepted
  simp only [Machine.stepOf_input, Machine.stepOf_outputs] at same sent
  subst same
  cases loopStep platform idle (.message env (.request req)) with
  | request _ _ first out start rest _ _ flag _ split accepts isSound started before unsignalled after =>
      obtain rfl : res = out := by simpa [split, before, after, Output.response?] using sent
      rcases sound.loop loops accepts with ⟨-, refuses⟩ | ⟨loop, -⟩
      · exact absurd (isSound.mp fine) refuses
      · refine ⟨loop, ?_⟩
        cases first with
        | false => exact .inl flag
        | true =>
            refine .inr ⟨?_, start, res, rest, split, by simp [started]⟩
            simp [split, started, unsignalled, Output.signal?]
  | delivery => cases loops
  | other _ _ _ _ unexpected => simp [(unexpected env req rfl loops).2 res sent] at fine

theorem step_started_once (idle : fsm.ctx.request = none) :
    (signals (step platform input fsm).log).count .chargeLoopStarted ≤ 1 := by
  cases loopStep platform idle input with
  | request _ _ first _ _ _ _ _ _ _ split _ _ started _ unsignalled =>
      cases first <;> simp [split, started, unsignalled, Output.signal?]
  | delivery _ _ _ _ _ _ unstarted => simp [List.count_eq_zero_of_not_mem unstarted]
  | other _ _ _ unstarted => simp [List.count_eq_zero_of_not_mem unstarted]

theorem step_started (idle : fsm.ctx.request = none)
    (sent : .chargeLoopStarted ∈ signals (step platform input fsm).log) :
    fsm.state.firstEntryInLoop? = some true ∧
      (step platform input fsm).state.state.firstEntryInLoop? = some false ∧
      ∃ env req res, input = .message env (.request req) ∧ req.isChargeLoop = true ∧
        fsm.state.id.accepts req = true ∧ responses (step platform input fsm).log = [res] ∧
          (res.isFailed = false ↔ fsm.AcceptsLoop req) := by
  cases loopStep platform idle input with
  | request env req first res _ _ _ _ flag loops split accepts sound started before unsignalled after _
      entered =>
      have isFirst : first = true := by
        cases first <;> simp [split, started, unsignalled, Output.signal?] at sent ⊢
      exact ⟨by rw [flag, isFirst], entered, env, req, res, rfl, loops, accepts,
        by simp [split, before, after, Output.response?], sound⟩
  | delivery _ _ _ _ _ _ unstarted => exact absurd sent unstarted
  | other _ _ _ unstarted => exact absurd sent unstarted

theorem step_firstEntry (idle : fsm.ctx.request = none)
    (stays : (step platform input fsm).state.state.id = fsm.state.id) :
    (step platform input fsm).state.state.firstEntryInLoop? = fsm.state.firstEntryInLoop? ∨
      (step platform input fsm).state.state.firstEntryInLoop? = some false ∧
        (∃ env req, input = .message env (.request req) ∧ req.isChargeLoop = true ∧
          fsm.state.id.accepts req = true ∧ ∃ res, res ∈ responses (step platform input fsm).log ∧
            (res.isFailed = false ↔ fsm.AcceptsLoop req)) ∨
      (step platform input fsm).state.state.firstEntryInLoop? = some true ∧
        DeliveryAccepted (Machine.stepOf (step platform) fsm input) := by
  cases loopStep platform idle input with
  | request env req first res _ _ _ _ flag loops split accepts sound _ _ _ _ _ entered =>
      exact .inr (.inl ⟨entered, env, req, rfl, loops, accepts, res,
        by simp [split, Output.response?], sound⟩)
  | delivery env req first res _ _ _ sent flag renewed =>
      rw [flag stays]
      by_cases failed : res.isFailed = true
      · exact .inl (if_pos failed)
      · rw [if_neg failed]
        rcases renewed with ⟨-, rfl⟩ | rfl
        · refine .inr (.inr ⟨rfl, ⟨env, req, rfl⟩, res, ?_, by simpa using failed⟩)
          simp [Machine.stepOf_outputs, sent]
        · exact .inl rfl
  | other _ _ _ _ _ flag => exact .inl (flag stays)

theorem stay_of_stays (stays : (step platform input fsm).state.state.id = fsm.state.id) :
    stay (step platform input fsm).state.state.id (past ++ [Machine.stepOf (step platform) fsm input]) =
      stay fsm.state.id past ++ [Machine.stepOf (step platform) fsm input] := by
  rw [stay_concat, if_pos (by rw [Machine.stepOf_before, stays]), stays]

theorem stay_of_moves (moves : (step platform input fsm).state.state.id ≠ fsm.state.id) :
    stay (step platform input fsm).state.state.id (past ++ [Machine.stepOf (step platform) fsm input]) =
      [] := by
  rw [stay_concat, if_neg (by rw [Machine.stepOf_before]; exact moves.symm)]

theorem loopInvariant_moves (inv : LoopInvariant past fsm)
    (moves : (step platform input fsm).state.state.id ≠ fsm.state.id) :
    LoopInvariant (past ++ [Machine.stepOf (step platform) fsm input]) (step platform input fsm).state := by
  -- The loop is entered with a variable that agrees with an empty stay.
  have frame := step_frame platform fsm input inv.idle
  have fresh := @stay_of_moves platform past fsm input moves
  refine ⟨frame.idle, unset_step platform inv.idle inv.unset input, ?_, ?_, ?_, ?_⟩
  · intro loop record member
    rw [← loop, fresh] at member
    cases member
  · intro loop passed
    rcases frame.next with same | ⟨next, -, created⟩
    · exact absurd same moves
    · rw [created] at loop passed
      cases next <;> simp [StateId.create, State.enter, State.id] at loop
      cases passed
  · rintro ⟨record, member, -⟩
    rw [fresh] at member
    cases member
  · intro _ before earlier between split
    rw [fresh] at split
    simp at split

theorem loopInvariant_stays (inv : LoopInvariant past fsm) (sound : fsm.LoopSound input)
    (stays : (step platform input fsm).state.state.id = fsm.state.id) :
    LoopInvariant (past ++ [Machine.stepOf (step platform) fsm input]) (step platform input fsm).state := by
  have extended := @stay_of_stays platform past fsm input stays
  have flag := step_firstEntry inv.idle stays
  have passes := @LoopAnswered.passes platform fsm input inv.idle sound
  refine ⟨(step_frame platform fsm input inv.idle).idle,
    unset_step platform inv.idle inv.unset input, ?_, ?_, ?_, ?_⟩
  · intro loop record member
    rw [← loop, extended] at member
    rw [stays] at loop
    rcases List.mem_append.mp member with before | last
    · exact inv.unaccepted loop record (loop ▸ before)
    · rw [List.mem_singleton.mp last]
      intro accepted
      obtain ⟨dc, -⟩ := passes accepted
      rw [loop] at dc
      cases dc
  · intro loop passed
    rw [← loop, extended]
    rw [stays] at loop
    have before (same : fsm.state.firstEntryInLoop? = some false) :
        ∃ record ∈ stay fsm.state.id past ++ [Machine.stepOf (step platform) fsm input],
          LoopAnswered record false := by
      obtain ⟨record, member, accepted⟩ := inv.passed loop same
      exact ⟨record, List.mem_append_left _ (loop ▸ member), accepted⟩
    rcases flag with same | ⟨-, env, req, rfl, loops, accepts, res, sent, isSound⟩ | ⟨renewed, -⟩
    · exact before (same ▸ passed)
    · rcases sound.loop loops accepts with ⟨ac, -⟩ | ⟨-, first⟩
      · rw [loop] at ac
        cases ac
      · obtain ⟨self, state⟩ : ∃ self, fsm.state = .dcChargeLoop self := by
          cases eq : fsm.state <;> simp_all [State.id]
        cases entered : self.firstEntryInChargeLoop with
        | false => exact before (by rw [state, State.firstEntryInLoop?, entered])
        | true =>
            have fine := isSound.mpr (first (by rw [state, State.firstEntryInLoop?, entered]))
            exact ⟨_, List.mem_append_right _ (List.mem_singleton_self _), ⟨env, req, rfl, loops⟩,
              res, sent, fine⟩
    · rw [renewed] at passed
      cases passed
  · rw [extended]
    rintro ⟨record, member, accepted⟩
    have before (earlier : ∃ record ∈ stay fsm.state.id past, LoopAnswered record false) :
        ∃ record ∈ stay fsm.state.id past ++ [Machine.stepOf (step platform) fsm input],
          Signals record .chargeLoopStarted := by
      obtain ⟨record, member, signals⟩ := inv.signalled earlier
      exact ⟨record, List.mem_append_left _ member, signals⟩
    rcases List.mem_append.mp member with earlier | last
    · exact before ⟨record, earlier, accepted⟩
    · rw [List.mem_singleton.mp last] at accepted
      obtain ⟨loop, passed | ⟨-, start, res, rest, split, started⟩⟩ := passes accepted
      · exact before (loop ▸ inv.passed loop passed)
      · refine ⟨_, List.mem_append_right _ (List.mem_singleton_self _), ?_⟩
        rw [Signals, Machine.stepOf_outputs, split]
        exact List.mem_append_left _ ((mem_signals _).mp started)
  · intro entered before earlier between split signals
    rw [extended] at split
    rcases split_concat split with rfl | ⟨between', rfl, stayed⟩
    · -- a step that signals the start resets the variable
      obtain ⟨-, passed, -⟩ := step_started inv.idle ((mem_signals _).mpr signals)
      rw [passed] at entered
      cases entered
    · rcases flag with same | ⟨passed, -⟩ | ⟨-, delivered⟩
      · obtain ⟨delivery, member, accepted⟩ :=
          inv.entered (same ▸ entered) before earlier between' stayed signals
        exact ⟨delivery, List.mem_append_left _ member, accepted⟩
      · rw [passed] at entered
        cases entered
      · exact ⟨_, List.mem_append_right _ (List.mem_singleton_self _), delivered⟩

theorem loopInvariant_step (inv : LoopInvariant past fsm) (sound : fsm.LoopSound input) :
    LoopInvariant (past ++ [Machine.stepOf (step platform) fsm input])
      (step platform input fsm).state := by
  by_cases stays : (step platform input fsm).state.state.id = fsm.state.id
  · exact loopInvariant_stays inv sound stays
  · exact loopInvariant_moves inv stays

theorem loopSignalling_of_sound (inv : LoopInvariant past fsm) (sound : fsm.LoopSound input) :
    LoopSignalling (stay fsm.state.id past) (Machine.stepOf (step platform) fsm input) := by
  refine ⟨?_, step_started_once inv.idle, ?_, fun _ => inv.signalled, ?_⟩
  · intro accepted first
    obtain ⟨loop, passed | started⟩ := accepted.passes inv.idle sound
    · obtain ⟨record, member, before⟩ := inv.passed loop passed
      exact absurd before (first record (loop ▸ member))
    · exact started
  · intro signals
    exact inv.entered (step_started inv.idle ((mem_signals _).mpr signals)).1
  · rintro ⟨-, res, sent, failed⟩ signals
    obtain ⟨entered, -, env, req, out, rfl, loops, accepts, answer, isSound⟩ :=
      step_started inv.idle ((mem_signals _).mpr signals)
    obtain rfl : res = out := by simpa [answer] using sent
    rcases sound.loop loops accepts with ⟨ac, -⟩ | ⟨-, first⟩
    · rw [inv.unset ac] at entered
      cases entered
    · simp [isSound.mpr (first entered)] at failed

theorem sound_of_refused {self : State.DcChargeLoop} (state : fsm.state = .dcChargeLoop self)
    (idle : fsm.ctx.request = none) (first : self.firstEntryInChargeLoop = true) {env : Env}
    {req : DcChargeLoopRequest}
    (signalling : LoopSignalling (stay fsm.state.id past)
      (Machine.stepOf (step platform) fsm (.message env (.request (.dcChargeLoop req))))) :
    fsm.AcceptsLoop (.dcChargeLoop req) := by
  -- A refused first request of DC has signalled the start before it was looked at.
  by_contra refuses
  cases loopStep platform idle (.message env (.request (.dcChargeLoop req))) with
  | request _ _ entered res _ _ _ _ flag loops split accepts sound started =>
      obtain rfl : entered = true := by simpa [state, State.firstEntryInLoop?, first] using flag.symm
      refine signalling.refused ⟨⟨env, _, rfl, rfl⟩, res, ?_, ?_⟩ ((mem_signals _).mp ?_)
      · simp [Machine.stepOf_outputs, split, Output.response?]
      · by_contra fine
        exact refuses (sound.mp (by simpa using fine))
      · simp [Machine.stepOf_outputs, split, started]
  | other _ _ _ _ unexpected =>
      have refused := (unexpected env _ rfl rfl).1
      rw [state] at refused
      cases refused

theorem loopAnswered_of_accepts (idle : fsm.ctx.request = none) {env : Env} {req : Request}
    (loops : req.isChargeLoop = true) (accepts : fsm.state.id.accepts req = true)
    (fits : fsm.AcceptsLoop req) :
    LoopAnswered (Machine.stepOf (step platform) fsm (.message env (.request req))) false := by
  cases loopStep platform idle (.message env (.request req)) with
  | request _ _ _ res _ _ _ _ _ _ split _ sound =>
      exact ⟨⟨env, req, rfl, loops⟩, res, by simp [Machine.stepOf_outputs, split, Output.response?],
        sound.mpr fits⟩
  | delivery => cases loops
  | other _ _ _ _ unexpected => simp [(unexpected env req rfl loops).1] at accepts

theorem sound_of_signalling (idle : fsm.ctx.request = none)
    (unaccepted : fsm.state.id = .acChargeLoop →
      ¬LoopAnswered (Machine.stepOf (step platform) fsm input) false)
    (signalling : LoopSignalling (stay fsm.state.id past) (Machine.stepOf (step platform) fsm input)) :
    fsm.LoopSound input := by
  unfold LoopSound
  split
  · intro loop fits
    exact unaccepted loop (loopAnswered_of_accepts idle rfl (by rw [loop]; rfl) fits)
  · intro loop first
    obtain ⟨self, state⟩ : ∃ self, fsm.state = .dcChargeLoop self := by
      cases eq : fsm.state <;> simp_all [State.id]
    exact sound_of_refused state idle (by simpa [state, State.firstEntryInLoop?] using first) signalling
  · trivial

variable (platform) (config : SessionConfig) (pauseCtx : Option PauseContext) (id : SessionId)
  (inputs : List Input)

theorem unaccepted_of_signalling
    (signalling : ∀ past record future, run platform config pauseCtx id inputs = past ++ record :: future →
      LoopSignalling (stay record.before.state.id past) record) (past : List FsmStep) :
    ∀ record future, run platform config pauseCtx id inputs = past ++ record :: future →
      record.before.state.id = .acChargeLoop → ¬LoopAnswered record false := by
  -- The first request that AC accepts in a stay is not accompanied by a signal.
  induction length : past.length using Nat.strong_induction_on generalizing past with
  | _ n earliest =>
      intro record future split loop accepted
      have unaccepted : ∀ earlier ∈ stay record.before.state.id past, ¬LoopAnswered earlier false := by
        intro earlier member
        obtain ⟨first, rest, rfl⟩ :=
          List.append_of_mem (List.IsSuffix.subset (List.rtakeWhile_suffix _ _) member)
        refine earliest first.length ?_ first rfl earlier (rest ++ record :: future) (by simp [split])
          (by rw [stay_before member, loop])
        simp [← length]
      obtain ⟨-, before, res, after, outputs, started⟩ :=
        (signalling past record future split).started accepted unaccepted
      obtain ⟨before', input, after', -, rfl, rfl⟩ := Machine.split_of_steps _ split
      have entered := (@step_started platform _ input (reached_idle platform config pauseCtx id before') ?_).1
      · have unset := unset_reached platform config pauseCtx id before' loop
        rw [entered] at unset
        cases unset
      · rw [Machine.stepOf_outputs] at outputs
        rw [reached, outputs, signals_append]
        exact List.mem_append_left _ started

/-- A run signals its charge loops as it should exactly when no `AC_ChargeLoopReq` is accepted and no
`DC_ChargeLoopReq` is refused that is the first since `DC_ChargeLoop` was entered or a
`PowerDeliveryReq` accepted. -/
theorem loop_signalling_iff :
    (∀ past record future, run platform config pauseCtx id inputs = past ++ record :: future →
      LoopSignalling (stay record.before.state.id past) record) ↔
      ∀ record ∈ run platform config pauseCtx id inputs, record.before.LoopSound record.input := by
  constructor
  · intro signalling record member
    obtain ⟨past, future, split⟩ := List.append_of_mem member
    have unaccepted := unaccepted_of_signalling platform config pauseCtx id inputs signalling past record
      future split
    have signals := signalling past record future split
    obtain ⟨before, input, after, -, rfl, rfl⟩ := Machine.split_of_steps _ split
    have idle := reached_idle platform config pauseCtx id before
    exact sound_of_signalling idle unaccepted signals
  · intro sound past record future split
    refine Machine.run_always (step platform) (Fsm.new config pauseCtx id) LoopInvariant
      (Machine.All fun record => record.before.LoopSound record.input)
      (fun past record => LoopSignalling (stay record.before.state.id past) record) Machine.All.shorter
      ⟨rfl, by simp [State.id], by simp [State.id], by simp [State.id], by simp [stay],
        by simp [State.firstEntryInLoop?]⟩ ?_ ?_ inputs sound split
    · exact fun past fsm input all inv => loopInvariant_step inv all.last
    · exact fun past fsm input all inv => loopSignalling_of_sound inv all.last

end Run

end Fsm

namespace Sample

def acCharging : List Input :=
  reachPowerDelivery (sessionId 1) ++ [deliver (sessionId 1) .start, .control {} (.closedContactor true)]

def acLoop : Input :=
  receive (sessionId 1) (.acChargeLoop ⟨{ sessionId := sessionId 1 }, none, false, .scheduled {}⟩)

end Sample

namespace Fsm

open Sample

/-- The charge loop of AC answers its first request and signals no start. -/
theorem loop_signalling_unstarted :
    ¬∀ (platform : Platform) (config : SessionConfig) (pauseCtx : Option PauseContext) (id : SessionId)
      (inputs : List Input) (past future : List FsmStep) (record : FsmStep),
      run platform config pauseCtx id inputs = past ++ record :: future →
        LoopSignalling (stay record.before.state.id past) record := by
  intro signalling
  have split := run_concat platform config none (sessionId 9) acCharging acLoop
  have signals := signalling platform config none (sessionId 9) _ _ [] _ split
  rw [Machine.stepOf_before] at signals
  have answered : (responses (Machine.stepOf (step platform)
      (reached platform config none (sessionId 9) acCharging) acLoop).outputs).any (!·.isFailed) = true := by
    decide +kernel
  have first : (stay (reached platform config none (sessionId 9) acCharging).state.id
      (run platform config none (sessionId 9) acCharging)).isEmpty = true := by
    decide +kernel
  have unsignalled : (LibIso15118.signals (Machine.stepOf (step platform)
      (reached platform config none (sessionId 9) acCharging) acLoop).outputs).count
        .chargeLoopStarted = 0 := by
    decide +kernel
  obtain ⟨res, sent, fine⟩ := List.any_eq_true.mp answered
  rw [List.isEmpty_iff.mp first] at signals
  have started := (signals.started ⟨⟨_, _, rfl, rfl⟩, res, sent, by simpa using fine⟩ (by simp)).1
  rw [unsignalled] at started
  cases started

end Fsm

end LibIso15118
