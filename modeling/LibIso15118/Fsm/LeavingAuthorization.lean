import LibIso15118.Fsm.Events
import LibIso15118.Fsm.SessionSteps

set_option autoImplicit false

namespace LibIso15118

open Datatypes Shared

def ControlEvent.authorizationResponse? : ControlEvent → Option Bool
  | .authorizationResponse authorized => some authorized
  | _ => none

def Input.timesOut : Input → Bool
  | .timeout _ .ongoing => true
  | _ => false

def statusOf : Option Bool → AuthStatus
  | none => .pending
  | some true => .accepted
  | some false => .rejected

namespace Fsm

variable (platform : Platform) {fsm : Fsm} {self : State.Authorization}

def authorizationAnswer (env : Env) (req : AuthorizationRequest) (ctx : Context) (self : State.Authorization) :
    AuthorizationResponse :=
  handleAuthorization env req ctx.session self.authorizationStatus self.timeoutOngoingReached

inductive AuthorizationEffect (fsm : Fsm) (self : State.Authorization) : Input → Fsm → List Output → Prop
  | answered (env : Env) (req : AuthorizationRequest) (fsm' : Fsm) (log : List Output)
      (sent : responses log = [.authorization (authorizationAnswer env req fsm.ctx self)])
      (next : fsm'.state =
        if (authorizationAnswer env req fsm.ctx self).responseCode.isFailed = false ∧
            self.authorizationStatus = .accepted then .serviceDiscovery
        else .authorization { self with firstReqMsg := false }) :
      AuthorizationEffect fsm self (.message env (.request (.authorization req))) fsm' log
  | refused (env : Env) (variant : Variant) (fsm' : Fsm) (log : List Output)
      (other : ∀ req, variant ≠ .request (.authorization req)) (state : fsm'.state = .authorization self)
      (unsent : ∀ res, .authorization res ∈ responses log → res.responseCode.isFailed = true) :
      AuthorizationEffect fsm self (.message env variant) fsm' log
  | told (env : Env) (event : ControlEvent) (fsm' : Fsm) (log : List Output) (silent : responses log = [])
      (state : fsm'.state = (State.authorization self).afterControl event) :
      AuthorizationEffect fsm self (.control env event) fsm' log
  | timedOut (env : Env) (type : TimeoutType) (fsm' : Fsm) (log : List Output) (silent : responses log = [])
      (state : fsm'.state = (State.authorization self).afterTimeout type) :
      AuthorizationEffect fsm self (.timeout env type) fsm' log
  | still (input : Input) (fsm' : Fsm) (log : List Output) (silent : responses log = [])
      (unfed : input.event? = none) (late : input.timesOut = false)
      (unasked : ∀ env variant, input ≠ .message env variant) (state : fsm'.state = .authorization self) :
      AuthorizationEffect fsm self input fsm' log

theorem authorization_effect (state : fsm.state = .authorization self) (idle : fsm.ctx.request = none)
    (input : Input) :
    AuthorizationEffect fsm self input (step platform input fsm).state (step platform input fsm).log := by
  have still (input : Input) (unfed : input.event? = none) (late : input.timesOut = false)
      (unasked : ∀ env variant, input ≠ .message env variant)
      (silent : responses (step platform input fsm).log = [])
      (stays : (step platform input fsm).state.state = .authorization self) :
      AuthorizationEffect fsm self input (step platform input fsm).state (step platform input fsm).log :=
    .still input _ _ silent unfed late unasked stays
  cases input with
  | message env variant =>
      suffices spec : Act.wp (step platform (.message env variant))
          (fun _ fsm' log => AuthorizationEffect fsm self (.message env variant) fsm' log) fsm from spec
      rw [wp_step_message platform env variant fsm idle, state]
      simp only [State.feed, State.Authorization.feed, Act.wp_bind,
        Feed.wp_pullRequest _ (messageContext_request fsm.ctx variant)]
      split
      · rename_i req
        have answered (fsm' : Fsm)
            (next : fsm'.state =
              if (authorizationAnswer env req fsm.ctx self).responseCode.isFailed = false ∧
                  self.authorizationStatus = .accepted then .serviceDiscovery
              else .authorization { self with firstReqMsg := false }) :
            AuthorizationEffect fsm self (.message env (.request (.authorization req))) fsm'
              [.feedback (.v2gMessage (Variant.request (.authorization req)).getType),
                .respond (.authorization (authorizationAnswer env req fsm.ctx self))] :=
          .answered env req fsm' _ (by simp [Output.response?]) next
        -- the first request starts the timer, which concerns neither the answer nor the state
        simp only [authorizationAnswer] at answered
        cases first : self.firstReqMsg <;>
        by_cases failed : (handleAuthorization env req fsm.ctx.session self.authorizationStatus
            self.timeoutOngoingReached).responseCode.isFailed = true <;>
        by_cases accepted : self.authorizationStatus = .accepted <;>
        · simp only [accepted] at failed answered
          simp [Platform.stringsFit, accepted, failed]
          apply answered
          simp [failed, State.enter]
      · rename_i req
        simp only [Act.wp_bind, wp_stopOnRequest, Act.wp_pure]
        exact .refused _ _ _ _ (by simp) rfl (by simp [Output.response?])
      · rename_i other _
        simp only [Act.wp_bind, Act.wp_pure]
        apply wp_stopOnSequenceError
        intro pending log failed
        refine .refused _ _ _ _ (fun req same => other req same) rfl ?_
        intro res member
        have sent : .respond (.authorization res) ∈ log := by simpa [Output.response?, mem_responses] using member
        obtain ⟨_, ⟨⟩, code⟩ := failed _ sent
        rw [Option.some.inj code]
        rfl
  | control env event =>
      suffices spec : Act.wp (step platform (.control env event))
          (fun _ fsm' log => AuthorizationEffect fsm self (.control env event) fsm' log) fsm from spec
      apply wp_step_control_quiet platform env event fsm
      · rintro ⟨_, _, _, delivery, -⟩
        simp [state] at delivery
      · intro timeouts _
        refine .told _ _ _ _ rfl ?_
        rw [state]
  | timeout env type =>
      apply wp_step_timeout platform env type fsm
        (fun _ fsm' log => AuthorizationEffect fsm self (.timeout env type) fsm' log)
      rintro pending log (⟨-, rfl⟩ | ⟨delivery, -⟩)
      · exact .timedOut _ _ _ _ rfl (by rw [state])
      · simp [state, State.id] at delivery
  | certHash hash =>
      refine still (.certHash hash) rfl rfl (by simp) ?_ ?_ <;> simp [step, modifyCtx, state]
  | sequenceTimeout =>
      refine still .sequenceTimeout rfl rfl (by simp) ?_ ?_ <;> simp [step, modifyCtx, stopSession, state]
  | takeResponse =>
      refine still .takeResponse rfl rfl (by simp) ?_ ?_ <;> simp [step, modifyCtx, state]
  | responseWritten now =>
      refine still (.responseWritten now) rfl rfl (by simp) ?_ ?_ <;> simp [step, modifyCtx, state]
  | close =>
      refine still .close rfl rfl (by simp) ?_ ?_ <;> simp [step, modifyCtx, stopSession, state]

section Run

/-- The machine that has just entered `Authorization`. -/
def awaiting (ctx : Context) : Fsm := ⟨.authorization {}, { ctx with request := none }⟩

/-- What the application has said last since the machine entered `Authorization`. -/
def said (past : List FsmStep) : Option Bool := latest (·.authorizationResponse?) (stay .authorization past)

def ongoingReached (past : List FsmStep) : Bool := (stay .authorization past).any (·.input.timesOut)

structure AuthorizationInvariant (past : List FsmStep) (fsm : Fsm) : Prop where
  idle : fsm.ctx.request = none
  tracked : ∀ self, fsm.state = .authorization self →
    self.authorizationStatus = statusOf (said past) ∧ self.timeoutOngoingReached = ongoingReached past

theorem stay_inside {past : List FsmStep} (state : fsm.state = .authorization self) (input : Input) :
    stay .authorization (past ++ [Machine.stepOf (step platform) fsm input]) =
      stay .authorization past ++ [Machine.stepOf (step platform) fsm input] := by
  rw [stay_concat, Machine.stepOf_before, state]
  rfl

theorem authorizationInvariant_step {past : List FsmStep} (inv : AuthorizationInvariant past fsm)
    (input : Input) :
    AuthorizationInvariant (past ++ [Machine.stepOf (step platform) fsm input])
      (step platform input fsm).state := by
  have frame := step_frame platform fsm input inv.idle
  refine ⟨frame.idle, fun self' state' => ?_⟩
  by_cases inside : fsm.state.id = .authorization
  · obtain ⟨self, state⟩ : ∃ self, fsm.state = .authorization self := by
      cases state : fsm.state <;> simp_all [State.id]
    obtain ⟨status, late⟩ := inv.tracked self state
    rw [said, ongoingReached, stay_inside platform state input, latest_concat, List.any_append]
    simp only [said] at status
    simp only [ongoingReached] at late
    rw [← late]
    -- every effect leaves the members as the history says
    cases authorization_effect platform state inv.idle input with
    | answered env req _ _ sent next =>
        rw [next] at state'
        split at state'
        · cases state'
        · cases state'
          simp [Input.event?, Input.timesOut, status]
    | refused env variant _ _ other same unsent =>
        cases state'.symm.trans same
        simp [Input.event?, Input.timesOut, status]
    | told env event _ _ silent same =>
        cases event <;> cases state'.symm.trans same <;>
          simp [Input.event?, Input.timesOut, ControlEvent.authorizationResponse?, status]
        rename_i authorized
        cases authorized <;> rfl
    | timedOut env type _ _ silent same =>
        cases type <;> cases state'.symm.trans same <;> simp [Input.event?, Input.timesOut, status]
    | still _ _ _ silent unfed untimed unasked same =>
        cases state'.symm.trans same
        simp [unfed, untimed, status]
  · rw [said, ongoingReached, stay_concat, Machine.stepOf_before, if_neg inside]
    rcases frame.next with same | ⟨next, successor, entered⟩
    · rw [state'] at same
      exact absurd same.symm inside
    · rw [state'] at entered
      cases next <;> cases entered
      exact ⟨rfl, rfl⟩

theorem authorizationInvariant_reached (ctx : Context) (inputs : List Input) :
    AuthorizationInvariant (Machine.steps (step platform) (awaiting ctx) inputs)
      (Machine.final (step platform) (awaiting ctx) inputs) := by
  refine Machine.run_induction (step platform) (awaiting ctx) (motive := AuthorizationInvariant) ?_
    (fun _ _ input inv => authorizationInvariant_step platform inv input) inputs
  refine ⟨rfl, fun self state => ?_⟩
  cases state
  exact ⟨rfl, rfl⟩

end Run

def Declines (res : Response) : Prop :=
  res.code? ≠ some .ok ∨
    ∃ answer : AuthorizationResponse, res = .authorization answer ∧ answer.evseProcessing ≠ .finished

/-- The machine leaves `Authorization` together with the vehicle, and otherwise keeps what the
application has said. -/
structure LeavesTogether (record : FsmStep) : Prop where
  leaves : record.before.state.id = .authorization →
    (record.after.state.id = .serviceDiscovery ↔
      ∃ env req res, record.input = .message env (.request (.authorization req)) ∧
        .authorization res ∈ responses record.outputs ∧ res.responseCode = .ok ∧
        res.evseProcessing = .finished ∧
        findAuthServiceInOfferedServices req.selectedAuthorizationService record.before.ctx.session = true)
  keeps : ∀ self, record.before.state = .authorization self →
    (∃ res ∈ responses record.outputs, Declines res) →
      ∃ self', record.after.state = .authorization self' ∧
        self'.authorizationStatus = self.authorizationStatus

/-- An acceptance is there for a request that selects PnC, and not for one that selects what was not
offered. -/
def SelectsInTime (past : List FsmStep) (record : FsmStep) : Prop :=
  ∀ env req, record.before.state.id = .authorization →
    record.input = .message env (.request (.authorization req)) →
    validateHeader record.before.ctx.session req.header.sessionId = true → ongoingReached past = false →
      if findAuthServiceInOfferedServices req.selectedAuthorizationService record.before.ctx.session then
        req.selectedAuthorizationService = .pnc → said past = some true
      else said past ≠ some true

theorem statusOf_accepted (last : Option Bool) : statusOf last = .accepted ↔ last = some true := by
  rcases last with _ | _ | _ <;> simp [statusOf]

theorem answer_goes_with_acceptance (env : Env) (req : AuthorizationRequest) (session : Session)
    (last : Option Bool) (late : Bool) :
    ((handleAuthorization env req session (statusOf last) late).responseCode.isFailed = false ∧
          last = some true ↔
        (handleAuthorization env req session (statusOf last) late).responseCode = .ok ∧
          (handleAuthorization env req session (statusOf last) late).evseProcessing = .finished ∧
          findAuthServiceInOfferedServices req.selectedAuthorizationService session = true) ↔
      (validateHeader session req.header.sessionId = true → late = false →
        if findAuthServiceInOfferedServices req.selectedAuthorizationService session then
          req.selectedAuthorizationService = .pnc → last = some true
        else last ≠ some true) := by
  -- The response goes together with the transition exactly when the request selects in time.
  by_cases own : validateHeader session req.header.sessionId = true
  · cases late with
    | true => simp [handleAuthorization, own, show ResponseCode.failed.isFailed = true from rfl]
    | false =>
        by_cases offered : findAuthServiceInOfferedServices req.selectedAuthorizationService session = true
        · -- an offered service: EIM waits for the application, PnC does not
          cases selected : req.selectedAuthorizationService <;> rcases last with _ | _ | _ <;>
            simp_all [handleAuthorization, statusOf]
        · simp [handleAuthorization, own, offered,
            show ResponseCode.warningAuthorizationSelectionInvalid.isFailed = false from rfl]
  · simp [handleAuthorization, own]

theorem declines_authorization (res : AuthorizationResponse) :
    Declines (.authorization res) ↔ ¬(res.responseCode = .ok ∧ res.evseProcessing = .finished) := by
  cases processing : res.evseProcessing <;> simp [Declines, Response.code?, processing]

theorem leavesTogether_still (past : List FsmStep) {fsm' : Fsm} {input : Input} {log : List Output}
    (state : fsm.state = .authorization self)
    (unasked : ∀ env req, input ≠ .message env (.request (.authorization req)))
    (stays : fsm'.state.id = .authorization)
    (silent : responses log ≠ [] → fsm'.state = .authorization self) :
    SelectsInTime past ⟨fsm, input, log, fsm'⟩ ↔ LeavesTogether ⟨fsm, input, log, fsm'⟩ := by
  refine iff_of_true (fun env req _ same => absurd same (unasked env req))
    ⟨fun _ => iff_of_false (by simp [stays]) ?_, fun self' before declined => ?_⟩
  · rintro ⟨env, req, _, asked, -⟩
    exact unasked env req asked
  · cases state.symm.trans before
    obtain ⟨res, member, -⟩ := declined
    exact ⟨self, silent (List.ne_nil_of_mem member), rfl⟩

theorem leavesTogether_iff {past : List FsmStep} {input : Input} {fsm' : Fsm} {log : List Output}
    (state : fsm.state = .authorization self) (status : self.authorizationStatus = statusOf (said past))
    (late : self.timeoutOngoingReached = ongoingReached past)
    (effect : AuthorizationEffect fsm self input fsm' log) :
    SelectsInTime past ⟨fsm, input, log, fsm'⟩ ↔ LeavesTogether ⟨fsm, input, log, fsm'⟩ := by
  cases effect with
  | answered env req _ _ sent next =>
      have together := answer_goes_with_acceptance env req fsm.ctx.session (said past) (ongoingReached past)
      simp only [authorizationAnswer, status, late, statusOf_accepted] at sent next
      generalize handleAuthorization env req fsm.ctx.session (statusOf (said past)) (ongoingReached past) = answer
        at together sent next
      have moves : fsm'.state.id = .serviceDiscovery ↔
          answer.responseCode.isFailed = false ∧ said past = some true := by
        rw [next]
        split <;> simp_all [State.id]
      have inTime : SelectsInTime past ⟨fsm, .message env (.request (.authorization req)), log, fsm'⟩ ↔
          (answer.responseCode.isFailed = false ∧ said past = some true ↔ answer.responseCode = .ok ∧
            answer.evseProcessing = .finished ∧
            findAuthServiceInOfferedServices req.selectedAuthorizationService fsm.ctx.session = true) := by
        rw [together]
        refine ⟨fun selects => selects env req (by rw [state]; rfl) rfl, fun selects env' req' _ same => ?_⟩
        cases same
        exact selects
      rw [inTime]
      constructor
      · intro goes
        refine ⟨fun _ => ?_, fun self' before declined => ?_⟩
        · rw [moves, goes]
          simp [sent]
        · cases state.symm.trans before
          obtain ⟨res, member, declines⟩ := declined
          obtain rfl : res = .authorization answer := by simpa [sent] using member
          have stays : ¬(answer.responseCode.isFailed = false ∧ said past = some true) := fun moved =>
            (declines_authorization answer).mp declines ⟨(goes.mp moved).1, (goes.mp moved).2.1⟩
          exact ⟨_, next.trans (if_neg stays), status.symm⟩
      · intro leaves
        have together := leaves.leaves (by rw [state]; rfl)
        rw [moves] at together
        rw [together]
        simp [sent]
  | refused env variant _ _ other same unsent =>
      exact leavesTogether_still past state (fun _ req same => other req (Input.message.inj same).2)
        (by rw [same]; rfl)
        fun _ => same
  | told env event _ _ silent same =>
      exact leavesTogether_still past state (by simp) (by rw [same, State.afterControl_id]; rfl)
        fun sent => absurd silent sent
  | timedOut env type _ _ silent same =>
      exact leavesTogether_still past state (by simp) (by rw [same, State.afterTimeout_id]; rfl)
        fun sent => absurd silent sent
  | still _ _ _ silent unfed untimed unasked same =>
      exact leavesTogether_still past state (fun env req => unasked env _) (by rw [same]; rfl)
        fun sent => absurd silent sent

/-- In every run from the entry into `Authorization`, a step leaves together with the vehicle exactly when
its request selects in time. -/
theorem leaves_together_iff (ctx : Context) (inputs : List Input) {past future : List FsmStep}
    {record : FsmStep}
    (split : Machine.steps (step platform) (awaiting ctx) inputs = past ++ record :: future) :
    SelectsInTime past record ↔ LeavesTogether record := by
  obtain ⟨before, input, after, rfl, rfl, rfl⟩ := Machine.split_of_steps (step platform) split
  have inv := authorizationInvariant_reached platform ctx before
  generalize Machine.steps (step platform) (awaiting ctx) before = past at inv
  generalize Machine.final (step platform) (awaiting ctx) before = fsm at inv
  by_cases inside : fsm.state.id = .authorization
  · obtain ⟨self, state⟩ : ∃ self, fsm.state = .authorization self := by
      cases state : fsm.state <;> simp_all [State.id]
    obtain ⟨status, late⟩ := inv.tracked self state
    exact leavesTogether_iff state status late (authorization_effect platform state inv.idle input)
  · refine iff_of_true (fun _ _ here => absurd here inside) ⟨fun here => absurd here inside, ?_⟩
    intro self state
    simp only [Machine.stepOf_before] at state
    exact absurd (by rw [state]; rfl) inside

end Fsm

namespace Sample

def select (service : Authorization) : List Input :=
  [.control {} (.authorizationResponse true),
    receive (sessionId 9) (.authorization ⟨{ sessionId := sessionId 9 }, service, .eim⟩)]

def eimOffering : Context :=
  { (Fsm.new config none (sessionId 9)).ctx with
    session := { Session.new (sessionId 9) with offeredServices := { authServices := [.eim] } } }

def accepted : Fsm := Machine.final (Fsm.step platform) (Fsm.awaiting eimOffering) ((select .eim).take 1)

def selection (service : Authorization) : FsmStep :=
  Machine.stepOf (Fsm.step platform) accepted ((select service).getLastD .close)

end Sample

open Sample

theorem Fsm.leaves_together_accepted : LeavesTogether (selection .eim) := by
  refine (@leaves_together_iff platform eimOffering (select .eim) [_] [] _ rfl).mp ?_
  intro env req _ same _ _
  cases same
  rw [if_pos (by decide +kernel)]
  nofun

/-- An acceptance is used up by a request for a service that was not offered. -/
theorem Fsm.leaves_together_alone :
    ¬∀ (platform : Platform) (ctx : Context) (inputs : List Input) (past future : List FsmStep)
      (record : FsmStep),
      Machine.steps (step platform) (awaiting ctx) inputs = past ++ record :: future →
        LeavesTogether record := by
  intro together
  have leaves := (together platform eimOffering (select .pnc) [_] [] (selection .pnc) rfl).leaves rfl
  have left : (selection .pnc).after.state.id = .serviceDiscovery := by decide +kernel
  obtain ⟨env, req, res, -, sent, ok, -⟩ := leaves.mp left
  have unsent : (responses (selection .pnc).outputs).all (·.code? ≠ some .ok) = true := by decide +kernel
  have refused := List.all_eq_true.mp unsent _ sent
  simp [Response.code?, ok] at refused

end LibIso15118
