import LibIso15118.Fsm.Branches
import LibIso15118.Fsm.SessionSteps

set_option autoImplicit false

namespace LibIso15118

open Datatypes Shared

section Headers

variable (env : Env) (session : Session)

@[simp] theorem handleAuthorizationSetup_header (req : AuthorizationSetupRequest) (cert : Bool)
    (services : List Authorization) :
    (handleAuthorizationSetup env req session cert services).1.header = setupHeader env session := by
  simp only [handleAuthorizationSetup]
  split <;> rfl

@[simp] theorem handleAuthorization_header (req : AuthorizationRequest) (status : AuthStatus)
    (reached : Bool) :
    (handleAuthorization env req session status reached).header = setupHeader env session := by
  simp only [handleAuthorization]
  repeat' split
  all_goals rfl

@[simp] theorem handleServiceDiscovery_header (req : ServiceDiscoveryRequest)
    (energy : List ServiceCategory) (vas : List UInt16) (ev : List ServiceCategory) :
    (handleServiceDiscovery env req session energy vas ev).response.header =
      setupHeader env session := by
  simp only [handleServiceDiscovery]
  split <;> rfl

@[simp] theorem handleServiceDetail_header (req : ServiceDetailRequest) (config : SessionConfig)
    (custom : Option ServiceParameterList) :
    (handleServiceDetail env req session config custom).1.header = setupHeader env session := by
  simp only [handleServiceDetail]
  repeat' split
  all_goals rfl

@[simp] theorem handleServiceSelection_header (req : ServiceSelectionRequest) :
    (handleServiceSelection env req session).1.header = setupHeader env session := by
  simp only [handleServiceSelection]
  repeat' split
  all_goals rfl

@[simp] theorem handleAcChargeParameterDiscovery_header (req : AcChargeParameterDiscoveryRequest)
    (limits : AcTransferLimits) (powers : AcPresentPower) (provider : AcDerControlProvider) :
    (handleAcChargeParameterDiscovery env req session limits powers provider).response.header =
      setupHeader env session := by
  simp only [handleAcChargeParameterDiscovery]
  repeat' split
  all_goals rfl

@[simp] theorem handleDcChargeParameterDiscovery_header (req : DcChargeParameterDiscoveryRequest)
    (limits : DcTransferLimits) :
    (handleDcChargeParameterDiscovery env req session limits).header = setupHeader env session := by
  simp only [handleDcChargeParameterDiscovery]
  repeat' split
  all_goals rfl

@[simp] theorem handleScheduleExchange_header (req : ScheduleExchangeRequest) (power : RationalNumber)
    (parameters : UpdateDynamicModeParameters) (reached : Bool) :
    (handleScheduleExchange env req session power parameters reached).header =
      setupHeader env session := by
  simp only [handleScheduleExchange]
  repeat' split
  all_goals rfl

@[simp] theorem handleDcCableCheck_header (req : DcCableCheckRequest) (done : Bool) :
    (handleDcCableCheck env req session done).header = setupHeader env session := by
  simp only [handleDcCableCheck]
  split <;> rfl

@[simp] theorem handleDcPreCharge_header (req : DcPreChargeRequest) (voltage : ℚ) :
    (handleDcPreCharge env req session voltage).header = setupHeader env session := by
  simp only [handleDcPreCharge]
  split <;> rfl

@[simp] theorem handlePowerDelivery_header (req : PowerDeliveryRequest) (contactorError : Bool) :
    (handlePowerDelivery env req session contactorError).header = setupHeader env session := by
  simp only [handlePowerDelivery]
  repeat' split
  all_goals rfl

@[simp] theorem handleAcChargeLoop_header (req : AcChargeLoopRequest) (self : State.AcChargeLoop)
    (limits : AcTransferLimits) (provider : AcDerControlProvider) :
    (handleAcChargeLoop env req session self limits provider).response.header =
      setupHeader env session := by
  simp only [handleAcChargeLoop]
  repeat' split
  all_goals rfl

@[simp] theorem handleDcChargeLoop_header (req : DcChargeLoopRequest) (self : State.DcChargeLoop)
    (limits : DcTransferLimits) :
    (handleDcChargeLoop env req session self limits).header = setupHeader env session := by
  simp only [handleDcChargeLoop]
  repeat' split
  all_goals rfl

@[simp] theorem handleDcWeldingDetection_header (req : DcWeldingDetectionRequest) (voltage : ℚ) :
    (handleDcWeldingDetection env req session voltage).header = setupHeader env session := by
  simp only [handleDcWeldingDetection]
  split <;> rfl

@[simp] theorem handleSessionStop_header (req : SessionStopRequest) :
    (handleSessionStop env req session).header = setupHeader env session := by
  simp only [handleSessionStop]
  repeat' split
  all_goals rfl

end Headers

theorem Request.Answer.header {env : Env} {ctx : Context} {state : State} {req : Request} {out : Response}
    (answer : req.Answer env ctx state out) (sequenced : ∀ sap, req ≠ .supportedAppProtocol sap)
    (established : ∀ setup, req ≠ .sessionSetup setup) :
    out.header? = some (setupHeader env ctx.session) := by
  cases req
  case supportedAppProtocol sap => exact absurd rfl (sequenced sap)
  case sessionSetup setup => exact absurd rfl (established setup)
  case authorizationSetup | serviceDiscovery | serviceSelection | dcChargeParameterDiscovery |
      powerDelivery | sessionStop =>
    obtain rfl := answer
    simp [Response.header?]
  case authorization | serviceDetail =>
    obtain ⟨_, _, rfl⟩ := answer
    simp [Response.header?]
  case acChargeParameterDiscovery | scheduleExchange | acChargeLoop | dcChargeLoop =>
    obtain ⟨_, -, rfl⟩ := answer
    simp [Response.header?]
  all_goals
    obtain ⟨_, rfl⟩ := answer
    simp [Response.header?]

theorem sequenceErrorResponse_header {header : Header} {type : MessageType} {res : Response}
    (answer : sequenceErrorResponse header type = some res) : res.header? = some header := by
  cases type <;> simp [sequenceErrorResponse] at answer <;> subst answer <;> rfl

namespace Fsm

variable (platform : Platform)

structure KeepsIdentity (fsm : Fsm) (input : Input) (fsm' : Fsm) (log : List Output) : Prop where
  sessionId : fsm'.ctx.session.id = fsm.ctx.session.id
  selected : fsm'.ctx.session.selectedServices = fsm.ctx.session.selectedServices ∨
    ∃ env req, input = .message env (.request (.serviceSelection req)) ∧
      req.header.sessionId = fsm.ctx.session.id
  answers : ∀ out ∈ responses log, ∃ header, out.header? = some header ∧
    header.sessionId = fsm.ctx.session.id

theorem handleServiceSelection_foreign {env : Env} {req : ServiceSelectionRequest} {session : Session}
    (foreign : req.header.sessionId ≠ session.id) :
    (handleServiceSelection env req session).2 = session := by
  simp [handleServiceSelection, validateHeader, Ne.symm foreign]

theorem serviceSelection_selected (env : Env) (ctx : Context) {variant : Variant}
    (pending : ctx.request = some variant) :
    Act.wp (State.feed platform env .serviceSelection .v2gtpMessage)
      (fun _ ctx' _ => ctx'.session.selectedServices = ctx.session.selectedServices ∨
        ∃ req, variant = .request (.serviceSelection req) ∧ req.header.sessionId = ctx.session.id) ctx := by
  simp only [State.feed, State.ServiceSelection.feed, Act.wp_bind, Act.wp_ite,
    Feed.wp_pullRequest _ pending]
  simp only [ne_eq, not_true_eq_false, false_implies, not_false_eq_true, true_implies, true_and]
  split
  · simp only [answerServiceDetail, Act.wp_bind]
    apply wp_customVasParameters
    · simp
    · rintro (e | custom) internet parking _ <;> simp
  · rename_i req
    by_cases own : req.header.sessionId = ctx.session.id
    · simp [own]
    · simp [handleServiceSelection_foreign own]
  · simp [wp_stopOnRequest]
  · apply wp_stopOnSequenceError
    simp

theorem message_keepsIdentity {fsm : Fsm} (idle : fsm.ctx.request = none)
    (left : 2 ≤ fsm.state.id.rank) (env : Env) (variant : Variant) :
    KeepsIdentity fsm (.message env variant) (step platform (.message env variant) fsm).state
      (step platform (.message env variant) fsm).log := by
  have setup : fsm.state.id ≠ .sessionSetup := fun setup => by simp [setup, StateId.rank] at left
  have frame := step_frame platform fsm (.message env variant) idle
  refine ⟨frame.sessionId setup, ?_, ?_⟩
  · by_cases selection : fsm.state.id = .serviceSelection
    · obtain state : fsm.state = .serviceSelection := by cases state : fsm.state <;> simp_all [State.id]
      suffices spec : Act.wp (step platform (.message env variant))
          (fun _ fsm' _ => fsm'.ctx.session.selectedServices = fsm.ctx.session.selectedServices ∨
            ∃ env' req, Input.message env variant = .message env' (.request (.serviceSelection req)) ∧
              req.header.sessionId = fsm.ctx.session.id) fsm from spec
      rw [wp_step_message platform env variant fsm idle, state]
      refine Act.wp_mono _ _ (serviceSelection_selected platform env _
        (messageContext_request fsm.ctx variant)) ?_
      rintro result ctx' log (same | ⟨req, rfl, own⟩)
      · left
        rcases settle_ctx fsm ctx' result with ctx | ctx <;> simpa [ctx] using same
      · exact .inr ⟨env, req, rfl, own⟩
    · exact .inl (frame.selected setup selection)
  · suffices spec : Act.wp (step platform (.message env variant))
        (fun _ _ log => ∀ out ∈ responses log, ∃ header, out.header? = some header ∧
          header.sessionId = fsm.ctx.session.id) fsm from spec
    rw [wp_step_message platform env variant fsm idle]
    by_cases accepted : ∃ req, variant = .request req ∧ fsm.state.id.accepts req = true
    · obtain ⟨req, rfl, accepts⟩ := accepted
      refine Act.wp_mono _ _ (State.message_branch platform env (messageContext fsm.ctx (.request req))
        fsm.state (messageContext_request _ _) accepts) ?_
      intro result ctx' log branch out member
      have sent : out ∈ responses log := by simpa [Output.response?] using member
      refine ⟨_, (branch.answer out sent).header ?_ ?_, rfl⟩
      · rintro sap rfl
        cases state : fsm.state <;> simp [state, State.id, StateId.accepts, StateId.rank] at accepts left
      · rintro request rfl
        cases state : fsm.state <;> simp [state, State.id, StateId.accepts, StateId.rank] at accepts left
    · rw [State.wp_refused platform env (messageContext_request fsm.ctx variant) fsm.state]
      · intro out member
        have answer : sequenceErrorResponse (setupHeader env fsm.ctx.session) variant.getType = some out := by
          simpa [refusedLog, Output.response?, mem_responses] using member
        exact ⟨_, sequenceErrorResponse_header answer, rfl⟩
      · intro req same
        by_contra accepts
        exact accepted ⟨req, same, Bool.eq_true_of_not_eq_false accepts⟩
      · exact fun start => by simp [start, StateId.rank] at left

theorem step_keepsIdentity {fsm : Fsm} (idle : fsm.ctx.request = none)
    (left : 2 ≤ fsm.state.id.rank) (input : Input) :
    KeepsIdentity fsm input (step platform input fsm).state (step platform input fsm).log := by
  have setup : fsm.state.id ≠ .sessionSetup := fun setup => by simp [setup, StateId.rank] at left
  have frame := step_frame platform fsm input idle
  cases input with
  | message env variant => exact message_keepsIdentity platform idle left env variant
  | control env event =>
      by_cases resumes : fsm.state.Resumes event
      · obtain ⟨self, req, closed, delivery, saved, rfl⟩ := resumes
        suffices spec : Act.wp (step platform (.control env (.closedContactor closed)))
            (fun _ fsm' log => KeepsIdentity fsm (.control env (.closedContactor closed)) fsm' log) fsm
          from spec
        rw [wp_step_control_resumed platform env closed fsm self req delivery saved]
        refine ⟨fun _ => ⟨rfl, .inl rfl, ?_⟩, fun _ => ⟨rfl, .inl rfl, ?_⟩⟩
        all_goals simp [Output.response?, Response.header?, setupHeader]
      · apply wp_step_control_quiet platform env event fsm resumes
          (fun _ fsm' log => KeepsIdentity fsm (.control env event) fsm' log)
        intro timeouts _
        exact ⟨by simp, .inl (by simp), by simp⟩
  | timeout env type =>
      apply wp_step_timeout platform env type fsm
        (fun _ fsm' log => KeepsIdentity fsm (.timeout env type) fsm' log)
      intro pending log answered
      refine ⟨rfl, .inl rfl, ?_⟩
      intro out member
      rcases answered with ⟨-, rfl⟩ | ⟨-, -, res, -, header, -, rfl⟩
      · simp at member
      · obtain rfl : out = res := by simpa [Output.response?] using member
        exact ⟨_, header, rfl⟩
  | _ => exact ⟨rfl, .inl rfl, by simp [step, modifyCtx, stopSession]⟩

section Run

variable (config : SessionConfig) (pauseCtx : Option PauseContext) (id : SessionId)

/-- Once the machine has left `SessionSetup`, the session keeps its id for good, only its own
`ServiceSelectionReq` changes the selected services and every response carries the id. -/
theorem session_identity (inputs later : List Input)
    (left : (reached platform config pauseCtx id inputs).state.id ≠ .supportedAppProtocol ∧
      (reached platform config pauseCtx id inputs).state.id ≠ .sessionSetup) :
    (reached platform config pauseCtx id (inputs ++ later)).ctx.session.id =
        (reached platform config pauseCtx id inputs).ctx.session.id ∧
      ∀ record ∈ Machine.steps (step platform) (reached platform config pauseCtx id inputs) later,
        record.after.ctx.session.id = (reached platform config pauseCtx id inputs).ctx.session.id ∧
        (record.after.ctx.session.selectedServices ≠ record.before.ctx.session.selectedServices →
          ∃ env req, record.input = .message env (.request (.serviceSelection req)) ∧
            req.header.sessionId = (reached platform config pauseCtx id inputs).ctx.session.id) ∧
        ∀ out ∈ responses record.outputs, ∃ header, out.header? = some header ∧
          header.sessionId = (reached platform config pauseCtx id inputs).ctx.session.id := by
  have idle := reached_idle platform config pauseCtx id inputs
  rw [show reached platform config pauseCtx id (inputs ++ later) =
    Machine.final (step platform) (reached platform config pauseCtx id inputs) later from
    Machine.final_append ..]
  generalize reached platform config pauseCtx id inputs = start at *
  have outside : 2 ≤ start.state.id.rank := by
    cases state : start.state.id <;> simp_all [StateId.rank]
  have kept := Machine.run_induction (step platform) start
    (motive := fun past fsm => (fsm.ctx.request = none ∧ 2 ≤ fsm.state.id.rank ∧
      fsm.ctx.session.id = start.ctx.session.id) ∧ ∀ record ∈ past,
        record.before.ctx.session.id = start.ctx.session.id ∧
          KeepsIdentity record.before record.input record.after record.outputs)
    ⟨⟨idle, outside, rfl⟩, by simp⟩ ?_ later
  · refine ⟨kept.1.2.2, fun record member => ?_⟩
    obtain ⟨before, keeps⟩ := kept.2 record member
    rw [← before]
    exact ⟨keeps.sessionId, keeps.selected.resolve_left, keeps.answers⟩
  · rintro past fsm input ⟨⟨idle, outside, same⟩, keeps⟩
    have frame := step_frame platform fsm input idle
    have step := step_keepsIdentity platform idle outside input
    refine ⟨⟨frame.idle, Nat.le_trans outside frame.rank_le, step.sessionId.trans same⟩, ?_⟩
    intro record member
    rcases List.mem_append.mp member with earlier | last
    · exact keeps record earlier
    · rw [List.mem_singleton.mp last]
      exact ⟨same, step⟩

end Run

end Fsm

namespace Fsm

open Sample in
theorem session_identity_ac :
    (reached platform config none (sessionId 9)
      ((selectService (sessionId 1) .ac).take 2 ++ (selectService (sessionId 1) .ac).drop 2)).ctx.session.id =
      (reached platform config none (sessionId 9) ((selectService (sessionId 1) .ac).take 2)).ctx.session.id :=
  (session_identity platform config none (sessionId 9) ((selectService (sessionId 1) .ac).take 2)
    ((selectService (sessionId 1) .ac).drop 2) (by decide +kernel)).1

end Fsm

end LibIso15118
