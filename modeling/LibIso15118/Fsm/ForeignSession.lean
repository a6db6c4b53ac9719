import LibIso15118.Fsm.Accepts

set_option autoImplicit false

namespace LibIso15118

open Datatypes Shared

def Request.Foreign (req : Request) (session : Session) : Prop :=
  ∃ header, req.header? = some header ∧ session.id ≠ header.sessionId

namespace Fsm

/-- A request that is refused and does nothing else: a response of its type with
FAILED_UnknownSession, and a stopped session. Receiving it has stopped the SEQUENCE timer. -/
def Refused (platform : Platform) (fsm : Fsm) (req : Request) (fsm' : Fsm) (log : List Output) : Prop :=
  ∃ res : Response, res.type = req.answerType ∧ res.code? = some .failedUnknownSession ∧
    log = [.feedback (.v2gMessage req.type), .respond res] ∧
    fsm' = { fsm with
      ctx := { fsm.ctx with
        pendingResponse := platform.encode res
        sessionStopped := true
        timeouts := fsm.ctx.timeouts.stopTimeout .sequence } }

/-- What the end of a session would change, when it is asked for by a foreign request. -/
def EndHarmless (ctx : Context) (req : SessionStopRequest) : Prop :=
  match req.chargingSession with
  | .pause =>
      (∀ pauseCtx, ctx.pauseCtx = some pauseCtx →
        pauseCtx.selectedServiceParameters = ctx.session.selectedServices) ∧
      ctx.sessionPaused = true
  | .terminate => ctx.pauseCtx = none
  | .serviceRenegotiation => True

/-- The state acts on nothing before or after it has looked at the session id. -/
def ForeignHarmless (fsm : Fsm) (req : Request) : Prop :=
  match fsm.state, req with
  | .authorization self, .authorization _ => self.firstReqMsg = false
  | .serviceDetail, .serviceDetail req => req.service ∈ energyServiceIds
  | .serviceSelection, .serviceDetail req => req.service ∈ energyServiceIds
  | .acChargeParameterDiscovery _, .acChargeParameterDiscovery req =>
      fsm.ctx.sessionEvInfo.evTransferLimits = .ac req.transferMode
  | .dcChargeParameterDiscovery, .dcChargeParameterDiscovery _ => False
  | .scheduleExchange _, .scheduleExchange _ => False
  | .dcCableCheck self, .dcCableCheck _ => self.cableCheckInitiated = true
  | .dcPreCharge _, .dcPreCharge _ => False
  | .powerDelivery _, .dcPreCharge _ => False
  | .powerDelivery _, .powerDelivery req => req.chargeProgress ≠ .start
  | .acChargeLoop self, .acChargeLoop _ => self.firstEntryInChargeLoop = false
  | .dcChargeLoop self, .dcChargeLoop _ => self.firstEntryInChargeLoop = false
  | .dcWeldingDetection _, .sessionStop req => EndHarmless fsm.ctx req
  | .sessionStop, .sessionStop req =>
      req.evTerminationCode = none ∧ req.evTerminationExplanation = none ∧ EndHarmless fsm.ctx req
  | _, _ => True

section Refused

variable (platform : Platform) (env : Env) {fsm : Fsm} (idle : fsm.ctx.request = none)
include idle

theorem wp_step_request (req : Request) (notSap : req.type ≠ .supportedAppProtocolReq)
    (post : Except Exn Unit → Fsm → List Output → Prop) :
    Act.wp (step platform (.message env (.request req))) post fsm ↔
      Act.wp (fsm.state.feed platform env .v2gtpMessage)
        (fun result ctx log => post (result.map fun _ => ()) (fsm.settle result ctx)
          (.feedback (.v2gMessage req.type) :: log))
        { fsm.ctx with
          request := some (.request req)
          timeouts := fsm.ctx.timeouts.stopTimeout .sequence } := by
  rw [wp_step_message platform env _ fsm idle]
  simp [messageContext, Variant.getType, notSap]

theorem stopOnRequest_foreign (req : SessionStopRequest)
    (accepted : fsm.state.id.accepts (.sessionStop req) = true)
    (early : fsm.state.id ≠ .dcWeldingDetection ∧ fsm.state.id ≠ .sessionStop)
    (foreign : (Request.sessionStop req).Foreign fsm.ctx.session) :
    Act.wp (step platform (.message env (.request (.sessionStop req))))
      (fun _ fsm' log => Refused platform fsm (.sessionStop req) fsm' log) fsm ↔
      ForeignHarmless fsm (.sessionStop req) := by
  obtain ⟨header, named, other⟩ := foreign
  obtain rfl : req.header = header := by simpa [Request.header?] using named
  rw [wp_step_request platform env idle _ (by simp [Request.type])]
  cases state : fsm.state <;>
    simp only [state, State.id, StateId.accepts, Bool.false_eq_true, ne_eq, not_true_eq_false, and_false,
      false_and] at accepted early
  -- every other state asks for the type of the request before it calls `stopOnRequest`
  all_goals
    simp only [State.feed, State.AuthorizationSetup.feed, State.Authorization.feed,
      State.ServiceDiscovery.feed, State.ServiceDetail.feed, State.ServiceSelection.feed,
      State.AcChargeParameterDiscovery.feed, State.DcChargeParameterDiscovery.feed,
      State.ScheduleExchange.feed, State.DcCableCheck.feed, State.DcPreCharge.feed, Act.wp_bind, Act.wp_ite]
    rw [Feed.wp_pullRequest _ rfl]
    simp [wp_stopOnRequest, handleSessionStop, validateHeader, other, settle, Refused, ForeignHarmless,
      state, Response.type, Request.answerType, Response.code?, idle]

theorem authorizationSetup_foreign (state : fsm.state = .authorizationSetup) (req : Request)
    (accepted : fsm.state.id.accepts req = true) (foreign : req.Foreign fsm.ctx.session) :
    Act.wp (step platform (.message env (.request req)))
      (fun _ fsm' log => Refused platform fsm req fsm' log) fsm ↔ ForeignHarmless fsm req := by
  obtain ⟨header, named, other⟩ := foreign
  cases req <;> simp only [state, State.id, StateId.accepts, Bool.false_eq_true] at accepted
  case authorizationSetup req =>
    obtain rfl : req.header = header := by simpa [Request.header?] using named
    rw [wp_step_request platform env idle _ (by simp [Request.type]), state]
    simp only [State.feed, State.AuthorizationSetup.feed, Act.wp_bind, Act.wp_ite]
    rw [Feed.wp_pullRequest _ rfl]
    simp [handleAuthorizationSetup, validateHeader, other, Platform.stringsFit, settle, Refused, ForeignHarmless,
      state, Response.type, Request.answerType, Response.code?, idle]
  case sessionStop req =>
    exact stopOnRequest_foreign platform env idle req (by rw [state]; rfl) (by simp [state, State.id])
      ⟨header, named, other⟩

theorem authorization_foreign (self : State.Authorization) (state : fsm.state = .authorization self) (req : Request)
    (accepted : fsm.state.id.accepts req = true) (foreign : req.Foreign fsm.ctx.session) :
    Act.wp (step platform (.message env (.request req)))
      (fun _ fsm' log => Refused platform fsm req fsm' log) fsm ↔ ForeignHarmless fsm req := by
  obtain ⟨header, named, other⟩ := foreign
  cases req <;> simp only [state, State.id, StateId.accepts, Bool.false_eq_true] at accepted
  case authorization req =>
    obtain rfl : req.header = header := by simpa [Request.header?] using named
    rw [wp_step_request platform env idle _ (by simp [Request.type]), state]
    simp only [State.feed, State.Authorization.feed, Act.wp_bind]
    rw [Feed.wp_pullRequest _ rfl]
    simp [handleAuthorization, validateHeader, other, Platform.stringsFit, settle, Refused, ForeignHarmless,
      state, Response.type, Request.answerType, Response.code?, idle]
    obtain ⟨status, first, reached⟩ := self
    cases first <;> simp
  case sessionStop req =>
    exact stopOnRequest_foreign platform env idle req (by rw [state]; rfl) (by simp [state, State.id])
      ⟨header, named, other⟩

theorem serviceDiscovery_foreign (state : fsm.state = .serviceDiscovery) (req : Request)
    (accepted : fsm.state.id.accepts req = true) (foreign : req.Foreign fsm.ctx.session) :
    Act.wp (step platform (.message env (.request req)))
      (fun _ fsm' log => Refused platform fsm req fsm' log) fsm ↔ ForeignHarmless fsm req := by
  obtain ⟨header, named, other⟩ := foreign
  cases req <;> simp only [state, State.id, StateId.accepts, Bool.false_eq_true] at accepted
  case serviceDiscovery req =>
    obtain rfl : req.header = header := by simpa [Request.header?] using named
    rw [wp_step_request platform env idle _ (by simp [Request.type]), state]
    simp only [State.feed, State.ServiceDiscovery.feed, Act.wp_bind, Act.wp_ite]
    rw [Feed.wp_pullRequest _ rfl]
    simp [handleServiceDiscovery, validateHeader, other, Platform.stringsFit, settle, Refused, ForeignHarmless,
      state, Response.type, Request.answerType, Response.code?, idle]
  case sessionStop req =>
    exact stopOnRequest_foreign platform env idle req (by rw [state]; rfl) (by simp [state, State.id])
      ⟨header, named, other⟩

theorem acChargeParameterDiscovery_foreign (self : State.AcChargeParameterDiscovery)
    (state : fsm.state = .acChargeParameterDiscovery self) (req : Request)
    (accepted : fsm.state.id.accepts req = true) (foreign : req.Foreign fsm.ctx.session) :
    Act.wp (step platform (.message env (.request req)))
      (fun _ fsm' log => Refused platform fsm req fsm' log) fsm ↔ ForeignHarmless fsm req := by
  obtain ⟨header, named, other⟩ := foreign
  cases req <;> simp only [state, State.id, StateId.accepts, Bool.false_eq_true] at accepted
  case acChargeParameterDiscovery req =>
    obtain rfl : req.header = header := by simpa [Request.header?] using named
    rw [wp_step_request platform env idle _ (by simp [Request.type]), state]
    simp only [State.feed, State.AcChargeParameterDiscovery.feed, Act.wp_bind]
    rw [Feed.wp_pullRequest _ rfl]
    simp [handleAcChargeParameterDiscovery, validateHeader, other, Platform.stringsFit, settle, Refused,
      ForeignHarmless, state, Response.type, Request.answerType, Response.code?, idle]
    constructor <;> intro same <;> rw [← same]
  case sessionStop req =>
    exact stopOnRequest_foreign platform env idle req (by rw [state]; rfl) (by simp [state, State.id])
      ⟨header, named, other⟩

theorem dcChargeParameterDiscovery_foreign (state : fsm.state = .dcChargeParameterDiscovery) (req : Request)
    (accepted : fsm.state.id.accepts req = true) (foreign : req.Foreign fsm.ctx.session) :
    Act.wp (step platform (.message env (.request req)))
      (fun _ fsm' log => Refused platform fsm req fsm' log) fsm ↔ ForeignHarmless fsm req := by
  obtain ⟨header, named, other⟩ := foreign
  cases req <;> simp only [state, State.id, StateId.accepts, Bool.false_eq_true] at accepted
  case dcChargeParameterDiscovery req =>
    obtain rfl : req.header = header := by simpa [Request.header?] using named
    rw [wp_step_request platform env idle _ (by simp [Request.type]), state]
    simp only [State.feed, State.DcChargeParameterDiscovery.feed, Act.wp_bind, Act.wp_ite]
    rw [Feed.wp_pullRequest _ rfl]
    simp [handleDcChargeParameterDiscovery, validateHeader, other, Platform.stringsFit, settle, Refused,
      ForeignHarmless, state, Response.type, Request.answerType, Response.code?, idle]
  case sessionStop req =>
    exact stopOnRequest_foreign platform env idle req (by rw [state]; rfl) (by simp [state, State.id])
      ⟨header, named, other⟩

theorem scheduleExchange_foreign (self : State.ScheduleExchange) (state : fsm.state = .scheduleExchange self)
    (req : Request)
    (accepted : fsm.state.id.accepts req = true) (foreign : req.Foreign fsm.ctx.session) :
    Act.wp (step platform (.message env (.request req)))
      (fun _ fsm' log => Refused platform fsm req fsm' log) fsm ↔ ForeignHarmless fsm req := by
  obtain ⟨header, named, other⟩ := foreign
  cases req <;> simp only [state, State.id, StateId.accepts, Bool.false_eq_true] at accepted
  case scheduleExchange req =>
    obtain rfl : req.header = header := by simpa [Request.header?] using named
    rw [wp_step_request platform env idle _ (by simp [Request.type]), state]
    simp only [State.feed, State.ScheduleExchange.feed, Act.wp_bind]
    rw [Feed.wp_pullRequest _ rfl]
    simp [handleScheduleExchange, validateHeader, other, Platform.stringsFit, settle, Refused, ForeignHarmless,
      state, Response.type, Request.answerType, Response.code?, idle]
  case sessionStop req =>
    exact stopOnRequest_foreign platform env idle req (by rw [state]; rfl) (by simp [state, State.id])
      ⟨header, named, other⟩

theorem dcCableCheck_foreign (self : State.DcCableCheck) (state : fsm.state = .dcCableCheck self) (req : Request)
    (accepted : fsm.state.id.accepts req = true) (foreign : req.Foreign fsm.ctx.session) :
    Act.wp (step platform (.message env (.request req)))
      (fun _ fsm' log => Refused platform fsm req fsm' log) fsm ↔ ForeignHarmless fsm req := by
  obtain ⟨header, named, other⟩ := foreign
  cases req <;> simp only [state, State.id, StateId.accepts, Bool.false_eq_true] at accepted
  case dcCableCheck req =>
    obtain rfl : req.header = header := by simpa [Request.header?] using named
    rw [wp_step_request platform env idle _ (by simp [Request.type]), state]
    simp only [State.feed, State.DcCableCheck.feed, Act.wp_bind]
    rw [Feed.wp_pullRequest _ rfl]
    simp [handleDcCableCheck, validateHeader, other, Platform.stringsFit, settle, Refused, ForeignHarmless,
      state, Response.type, Request.answerType, Response.code?, idle]
    intro initiated
    rw [← initiated]
  case sessionStop req =>
    exact stopOnRequest_foreign platform env idle req (by rw [state]; rfl) (by simp [state, State.id])
      ⟨header, named, other⟩

theorem dcPreCharge_foreign (self : State.DcPreCharge) (state : fsm.state = .dcPreCharge self) (req : Request)
    (accepted : fsm.state.id.accepts req = true) (foreign : req.Foreign fsm.ctx.session) :
    Act.wp (step platform (.message env (.request req)))
      (fun _ fsm' log => Refused platform fsm req fsm' log) fsm ↔ ForeignHarmless fsm req := by
  obtain ⟨header, named, other⟩ := foreign
  cases req <;> simp only [state, State.id, StateId.accepts, Bool.false_eq_true] at accepted
  case dcPreCharge req =>
    obtain rfl : req.header = header := by simpa [Request.header?] using named
    rw [wp_step_request platform env idle _ (by simp [Request.type]), state]
    simp only [State.feed, State.DcPreCharge.feed, Act.wp_bind]
    rw [Feed.wp_pullRequest _ rfl]
    simp [handleDcPreCharge, validateHeader, other, Platform.stringsFit, settle, Refused, ForeignHarmless,
      state, Response.type, Request.answerType, Response.code?, idle]
  case sessionStop req =>
    exact stopOnRequest_foreign platform env idle req (by rw [state]; rfl) (by simp [state, State.id])
      ⟨header, named, other⟩

theorem acChargeLoop_foreign (self : State.AcChargeLoop) (state : fsm.state = .acChargeLoop self) (req : Request)
    (accepted : fsm.state.id.accepts req = true) (foreign : req.Foreign fsm.ctx.session) :
    Act.wp (step platform (.message env (.request req)))
      (fun _ fsm' log => Refused platform fsm req fsm' log) fsm ↔ ForeignHarmless fsm req := by
  obtain ⟨header, named, other⟩ := foreign
  cases req <;> simp only [state, State.id, StateId.accepts, Bool.false_eq_true] at accepted
  case powerDelivery req =>
    obtain rfl : req.header = header := by simpa [Request.header?] using named
    rw [wp_step_request platform env idle _ (by simp [Request.type]), state]
    simp only [State.feed, State.AcChargeLoop.feed, Act.wp_bind]
    rw [Feed.wp_pullRequest _ rfl]
    simp [handlePowerDelivery, validateHeader, other, Platform.stringsFit, settle, Refused, ForeignHarmless,
      state, Response.type, Request.answerType, Response.code?, idle]
  case acChargeLoop req =>
    obtain rfl : req.header = header := by simpa [Request.header?] using named
    rw [wp_step_request platform env idle _ (by simp [Request.type]), state]
    simp only [State.feed, State.AcChargeLoop.feed, Act.wp_bind]
    rw [Feed.wp_pullRequest _ rfl]
    simp [handleAcChargeLoop, validateHeader, other, Platform.stringsFit, settle, Refused, ForeignHarmless,
      state, Response.type, Request.answerType, Response.code?, idle]
    intro entered
    rw [← entered]

theorem dcChargeLoop_foreign (self : State.DcChargeLoop) (state : fsm.state = .dcChargeLoop self) (req : Request)
    (accepted : fsm.state.id.accepts req = true) (foreign : req.Foreign fsm.ctx.session) :
    Act.wp (step platform (.message env (.request req)))
      (fun _ fsm' log => Refused platform fsm req fsm' log) fsm ↔ ForeignHarmless fsm req := by
  obtain ⟨header, named, other⟩ := foreign
  cases req <;> simp only [state, State.id, StateId.accepts, Bool.false_eq_true] at accepted
  case powerDelivery req =>
    obtain rfl : req.header = header := by simpa [Request.header?] using named
    rw [wp_step_request platform env idle _ (by simp [Request.type]), state]
    simp only [State.feed, State.DcChargeLoop.feed, Act.wp_bind]
    rw [Feed.wp_pullRequest _ rfl]
    simp [handlePowerDelivery, validateHeader, other, Platform.stringsFit, settle, Refused, ForeignHarmless,
      state, Response.type, Request.answerType, Response.code?, idle]
  case dcChargeLoop req =>
    obtain rfl : req.header = header := by simpa [Request.header?] using named
    rw [wp_step_request platform env idle _ (by simp [Request.type]), state]
    simp only [State.feed, State.DcChargeLoop.feed, Act.wp_bind]
    rw [Feed.wp_pullRequest _ rfl]
    simp [handleDcChargeLoop, validateHeader, other, Platform.stringsFit, settle, Refused, ForeignHarmless,
      state, Response.type, Request.answerType, Response.code?, idle]
    intro entered
    rw [← entered]

omit idle in
theorem answerServiceDetail_asks (ctx : Context) (state : State) (onSuccess : Result)
    (req : ServiceDetailRequest) (notEnergy : req.service ∉ energyServiceIds) :
    ∃ rest, ((do return (state, ← answerServiceDetail platform env req onSuccess) :
        Feed (State × Result)) ctx).log = .feedback (.getVasParameters req.service) :: rest := by
  -- Any other service is looked up with the application before the session id is checked.
  have asks : Act.wp (customVasParameters env req.service)
      (fun _ _ log => log = [.feedback (.getVasParameters req.service)]) ctx := by
    simp only [customVasParameters, Act.wp_bind, Act.wp_ite]
    simp only [List.contains_eq_mem, notEnergy, decide_false, Bool.false_eq_true, false_implies,
      not_false_eq_true, true_implies, true_and, Feed.wp_feedback]
    split <;> simp
  obtain ⟨rest, outer⟩ := Act.log_bind (answerServiceDetail platform env req onSuccess)
    (fun result => (pure (state, result) : Feed (State × Result))) ctx
  obtain ⟨rest', inner⟩ := Act.log_bind (customVasParameters env req.service) _ ctx
  refine ⟨rest' ++ rest, ?_⟩
  rw [outer, answerServiceDetail, inner, show (customVasParameters env req.service ctx).log = _ from asks]
  rfl

theorem answerServiceDetail_foreign (state : State) (same : fsm.state = state) (onSuccess : Result)
    (req : ServiceDetailRequest) (other : fsm.ctx.session.id ≠ req.header.sessionId) :
    Act.wp (do return (state, ← answerServiceDetail platform env req onSuccess) : Feed (State × Result))
      (fun result ctx log => Refused platform fsm (.serviceDetail req) (fsm.settle result ctx)
        (.feedback (.v2gMessage .serviceDetailReq) :: log))
      { fsm.ctx with request := none, timeouts := fsm.ctx.timeouts.stopTimeout .sequence } ↔
      req.service ∈ energyServiceIds := by
  by_cases energy : req.service ∈ energyServiceIds
  · simp [answerServiceDetail, customVasParameters, energy, handleServiceDetail, validateHeader, other,
      Platform.stringsFit, settle, Refused, same, Response.type, Request.answerType, Request.type,
      Response.code?, idle]
  · simp only [energy, iff_false]
    rintro ⟨res, -, -, log, -⟩
    obtain ⟨rest, asks⟩ := answerServiceDetail_asks platform env
      { fsm.ctx with request := none, timeouts := fsm.ctx.timeouts.stopTimeout .sequence }
      state onSuccess req energy
    rw [asks] at log
    simp at log

theorem serviceDetail_foreign (state : fsm.state = .serviceDetail) (req : Request)
    (accepted : fsm.state.id.accepts req = true) (foreign : req.Foreign fsm.ctx.session) :
    Act.wp (step platform (.message env (.request req)))
      (fun _ fsm' log => Refused platform fsm req fsm' log) fsm ↔ ForeignHarmless fsm req := by
  obtain ⟨header, named, other⟩ := foreign
  cases req <;> simp only [state, State.id, StateId.accepts, Bool.false_eq_true] at accepted
  case serviceDetail req =>
    obtain rfl : req.header = header := by simpa [Request.header?] using named
    rw [wp_step_request platform env idle _ (by simp [Request.type]), state]
    simp only [State.feed, State.ServiceDetail.feed, Act.wp_bind, Act.wp_ite]
    rw [Feed.wp_pullRequest _ rfl]
    have refused := answerServiceDetail_foreign platform env idle .serviceDetail state
      (.createState .serviceSelection) req other
    simpa [ForeignHarmless, state, Request.type] using refused
  case sessionStop req =>
    exact stopOnRequest_foreign platform env idle req (by rw [state]; rfl) (by simp [state, State.id])
      ⟨header, named, other⟩

theorem serviceSelection_foreign (state : fsm.state = .serviceSelection) (req : Request)
    (accepted : fsm.state.id.accepts req = true) (foreign : req.Foreign fsm.ctx.session) :
    Act.wp (step platform (.message env (.request req)))
      (fun _ fsm' log => Refused platform fsm req fsm' log) fsm ↔ ForeignHarmless fsm req := by
  obtain ⟨header, named, other⟩ := foreign
  cases req <;> simp only [state, State.id, StateId.accepts, Bool.false_eq_true] at accepted
  case serviceDetail req =>
    obtain rfl : req.header = header := by simpa [Request.header?] using named
    rw [wp_step_request platform env idle _ (by simp [Request.type]), state]
    simp only [State.feed, State.ServiceSelection.feed, Act.wp_bind, Act.wp_ite]
    rw [Feed.wp_pullRequest _ rfl]
    have refused := answerServiceDetail_foreign platform env idle .serviceSelection state
      {} req other
    simpa [ForeignHarmless, state, Request.type] using refused
  case serviceSelection req =>
    obtain rfl : req.header = header := by simpa [Request.header?] using named
    rw [wp_step_request platform env idle _ (by simp [Request.type]), state]
    simp only [State.feed, State.ServiceSelection.feed, Act.wp_bind, Act.wp_ite]
    rw [Feed.wp_pullRequest _ rfl]
    simp [handleServiceSelection, validateHeader, other, Platform.stringsFit, settle, Refused, ForeignHarmless,
      state, Response.type, Request.answerType, Response.code?, idle]
  case sessionStop req =>
    exact stopOnRequest_foreign platform env idle req (by rw [state]; rfl) (by simp [state, State.id])
      ⟨header, named, other⟩

theorem powerDelivery_foreign (self : State.PowerDelivery) (state : fsm.state = .powerDelivery self)
    (req : Request) (accepted : fsm.state.id.accepts req = true)
    (foreign : req.Foreign fsm.ctx.session) :
    Act.wp (step platform (.message env (.request req)))
      (fun _ fsm' log => Refused platform fsm req fsm' log) fsm ↔ ForeignHarmless fsm req := by
  obtain ⟨header, named, other⟩ := foreign
  cases req <;> simp only [state, State.id, StateId.accepts, Bool.false_eq_true] at accepted
  case dcPreCharge req =>
    rw [wp_step_request platform env idle _ (by simp [Request.type]), state]
    simp only [State.feed, State.PowerDelivery.feed, Act.wp_bind]
    rw [Feed.wp_pullRequest _ rfl]
    simp [State.PowerDelivery.feedPreCharge, Platform.stringsFit, Refused, ForeignHarmless, state]
  case powerDelivery req =>
    obtain rfl : req.header = header := by simpa [Request.header?] using named
    rw [wp_step_request platform env idle _ (by simp [Request.type]), state]
    simp only [State.feed, State.PowerDelivery.feed, Act.wp_bind]
    rw [Feed.wp_pullRequest _ rfl]
    by_cases start : req.chargeProgress = .start <;>
      simp [State.PowerDelivery.feedPowerDelivery, handlePowerDelivery, validateHeader, other,
        Platform.stringsFit, settle, Refused, ForeignHarmless, state, Response.type, Request.answerType,
        Response.code?, idle, start]

omit idle in
theorem pauseCtx_kept_iff (pauseCtx : Option PauseContext) (selected : SelectedServiceParameters) :
    (pauseCtx.map fun pauseCtx => { pauseCtx with selectedServiceParameters := selected }) = pauseCtx ↔
      ∀ old, pauseCtx = some old → old.selectedServiceParameters = selected := by
  cases pauseCtx with
  | none => simp
  | some old => cases old; simp [eq_comm]

theorem dcWeldingDetection_foreign (self : State.DcWeldingDetection)
    (state : fsm.state = .dcWeldingDetection self) (req : Request)
    (accepted : fsm.state.id.accepts req = true) (foreign : req.Foreign fsm.ctx.session) :
    Act.wp (step platform (.message env (.request req)))
      (fun _ fsm' log => Refused platform fsm req fsm' log) fsm ↔ ForeignHarmless fsm req := by
  obtain ⟨header, named, other⟩ := foreign
  cases req <;> simp only [state, State.id, StateId.accepts, Bool.false_eq_true] at accepted
  case dcWeldingDetection req =>
    obtain rfl : req.header = header := by simpa [Request.header?] using named
    rw [wp_step_request platform env idle _ (by simp [Request.type]), state]
    simp only [State.feed, State.DcWeldingDetection.feed, Act.wp_bind]
    rw [Feed.wp_pullRequest _ rfl]
    simp [handleDcWeldingDetection, validateHeader, other, Platform.stringsFit, settle, Refused,
      ForeignHarmless, state, Response.type, Request.answerType, Response.code?, idle]
  case sessionStop req =>
    obtain rfl : req.header = header := by simpa [Request.header?] using named
    rw [wp_step_request platform env idle _ (by simp [Request.type]), state]
    simp only [State.feed, State.DcWeldingDetection.feed, Act.wp_bind]
    rw [Feed.wp_pullRequest _ rfl]
    cases ending : req.chargingSession <;>
      simp [endSession, handleSessionStop, validateHeader, other, Platform.stringsFit, settle, Refused,
        ForeignHarmless, EndHarmless, ending, state, Response.type, Request.answerType, Response.code?,
        idle, pauseCtx_kept_iff, eq_comm (a := none)]

theorem sessionStop_foreign (state : fsm.state = .sessionStop) (req : Request)
    (accepted : fsm.state.id.accepts req = true) (foreign : req.Foreign fsm.ctx.session) :
    Act.wp (step platform (.message env (.request req)))
      (fun _ fsm' log => Refused platform fsm req fsm' log) fsm ↔ ForeignHarmless fsm req := by
  obtain ⟨header, named, other⟩ := foreign
  cases req <;> simp only [state, State.id, StateId.accepts, Bool.false_eq_true] at accepted
  case sessionStop req =>
    obtain rfl : req.header = header := by simpa [Request.header?] using named
    rw [wp_step_request platform env idle _ (by simp [Request.type]), state]
    simp only [State.feed, State.SessionStop.feed, Act.wp_bind, Act.wp_ite]
    rw [Feed.wp_pullRequest _ rfl]
    by_cases silent : req.evTerminationCode = none ∧ req.evTerminationExplanation = none
    · cases ending : req.chargingSession <;>
        simp [endSession, handleSessionStop, validateHeader, other, Platform.stringsFit, settle, Refused,
          ForeignHarmless, EndHarmless, ending, state, Response.type, Request.answerType, Response.code?,
          idle, pauseCtx_kept_iff, eq_comm (a := none), silent]
    · have loud : req.evTerminationCode.isSome = true ∨ req.evTerminationExplanation.isSome = true := by
        rw [not_and_or] at silent
        simpa [Option.isSome_iff_ne_none] using silent
      cases ending : req.chargingSession <;>
        simp [endSession, Platform.stringsFit, Refused, ForeignHarmless, ending, state, loud,
          ← and_assoc, silent]

theorem message_refused_iff (req : Request)
    (later : fsm.state.id ≠ .supportedAppProtocol ∧ fsm.state.id ≠ .sessionSetup)
    (accepted : fsm.state.id.accepts req = true) (foreign : req.Foreign fsm.ctx.session) :
    Refused platform fsm req (step platform (.message env (.request req)) fsm).state
      (step platform (.message env (.request req)) fsm).log ↔ ForeignHarmless fsm req := by
  cases state : fsm.state with
  | supportedAppProtocol => simp [state, State.id] at later
  | sessionSetup => simp [state, State.id] at later
  | authorizationSetup =>
      exact authorizationSetup_foreign platform env idle state req accepted foreign
  | authorization self =>
      exact authorization_foreign platform env idle self state req accepted foreign
  | serviceDiscovery =>
      exact serviceDiscovery_foreign platform env idle state req accepted foreign
  | serviceDetail =>
      exact serviceDetail_foreign platform env idle state req accepted foreign
  | serviceSelection =>
      exact serviceSelection_foreign platform env idle state req accepted foreign
  | acChargeParameterDiscovery self =>
      exact acChargeParameterDiscovery_foreign platform env idle self state req accepted foreign
  | dcChargeParameterDiscovery =>
      exact dcChargeParameterDiscovery_foreign platform env idle state req accepted foreign
  | scheduleExchange self =>
      exact scheduleExchange_foreign platform env idle self state req accepted foreign
  | dcCableCheck self =>
      exact dcCableCheck_foreign platform env idle self state req accepted foreign
  | dcPreCharge self =>
      exact dcPreCharge_foreign platform env idle self state req accepted foreign
  | powerDelivery self =>
      exact powerDelivery_foreign platform env idle self state req accepted foreign
  | acChargeLoop self =>
      exact acChargeLoop_foreign platform env idle self state req accepted foreign
  | dcChargeLoop self =>
      exact dcChargeLoop_foreign platform env idle self state req accepted foreign
  | dcWeldingDetection self =>
      exact dcWeldingDetection_foreign platform env idle self state req accepted foreign
  | sessionStop =>
      exact sessionStop_foreign platform env idle state req accepted foreign

end Refused

/-- A foreign request that the state accepts is refused without any further effect exactly when it is
harmless there. -/
theorem foreign_refused_iff (platform : Platform) (config : SessionConfig)
    (pauseCtx : Option PauseContext) (id : SessionId) (inputs : List Input) (env : Env) (req : Request)
    (later : (reached platform config pauseCtx id inputs).state.id ≠ .supportedAppProtocol ∧
      (reached platform config pauseCtx id inputs).state.id ≠ .sessionSetup)
    (accepted : (reached platform config pauseCtx id inputs).state.id.accepts req = true)
    (foreign : req.Foreign (reached platform config pauseCtx id inputs).ctx.session) :
    Refused platform (reached platform config pauseCtx id inputs) req
      (step platform (.message env (.request req)) (reached platform config pauseCtx id inputs)).state
      (step platform (.message env (.request req)) (reached platform config pauseCtx id inputs)).log ↔
    ForeignHarmless (reached platform config pauseCtx id inputs) req :=
  message_refused_iff platform env (reached_idle platform config pauseCtx id inputs) req later accepted
    foreign

theorem Refused.log_length {platform : Platform} {fsm fsm' : Fsm} {req : Request} {log : List Output}
    (refused : Refused platform fsm req fsm' log) : log.length = 2 := by
  obtain ⟨res, -, -, rfl, -⟩ := refused
  rfl

theorem foreignHarmless_authorizationSetup {fsm : Fsm} (state : fsm.state.id = .authorizationSetup)
    (req : Request) : ForeignHarmless fsm req := by
  cases eq : fsm.state <;> simp_all [State.id, ForeignHarmless]

open Sample in
theorem foreign_authorizationSetup_refused :
    Refused platform (reached platform config none (sessionId 9) ((selectService (sessionId 1) .ac).take 2))
      (.authorizationSetup ⟨{ sessionId := sessionId 2 }⟩)
      (step platform (receive (sessionId 1) (.authorizationSetup ⟨{ sessionId := sessionId 2 }⟩))
        (reached platform config none (sessionId 9) ((selectService (sessionId 1) .ac).take 2))).state
      (step platform (receive (sessionId 1) (.authorizationSetup ⟨{ sessionId := sessionId 2 }⟩))
        (reached platform config none (sessionId 9) ((selectService (sessionId 1) .ac).take 2))).log :=
  (foreign_refused_iff platform config none (sessionId 9) ((selectService (sessionId 1) .ac).take 2)
    { newSessionId := sessionId 1 } (.authorizationSetup ⟨{ sessionId := sessionId 2 }⟩)
    (by decide +kernel) (by decide +kernel) ⟨_, rfl, by decide +kernel⟩).mpr
    (foreignHarmless_authorizationSetup (by decide +kernel) _)

open Sample in
/-- A foreign `PowerDeliveryReq(Start)` closes the contactor of an AC session. -/
theorem foreign_start_acts :
    ¬∀ (platform : Platform) (config : SessionConfig) (pauseCtx : Option PauseContext) (id : SessionId)
      (inputs : List Input) (env : Env) (req : Request),
      (reached platform config pauseCtx id inputs).state.id ≠ .supportedAppProtocol ∧
        (reached platform config pauseCtx id inputs).state.id ≠ .sessionSetup →
      (reached platform config pauseCtx id inputs).state.id.accepts req = true →
      req.Foreign (reached platform config pauseCtx id inputs).ctx.session →
      Refused platform (reached platform config pauseCtx id inputs) req
        (step platform (.message env (.request req)) (reached platform config pauseCtx id inputs)).state
        (step platform (.message env (.request req)) (reached platform config pauseCtx id inputs)).log := by
  intro refuses
  have refused := refuses platform config none (sessionId 9) (reachPowerDelivery (sessionId 1)) {}
    (.powerDelivery { header := { sessionId := sessionId 2 } }) (by decide +kernel) (by decide +kernel)
    ⟨_, rfl, by decide +kernel⟩
  exact absurd refused.log_length (by decide +kernel)

end Fsm

end LibIso15118
