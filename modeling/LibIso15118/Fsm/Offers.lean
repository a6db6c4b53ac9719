import LibIso15118.Fsm.Exchange
import LibIso15118.Fsm.SessionSteps
import LibIso15118.Service.Offered

set_option autoImplicit false

namespace LibIso15118

open Datatypes Shared

structure ParameterLists where
  ac : List AcParameterList
  acBpt : List AcBptParameterList
  acDer : List AcDerParameterList
  dc : List DcParameterList
  dcBpt : List DcBptParameterList
  mcs : List McsParameterList
  mcsBpt : List McsBptParameterList
  internet : List InternetParameterList
  parking : List ParkingParameterList

def SessionConfig.lists (config : SessionConfig) : ParameterLists :=
  { ac := config.acParameterList
    acBpt := config.acBptParameterList
    acDer := config.acDerParameterList
    dc := config.dcParameterList
    dcBpt := config.dcBptParameterList
    mcs := config.mcsParameterList
    mcsBpt := config.mcsBptParameterList
    internet := config.internetParameterList
    parking := config.parkingParameterList }

theorem offerService_congr {config config' : SessionConfig} (same : config'.lists = config.lists) :
    offerService config' = offerService config := by
  simp only [SessionConfig.lists, ParameterLists.mk.injEq] at same
  funext service offered
  simp only [offerService, same]

def Env.given (env : Env) (service : UInt16) : Option ServiceParameterList :=
  if energyServiceIds.contains service then none else env.vasParameters service

def Env.custom (env : Env) (service : UInt16) : Option ServiceParameterList :=
  if service = ServiceCategory.internet.value ∨ service = ServiceCategory.parkingStatus.value then none
  else env.given service

/-- The parameters of `ParkingStatus` have to be integers. -/
def Env.readable (env : Env) (service : UInt16) : Bool :=
  service ≠ ServiceCategory.parkingStatus.value ||
    (env.given service).all fun parameters => (fillParkingParameterList parameters).1

namespace SessionConfig

def asked (config : SessionConfig) (env : Env) (service : UInt16) : SessionConfig :=
  match env.given service with
  | none => config
  | some parameters =>
      if service = ServiceCategory.internet.value then
        { config with internetParameterList := fillInternetParameterList parameters }
      else if service = ServiceCategory.parkingStatus.value then
        { config with parkingParameterList := (fillParkingParameterList parameters).2 }
      else config

end SessionConfig

theorem wp_customVasParameters_iff (env : Env) (service : UInt16) (ctx : Context)
    (post : Except Exn (Option ServiceParameterList) → Context → List Output → Prop) :
    Act.wp (customVasParameters env service) post ctx ↔
      post (if env.readable service then .ok (env.custom service) else .error .badVariantAccess)
        { ctx with sessionConfig := ctx.sessionConfig.asked env service }
        (if energyServiceIds.contains service then [] else [.feedback (.getVasParameters service)]) := by
  simp only [customVasParameters, Act.wp_bind, Act.wp_ite, Act.wp_pure, Feed.wp_feedback, Env.readable,
    Env.custom, SessionConfig.asked, Env.given]
  by_cases energy : service ∈ energyServiceIds
  · simp [energy]
  simp only [List.contains_iff_mem, energy]
  cases given : env.vasParameters service with
  | none => simp
  | some parameters =>
      by_cases internet : service = ServiceCategory.internet.value
      · subst internet
        simp [ServiceCategory.internet, ServiceCategory.parkingStatus]
      by_cases parking : service = ServiceCategory.parkingStatus.value
      · subst parking
        cases readable : (fillParkingParameterList parameters).1 <;> simp [internet, readable]
      · simp [internet, parking]

theorem handleAuthorizationSetup_offered (env : Env) (req : AuthorizationSetupRequest) (session : Session)
    (cert : Bool) (services : List Authorization) :
    ∃ authServices, (handleAuthorizationSetup env req session cert services).2.offeredServices =
      { session.offeredServices with authServices } := by
  simp only [handleAuthorizationSetup]
  split
  · exact ⟨session.offeredServices.authServices, rfl⟩
  · exact ⟨_, rfl⟩

theorem handleServiceSelection_offered (env : Env) (req : ServiceSelectionRequest) (session : Session) :
    (handleServiceSelection env req session).2.offeredServices = session.offeredServices := by
  by_cases selectable : Selectable req session
  · rw [handleServiceSelection_selectable env req session selectable]
    dsimp only
    rw [selectVasList_frame]
    simp
  · rw [(handleServiceSelection_refused env req session selectable).2]

theorem handleServiceDiscovery_unfailed {env : Env} {req : ServiceDiscoveryRequest} {session : Session}
    {energy : List ServiceCategory} {vas : List UInt16} {ev : List ServiceCategory} :
    (handleServiceDiscovery env req session energy vas ev).response.responseCode.isFailed = false ↔
      (handleServiceDiscovery env req session energy vas ev).response.responseCode = .ok := by
  simp only [handleServiceDiscovery]
  split
  · exact iff_of_false (fun unfailed => by cases unfailed) fun ok => by cases ok
  · exact iff_of_true rfl rfl

def Context.OffersAs (ctx' ctx : Context) : Prop :=
  ∃ authServices, ctx'.session.offeredServices = { ctx.session.offeredServices with authServices }

theorem Context.offersAs_of_eq {ctx ctx' : Context}
    (same : ctx'.session.offeredServices = ctx.session.offeredServices) : ctx'.OffersAs ctx := ⟨_, same⟩

section Message

variable (platform : Platform) (env : Env) (ctx : Context) {req : Request}
variable (pending : ctx.request = some (.request req))
include pending

theorem sessionSetup_renews {setup : SessionSetupRequest} (request : req = .sessionSetup setup) :
    Act.wp (State.feed platform env .sessionSetup .v2gtpMessage) (fun _ ctx' _ =>
      ctx'.sessionConfig = ctx.sessionConfig ∧ ctx'.session.offeredServices = {}) ctx := by
  subst request
  simp only [State.feed, State.SessionSetup.feed, Act.wp_bind, Act.wp_ite, Feed.wp_pullRequest _ pending]
  simp only [ne_eq, not_true_eq_false, false_implies, not_false_eq_true, true_implies, true_and,
    Feed.wp_feedback, Act.wp_modify, Act.wp_get]
  apply wp_chooseSession
  · intro hash old cert joins
    simp [Session.ofPauseContext]
  · intro asked unjoined
    simp only [Act.wp_bind, Act.wp_get, State.SessionSetup.emplacePauseContext]
    simp only [true_implies, not_true_eq_false, false_implies, and_true]
    split
    · simp [Session.new]
    · simp [Session.new, State.SessionSetup.certSessionIdHash]

theorem State.message_offers (state : State) (accepts : state.id.accepts req = true)
    (early : state.id.rank ≤ StateId.serviceSelection.rank) (setup : state.id ≠ .sessionSetup)
    (listless : ∀ other, req ≠ .serviceDiscovery other) (setless : ∀ other, req ≠ .serviceDetail other) :
    Act.wp (state.feed platform env .v2gtpMessage) (fun _ ctx' _ =>
      ctx'.sessionConfig = ctx.sessionConfig ∧ ctx'.OffersAs ctx) ctx := by
  cases state with
  | supportedAppProtocol =>
      cases req <;> simp only [State.id, StateId.accepts, Bool.false_eq_true] at accepts
      simp only [State.feed, State.SupportedAppProtocol.feed, Act.wp_bind, Act.wp_ite, Feed.wp_pullRequest _ pending]
      simp only [ne_eq, not_true_eq_false, false_implies, not_false_eq_true, true_implies, true_and]
      simp [Platform.stringsFit, Context.offersAs_of_eq]
      intro _
      apply wp_selectAll
      rintro result info log (rfl | rfl) _ <;> simp [Context.offersAs_of_eq]
  | sessionSetup => exact absurd rfl setup
  | authorizationSetup =>
      cases req <;> simp only [State.id, StateId.accepts, Bool.false_eq_true] at accepts <;>
        simp only [State.feed, State.AuthorizationSetup.feed, Act.wp_bind, Act.wp_ite, Feed.wp_pullRequest _ pending]
      · simp [Platform.stringsFit, Context.OffersAs, handleAuthorizationSetup_offered]
      · simp [wp_stopOnRequest, Context.offersAs_of_eq]
  | authorization self =>
      cases req <;> simp only [State.id, StateId.accepts, Bool.false_eq_true] at accepts <;>
        simp only [State.feed, State.Authorization.feed, Act.wp_bind, Feed.wp_pullRequest _ pending]
      · simp [Platform.stringsFit, Context.offersAs_of_eq]
      · simp [wp_stopOnRequest, Context.offersAs_of_eq]
  | serviceDiscovery =>
      cases req <;> simp only [State.id, StateId.accepts, Bool.false_eq_true] at accepts
      · exact absurd rfl (listless _)
      · simp only [State.feed, State.ServiceDiscovery.feed, Act.wp_bind, Act.wp_ite, Feed.wp_pullRequest _ pending]
        simp [wp_stopOnRequest, Context.offersAs_of_eq]
  | serviceDetail =>
      cases req <;> simp only [State.id, StateId.accepts, Bool.false_eq_true] at accepts
      · exact absurd rfl (setless _)
      · simp only [State.feed, State.ServiceDetail.feed, Act.wp_bind, Act.wp_ite, Feed.wp_pullRequest _ pending]
        simp [wp_stopOnRequest, Context.offersAs_of_eq]
  | serviceSelection =>
      cases req <;> simp only [State.id, StateId.accepts, Bool.false_eq_true] at accepts
      · exact absurd rfl (setless _)
      · simp only [State.feed, State.ServiceSelection.feed, Act.wp_bind, Act.wp_ite, Feed.wp_pullRequest _ pending]
        simp [Platform.stringsFit, Context.offersAs_of_eq, handleServiceSelection_offered]
      · simp only [State.feed, State.ServiceSelection.feed, Act.wp_bind, Act.wp_ite, Feed.wp_pullRequest _ pending]
        simp [wp_stopOnRequest, Context.offersAs_of_eq]
  | _ => simp [State.id, StateId.rank] at early

end Message

def Response.offers : Response → Bool
  | .serviceDiscovery _ | .serviceDetail _ => true
  | _ => false

namespace Fsm

def detailAnswer (fsm : Fsm) (env : Env) (req : ServiceDetailRequest) : ServiceDetailResponse × Session :=
  handleServiceDetail env req fsm.ctx.session (fsm.ctx.sessionConfig.asked env req.service)
    (env.custom req.service)

def details (fsm : Fsm) : Prop := fsm.state.id = .serviceDetail ∨ fsm.state.id = .serviceSelection

/-- What a `ServiceDetailReq` does. The session keeps its answer, also when that cannot be sent. -/
@[mk_iff] structure DetailEffect (platform : Platform) (fsm : Fsm) (env : Env) (req : ServiceDetailRequest)
    (result : Except Exn Unit) (fsm' : Fsm) (log : List Output) : Prop where
  config : fsm'.ctx.sessionConfig = fsm.ctx.sessionConfig.asked env req.service
  told : energyServiceIds.contains req.service = false → .feedback (.getVasParameters req.service) ∈ log
  session : fsm'.ctx.session = if env.readable req.service then (fsm.detailAnswer env req).2 else fsm.ctx.session
  answer : responses log =
    if env.readable req.service && platform.stringsFit (.serviceDetail (fsm.detailAnswer env req).1) then
      [.serviceDetail (fsm.detailAnswer env req).1]
    else []
  result : result =
    if env.readable req.service then
      if platform.stringsFit (.serviceDetail (fsm.detailAnswer env req).1) then .ok ()
      else .error .runtimeError
    else .error .badVariantAccess

variable (platform : Platform) {fsm : Fsm}

@[simp] theorem messageContext_sessionConfig (ctx : Context) (variant : Variant) :
    (messageContext ctx variant).sessionConfig = ctx.sessionConfig := rfl

theorem detail_effect (idle : fsm.ctx.request = none) (asks : fsm.details) (env : Env)
    (req : ServiceDetailRequest) :
    Act.wp (step platform (.message env (.request (.serviceDetail req))))
      (DetailEffect platform fsm env req) fsm := by
  rw [wp_step_message platform env _ fsm idle]
  have pending := messageContext_request fsm.ctx (.request (.serviceDetail req))
  have state : fsm.state = .serviceDetail ∨ fsm.state = .serviceSelection := by
    unfold details at asks
    cases state : fsm.state <;> simp_all [State.id]
  rcases state with state | state <;>
  · simp only [state, State.feed, State.ServiceDetail.feed, State.ServiceSelection.feed, Act.wp_bind, Act.wp_ite,
      Feed.wp_pullRequest _ pending, answerServiceDetail]
    simp only [ne_eq, not_true_eq_false, false_implies, not_false_eq_true, true_implies, true_and]
    rw [wp_customVasParameters_iff]
    have told : energyServiceIds.contains req.service = false →
        .feedback (.getVasParameters req.service) ∈ (if energyServiceIds.contains req.service then []
          else [Output.feedback (.getVasParameters req.service)]) := by
      intro other
      simp only [other]
      simp
    have silent : responses (if energyServiceIds.contains req.service then []
        else [.feedback (.getVasParameters req.service)]) = [] := by
      split <;> rfl
    generalize (if energyServiceIds.contains req.service then []
      else [Output.feedback (.getVasParameters req.service)]) = asking at told silent
    by_cases readable : env.readable req.service = true
    · simp only [readable, if_true, Act.wp_get, Act.wp_modify, Act.wp_pure, Feed.wp_respond,
        Feed.wp_stopSession, messageContext_session, messageContext_sessionConfig]
      refine ⟨fun fits => ⟨fun failed => ?_, fun ok => ?_⟩, fun unfit => ?_⟩ <;>
        simp_all [detailEffect_iff, detailAnswer, settle, Except.map, Output.response?]
    · simp_all [detailEffect_iff, settle, Except.map, Output.response?]

def listedSets (fsm : Fsm) (env : Env) (service : UInt16) : ServiceParameterList :=
  (env.custom service).getD
    (offerService (fsm.ctx.sessionConfig.asked env service) service fsm.ctx.session.offeredServices).1

def recorded (fsm : Fsm) (env : Env) (service : UInt16) : OfferedServices :=
  let offered := fsm.ctx.session.offeredServices
  match env.custom service with
  | some sets => { offered with customVasList := offered.customVasList.insert service (sets.map (·.id)) }
  | none => (offerService (fsm.ctx.sessionConfig.asked env service) service offered).2

/-- The request is for the session and for one of its services. -/
def Lists (fsm : Fsm) (req : ServiceDetailRequest) : Prop :=
  validateHeader fsm.ctx.session req.header.sessionId = true ∧
    (fsm.ctx.session.offeredServices.energyServices.any (·.value = req.service) ||
      fsm.ctx.session.offeredServices.vasServices.contains req.service) = true

section DetailAnswer

variable {fsm : Fsm} {env : Env} {req : ServiceDetailRequest}

theorem detailAnswer_lists (lists : fsm.Lists req) :
    fsm.detailAnswer env req =
      ({ header := setupHeader env fsm.ctx.session
         responseCode :=
           if req.service = ServiceCategory.acDer.value ∧ fsm.listedSets env req.service = [] then
             .failedServiceIdInvalid else .ok
         service := req.service
         serviceParameterList := fsm.listedSets env req.service },
        { fsm.ctx.session with offeredServices := fsm.recorded env req.service }) := by
  obtain ⟨own, offered⟩ := lists
  simp only [detailAnswer, handleServiceDetail, listedSets, recorded]
  rw [if_neg (by simp [own]), if_neg (by rw [offered]; simp)]
  rcases Option.eq_none_or_eq_some (env.custom req.service) with custom | ⟨sets, custom⟩
  · simp [custom]
  · have asked : req.service ≠ ServiceCategory.acDer.value := by
      intro der
      simp [der, Env.custom, Env.given, energyServiceIds] at custom
    simp [custom, asked]

theorem detailAnswer_refused (refused : ¬fsm.Lists req) :
    (fsm.detailAnswer env req).2 = fsm.ctx.session ∧
      (fsm.detailAnswer env req).1.responseCode ≠ .ok ∧ (fsm.detailAnswer env req).1.serviceParameterList = [] := by
  unfold Lists at refused
  simp only [detailAnswer, handleServiceDetail]
  split
  · simp
  · split
    · simp
    · simp_all

end DetailAnswer

section Recorded

variable (fsm : Fsm) (env : Env) (service other : UInt16)

theorem recorded_contains (key : UInt8) :
    (fsm.recorded env service).contains other key = true ↔
      (other = service ∧ env.custom service = none ∧ key.toUInt16 ∈ (fsm.listedSets env service).map (·.id)) ∨
        fsm.ctx.session.offeredServices.contains other key = true := by
  unfold recorded listedSets
  cases custom : env.custom service with
  | none => simpa using offerService_contains _ service other _ key
  | some sets => simp [OfferedServices.contains]

theorem recorded_customVasList :
    (fsm.recorded env service).customVasList other =
      if other = service ∧ (env.custom service).isSome then some ((fsm.listedSets env service).map (·.id))
      else fsm.ctx.session.offeredServices.customVasList other := by
  unfold recorded listedSets
  cases custom : env.custom service with
  | none => simp [offerService_frame]
  | some sets => simp [Table.insert]

theorem recorded_services :
    (fsm.recorded env service).energyServices = fsm.ctx.session.offeredServices.energyServices ∧
      (fsm.recorded env service).vasServices = fsm.ctx.session.offeredServices.vasServices := by
  unfold recorded
  split
  · exact ⟨rfl, rfl⟩
  · exact ⟨(offerService_frame _ _ _).1, (offerService_frame _ _ _).2.1⟩

end Recorded

def discoveryAnswer (fsm : Fsm) (env : Env) (req : ServiceDiscoveryRequest) : ServiceDiscoveryResult :=
  handleServiceDiscovery env req fsm.ctx.session fsm.ctx.sessionConfig.supportedEnergyTransferServices
    fsm.ctx.sessionConfig.supportedVasServices fsm.ctx.sessionEvInfo.evEnergyServices

structure DiscoveryEffect (fsm : Fsm) (env : Env) (req : ServiceDiscoveryRequest) (fsm' : Fsm) (log : List Output) :
    Prop where
  lists : fsm'.ctx.sessionConfig.lists = fsm.ctx.sessionConfig.lists
  session : fsm'.ctx.session = (fsm.discoveryAnswer env req).session
  answer : responses log = [.serviceDiscovery (fsm.discoveryAnswer env req).response]
  next : fsm'.state.id =
    if (fsm.discoveryAnswer env req).response.responseCode = .ok then .serviceDetail else .serviceDiscovery

inductive OfferStep (fsm : Fsm) (input : Input) (result : Except Exn Unit) (fsm' : Fsm) (log : List Output) : Prop
  | detailed (env : Env) (req : ServiceDetailRequest)
      (message : input = .message env (.request (.serviceDetail req))) (asks : fsm.details)
      (effect : DetailEffect platform fsm env req result fsm' log)
  | discovered (env : Env) (req : ServiceDiscoveryRequest)
      (message : input = .message env (.request (.serviceDiscovery req)))
      (state : fsm.state.id = .serviceDiscovery)
      (effect : DiscoveryEffect fsm env req fsm' log)
  | renewed (state : fsm.state.id = .sessionSetup)
      (lists : fsm'.ctx.sessionConfig.lists = fsm.ctx.sessionConfig.lists)
      (offered : fsm'.ctx.session.offeredServices = {})
      (quiet : ∀ out ∈ responses log, out.code? = some .ok → out.offers = false)
  | kept (lists : fsm'.ctx.sessionConfig.lists = fsm.ctx.sessionConfig.lists)
      (offered : fsm'.ctx.OffersAs fsm.ctx)
      (quiet : ∀ out ∈ responses log, out.code? = some .ok → out.offers = false)

theorem OkAnswer.offers {input : Input} {out : Response} (answer : OkAnswer fsm input out)
    (offers : out.offers = true) :
    (∃ env req, input = .message env (.request (.serviceDiscovery req)) ∧ fsm.state.id = .serviceDiscovery) ∨
      ∃ env req, input = .message env (.request (.serviceDetail req)) ∧ fsm.details := by
  cases answer with
  | resumed env event res => simp [Response.offers] at offers
  | message env req _ accepts answer =>
      cases req with
      | serviceDiscovery req =>
          refine .inl ⟨env, req, rfl, ?_⟩
          cases state : fsm.state <;> simp_all [State.id, StateId.accepts]
      | serviceDetail req =>
          refine .inr ⟨env, req, rfl, ?_⟩
          unfold details
          cases state : fsm.state <;> simp_all [State.id, StateId.accepts]
      | _ =>
          simp only [Request.Answer] at answer
          first
            | subst answer; simp [Response.offers] at offers
            | obtain ⟨_, rfl⟩ := answer; simp [Response.offers] at offers
            | obtain ⟨_, _, rfl⟩ := answer; simp [Response.offers] at offers

@[simp] theorem controlContext_lists (ctx : Context) (event : ControlEvent) :
    (controlContext ctx event).sessionConfig.lists = ctx.sessionConfig.lists := by
  cases event <;> rfl

theorem settle_offersAs (state : Except Exn (State × Result)) {ctx ctx' : Context} (kept : ctx'.OffersAs ctx) :
    (fsm.settle state ctx').ctx.OffersAs ctx := by
  rcases settle_ctx fsm ctx' state with same | same <;> rw [same] <;> exact kept

theorem settle_lists (state : Except Exn (State × Result)) (ctx : Context) :
    (fsm.settle state ctx).ctx.sessionConfig = ctx.sessionConfig := by
  rcases settle_ctx fsm ctx state with same | same <;> rw [same]

theorem discovery_effect (idle : fsm.ctx.request = none) (state : fsm.state.id = .serviceDiscovery) (env : Env)
    (req : ServiceDiscoveryRequest) :
    Act.wp (step platform (.message env (.request (.serviceDiscovery req))))
      (fun _ => DiscoveryEffect fsm env req) fsm := by
  rw [wp_step_message platform env _ fsm idle]
  have current : fsm.state = .serviceDiscovery := by cases state : fsm.state <;> simp_all [State.id]
  simp only [current, State.feed, State.ServiceDiscovery.feed, Act.wp_bind, Act.wp_ite,
    Feed.wp_pullRequest _ (messageContext_request fsm.ctx (.request (.serviceDiscovery req)))]
  simp only [ne_eq, not_true_eq_false, false_implies, not_false_eq_true, true_implies, true_and, Act.wp_get,
    Act.wp_modify, Act.wp_pure, Feed.wp_respond, Feed.wp_stopSession, messageContext_session,
    messageContext_sessionConfig]
  refine ⟨fun _ => ⟨fun failed => ?_, fun ok => ?_⟩, fun unfit => by simp [Platform.stringsFit] at unfit⟩
  · refine ⟨rfl, rfl, by simp [Output.response?, discoveryAnswer, messageContext], ?_⟩
    have refused : (fsm.discoveryAnswer env req).response.responseCode ≠ .ok := by
      intro ok
      have unfailed := handleServiceDiscovery_unfailed.mpr ok
      exact Bool.false_ne_true (unfailed.symm.trans failed)
    rw [if_neg refused]
    rfl
  · refine ⟨rfl, rfl, by simp [Output.response?, discoveryAnswer, messageContext], ?_⟩
    have accepted : (fsm.discoveryAnswer env req).response.responseCode = .ok :=
      handleServiceDiscovery_unfailed.mp (Bool.eq_false_of_not_eq_true ok)
    rw [if_pos accepted]
    rfl

theorem discovery_stays (idle : fsm.ctx.request = none) (state : fsm.state.id = .serviceDiscovery) (input : Input)
    (other : ∀ env req, input ≠ .message env (.request (.serviceDiscovery req))) :
    (step platform input fsm).state.state.id = .serviceDiscovery := by
  by_cases moves : fsm.Moves input
  · rcases moves with ⟨env, variant, rfl⟩ | ⟨_, _, _, _, _, _, delivery, -⟩
    · suffices spec : Act.wp (step platform (.message env variant))
          (fun _ fsm' _ => fsm'.state.id = .serviceDiscovery) fsm from spec
      rw [wp_step_message platform env variant fsm idle]
      have pending := messageContext_request fsm.ctx variant
      by_cases stop : ∃ req, variant = .request (.sessionStop req)
      · obtain ⟨req, rfl⟩ := stop
        have current : fsm.state = .serviceDiscovery := by cases state : fsm.state <;> simp_all [State.id]
        simp only [current, State.feed, State.ServiceDiscovery.feed, Act.wp_bind, Act.wp_ite,
          Feed.wp_pullRequest _ pending]
        simp [wp_stopOnRequest, settle, State.id]
      · apply State.wp_unexpected platform env pending
        · rintro req rfl
          rw [state]
          cases req <;> simp_all [StateId.accepts]
        · exact fun _ _ _ => state
    · simp [delivery, State.id] at state
  · rw [((step_frame platform fsm input idle).quiet moves).1, state]

def Early (fsm : Fsm) : Prop := fsm.state.id.rank ≤ StateId.serviceSelection.rank

theorem message_offers (idle : fsm.ctx.request = none) (early : fsm.Early) (env : Env) (variant : Variant) :
    OfferStep platform fsm (.message env variant) (step platform (.message env variant) fsm).result
      (step platform (.message env variant) fsm).state (step platform (.message env variant) fsm).log := by
  have answers := step_okAnswer platform idle (.message env variant)
  by_cases discovery : ∃ req, variant = .request (.serviceDiscovery req) ∧ fsm.state.id = .serviceDiscovery
  · obtain ⟨req, rfl, state⟩ := discovery
    exact .discovered env req rfl state (discovery_effect platform idle state env req)
  by_cases detail : ∃ req, variant = .request (.serviceDetail req) ∧ fsm.details
  · obtain ⟨req, rfl, asks⟩ := detail
    exact .detailed env req rfl asks (detail_effect platform idle asks env req)
  have quiet : ∀ out ∈ responses (step platform (.message env variant) fsm).log,
      out.code? = some .ok → out.offers = false := by
    intro out member ok
    by_contra offers
    rcases (answers out member ok).offers (by simpa using offers) with ⟨_, req, same, state⟩ | ⟨_, req, same, asks⟩
    · cases same
      exact discovery ⟨req, rfl, state⟩
    · cases same
      exact detail ⟨req, rfl, asks⟩
  have pending := messageContext_request fsm.ctx variant
  by_cases accepted : ∃ req, variant = .request req ∧ fsm.state.id.accepts req = true
  · obtain ⟨req, rfl, accepts⟩ := accepted
    by_cases setup : fsm.state.id = .sessionSetup
    · suffices spec : Act.wp (step platform (.message env (.request req)))
          (fun _ fsm' _ => fsm'.ctx.sessionConfig.lists = fsm.ctx.sessionConfig.lists ∧
            fsm'.ctx.session.offeredServices = {}) fsm from .renewed setup spec.1 spec.2 quiet
      rw [wp_step_message platform env _ fsm idle, State.eq_sessionSetup setup]
      have request : ∃ request, req = .sessionSetup request := by
        rw [setup] at accepts
        cases req <;> simp_all [StateId.accepts]
      obtain ⟨request, rfl⟩ := request
      refine Act.wp_mono _ _ (sessionSetup_renews platform env _ pending rfl) ?_
      rintro result ctx' log ⟨config, offered⟩
      rcases settle_ctx fsm ctx' result with same | same <;> simp [same, config, offered]
    · suffices spec : Act.wp (step platform (.message env (.request req)))
          (fun _ fsm' _ => fsm'.ctx.sessionConfig = fsm.ctx.sessionConfig ∧ fsm'.ctx.OffersAs fsm.ctx) fsm from
        .kept (by rw [spec.1]) spec.2 quiet
      rw [wp_step_message platform env _ fsm idle]
      have listless : ∀ other, req ≠ .serviceDiscovery other := by
        rintro other rfl
        refine discovery ⟨other, rfl, ?_⟩
        cases state : fsm.state <;> simp_all [State.id, StateId.accepts]
      have setless : ∀ other, req ≠ .serviceDetail other := by
        rintro other rfl
        refine detail ⟨other, rfl, ?_⟩
        unfold details
        cases state : fsm.state <;> simp_all [State.id, StateId.accepts]
      refine Act.wp_mono _ _
        (State.message_offers platform env _ pending fsm.state accepts early setup listless setless) ?_
      rintro result ctx' log ⟨config, offered⟩
      exact ⟨(settle_lists result ctx').trans config, settle_offersAs result offered⟩
  · suffices spec : Act.wp (step platform (.message env variant))
        (fun _ fsm' _ => fsm'.ctx.sessionConfig = fsm.ctx.sessionConfig ∧ fsm'.ctx.OffersAs fsm.ctx) fsm from
      .kept (by rw [spec.1]) spec.2 quiet
    rw [wp_step_message platform env _ fsm idle]
    apply State.wp_unexpected platform env pending
    · intro req same
      by_contra accepts
      exact accepted ⟨req, same, Bool.eq_true_of_not_eq_false accepts⟩
    · intro response log failed
      exact ⟨settle_lists _ _, settle_offersAs _ (Context.offersAs_of_eq rfl)⟩

theorem step_offers (idle : fsm.ctx.request = none) (early : fsm.Early) (input : Input) :
    OfferStep platform fsm input (step platform input fsm).result (step platform input fsm).state
      (step platform input fsm).log := by
  have settled : fsm.state.id ≠ .powerDelivery := by
    intro delivery
    simp [Early, delivery, StateId.rank] at early
  cases input with
  | message env variant => exact message_offers platform idle early env variant
  | control env event =>
      apply wp_step_control_quiet platform env event fsm
      · rintro ⟨_, _, _, delivery, -⟩
        simp [delivery, State.id] at settled
      · intro timeouts _
        exact .kept (by simp) (Context.offersAs_of_eq (by simp)) (by simp)
  | timeout env type =>
      apply wp_step_timeout platform env type fsm
      rintro pending log (⟨-, rfl⟩ | ⟨delivery, -⟩)
      · exact .kept rfl (Context.offersAs_of_eq rfl) (by simp)
      · exact absurd delivery settled
  | _ =>
      refine .kept rfl (Context.offersAs_of_eq rfl) ?_
      simp [step, modifyCtx, stopSession]

end Fsm

end LibIso15118
