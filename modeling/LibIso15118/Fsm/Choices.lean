import LibIso15118.Fsm.Advertising
import LibIso15118.Fsm.EnergyService
import LibIso15118.Fsm.VasIdentity

set_option autoImplicit false

namespace LibIso15118

open Datatypes Shared

/-- The arguments of `notify_ev_charging_needs`. -/
structure ChargingNeeds where
  service : ServiceCategory
  connector : Option AcConnector
  controlMode : ControlMode
  mobilityNeedsMode : MobilityNeedsMode
  evseLimits : EvseTransferLimits
  evLimits : EvTransferLimits
  evControlMode : SeReqControlMode
  evEnergyServices : List ServiceCategory

def Context.evseLimits (ctx : Context) : EvseTransferLimits :=
  if ctx.session.isAcCharger then .ac ctx.sessionConfig.acLimits
  else if ctx.session.isDcCharger then .dc ctx.sessionConfig.dcLimits
  else .unset

def EvTransferLimits.Suits (service : ServiceCategory) : EvTransferLimits → Prop
  | .ac mode =>
      (service = .ac ∨ service = .acBpt ∨ service = .acDer) ∧ service.transferKind? = some mode.kind
  | .dc mode =>
      (service = .dc ∨ service = .dcBpt ∨ service = .mcs ∨ service = .mcsBpt) ∧
        service.transferKind? = some mode.kind

def EvTransferLimits.counterpart (stored : Stored) : EvTransferLimits → EvseTransferLimits
  | .ac _ => .ac stored.acLimits
  | .dc _ => .dc stored.dcLimits

theorem Context.evseLimits_of_suits {ctx : Context} {limits : EvTransferLimits}
    (suits : limits.Suits ctx.session.selectedServices.selectedEnergyService) :
    ctx.evseLimits = limits.counterpart ctx.stored := by
  cases limits with
  | ac mode =>
      have ac : ctx.session.isAcCharger = true := by
        simpa [Session.isAcCharger, or_assoc] using suits.1
      rw [Context.evseLimits, if_pos ac]
      rfl
  | dc mode =>
      have dc : ctx.session.isDcCharger = true := by
        simpa [Session.isDcCharger, or_assoc] using suits.1
      have ac : ctx.session.isAcCharger ≠ true := fun ac => by
        simp [Session.not_dc_of_ac ac] at dc
      rw [Context.evseLimits, if_neg ac, if_pos dc]
      rfl

def ChargingNeeds.of (selected : SelectedServiceParameters) (evseLimits : EvseTransferLimits)
    (evLimits : EvTransferLimits) (req : ScheduleExchangeRequest)
    (evEnergyServices : List ServiceCategory) : ChargingNeeds where
  service := selected.selectedEnergyService
  connector :=
    match selected.selectedConnector with
    | .ac connector => some connector
    | _ => none
  controlMode := selected.selectedControlMode
  mobilityNeedsMode := selected.selectedMobilityNeedsMode
  evseLimits
  evLimits
  evControlMode := req.controlMode
  evEnergyServices

/-- What the application is told of the choices of a vehicle. -/
inductive Choice where
  | selection (parameters : SelectedServiceParameters)
  | charging (needs : ChargingNeeds)

def Output.choice? : Output → Option Choice
  | .feedback (.selectedServiceParameters parameters) => some (.selection parameters)
  | .feedback (.notifyEvChargingNeeds service connector controlMode mobilityNeedsMode evseLimits evLimits
      evControlMode evEnergyServices) =>
      some (.charging
        ⟨service, connector, controlMode, mobilityNeedsMode, evseLimits, evLimits, evControlMode,
          evEnergyServices⟩)
  | _ => none

def choices (log : List Output) : List Choice := log.filterMap Output.choice?

def Choice.selection? : Choice → Option SelectedServiceParameters
  | .selection parameters => some parameters
  | _ => none

def Choice.needs? : Choice → Option ChargingNeeds
  | .charging needs => some needs
  | _ => none

theorem choices_respond (res : Response) : (Output.respond res).choice? = none := rfl

theorem choices_chargingNeeds (ctx : Context) (req : ScheduleExchangeRequest) :
    (Output.feedback (State.ScheduleExchange.chargingNeeds ctx req)).choice? =
      some (.charging (.of ctx.session.selectedServices ctx.evseLimits ctx.sessionEvInfo.evTransferLimits req
        ctx.sessionEvInfo.evEnergyServices)) := rfl

section Choice

variable (log log' : List Output)

@[simp] theorem choices_nil : choices [] = [] := rfl

@[simp] theorem choices_append : choices (log ++ log') = choices log ++ choices log' := List.filterMap_append

@[simp] theorem choices_cons (o : Output) : choices (o :: log) = o.choice?.toList ++ choices log := by
  unfold choices
  cases here : o.choice? <;> simp [here]

@[simp] theorem choices_message (type : MessageType) :
    choices (.feedback (.v2gMessage type) :: log) = choices log := rfl

@[simp] theorem choices_digests (asked : List (Vector UInt8 72)) : choices (asked.map .digest) = [] := by
  induction asked with
  | nil => rfl
  | cons input rest hyp => simp [hyp, Output.choice?]

theorem choices_eq_nil (silent : ∀ o ∈ log, o.choice? = none) : choices log = [] :=
  List.filterMap_eq_nil_iff.mpr silent

end Choice

def StateId.chooses : StateId → Bool
  | .sessionSetup | .serviceSelection => true
  | _ => false

def StateId.informs : StateId → Bool
  | .sessionSetup | .serviceDiscovery | .serviceSelection | .acChargeParameterDiscovery
  | .dcChargeParameterDiscovery | .scheduleExchange => true
  | _ => false

theorem choices_sequenceError {log : List Output}
    (failed : ∀ o ∈ log, ∃ res, o = .respond res ∧ res.code? = some ResponseCode.failedSequenceError) :
    choices log = [] := by
  refine choices_eq_nil log fun o member => ?_
  obtain ⟨res, rfl, -⟩ := failed o member
  rfl

/-- `ServiceDiscovery` keeps the services that the vehicle has asked for. -/
def reportedServices (ids : Option (List UInt16)) : List ServiceCategory :=
  match ids with
  | some ids => (ids.map convertServiceIdToServiceCategory).filter (· ≠ .parkingStatus)
  | none => []

def acceptedOf {α : Type} (found : Variant → Option α) (variant : Variant) (log : List Output) : Option α :=
  if (responses log).any (·.code? = some .ok) then found variant else none

def Variant.services? : Variant → Option (List ServiceCategory)
  | .request (.serviceDiscovery req) => some (reportedServices req.supportedServiceIds)
  | _ => Option.none

def Variant.limits? : Variant → Option EvTransferLimits
  | .request (.acChargeParameterDiscovery req) => some (.ac req.transferMode)
  | .request (.dcChargeParameterDiscovery req) => some (.dc req.transferMode)
  | _ => Option.none

section Accepted

variable {α : Type} {found : Variant → Option α} {variant : Variant}

theorem acceptedOf_answered (res : Response) (ok : res.code? = some .ok) (rest : List Output) :
    acceptedOf found variant (.respond res :: rest) = found variant := by
  simp [acceptedOf, Output.response?, ok]

theorem acceptedOf_refused (res : Response) (refused : res.code? ≠ some .ok) :
    acceptedOf found variant [.respond res] = none := by
  simp [acceptedOf, Output.response?, refused]

theorem acceptedOf_sequenceError {log : List Output}
    (failed : ∀ o ∈ log, ∃ res, o = .respond res ∧ res.code? = some ResponseCode.failedSequenceError) :
    acceptedOf found variant log = none := by
  refine if_neg fun accepted => ?_
  obtain ⟨res, sent, ok⟩ := List.any_eq_true.mp accepted
  obtain ⟨_, ⟨⟩, code⟩ := failed _ ((mem_responses ..).mp sent)
  simp [code] at ok

end Accepted

section Handlers

variable {env : Env} {session : Session}

theorem handleServiceDiscovery_reported (req : ServiceDiscoveryRequest) (energy : List ServiceCategory)
    (vas : List UInt16) (ev : List ServiceCategory) :
    (handleServiceDiscovery env req session energy vas ev).evEnergyServices = ev ++
      (acceptedOf (·.services?) (.request (.serviceDiscovery req))
        [.respond (.serviceDiscovery
          (handleServiceDiscovery env req session energy vas ev).response)]).getD [] := by
  simp only [handleServiceDiscovery]
  split
  · simp [acceptedOf, Output.response?, Response.code?]
  · cases ids : req.supportedServiceIds <;>
      simp [acceptedOf, Variant.services?, reportedServices, ids, Output.response?, Response.code?]

theorem handleAcChargeParameterDiscovery_ok {req : AcChargeParameterDiscoveryRequest}
    {limits : AcTransferLimits} {powers : AcPresentPower} {provider : AcDerControlProvider}
    (unfailed : (handleAcChargeParameterDiscovery env req session limits powers
      provider).response.responseCode.isFailed = false) :
    (handleAcChargeParameterDiscovery env req session limits powers provider).response.responseCode =
      .ok := by
  revert unfailed
  simp only [handleAcChargeParameterDiscovery]
  repeat' split
  all_goals first | exact fun _ => rfl | exact fun failed => by cases failed

theorem handleDcChargeParameterDiscovery_ok {req : DcChargeParameterDiscoveryRequest}
    {limits : DcTransferLimits}
    (unfailed : (handleDcChargeParameterDiscovery env req session limits).responseCode.isFailed = false) :
    (handleDcChargeParameterDiscovery env req session limits).responseCode = .ok := by
  revert unfailed
  simp only [handleDcChargeParameterDiscovery]
  repeat' split
  all_goals first | exact fun _ => rfl | exact fun failed => by cases failed

end Handlers

def Aloof (ctx ctx' : Context) (log : List Output) : Prop :=
  ctx'.sessionEvInfo = ctx.sessionEvInfo ∧ choices log = []

section Message

attribute [local simp] Platform.stringsFit Output.choice? Choice.needs? Choice.selection? Result.createState

theorem answerServiceDetail_aloof (platform : Platform) (env : Env) (req : ServiceDetailRequest)
    (success : Result) (ctx : Context) :
    Act.wp (answerServiceDetail platform env req success) (fun result ctx' log =>
      Aloof ctx ctx' log ∧ ∀ res, result = .ok res → res = {} ∨ res = success) ctx := by
  simp only [answerServiceDetail, Act.wp_bind]
  rw [wp_customVasParameters_iff]
  have silent : choices (if energyServiceIds.contains req.service then []
      else [.feedback (.getVasParameters req.service)]) = [] := by
    split <;> rfl
  generalize (if energyServiceIds.contains req.service then []
    else [Output.feedback (.getVasParameters req.service)]) = asking at silent
  cases env.readable req.service <;> simp [Aloof, silent]

variable (platform : Platform) (env : Env) (ctx : Context) {variant : Variant}
variable (pending : ctx.request = some variant)
include pending

theorem State.message_aloof (state : State) (apart : state.id.informs = false) :
    Act.wp (state.feed platform env .v2gtpMessage) (fun _ ctx' log => Aloof ctx ctx' log) ctx := by
  cases state with
  | sessionSetup | serviceDiscovery | serviceSelection | acChargeParameterDiscovery
  | dcChargeParameterDiscovery | scheduleExchange => simp [State.id, StateId.informs] at apart
  | supportedAppProtocol =>
      simp only [State.feed, State.SupportedAppProtocol.feed, Act.wp_bind, Act.wp_ite,
        Feed.wp_pullRequest _ pending]
      simp only [ne_eq, not_true_eq_false, false_implies, not_false_eq_true, true_implies, true_and]
      split
      · simp [Aloof]
        intro _
        apply wp_selectAll
        rintro result info log _ named
        have silent : choices log = [] := choices_eq_nil log fun o member => by
          obtain ⟨name, rfl⟩ := named o member
          rfl
        cases result <;> simp [silent]
      · simp [Aloof]
  | authorizationSetup =>
      simp only [State.feed, State.AuthorizationSetup.feed, Act.wp_bind, Act.wp_ite,
        Feed.wp_pullRequest _ pending]
      simp only [ne_eq, not_true_eq_false, false_implies, not_false_eq_true, true_implies, true_and]
      split
      · simp [Aloof]
      · simp [wp_stopOnRequest, Aloof]
      · apply wp_stopOnSequenceError
        intro pending log failed
        simp [Aloof, choices_sequenceError failed]
  | authorization self =>
      simp only [State.feed, State.Authorization.feed, Act.wp_bind, Feed.wp_pullRequest _ pending]
      split
      · simp [Aloof]
      · simp [wp_stopOnRequest, Aloof]
      · simp only [Act.wp_bind, Act.wp_pure]
        apply wp_stopOnSequenceError
        intro pending log failed
        simp [Aloof, choices_sequenceError failed]
  | serviceDetail =>
      simp only [State.feed, State.ServiceDetail.feed, Act.wp_bind, Act.wp_ite, Feed.wp_pullRequest _ pending]
      simp only [ne_eq, not_true_eq_false, false_implies, not_false_eq_true, true_implies, true_and]
      split
      · refine Act.wp_mono _ _ (answerServiceDetail_aloof ..) ?_
        rintro (e | res) ctx' log ⟨aloof, -⟩ <;> simpa [Aloof] using aloof
      · simp [wp_stopOnRequest, Aloof]
      · apply wp_stopOnSequenceError
        intro pending log failed
        simp [Aloof, choices_sequenceError failed]
  | dcCableCheck self =>
      simp only [State.feed, State.DcCableCheck.feed, Act.wp_bind, Feed.wp_pullRequest _ pending]
      split
      · simp [Aloof]
      · simp [wp_stopOnRequest, Aloof]
      · simp only [Act.wp_bind, Act.wp_pure]
        apply wp_stopOnSequenceError
        intro pending log failed
        simp [Aloof, choices_sequenceError failed]
  | dcPreCharge self =>
      simp only [State.feed, State.DcPreCharge.feed, Act.wp_bind, Feed.wp_pullRequest _ pending]
      split
      · simp [Aloof]
      · simp [wp_stopOnRequest, Aloof]
      · simp only [Act.wp_bind, Act.wp_pure]
        apply wp_stopOnSequenceError
        intro pending log failed
        simp [Aloof, choices_sequenceError failed]
  | powerDelivery self =>
      simp only [State.feed, State.PowerDelivery.feed, Act.wp_bind, Feed.wp_pullRequest _ pending]
      split
      · simp [State.PowerDelivery.feedPreCharge, Aloof]
      · simp [State.PowerDelivery.feedPowerDelivery, Aloof]
      · simp only [Act.wp_bind, Act.wp_pure]
        apply wp_stopOnSequenceError
        intro pending log failed
        simp [Aloof, choices_sequenceError failed]
  | acChargeLoop self =>
      simp only [State.feed, State.AcChargeLoop.feed, Act.wp_bind, Feed.wp_pullRequest _ pending]
      split
      · simp [Aloof]
      · rename_i req
        cases req.displayParameters <;> simp [Aloof]
      · simp only [Act.wp_bind, Act.wp_pure]
        apply wp_stopOnSequenceError
        intro pending log failed
        simp [Aloof, choices_sequenceError failed]
  | dcChargeLoop self =>
      simp only [State.feed, State.DcChargeLoop.feed, Act.wp_bind, Feed.wp_pullRequest _ pending]
      split
      · simp [Aloof]
      · rename_i req
        cases req.displayParameters <;> simp [Aloof]
      · simp only [Act.wp_bind, Act.wp_pure]
        apply wp_stopOnSequenceError
        intro pending log failed
        simp [Aloof, choices_sequenceError failed]
  | dcWeldingDetection self =>
      simp only [State.feed, State.DcWeldingDetection.feed, Act.wp_bind, Feed.wp_pullRequest _ pending]
      split
      · simp [Aloof]
      · rename_i req
        cases req.chargingSession <;> simp [endSession, Aloof]
      · simp only [Act.wp_bind, Act.wp_pure]
        apply wp_stopOnSequenceError
        intro pending log failed
        simp [Aloof, choices_sequenceError failed]
  | sessionStop =>
      simp only [State.feed, State.SessionStop.feed, Act.wp_bind, Act.wp_ite, Feed.wp_pullRequest _ pending]
      simp only [ne_eq, not_true_eq_false, false_implies, not_false_eq_true, true_implies, true_and]
      split
      · rename_i req
        cases req.chargingSession <;> simp [endSession, Aloof]
      · apply wp_stopOnSequenceError
        intro pending log failed
        simp [Aloof, choices_sequenceError failed]

def Chooses (ctx : Context) (result : Except Exn (State × Result)) (ctx' : Context)
    (log : List Output) : Prop :=
  ctx'.sessionEvInfo = ctx.sessionEvInfo ∧ (choices log).filterMap (·.needs?) = [] ∧
    ∀ state new, result = .ok (state, .createState new) → 7 ≤ new.id.rank →
      (choices log).findSome? (·.selection?) = some ctx'.session.selectedServices

theorem sessionSetup_chooses :
    Act.wp (State.feed platform env .sessionSetup .v2gtpMessage) (Chooses ctx) ctx := by
  simp only [State.feed, State.SessionSetup.feed, Act.wp_bind, Act.wp_ite, Feed.wp_pullRequest _ pending]
  simp only [ne_eq, not_true_eq_false, false_implies, not_false_eq_true, true_implies, true_and]
  split
  · simp only [Act.wp_bind, Feed.wp_feedback, Act.wp_modify, Act.wp_get]
    apply wp_chooseSession
    · intro hash old cert joins
      simp [Chooses]
    · intro asked unjoined
      simp only [if_true, Act.wp_bind, Act.wp_get, State.SessionSetup.emplacePauseContext]
      cases ctx.vehicleCertHash <;>
        simp [Chooses, State.SessionSetup.certSessionIdHash, StateId.rank, State.id]
  · simp only [Act.wp_pure]
    apply wp_stopOnSequenceError
    intro pending log failed
    simp [Chooses, choices_sequenceError failed]

theorem serviceSelection_chooses :
    Act.wp (State.feed platform env .serviceSelection .v2gtpMessage) (Chooses ctx) ctx := by
  simp only [State.feed, State.ServiceSelection.feed, Act.wp_bind, Act.wp_ite,
    Feed.wp_pullRequest _ pending]
  simp only [ne_eq, not_true_eq_false, false_implies, not_false_eq_true, true_implies, true_and]
  split
  · refine Act.wp_mono _ _ (answerServiceDetail_aloof ..) ?_
    rintro (e | res) ctx' log ⟨⟨info, silent⟩, stays⟩
    · simpa [Chooses, silent] using info
    · obtain rfl : res = {} := by simpa using stays res rfl
      simpa [Chooses, silent] using info
  · rename_i req
    have ok (unfailed : (handleServiceSelection env req ctx.session).1.responseCode.isFailed = false) :=
      Fsm.handleServiceSelection_ok unfailed
    cases req.selectedVasList <;> simp [Chooses] <;>
      exact fun refused unfailed => absurd (ok unfailed) refused
  · simp [wp_stopOnRequest, Chooses]
  · apply wp_stopOnSequenceError
    intro pending log failed
    simp [Chooses, choices_sequenceError failed]

theorem serviceDiscovery_discovers :
    Act.wp (State.feed platform env .serviceDiscovery .v2gtpMessage)
      (fun result ctx' log => choices log = [] ∧
      ctx'.sessionEvInfo.evTransferLimits = ctx.sessionEvInfo.evTransferLimits ∧
      ctx'.sessionEvInfo.evEnergyServices = ctx.sessionEvInfo.evEnergyServices ++
        (acceptedOf (·.services?) variant log).getD [] ∧
      (acceptedOf (·.services?) variant log = none ∨
        ∃ state, result = .ok (state, .createState .serviceDetail))) ctx := by
  simp only [State.feed, State.ServiceDiscovery.feed, Act.wp_bind, Act.wp_ite,
    Feed.wp_pullRequest _ pending]
  simp only [ne_eq, not_true_eq_false, false_implies, not_false_eq_true, true_implies, true_and]
  split
  · simp [handleServiceDiscovery_reported]
    intro failed
    refine acceptedOf_refused (.serviceDiscovery _) fun ok => ?_
    rw [handleServiceDiscovery_unfailed.mpr (Option.some.inj ok)] at failed
    cases failed
  · simp [wp_stopOnRequest, acceptedOf, Variant.services?]
  · apply wp_stopOnSequenceError
    intro pending log failed
    simp [choices_sequenceError failed, acceptedOf_sequenceError failed]

def TakesLimits (ctx : Context) (variant : Variant) (result : Except Exn (State × Result)) (ctx' : Context)
    (log : List Output) : Prop :=
  choices log = [] ∧ ctx'.sessionEvInfo.evEnergyServices = ctx.sessionEvInfo.evEnergyServices ∧
    ∀ state new, result = .ok (state, .createState new) →
      acceptedOf (·.limits?) variant log = some ctx'.sessionEvInfo.evTransferLimits

theorem acChargeParameterDiscovery_limits (self : State.AcChargeParameterDiscovery) :
    Act.wp (State.feed platform env (.acChargeParameterDiscovery self) .v2gtpMessage)
      (TakesLimits ctx variant) ctx := by
  simp only [State.feed, State.AcChargeParameterDiscovery.feed, Act.wp_bind,
    Feed.wp_pullRequest _ pending]
  split
  · simp [TakesLimits]
    intro unfailed
    exact acceptedOf_answered (.acChargeParameterDiscovery _)
      (congrArg some (handleAcChargeParameterDiscovery_ok unfailed)) _
  · simp [wp_stopOnRequest, TakesLimits]
  · simp only [Act.wp_bind, Act.wp_pure]
    apply wp_stopOnSequenceError
    intro pending log failed
    simp [TakesLimits, choices_sequenceError failed]

theorem dcChargeParameterDiscovery_limits :
    Act.wp (State.feed platform env .dcChargeParameterDiscovery .v2gtpMessage)
      (TakesLimits ctx variant) ctx := by
  simp only [State.feed, State.DcChargeParameterDiscovery.feed, Act.wp_bind, Act.wp_ite,
    Feed.wp_pullRequest _ pending]
  simp only [ne_eq, not_true_eq_false, false_implies, not_false_eq_true, true_implies, true_and]
  split
  · simp [TakesLimits]
    intro unfailed
    exact acceptedOf_answered (.dcChargeParameterDiscovery _)
      (congrArg some (handleDcChargeParameterDiscovery_ok unfailed)) _
  · simp [wp_stopOnRequest, TakesLimits]
  · apply wp_stopOnSequenceError
    intro pending log failed
    simp [TakesLimits, choices_sequenceError failed]

theorem scheduleExchange_needs (self : State.ScheduleExchange) :
    Act.wp (State.feed platform env (.scheduleExchange self) .v2gtpMessage) (fun _ ctx' log =>
      ctx'.sessionEvInfo = ctx.sessionEvInfo ∧
        ((∃ req, variant = .request (.scheduleExchange req) ∧
            choices log = [.charging (.of ctx.session.selectedServices ctx.evseLimits
              ctx.sessionEvInfo.evTransferLimits req ctx.sessionEvInfo.evEnergyServices)]) ∨
          (∀ req, variant ≠ .request (.scheduleExchange req)) ∧ choices log = [])) ctx := by
  simp only [State.feed, State.ScheduleExchange.feed, Act.wp_bind, Feed.wp_pullRequest _ pending]
  split
  · rename_i req
    cases self.firstReqMsg <;>
      simp [-Output.choice?, choices_respond, choices_chargingNeeds, Context.evseLimits]
  · simp [wp_stopOnRequest]
  · rename_i unscheduled _
    simp only [Act.wp_bind, Act.wp_pure]
    apply wp_stopOnSequenceError
    intro pending log failed
    simpa [choices_sequenceError failed] using unscheduled

end Message

end LibIso15118
