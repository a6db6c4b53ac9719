import LibIso15118.Fsm.SessionSetup

set_option autoImplicit false

namespace LibIso15118

open Datatypes Shared

/-- The transitions that the states ask for. -/
def StateId.successors : StateId → List StateId
  | .supportedAppProtocol => [.sessionSetup]
  | .sessionSetup =>
      [.authorizationSetup, .acChargeParameterDiscovery, .dcChargeParameterDiscovery]
  | .authorizationSetup => [.authorization]
  | .authorization => [.serviceDiscovery]
  | .serviceDiscovery => [.serviceDetail]
  | .serviceDetail => [.serviceSelection]
  | .serviceSelection => [.acChargeParameterDiscovery, .dcChargeParameterDiscovery]
  | .acChargeParameterDiscovery => [.scheduleExchange]
  | .dcChargeParameterDiscovery => [.scheduleExchange]
  | .scheduleExchange => [.powerDelivery, .dcCableCheck]
  | .dcCableCheck => [.dcPreCharge]
  | .dcPreCharge => [.powerDelivery]
  | .powerDelivery => [.acChargeLoop, .dcChargeLoop]
  | .acChargeLoop => [.sessionStop]
  | .dcChargeLoop => [.dcWeldingDetection]
  | .dcWeldingDetection => [.sessionStop]
  | .sessionStop => []

def StateId.isChargeLoop : StateId → Bool
  | .acChargeLoop | .dcChargeLoop => true
  | _ => false

theorem StateId.before_acChargeLoop {id : StateId} (next : .acChargeLoop ∈ id.successors) :
    id = .powerDelivery := by
  cases id <;> simp [StateId.successors] at next ⊢

theorem StateId.before_dcChargeLoop {id : StateId} (next : .dcChargeLoop ∈ id.successors) :
    id = .powerDelivery := by
  cases id <;> simp [StateId.successors] at next ⊢

theorem StateId.before_dcWeldingDetection {id : StateId} (next : .dcWeldingDetection ∈ id.successors) :
    id = .dcChargeLoop := by
  cases id <;> simp [StateId.successors] at next ⊢

theorem StateId.before_dcPreCharge {id : StateId} (next : .dcPreCharge ∈ id.successors) :
    id = .dcCableCheck := by
  cases id <;> simp [StateId.successors] at next ⊢

theorem StateId.before_powerDelivery {id : StateId} (next : .powerDelivery ∈ id.successors) :
    id = .scheduleExchange ∨ id = .dcPreCharge := by
  cases id <;> simp [StateId.successors] at next ⊢

def Result.Follows (res : Result) (id : StateId) : Prop :=
  match res.newState with
  | none => res.unhandled = true
  | some new => res.unhandled = false ∧ ∃ next ∈ id.successors, new = next.create

@[mk_iff] structure FeedFrame (state : State) (ctx : Context) (request : Option Variant)
    (result : Except Exn (State × Result)) (ctx' : Context) : Prop where
  request : ctx'.request = request
  sessionId : state.id ≠ .sessionSetup → ctx'.session.id = ctx.session.id
  selected : state.id ≠ .sessionSetup → state.id ≠ .serviceSelection →
    ctx'.session.selectedServices = ctx.session.selectedServices
  pauseCtx : state.id ≠ .sessionSetup → state.id ≠ .dcWeldingDetection → state.id ≠ .sessionStop →
    ctx'.pauseCtx = ctx.pauseCtx
  certHash : ctx'.vehicleCertHash = ctx.vehicleCertHash
  stopped : ctx.sessionStopped = true → ctx'.sessionStopped = true
  paused : ctx.sessionPaused = true → ctx'.sessionPaused = true
  sequence : ctx'.timeouts.deadline .sequence = ctx.timeouts.deadline .sequence
  timeouts : state.id ≠ .authorization → state.id ≠ .scheduleExchange → state.id ≠ .powerDelivery →
    ctx'.timeouts = ctx.timeouts
  next : ∀ state' res, result = .ok (state', res) →
    state'.id = state.id ∧ res.Follows state.id
  stored : ctx'.stored = ctx.stored
  held : ∀ state' res, result = .ok (state', res) → state'.held = state.held

theorem wp_stopOnRequest (platform : Platform) (env : Env) (req : SessionStopRequest) (ctx : Context)
    (post : Except Exn Result → Context → List Output → Prop) :
    Act.wp (stopOnRequest platform env req) post ctx ↔
      post (.ok {})
        { ctx with
          pendingResponse := platform.encode (.sessionStop (handleSessionStop env req ctx.session))
          sessionStopped := true }
        [.respond (.sessionStop (handleSessionStop env req ctx.session))] := by
  simp [stopOnRequest, Platform.stringsFit]

theorem wp_stopOnSequenceError (platform : Platform) (env : Env) (variant : Variant) (ctx : Context)
    (post : Except Exn Result → Context → List Output → Prop)
    (stopped : ∀ pending log,
      (∀ o ∈ log, ∃ res, o = .respond res ∧ res.code? = some ResponseCode.failedSequenceError) →
      post (.ok {}) { ctx with pendingResponse := pending, sessionStopped := true } log) :
    Act.wp (stopOnSequenceError platform env variant) post ctx := by
  simp only [stopOnSequenceError, Act.wp_bind]
  apply wp_sendSequenceError
  · simpa using stopped ctx.pendingResponse [] (by simp)
  · intro res pending failed
    simpa using stopped pending [.respond res] (by simp [failed])

theorem wp_selectAll (schemaId : Option UInt8) (protocols : List SupportedAppProtocol) (ctx : Context)
    (post : Except Exn Unit → Context → List Output → Prop)
    (selected : ∀ result info log, (result = .ok () ∨ result = .error .badOptionalAccess) →
      (∀ o ∈ log, ∃ name, o = .feedback (.selectedProtocol name)) →
      post result { ctx with evInfo := info } log) :
    Act.wp (State.SupportedAppProtocol.selectAll schemaId protocols) post ctx := by
  induction protocols generalizing ctx post with
  | nil =>
      simp only [State.SupportedAppProtocol.selectAll, Act.wp_pure]
      exact selected _ ctx.evInfo [] (.inl rfl) (by simp)
  | cons protocol rest hyp =>
      -- the rest of the loop, once `protocol` has logged what it selected
      have resume (info : EvInformation) (log : List Output)
          (named : ∀ o ∈ log, ∃ name, o = .feedback (.selectedProtocol name)) :
          Act.wp (State.SupportedAppProtocol.selectAll schemaId rest)
            (fun result ctx' log' => post result ctx' (log ++ log')) { ctx with evInfo := info } := by
        apply hyp
        intro result info' log' ok named'
        refine selected result info' (log ++ log') ok ?_
        intro o member
        rcases List.mem_append.mp member with here | there
        · exact named o here
        · exact named' o there
      simp only [State.SupportedAppProtocol.selectAll, State.SupportedAppProtocol.select, Act.wp_bind,
        Act.wp_ite, Act.wp_get, Act.wp_modify, Feed.wp_feedback, Act.wp_pure, List.nil_append]
      refine ⟨fun _ => ⟨fun _ => resume _ _ (by simp), fun _ => ⟨fun _ => resume _ _ (by simp),
        fun _ => ⟨fun _ => ?_, fun _ => resume _ [] (by simp)⟩⟩⟩, fun _ => resume ctx.evInfo [] (by simp)⟩
      split
      · simpa using selected _ _ [] (.inr rfl) (by simp)
      · rw [Feed.wp_feedback]
        exact resume _ _ (by simp)

theorem wp_customVasParameters (env : Env) (service : UInt16) (ctx : Context)
    (post : Except Exn (Option ServiceParameterList) → Context → List Output → Prop)
    (unasked : energyServiceIds.contains service = true → post (.ok none) ctx [])
    (asked : ∀ result internet parking, energyServiceIds.contains service = false →
      post result
        { ctx with
          sessionConfig :=
            { ctx.sessionConfig with
              internetParameterList := internet
              parkingParameterList := parking } }
        [.feedback (.getVasParameters service)]) :
    Act.wp (customVasParameters env service) post ctx := by
  have same := (asked · ctx.sessionConfig.internetParameterList ctx.sessionConfig.parkingParameterList)
  simp only [customVasParameters, Act.wp_bind, Act.wp_ite, Act.wp_pure, Feed.wp_feedback]
  refine ⟨unasked, fun energy => ?_⟩
  have energy : energyServiceIds.contains service = false := by simpa using energy
  split
  · exact same _ energy
  · simp only [Act.wp_ite, Act.wp_bind, Act.wp_modify, Act.wp_pure, Act.wp_throw]
    refine ⟨fun _ => asked _ _ _ energy, fun _ => ⟨fun _ => ⟨fun _ => asked _ _ _ energy,
      fun _ => asked _ _ _ energy⟩, fun _ => same _ energy⟩⟩

section Session

variable (env : Env) (session : Session)

@[simp] theorem handleAuthorizationSetup_id (req : AuthorizationSetupRequest) (cert : Bool)
    (services : List Authorization) :
    (handleAuthorizationSetup env req session cert services).2.id = session.id := by
  simp only [handleAuthorizationSetup]
  split <;> rfl

@[simp] theorem handleAuthorizationSetup_selectedServices (req : AuthorizationSetupRequest)
    (cert : Bool) (services : List Authorization) :
    (handleAuthorizationSetup env req session cert services).2.selectedServices =
      session.selectedServices := by
  simp only [handleAuthorizationSetup]
  split <;> rfl

@[simp] theorem handleServiceDiscovery_id (req : ServiceDiscoveryRequest)
    (energy : List ServiceCategory) (vas : List UInt16) (ev : List ServiceCategory) :
    (handleServiceDiscovery env req session energy vas ev).session.id = session.id := by
  simp only [handleServiceDiscovery]
  split <;> rfl

@[simp] theorem handleServiceDiscovery_selectedServices (req : ServiceDiscoveryRequest)
    (energy : List ServiceCategory) (vas : List UInt16) (ev : List ServiceCategory) :
    (handleServiceDiscovery env req session energy vas ev).session.selectedServices =
      session.selectedServices := by
  simp only [handleServiceDiscovery]
  split <;> rfl

@[simp] theorem handleServiceDetail_id (req : ServiceDetailRequest) (config : SessionConfig)
    (custom : Option ServiceParameterList) :
    (handleServiceDetail env req session config custom).2.id = session.id := by
  simp only [handleServiceDetail]
  repeat' split
  all_goals rfl

@[simp] theorem handleServiceDetail_selectedServices (req : ServiceDetailRequest)
    (config : SessionConfig) (custom : Option ServiceParameterList) :
    (handleServiceDetail env req session config custom).2.selectedServices =
      session.selectedServices := by
  simp only [handleServiceDetail]
  repeat' split
  all_goals rfl

theorem selectVasList_id (list : VasSelectedServiceList) :
    (selectVasList list session).2.id = session.id := by
  induction list generalizing session with
  | nil => rfl
  | cons vas rest hyp =>
      simp only [selectVasList]
      split
      · rw [hyp, Session.selectVasParameters_id]
      · rfl

@[simp] theorem handleServiceSelection_id (req : ServiceSelectionRequest) :
    (handleServiceSelection env req session).2.id = session.id := by
  have kept := selectVasList_id
    (session.selectServiceParameters req.selectedEnergyTransferService.serviceId
      req.selectedEnergyTransferService.parameterSetId) (req.selectedVasList.getD [])
  simp only [handleServiceSelection]
  repeat' split
  all_goals simp_all

end Session


section Message

variable (platform : Platform) (env : Env) (ctx : Context) {variant : Variant}
variable (pending : ctx.request = some variant)
include pending

attribute [local simp] feedFrame_iff Result.Follows State.id State.held Context.stored StateId.successors
  StateId.create Platform.stringsFit

theorem supportedAppProtocol_message_frame :
    Act.wp (State.feed platform env .supportedAppProtocol .v2gtpMessage)
      (fun result ctx' _ => FeedFrame .supportedAppProtocol ctx none result ctx') ctx := by
  simp only [State.feed, State.SupportedAppProtocol.feed, Act.wp_bind, Act.wp_ite, Feed.wp_pullRequest _ pending]
  simp only [ne_eq, not_true_eq_false, false_implies, not_false_eq_true, true_implies, true_and]
  split
  · simp
    intro _
    apply wp_selectAll
    rintro result info log (rfl | rfl) _ <;> simp
  · simp

theorem sessionSetup_message_frame :
    Act.wp (State.feed platform env .sessionSetup .v2gtpMessage)
      (fun result ctx' _ => FeedFrame .sessionSetup ctx none result ctx') ctx := by
  simp only [State.feed, Act.wp_bind]
  by_cases expected : ∃ req, variant = .request (.sessionSetup req)
  · obtain ⟨req, rfl⟩ := expected
    refine Act.wp_mono _ _ (sessionSetup_answer platform env ctx req pending) ?_
    rintro result ctx' log ⟨answer, request, cert, stopped, paused, timeouts, stored⟩
    have follows : ∀ res, result = .ok res → res.Follows .sessionSetup := by
      rintro res rfl
      cases answer with
      | fresh _ _ _ _ _ _ next =>
          obtain rfl : res = _ := by simpa using next
          simp [Result.Follows, StateId.successors, StateId.create]
      | joined _ _ _ _ _ _ _ _ _ next =>
          obtain rfl : res = _ := by simpa using next
          unfold joinedResult
          repeat' split
          all_goals simp [Result.Follows, StateId.successors, StateId.create]
    have framed (result' : Except Exn (State × Result))
        (next : ∀ state' res, result' = .ok (state', res) → state' = .sessionSetup ∧ result = .ok res) :
        FeedFrame .sessionSetup ctx none result' ctx' :=
      { request
        sessionId := fun later => absurd rfl later
        selected := fun later => absurd rfl later
        pauseCtx := fun later => absurd rfl later
        certHash := cert
        stopped := stopped.trans
        paused := paused.trans
        sequence := by rw [timeouts]
        timeouts := fun _ _ _ => timeouts
        next := by
          intro state' res returned
          obtain ⟨rfl, answered⟩ := next state' res returned
          exact ⟨rfl, follows res answered⟩
        stored
        held := by
          intro state' res returned
          rw [(next state' res returned).1] }
    rcases result with e | res
    · exact framed _ (by simp)
    · exact framed _ (by rintro _ _ ⟨⟩; exact ⟨rfl, rfl⟩)
  · simp only [State.SessionSetup.feed, Act.wp_bind, Act.wp_ite, Feed.wp_pullRequest _ pending]
    simp only [ne_eq, not_true_eq_false, false_implies, not_false_eq_true, true_implies, true_and]
    split
    · exact absurd ⟨_, rfl⟩ expected
    · apply wp_stopOnSequenceError
      simp

theorem authorizationSetup_message_frame :
    Act.wp (State.feed platform env .authorizationSetup .v2gtpMessage)
      (fun result ctx' _ => FeedFrame .authorizationSetup ctx none result ctx') ctx := by
  simp only [State.feed, State.AuthorizationSetup.feed, Act.wp_bind, Act.wp_ite, Feed.wp_pullRequest _ pending]
  simp only [ne_eq, not_true_eq_false, false_implies, not_false_eq_true, true_implies, true_and]
  split
  · simp
  · simp [wp_stopOnRequest]
  · apply wp_stopOnSequenceError
    simp

theorem authorization_message_frame (self : State.Authorization) :
    Act.wp (State.feed platform env (.authorization self) .v2gtpMessage)
      (fun result ctx' _ => FeedFrame (.authorization self) ctx none result ctx') ctx := by
  simp only [State.feed, State.Authorization.feed, Act.wp_bind, Feed.wp_pullRequest _ pending]
  split
  · simp
  · simp [wp_stopOnRequest]
  · simp only [Act.wp_bind, Act.wp_pure]
    apply wp_stopOnSequenceError
    simp

theorem serviceDiscovery_message_frame :
    Act.wp (State.feed platform env .serviceDiscovery .v2gtpMessage)
      (fun result ctx' _ => FeedFrame .serviceDiscovery ctx none result ctx') ctx := by
  simp only [State.feed, State.ServiceDiscovery.feed, Act.wp_bind, Act.wp_ite, Feed.wp_pullRequest _ pending]
  simp only [ne_eq, not_true_eq_false, false_implies, not_false_eq_true, true_implies, true_and]
  split
  · simp
  · simp [wp_stopOnRequest]
  · apply wp_stopOnSequenceError
    simp

theorem serviceDetail_message_frame :
    Act.wp (State.feed platform env .serviceDetail .v2gtpMessage)
      (fun result ctx' _ => FeedFrame .serviceDetail ctx none result ctx') ctx := by
  simp only [State.feed, State.ServiceDetail.feed, Act.wp_bind, Act.wp_ite, Feed.wp_pullRequest _ pending]
  simp only [ne_eq, not_true_eq_false, false_implies, not_false_eq_true, true_implies, true_and]
  split
  · simp only [answerServiceDetail, Act.wp_bind]
    apply wp_customVasParameters
    · simp
    · rintro (e | custom) internet parking _ <;> simp
  · simp [wp_stopOnRequest]
  · apply wp_stopOnSequenceError
    simp

theorem serviceSelection_message_frame :
    Act.wp (State.feed platform env .serviceSelection .v2gtpMessage)
      (fun result ctx' _ => FeedFrame .serviceSelection ctx none result ctx') ctx := by
  simp only [State.feed, State.ServiceSelection.feed, Act.wp_bind, Act.wp_ite, Feed.wp_pullRequest _ pending]
  simp only [ne_eq, not_true_eq_false, false_implies, not_false_eq_true, true_implies, true_and]
  split
  · simp only [answerServiceDetail, Act.wp_bind]
    apply wp_customVasParameters
    · simp
    · rintro (e | custom) internet parking _ <;> simp
  · simp
  · simp [wp_stopOnRequest]
  · apply wp_stopOnSequenceError
    simp

theorem acChargeParameterDiscovery_message_frame (self : State.AcChargeParameterDiscovery) :
    Act.wp (State.feed platform env (.acChargeParameterDiscovery self) .v2gtpMessage)
      (fun result ctx' _ => FeedFrame (.acChargeParameterDiscovery self) ctx none result ctx') ctx := by
  simp only [State.feed, State.AcChargeParameterDiscovery.feed, Act.wp_bind, Feed.wp_pullRequest _ pending]
  split
  · simp
  · simp [wp_stopOnRequest]
  · simp only [Act.wp_bind, Act.wp_pure]
    apply wp_stopOnSequenceError
    simp

theorem dcChargeParameterDiscovery_message_frame :
    Act.wp (State.feed platform env .dcChargeParameterDiscovery .v2gtpMessage)
      (fun result ctx' _ => FeedFrame .dcChargeParameterDiscovery ctx none result ctx') ctx := by
  simp only [State.feed, State.DcChargeParameterDiscovery.feed, Act.wp_bind, Act.wp_ite,
    Feed.wp_pullRequest _ pending]
  simp only [ne_eq, not_true_eq_false, false_implies, not_false_eq_true, true_implies, true_and]
  split
  · simp
  · simp [wp_stopOnRequest]
  · apply wp_stopOnSequenceError
    simp

theorem scheduleExchange_message_frame (self : State.ScheduleExchange) :
    Act.wp (State.feed platform env (.scheduleExchange self) .v2gtpMessage)
      (fun result ctx' _ => FeedFrame (.scheduleExchange self) ctx none result ctx') ctx := by
  simp only [State.feed, State.ScheduleExchange.feed, Act.wp_bind, Feed.wp_pullRequest _ pending]
  split
  · simp
  · simp [wp_stopOnRequest]
  · simp only [Act.wp_bind, Act.wp_pure]
    apply wp_stopOnSequenceError
    simp

theorem dcCableCheck_message_frame (self : State.DcCableCheck) :
    Act.wp (State.feed platform env (.dcCableCheck self) .v2gtpMessage)
      (fun result ctx' _ => FeedFrame (.dcCableCheck self) ctx none result ctx') ctx := by
  simp only [State.feed, State.DcCableCheck.feed, Act.wp_bind, Feed.wp_pullRequest _ pending]
  split
  · simp
  · simp [wp_stopOnRequest]
  · simp only [Act.wp_bind, Act.wp_pure]
    apply wp_stopOnSequenceError
    simp

theorem dcPreCharge_message_frame (self : State.DcPreCharge) :
    Act.wp (State.feed platform env (.dcPreCharge self) .v2gtpMessage)
      (fun result ctx' _ => FeedFrame (.dcPreCharge self) ctx none result ctx') ctx := by
  simp only [State.feed, State.DcPreCharge.feed, Act.wp_bind, Feed.wp_pullRequest _ pending]
  split
  · simp
  · simp [wp_stopOnRequest]
  · simp only [Act.wp_bind, Act.wp_pure]
    apply wp_stopOnSequenceError
    simp

theorem powerDelivery_message_frame (self : State.PowerDelivery) :
    Act.wp (State.feed platform env (.powerDelivery self) .v2gtpMessage)
      (fun result ctx' _ => FeedFrame (.powerDelivery self) ctx none result ctx') ctx := by
  simp only [State.feed, State.PowerDelivery.feed, Act.wp_bind, Feed.wp_pullRequest _ pending]
  split
  · simp [State.PowerDelivery.feedPreCharge]
  · simp [State.PowerDelivery.feedPowerDelivery]
  · simp only [Act.wp_bind, Act.wp_pure]
    apply wp_stopOnSequenceError
    simp

theorem acChargeLoop_message_frame (self : State.AcChargeLoop) :
    Act.wp (State.feed platform env (.acChargeLoop self) .v2gtpMessage)
      (fun result ctx' _ => FeedFrame (.acChargeLoop self) ctx none result ctx') ctx := by
  simp only [State.feed, State.AcChargeLoop.feed, Act.wp_bind, Feed.wp_pullRequest _ pending]
  split
  · simp
  · simp
  · simp only [Act.wp_bind, Act.wp_pure]
    apply wp_stopOnSequenceError
    simp

theorem dcChargeLoop_message_frame (self : State.DcChargeLoop) :
    Act.wp (State.feed platform env (.dcChargeLoop self) .v2gtpMessage)
      (fun result ctx' _ => FeedFrame (.dcChargeLoop self) ctx none result ctx') ctx := by
  simp only [State.feed, State.DcChargeLoop.feed, Act.wp_bind, Feed.wp_pullRequest _ pending]
  split
  · simp
  · simp
  · simp only [Act.wp_bind, Act.wp_pure]
    apply wp_stopOnSequenceError
    simp

theorem dcWeldingDetection_message_frame (self : State.DcWeldingDetection) :
    Act.wp (State.feed platform env (.dcWeldingDetection self) .v2gtpMessage)
      (fun result ctx' _ => FeedFrame (.dcWeldingDetection self) ctx none result ctx') ctx := by
  simp only [State.feed, State.DcWeldingDetection.feed, Act.wp_bind, Feed.wp_pullRequest _ pending]
  split
  · simp
  · rename_i req
    cases req.chargingSession <;>
      simp [endSession]
  · simp only [Act.wp_bind, Act.wp_pure]
    apply wp_stopOnSequenceError
    simp

theorem sessionStop_message_frame :
    Act.wp (State.feed platform env .sessionStop .v2gtpMessage)
      (fun result ctx' _ => FeedFrame .sessionStop ctx none result ctx') ctx := by
  simp only [State.feed, State.SessionStop.feed, Act.wp_bind, Act.wp_ite, Feed.wp_pullRequest _ pending]
  simp only [ne_eq, not_true_eq_false, false_implies, not_false_eq_true, true_implies, true_and]
  split
  · rename_i req
    cases req.chargingSession <;>
      simp [endSession]
  · apply wp_stopOnSequenceError
    simp

theorem State.message_frame (state : State) :
    Act.wp (state.feed platform env .v2gtpMessage)
      (fun result ctx' _ => FeedFrame state ctx none result ctx') ctx := by
  cases state with
  | supportedAppProtocol => exact supportedAppProtocol_message_frame platform env ctx pending
  | sessionSetup => exact sessionSetup_message_frame platform env ctx pending
  | authorizationSetup => exact authorizationSetup_message_frame platform env ctx pending
  | authorization self => exact authorization_message_frame platform env ctx pending self
  | serviceDiscovery => exact serviceDiscovery_message_frame platform env ctx pending
  | serviceDetail => exact serviceDetail_message_frame platform env ctx pending
  | serviceSelection => exact serviceSelection_message_frame platform env ctx pending
  | acChargeParameterDiscovery self =>
      exact acChargeParameterDiscovery_message_frame platform env ctx pending self
  | dcChargeParameterDiscovery =>
      exact dcChargeParameterDiscovery_message_frame platform env ctx pending
  | scheduleExchange self => exact scheduleExchange_message_frame platform env ctx pending self
  | dcCableCheck self => exact dcCableCheck_message_frame platform env ctx pending self
  | dcPreCharge self => exact dcPreCharge_message_frame platform env ctx pending self
  | powerDelivery self => exact powerDelivery_message_frame platform env ctx pending self
  | acChargeLoop self => exact acChargeLoop_message_frame platform env ctx pending self
  | dcChargeLoop self => exact dcChargeLoop_message_frame platform env ctx pending self
  | dcWeldingDetection self => exact dcWeldingDetection_message_frame platform env ctx pending self
  | sessionStop => exact sessionStop_message_frame platform env ctx pending

end Message

section Control

variable (platform : Platform) (env : Env) (ctx : Context)

def State.afterControl (state : State) (event : ControlEvent) : State :=
  match state, event with
  | .authorization self, .authorizationResponse authorized =>
      .authorization { self with
        authorizationStatus := if authorized then .accepted else .rejected }
  | .acChargeParameterDiscovery self, .acPresentPower power =>
      .acChargeParameterDiscovery { self with presentPowers := power }
  | .scheduleExchange self, .updateDynamicModeParameters parameters =>
      .scheduleExchange { self with dynamicParameters := parameters }
  | .dcCableCheck self, .cableCheckFinished success =>
      .dcCableCheck { self with cableCheckDone := success }
  | .dcPreCharge self, .presentVoltageCurrent voltage _ =>
      .dcPreCharge { self with presentVoltage := voltage }
  | .powerDelivery self, .presentVoltageCurrent voltage _ =>
      .powerDelivery { self with presentVoltage := voltage }
  | .powerDelivery self, .closedContactor _ => .powerDelivery { self with acConnectorClosed := true }
  | .acChargeLoop self, event => .acChargeLoop (self.feedControl event)
  | .dcChargeLoop self, event => .dcChargeLoop (self.feedControl event)
  | .dcWeldingDetection self, .presentVoltageCurrent voltage _ =>
      .dcWeldingDetection { self with presentVoltage := voltage }
  | state, _ => state

@[simp] theorem State.afterControl_id (state : State) (event : ControlEvent) :
    (state.afterControl event).id = state.id := by
  cases state <;> cases event <;> rfl

theorem State.eq_supportedAppProtocol {state : State} (negotiates : state.id = .supportedAppProtocol) :
    state = .supportedAppProtocol := by
  cases state <;> simp_all [State.id]

theorem State.eq_sessionSetup {state : State} (setup : state.id = .sessionSetup) :
    state = .sessionSetup := by
  cases state <;> simp_all [State.id]

theorem State.eq_powerDelivery {state : State} (delivery : state.id = .powerDelivery) :
    ∃ self, state = .powerDelivery self := by
  cases state <;> simp_all [State.id]

/-- A state that waits for the contactor with a saved request, and the event that resumes it. -/
def State.Resumes (state : State) (event : ControlEvent) : Prop :=
  ∃ self req closed, state = .powerDelivery self ∧ self.previousReq = some req ∧
    event = .closedContactor closed

theorem State.control_eq {event : ControlEvent} (current : ctx.currentControlEvent = some event)
    (state : State) (other : state.id ≠ .powerDelivery) :
    state.feed platform env .controlMessage ctx = ⟨.ok (state.afterControl event, {}), ctx, []⟩ := by
  obtain ⟨⟩ := ctx
  obtain rfl : _ = some event := current
  cases state <;> first | exact absurd rfl other | cases event <;> rfl

theorem State.wp_control {event : ControlEvent} (current : ctx.currentControlEvent = some event)
    (state : State) (quiet : ¬state.Resumes event)
    (post : Except Exn (State × Result) → Context → List Output → Prop)
    (kept : ∀ timeouts, (timeouts = ctx.timeouts ∨ state.id = .powerDelivery ∧
        (∃ closed, event = .closedContactor closed) ∧
        timeouts = ctx.timeouts.stopTimeout .contactor) →
      post (.ok (state.afterControl event, {})) { ctx with timeouts } []) :
    Act.wp (state.feed platform env .controlMessage) post ctx := by
  -- A control event changes member variables only, and stops the CONTACTOR timer when it is a
  -- `ClosedContactor` in `PowerDelivery`; a deferred request is the one exception.
  have same : post (.ok (state.afterControl event, {})) ctx [] := kept ctx.timeouts (.inl rfl)
  by_cases delivery : state.id = .powerDelivery
  · obtain ⟨self, rfl⟩ := State.eq_powerDelivery delivery
    simp only [State.feed, State.PowerDelivery.feed, State.PowerDelivery.feedControl, Act.wp_bind,
      Act.wp_get, current]
    cases event
    case closedContactor closed =>
      have none : self.previousReq = none := by
        by_contra some
        obtain ⟨req, saved⟩ := Option.ne_none_iff_exists'.mp some
        exact quiet ⟨self, req, closed, rfl, saved, rfl⟩
      simpa [none, State.afterControl] using kept _ (.inr ⟨delivery, ⟨closed, rfl⟩, rfl⟩)
    all_goals exact same
  · rw [Act.wp, State.control_eq platform env ctx current state delivery]
    exact same

def State.afterTimeout (state : State) (type : TimeoutType) : State :=
  match state with
  | .authorization self =>
      if type = .ongoing then .authorization { self with timeoutOngoingReached := true }
      else .authorization self
  | .scheduleExchange self =>
      if type = .ongoing then .scheduleExchange { self with timeoutOngoingReached := true }
      else .scheduleExchange self
  | state => state

@[simp] theorem State.afterTimeout_id (state : State) (type : TimeoutType) :
    (state.afterTimeout type).id = state.id := by
  cases state <;> cases type <;> rfl

theorem State.timeout_eq {type : TimeoutType} (current : ctx.currentTimeout = some type)
    (state : State) (other : state.id ≠ .powerDelivery ∨ type ≠ .contactor) :
    state.feed platform env .timeout ctx = ⟨.ok (state.afterTimeout type, {}), ctx, []⟩ := by
  obtain ⟨⟩ := ctx
  obtain rfl : _ = some type := current
  cases state <;> cases type <;> first | rfl | simp [State.id] at other

end Control

end LibIso15118
