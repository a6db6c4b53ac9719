import LibIso15118.Fsm.Accepts

set_option autoImplicit false

namespace LibIso15118

open Datatypes Shared

def Output.signal? : Output → Option Signal
  | .feedback (.signal s) => some s
  | _ => none

def signals (log : List Output) : List Signal := log.filterMap Output.signal?

section Signals

variable (log log' : List Output)

@[simp] theorem signals_nil : signals [] = [] := rfl

@[simp] theorem signals_append : signals (log ++ log') = signals log ++ signals log' :=
  List.filterMap_append

@[simp] theorem signals_cons (o : Output) : signals (o :: log) = o.signal?.toList ++ signals log := by
  unfold signals
  cases signal : o.signal? <;> simp [signal]

theorem mem_signals {s : Signal} : s ∈ signals log ↔ .feedback (.signal s) ∈ log := by
  simp only [signals, List.mem_filterMap]
  constructor
  · rintro ⟨o, member, sent⟩
    unfold Output.signal? at sent
    split at sent
    · simpa using Option.some.inj sent ▸ member
    · exact absurd sent (by simp)
  · exact fun member => ⟨_, member, rfl⟩

@[simp] theorem signals_digests (asked : List (Vector UInt8 72)) :
    signals (asked.map .digest) = [] := by
  induction asked with
  | nil => rfl
  | cons input rest hyp => simp [hyp, Output.signal?]

end Signals

def Request.Answer (env : Env) (ctx : Context) (state : State) : Request → Response → Prop
  | .supportedAppProtocol req, out =>
      out = .supportedAppProtocol (handleSupportedAppProtocol req ctx.sessionConfig.customProtocol)
  | .sessionSetup _, out =>
      ∃ session isNew, out =
        .sessionSetup (handleSessionSetup env session ctx.sessionConfig.evseId isNew)
  | .authorizationSetup req, out =>
      out = .authorizationSetup (handleAuthorizationSetup env req ctx.session
        ctx.sessionConfig.certInstallService ctx.sessionConfig.authorizationServices).1
  | .authorization req, out =>
      ∃ status reached, out = .authorization (handleAuthorization env req ctx.session status reached)
  | .serviceDiscovery req, out =>
      out = .serviceDiscovery (handleServiceDiscovery env req ctx.session
        ctx.sessionConfig.supportedEnergyTransferServices ctx.sessionConfig.supportedVasServices
        ctx.sessionEvInfo.evEnergyServices).response
  | .serviceDetail req, out =>
      ∃ config custom, out = .serviceDetail (handleServiceDetail env req ctx.session config custom).1
  | .serviceSelection req, out => out = .serviceSelection (handleServiceSelection env req ctx.session).1
  | .acChargeParameterDiscovery req, out =>
      ∃ self, state = .acChargeParameterDiscovery self ∧
        out = .acChargeParameterDiscovery (handleAcChargeParameterDiscovery env req ctx.session
          ctx.sessionConfig.acLimits self.presentPowers ctx.sessionConfig.acDerControlProvider).response
  | .dcChargeParameterDiscovery req, out =>
      out = .dcChargeParameterDiscovery
        (handleDcChargeParameterDiscovery env req ctx.session ctx.sessionConfig.powersupplyLimits)
  | .scheduleExchange req, out =>
      ∃ self, state = .scheduleExchange self ∧ out = .scheduleExchange
        (handleScheduleExchange env req ctx.session (State.ScheduleExchange.maxChargePower ctx)
          self.dynamicParameters self.timeoutOngoingReached)
  | .dcCableCheck req, out => ∃ done, out = .dcCableCheck (handleDcCableCheck env req ctx.session done)
  | .dcPreCharge req, out =>
      ∃ voltage, out = .dcPreCharge (handleDcPreCharge env req ctx.session voltage)
  | .powerDelivery req, out => out = .powerDelivery (handlePowerDelivery env req ctx.session false)
  | .acChargeLoop req, out =>
      ∃ self, state = .acChargeLoop self ∧ out = .acChargeLoop (handleAcChargeLoop env req ctx.session self
        ctx.sessionConfig.acLimits ctx.sessionConfig.acDerControlProvider).response
  | .dcChargeLoop req, out =>
      ∃ self, state = .dcChargeLoop self ∧ out = .dcChargeLoop
        (handleDcChargeLoop env req ctx.session self ctx.sessionConfig.dcLimits)
  | .dcWeldingDetection req, out =>
      ∃ voltage, out = .dcWeldingDetection (handleDcWeldingDetection env req ctx.session voltage)
  | .sessionStop req, out => out = .sessionStop (handleSessionStop env req ctx.session)

def State.movesOn (platform : Platform) (ctx : Context) : State → Request → Bool
  | .sessionSetup, .sessionSetup req =>
      (joinedPauseContext platform ctx.vehicleCertHash ctx.pauseCtx req.header.sessionId).all
        PauseContext.charges
  | _, .sessionStop _ => false
  | .authorization self, _ => self.authorizationStatus = .accepted
  | .serviceSelection, .serviceDetail _ => false
  | .scheduleExchange _, _ => ctx.session.charges
  | .dcCableCheck self, _ => self.cableCheckDone
  | .powerDelivery self, .powerDelivery req =>
      !(ctx.session.isAcCharger && !self.acConnectorClosed && req.chargeProgress = .start) &&
        ctx.session.charges
  | .powerDelivery _, _ => false
  | .acChargeLoop _, .powerDelivery req => req.chargeProgress = .stop
  | .dcChargeLoop _, .powerDelivery req => req.chargeProgress = .stop
  | .acChargeLoop _, _ => false
  | .dcChargeLoop _, _ => false
  | .dcWeldingDetection _, .dcWeldingDetection req => req.processing ≠ .ongoing
  | _, _ => true

def State.signals : State → Request → List Signal
  | .authorizationSetup, .authorizationSetup _ => [.requireAuthEim]
  | .dcCableCheck self, .dcCableCheck _ =>
      if self.cableCheckInitiated then [] else [.startCableCheck]
  | .dcPreCharge self, .dcPreCharge _ => if self.preChargeInitiated then [] else [.preChargeStarted]
  | .powerDelivery _, .powerDelivery _ => [.setupFinished, .acCloseContactor]
  | .acChargeLoop _, .powerDelivery _ => [.chargeLoopFinished, .acOpenContactor]
  | .dcChargeLoop _, .powerDelivery _ => [.chargeLoopFinished, .dcOpenContactor]
  | .acChargeLoop _, .acChargeLoop _ => [.chargeLoopStarted]
  | .dcChargeLoop _, .dcChargeLoop _ => [.chargeLoopStarted]
  | _, _ => []

def StateId.looksAway : StateId → Request → Bool
  | .supportedAppProtocol, _ => true
  | .dcWeldingDetection, .sessionStop _ => true
  | .sessionStop, .sessionStop _ => true
  | _, _ => false

def StateId.fits : StateId → Session → Bool
  | .acChargeParameterDiscovery, session | .acChargeLoop, session => session.isAcCharger
  | .dcChargeParameterDiscovery, session | .dcCableCheck, session | .dcPreCharge, session
  | .dcChargeLoop, session | .dcWeldingDetection, session => session.isDcCharger
  | _, _ => true

def Exchanged (platform : Platform) (ctx ctx' : Context) (log : List Output) : Prop :=
  responses log = [] ∧ ctx'.pendingResponse = ctx.pendingResponse ∨
    ∃ out, responses log = [out] ∧ ctx'.pendingResponse = platform.encode out

structure Halted (state : State) (ctx : Context) (result : Except Exn (State × Result))
    (ctx' : Context) : Prop where
  stays : ∃ state', result = .ok (state', {}) ∧ state'.id = state.id
  stopped : ctx'.sessionStopped = true
  paused : ctx'.sessionPaused = ctx.sessionPaused
  pauseCtx : ctx'.pauseCtx = ctx.pauseCtx

structure GoesOn (movesOn : Bool) (ctx : Context) (result : Except Exn (State × Result))
    (ctx' : Context) : Prop where
  moves : movesOn = true → ctx'.sessionStopped = ctx.sessionStopped ∧
    ∀ state res, result = .ok (state, res) → res.unhandled = false
  stays : movesOn = false → ∃ state, result = .ok (state, {})

/-- A request that `PowerDelivery` keeps until the contactor reports. -/
def State.Defers (session : Session) : State → Request → Prop
  | .powerDelivery self, .powerDelivery req => self.Defers req session
  | _, _ => False

structure Branch (platform : Platform) (env : Env) (state : State) (req : Request) (ctx : Context)
    (result : Except Exn (State × Result)) (ctx' : Context) (log : List Output) : Prop where
  answer : ∀ out ∈ responses log, req.Answer env ctx state out
  failed : state.id.looksAway req = false → ∀ out ∈ responses log, out.isFailed = true →
    Halted state ctx result ctx'
  fine : ∀ out ∈ responses log, out.isFailed = false →
    GoesOn (state.movesOn platform ctx req) ctx result ctx'
  fits : ∀ state' new, result = .ok (state', .createState new) →
    state.id.fits ctx.session = true → new.id.fits ctx'.session = true
  signals : (signals log).Sublist (state.signals req)
  exchanged : Exchanged platform ctx ctx' log
  silent : responses log = [] → (∃ e, result = .error e) ∨
    state.Defers ctx.session req ∧ ∃ state', result = .ok (state', {})

section Leaves

variable {platform : Platform} {env : Env} {state : State} {req : Request} {ctx : Context}
  {state' next : State} {ctx' : Context} {log : List Output} {out : Response}

theorem Branch.refused (sent : responses log = [out])
    (held : ctx'.pendingResponse = platform.encode out) (answer : req.Answer env ctx state out)
    (failed : out.isFailed = true) (same : state'.id = state.id) (stopped : ctx'.sessionStopped = true)
    (paused : ctx'.sessionPaused = ctx.sessionPaused) (pauseCtx : ctx'.pauseCtx = ctx.pauseCtx)
    (silent : (LibIso15118.signals log).Sublist (state.signals req)) :
    Branch platform env state req ctx (.ok (state', {})) ctx' log where
  answer := by simpa [sent] using answer
  failed _ _ _ _ := ⟨⟨state', rfl, same⟩, stopped, paused, pauseCtx⟩
  fine := by simp [sent, failed]
  fits := by rintro _ _ ⟨⟩
  signals := silent
  exchanged := .inr ⟨out, sent, held⟩
  silent := by simp [sent]

theorem Branch.stayed (sent : responses log = [out])
    (held : ctx'.pendingResponse = platform.encode out) (answer : req.Answer env ctx state out)
    (fine : out.isFailed = false) (stays : state.movesOn platform ctx req = false)
    (silent : (LibIso15118.signals log).Sublist (state.signals req)) :
    Branch platform env state req ctx (.ok (state', {})) ctx' log where
  answer := by simpa [sent] using answer
  failed := by simp [sent, fine]
  fine _ _ _ := ⟨by simp [stays], fun _ => ⟨state', rfl⟩⟩
  fits := by rintro _ _ ⟨⟩
  signals := silent
  exchanged := .inr ⟨out, sent, held⟩
  silent := by simp [sent]

theorem Branch.moved (sent : responses log = [out])
    (held : ctx'.pendingResponse = platform.encode out) (answer : req.Answer env ctx state out)
    (fine : out.isFailed = false) (moves : state.movesOn platform ctx req = true)
    (running : ctx'.sessionStopped = ctx.sessionStopped)
    (fits : state.id.fits ctx.session = true → next.id.fits ctx'.session = true)
    (silent : (LibIso15118.signals log).Sublist (state.signals req)) :
    Branch platform env state req ctx (.ok (state', .createState next)) ctx' log where
  answer := by simpa [sent] using answer
  failed := by simp [sent, fine]
  fine _ _ _ := ⟨fun _ => ⟨running, by simp⟩, by simp [moves]⟩
  fits := by rintro _ _ ⟨⟩; exact fits
  signals := silent
  exchanged := .inr ⟨out, sent, held⟩
  silent := by simp [sent]

theorem Branch.unanswered {result : Except Exn (State × Result)} (unsent : responses log = [])
    (held : ctx'.pendingResponse = ctx.pendingResponse)
    (why : (∃ e, result = .error e) ∨ state.Defers ctx.session req ∧ ∃ state', result = .ok (state', {}))
    (silent : (LibIso15118.signals log).Sublist (state.signals req)) :
    Branch platform env state req ctx result ctx' log where
  answer := by simp [unsent]
  failed := by simp [unsent]
  fine := by simp [unsent]
  fits := by
    rcases why with ⟨_, rfl⟩ | ⟨_, _, rfl⟩
    · rintro _ _ ⟨⟩
    · rintro _ _ ⟨⟩
  signals := silent
  exchanged := .inl ⟨unsent, held⟩
  silent _ := why

end Leaves

section Handlers

variable {env : Env}

theorem selectVasList_selectedServices (list : VasSelectedServiceList) (session : Session) :
    (selectVasList list session).2.selectedServices = session.selectedServices := by
  induction list generalizing session with
  | nil => rfl
  | cons vas rest hyp =>
      simp only [selectVasList]
      split
      · rw [hyp, Session.selectVasParameters_selectedServices]
      · rfl

theorem Session.charges_congr {session session' : Session}
    (same : session'.selectedServices = session.selectedServices) : session'.charges = session.charges := by
  simp only [charges, isAcCharger_congr same, isDcCharger_congr same]

theorem Session.selectServiceParameters_charges {session : Session} {service : ServiceCategory}
    {id : UInt16} (found : session.findEnergyParameterSetId service id = true) :
    (session.selectServiceParameters service id).charges = true := by
  simp only [findEnergyParameterSetId, Table.contains] at found
  simp only [selectServiceParameters, selectableParameters]
  repeat' split at found
  all_goals
    first
      | exact absurd found Bool.false_ne_true
      | obtain ⟨parameters, offered⟩ := Option.isSome_iff_exists.mp found
        subst_vars
        simp [offered]
        rfl

theorem handleServiceSelection_charges {req : ServiceSelectionRequest} {session : Session}
    (fine : (handleServiceSelection env req session).1.responseCode.isFailed = false) :
    (handleServiceSelection env req session).2.charges = true := by
  have kept := selectVasList_selectedServices (req.selectedVasList.getD [])
    (session.selectServiceParameters req.selectedEnergyTransferService.serviceId
      req.selectedEnergyTransferService.parameterSetId)
  revert fine
  simp only [handleServiceSelection]
  split_ifs with foreign unoffered vas unknown der
  all_goals try exact fun fine => Bool.noConfusion fine
  split
  · exact fun fine => Bool.noConfusion fine
  · rename_i session' selected
    intro _
    rw [selected] at kept
    rw [Session.charges_congr kept]
    exact Session.selectServiceParameters_charges (by simpa using unknown)

theorem handleScheduleExchange_finished (req : ScheduleExchangeRequest) (session : Session)
    (power : RationalNumber) (parameters : UpdateDynamicModeParameters) (reached : Bool) :
    (handleScheduleExchange env req session power parameters reached).processing = .finished := by
  simp only [handleScheduleExchange]
  repeat' split
  all_goals rfl

end Handlers

section Message

variable (platform : Platform) (env : Env) (ctx : Context)

theorem supportedAppProtocol_branch (req : SupportedAppProtocolRequest)
    (pending : ctx.request = some (.request (.supportedAppProtocol req))) :
    Act.wp (State.feed platform env .supportedAppProtocol .v2gtpMessage)
      (Branch platform env .supportedAppProtocol (.supportedAppProtocol req) ctx) ctx := by
  simp only [State.feed, State.SupportedAppProtocol.feed, Act.wp_bind, Act.wp_ite,
    Feed.wp_pullRequest _ pending]
  simp only [Act.wp_get, Act.wp_modify, Act.wp_pure, Feed.wp_respond, Platform.stringsFit, ne_eq,
    not_true_eq_false, not_false_eq_true, true_implies, reduceCtorEq, false_implies, true_and, and_true]
  refine ⟨fun failed => ?_, fun fine => ?_⟩
  · exact
      { answer := by simp [Output.response?, Request.Answer]
        failed := by simp [State.id, StateId.looksAway]
        fine := by simp [Output.response?, Response.isFailed, failed]
        fits := by rintro _ _ ⟨⟩
        signals := List.nil_sublist _
        exchanged := .inr ⟨_, rfl, rfl⟩
        silent := by simp [Output.response?] }
  · apply wp_selectAll
    intro result info log _ named
    have unsent : responses log = [] := by
      rw [List.eq_nil_iff_forall_not_mem]
      intro out member
      obtain ⟨_, ⟨⟩⟩ := named _ ((mem_responses log).mp member)
    have silent : LibIso15118.signals log = [] := by
      rw [List.eq_nil_iff_forall_not_mem]
      intro s member
      obtain ⟨_, ⟨⟩⟩ := named _ ((mem_signals log).mp member)
    cases result <;>
      exact
        { answer := by simp [Output.response?, Request.Answer, unsent]
          failed := by simp [State.id, StateId.looksAway]
          fine := fun _ _ _ => ⟨fun _ => ⟨rfl, by simp⟩, by simp [State.movesOn]⟩
          fits := by rintro _ _ ⟨⟩ _ <;> rfl
          signals := by simp [silent, Output.signal?]
          exchanged := .inr ⟨_, by simp [Output.response?, unsent], rfl⟩
          silent := by simp [Output.response?] }

theorem sessionSetup_branch (req : SessionSetupRequest)
    (pending : ctx.request = some (.request (.sessionSetup req))) :
    Act.wp (State.feed platform env .sessionSetup .v2gtpMessage)
      (Branch platform env .sessionSetup (.sessionSetup req) ctx) ctx := by
  have fine (session : Session) (isNew : Bool) : Response.isFailed
      (.sessionSetup (handleSessionSetup env session ctx.sessionConfig.evseId isNew)) = false := by
    cases isNew <;> rfl
  simp only [State.feed, State.SessionSetup.feed, Act.wp_bind, Act.wp_ite, Feed.wp_pullRequest _ pending]
  simp only [ne_eq, not_true_eq_false, false_implies, not_false_eq_true, true_implies, true_and,
    Feed.wp_feedback, Act.wp_modify, Act.wp_get]
  apply wp_chooseSession
  · intro hash old cert joins
    have moves : State.sessionSetup.movesOn platform ctx (.sessionSetup req) = old.charges := by
      simp only at joins
      simp [State.movesOn, joins]
    simp only [Feed.wp_respond, Act.wp_pure, Bool.false_eq_true, false_implies, not_false_eq_true,
      true_implies, true_and, Bool.not_eq_true]
    refine ⟨fun _ => ⟨fun ac => ?_, fun ac => ⟨fun dc => ?_, fun dc => ?_⟩⟩, fun _ => ?_⟩
    · exact .moved rfl rfl ⟨_, _, rfl⟩ (fine _ _)
        (by simp [moves, PauseContext.charges, Session.charges, ac]) rfl (fun _ => ac) (List.nil_sublist _)
    · exact .moved rfl rfl ⟨_, _, rfl⟩ (fine _ _)
        (by simp [moves, PauseContext.charges, Session.charges, dc]) rfl (fun _ => dc) (List.nil_sublist _)
    · exact .stayed rfl rfl ⟨_, _, rfl⟩ (fine _ _)
        (by simp [moves, PauseContext.charges, Session.charges, ac, dc]) (List.nil_sublist _)
    · exact .unanswered rfl rfl (.inl ⟨_, rfl⟩) (List.nil_sublist _)
  · intro asked unjoined
    have moves : State.sessionSetup.movesOn platform ctx (.sessionSetup req) = true := by
      simp only at unjoined
      simp [State.movesOn, unjoined]
    have opened (ctx' : Context) (log : List Output)
        (sent : responses log = [.sessionSetup (handleSessionSetup env (.new env.newSessionId)
          ctx.sessionConfig.evseId true)])
        (held : ctx'.pendingResponse = platform.encode (.sessionSetup (handleSessionSetup env
          (.new env.newSessionId) ctx.sessionConfig.evseId true)))
        (silent : LibIso15118.signals log = []) (running : ctx'.sessionStopped = ctx.sessionStopped) :
        Branch platform env .sessionSetup (.sessionSetup req) ctx
          (.ok (.sessionSetup, .createState .authorizationSetup)) ctx' log :=
      .moved sent held ⟨_, _, rfl⟩ (fine _ _) moves running (fun _ => rfl) (by rw [silent]; exact List.nil_sublist _)
    simp only [Act.wp_bind, Act.wp_get, State.SessionSetup.emplacePauseContext]
    simp only [true_implies, not_true_eq_false, false_implies, and_true]
    split
    · simp only [Act.wp_pure, Feed.wp_respond]
      refine ⟨fun _ => ?_, fun _ => ?_⟩
      · exact opened _ _ (by simp [Output.response?]) rfl (by simp [Output.signal?]) rfl
      · exact .unanswered (by simp [Output.response?]) rfl (.inl ⟨_, rfl⟩) (by simp [Output.signal?])
    · simp only [Act.wp_bind, Act.wp_modify, Act.wp_emit, Act.wp_pure, Feed.wp_respond,
        State.SessionSetup.certSessionIdHash]
      refine ⟨fun _ => ?_, fun _ => ?_⟩
      · exact opened _ _ (by simp [Output.response?]) rfl (by simp [Output.signal?]) rfl
      · exact .unanswered (by simp [Output.response?]) rfl (.inl ⟨_, rfl⟩) (by simp [Output.signal?])

theorem authorizationSetup_branch (req : AuthorizationSetupRequest)
    (pending : ctx.request = some (.request (.authorizationSetup req))) :
    Act.wp (State.feed platform env .authorizationSetup .v2gtpMessage)
      (Branch platform env .authorizationSetup (.authorizationSetup req) ctx) ctx := by
  simp only [State.feed, State.AuthorizationSetup.feed, Act.wp_bind, Act.wp_ite,
    Feed.wp_pullRequest _ pending]
  simp only [Act.wp_get, Act.wp_modify, Act.wp_pure, Feed.wp_signal, Feed.wp_respond,
    Feed.wp_stopSession, Platform.stringsFit, Bool.not_eq_true, ne_eq, not_true_eq_false,
    not_false_eq_true, true_implies, reduceCtorEq, false_implies, true_and, and_true]
  refine ⟨fun failed => ?_, fun fine => ?_⟩
  · exact .refused rfl rfl rfl failed rfl rfl rfl rfl (List.nil_sublist _)
  · exact .moved rfl rfl rfl fine rfl rfl (fun _ => rfl) (.refl _)

theorem authorization_branch (self : State.Authorization) (req : AuthorizationRequest)
    (pending : ctx.request = some (.request (.authorization req))) :
    Act.wp (State.feed platform env (.authorization self) .v2gtpMessage)
      (Branch platform env (.authorization self) (.authorization req) ctx) ctx := by
  simp only [State.feed, State.Authorization.feed, Act.wp_bind, Feed.wp_pullRequest _ pending]
  simp only [Act.wp_bind, Act.wp_get, Act.wp_pure, Act.wp_ite, Feed.wp_respond, Feed.wp_stopSession,
    Feed.wp_startTimeout, Feed.wp_stopTimeout, Platform.stringsFit, Bool.not_eq_true, true_implies,
    reduceCtorEq, false_implies, and_true]
  refine ⟨fun _ => ?_, fun _ => ?_⟩
  all_goals
    refine ⟨fun failed => ?_, fun fine => ⟨fun accepted => ?_, fun pending => ?_⟩⟩
    · exact .refused rfl rfl ⟨_, _, rfl⟩ failed rfl rfl rfl rfl (List.nil_sublist _)
    · exact .moved rfl rfl ⟨_, _, rfl⟩ fine (decide_eq_true accepted) rfl (fun _ => rfl) (List.nil_sublist _)
    · exact .stayed rfl rfl ⟨_, _, rfl⟩ fine (decide_eq_false pending) (List.nil_sublist _)

theorem serviceDiscovery_branch (req : ServiceDiscoveryRequest)
    (pending : ctx.request = some (.request (.serviceDiscovery req))) :
    Act.wp (State.feed platform env .serviceDiscovery .v2gtpMessage)
      (Branch platform env .serviceDiscovery (.serviceDiscovery req) ctx) ctx := by
  simp only [State.feed, State.ServiceDiscovery.feed, Act.wp_bind, Act.wp_ite,
    Feed.wp_pullRequest _ pending]
  simp only [Act.wp_get, Act.wp_modify, Act.wp_pure, Feed.wp_respond, Feed.wp_stopSession,
    Platform.stringsFit, Bool.not_eq_true, ne_eq, not_true_eq_false, not_false_eq_true, true_implies,
    reduceCtorEq, false_implies, true_and, and_true]
  refine ⟨fun failed => ?_, fun fine => ?_⟩
  · exact .refused rfl rfl rfl failed rfl rfl rfl rfl (List.nil_sublist _)
  · exact .moved rfl rfl rfl fine rfl rfl (fun _ => rfl) (List.nil_sublist _)

theorem answerServiceDetail_branch (state : State) (req : ServiceDetailRequest) (moves : Bool)
    (movesOn : state.movesOn platform ctx (.serviceDetail req) = moves) :
    Act.wp (answerServiceDetail platform env req (if moves then .createState .serviceSelection else {}))
      (fun result ctx' log => Branch platform env state (.serviceDetail req) ctx
        (result.map fun res => (state, res)) ctx' log) { ctx with request := none } := by
  simp only [answerServiceDetail, Act.wp_bind]
  apply wp_customVasParameters
  · intro _
    simp only [Act.wp_get, Act.wp_modify, Act.wp_pure, Act.wp_ite, Act.wp_bind, Feed.wp_respond,
      Feed.wp_stopSession, Bool.not_eq_true]
    refine ⟨fun _ => ⟨fun failed => ?_, fun fine => ?_⟩, fun _ => ?_⟩
    · exact .refused rfl rfl ⟨_, _, rfl⟩ failed rfl rfl rfl rfl (List.nil_sublist _)
    · cases moves
      · exact .stayed rfl rfl ⟨_, _, rfl⟩ fine movesOn (List.nil_sublist _)
      · exact .moved rfl rfl ⟨_, _, rfl⟩ fine movesOn rfl (fun _ => rfl) (List.nil_sublist _)
    · exact .unanswered rfl rfl (.inl ⟨_, rfl⟩) (List.nil_sublist _)
  · rintro (e | custom) internet parking _
    · exact .unanswered rfl rfl (.inl ⟨_, rfl⟩) (List.nil_sublist _)
    · simp only [Act.wp_get, Act.wp_modify, Act.wp_pure, Act.wp_ite, Act.wp_bind, Feed.wp_respond,
        Feed.wp_stopSession, Bool.not_eq_true]
      refine ⟨fun _ => ⟨fun failed => ?_, fun fine => ?_⟩, fun _ => ?_⟩
      · exact .refused rfl rfl ⟨_, _, rfl⟩ failed rfl rfl rfl rfl (List.nil_sublist _)
      · cases moves
        · exact .stayed rfl rfl ⟨_, _, rfl⟩ fine movesOn (List.nil_sublist _)
        · exact .moved rfl rfl ⟨_, _, rfl⟩ fine movesOn rfl (fun _ => rfl) (List.nil_sublist _)
      · exact .unanswered rfl rfl (.inl ⟨_, rfl⟩) (List.nil_sublist _)

theorem serviceDetail_branch (req : ServiceDetailRequest)
    (pending : ctx.request = some (.request (.serviceDetail req))) :
    Act.wp (State.feed platform env .serviceDetail .v2gtpMessage)
      (Branch platform env .serviceDetail (.serviceDetail req) ctx) ctx := by
  simp only [State.feed, State.ServiceDetail.feed, Act.wp_bind, Act.wp_ite,
    Feed.wp_pullRequest _ pending]
  simp only [ne_eq, not_true_eq_false, false_implies, not_false_eq_true, true_implies, true_and]
  refine Act.wp_mono _ _ (answerServiceDetail_branch platform env ctx .serviceDetail req true rfl) ?_
  rintro (e | res) ctx' log branch
  · exact branch
  · simpa [Except.map] using branch

theorem serviceSelection_serviceDetail_branch (req : ServiceDetailRequest)
    (pending : ctx.request = some (.request (.serviceDetail req))) :
    Act.wp (State.feed platform env .serviceSelection .v2gtpMessage)
      (Branch platform env .serviceSelection (.serviceDetail req) ctx) ctx := by
  simp only [State.feed, State.ServiceSelection.feed, Act.wp_bind, Act.wp_ite,
    Feed.wp_pullRequest _ pending]
  simp only [ne_eq, not_true_eq_false, false_implies, not_false_eq_true, true_implies, true_and]
  refine Act.wp_mono _ _ (answerServiceDetail_branch platform env ctx .serviceSelection req false rfl) ?_
  rintro (e | res) ctx' log branch
  · exact branch
  · simpa [Except.map] using branch

theorem serviceSelection_branch (req : ServiceSelectionRequest)
    (pending : ctx.request = some (.request (.serviceSelection req))) :
    Act.wp (State.feed platform env .serviceSelection .v2gtpMessage)
      (Branch platform env .serviceSelection (.serviceSelection req) ctx) ctx := by
  simp only [State.feed, State.ServiceSelection.feed, Act.wp_bind, Act.wp_ite,
    Feed.wp_pullRequest _ pending]
  simp only [Act.wp_get, Act.wp_modify, Act.wp_pure, Feed.wp_respond, Feed.wp_stopSession,
    Feed.wp_feedback, Feed.wp_feedbackIfSome,
    Platform.stringsFit, Bool.not_eq_true, ne_eq, not_true_eq_false, not_false_eq_true, true_implies,
    reduceCtorEq, false_implies, true_and, and_true]
  have charges (fine : (handleServiceSelection env req ctx.session).1.responseCode.isFailed = false)
      (ac : (handleServiceSelection env req ctx.session).2.isAcCharger = false) :
      (handleServiceSelection env req ctx.session).2.isDcCharger = true := by
    simpa [Session.charges, ac] using handleServiceSelection_charges fine
  refine ⟨fun _ => ?_, fun _ => ?_⟩
  all_goals
    refine ⟨fun failed => ?_, fun fine => ⟨fun ac => ?_, fun ac => ⟨fun dc => ?_, fun dc => ?_⟩⟩⟩
    · exact .refused rfl rfl rfl failed rfl rfl rfl rfl (List.nil_sublist _)
    · cases req.selectedVasList <;>
        exact .moved rfl rfl rfl fine rfl rfl (fun _ => ac) (List.nil_sublist _)
    · cases req.selectedVasList <;>
        exact .moved rfl rfl rfl fine rfl rfl (fun _ => dc) (List.nil_sublist _)
    · exact absurd (charges fine ac) (by simp [dc])

theorem acChargeParameterDiscovery_branch (self : State.AcChargeParameterDiscovery)
    (req : AcChargeParameterDiscoveryRequest)
    (pending : ctx.request = some (.request (.acChargeParameterDiscovery req))) :
    Act.wp (State.feed platform env (.acChargeParameterDiscovery self) .v2gtpMessage)
      (Branch platform env (.acChargeParameterDiscovery self) (.acChargeParameterDiscovery req) ctx)
      ctx := by
  simp only [State.feed, State.AcChargeParameterDiscovery.feed, Act.wp_bind, Feed.wp_pullRequest _ pending]
  simp only [Act.wp_bind, Act.wp_get, Act.wp_modify, Act.wp_pure, Act.wp_ite, Feed.wp_feedback,
    Feed.wp_respond, Feed.wp_stopSession, Platform.stringsFit, Bool.not_eq_true, true_implies,
    reduceCtorEq, false_implies, and_true]
  refine ⟨fun failed => ⟨fun _ => ?_, fun _ => ?_⟩, fun fine => ?_⟩
  · exact .refused rfl rfl ⟨_, rfl, rfl⟩ failed rfl rfl rfl rfl (List.nil_sublist _)
  · exact .refused rfl rfl ⟨_, rfl, rfl⟩ failed rfl rfl rfl rfl (List.nil_sublist _)
  · exact .moved rfl rfl ⟨_, rfl, rfl⟩ fine rfl rfl (fun _ => rfl) (List.nil_sublist _)

theorem dcChargeParameterDiscovery_branch (req : DcChargeParameterDiscoveryRequest)
    (pending : ctx.request = some (.request (.dcChargeParameterDiscovery req))) :
    Act.wp (State.feed platform env .dcChargeParameterDiscovery .v2gtpMessage)
      (Branch platform env .dcChargeParameterDiscovery (.dcChargeParameterDiscovery req) ctx) ctx := by
  simp only [State.feed, State.DcChargeParameterDiscovery.feed, Act.wp_bind, Act.wp_ite,
    Feed.wp_pullRequest _ pending]
  simp only [Act.wp_get, Act.wp_modify, Act.wp_pure, Feed.wp_feedback, Feed.wp_respond,
    Feed.wp_stopSession, Platform.stringsFit, Bool.not_eq_true, ne_eq, not_true_eq_false,
    not_false_eq_true, true_implies, reduceCtorEq, false_implies, true_and, and_true]
  refine ⟨fun failed => ?_, fun fine => ?_⟩
  · exact .refused rfl rfl rfl failed rfl rfl rfl rfl (List.nil_sublist _)
  · exact .moved rfl rfl rfl fine rfl rfl (fun _ => rfl) (List.nil_sublist _)

theorem scheduleExchange_branch (self : State.ScheduleExchange) (req : ScheduleExchangeRequest)
    (pending : ctx.request = some (.request (.scheduleExchange req))) :
    Act.wp (State.feed platform env (.scheduleExchange self) .v2gtpMessage)
      (Branch platform env (.scheduleExchange self) (.scheduleExchange req) ctx) ctx := by
  simp only [State.feed, State.ScheduleExchange.feed, Act.wp_bind, Feed.wp_pullRequest _ pending]
  simp only [Act.wp_bind, Act.wp_get, Act.wp_pure, Act.wp_ite, Feed.wp_feedback, Feed.wp_respond,
    Feed.wp_stopSession, Feed.wp_startTimeout, Feed.wp_stopTimeout, Platform.stringsFit,
    Bool.not_eq_true, true_implies, reduceCtorEq, false_implies, and_true]
  refine ⟨fun _ => ?_, fun _ => ?_⟩
  all_goals
    refine ⟨fun failed => ?_, fun fine => ⟨fun ongoing => ?_, fun _ => ⟨fun ac => ?_, fun ac =>
      ⟨fun dc => ?_, fun dc => ?_⟩⟩⟩⟩
    · exact .refused rfl rfl ⟨_, rfl, rfl⟩ failed rfl rfl rfl rfl (List.nil_sublist _)
    · exact absurd ongoing (by simp [handleScheduleExchange_finished])
    · exact .moved rfl rfl ⟨_, rfl, rfl⟩ fine (by simp [State.movesOn, Session.charges, ac]) rfl
        (fun _ => rfl) (List.nil_sublist _)
    · exact .moved rfl rfl ⟨_, rfl, rfl⟩ fine (by simp [State.movesOn, Session.charges, dc]) rfl
        (fun _ => dc) (List.nil_sublist _)
    · exact .stayed rfl rfl ⟨_, rfl, rfl⟩ fine (by simp [State.movesOn, Session.charges, ac, dc])
        (List.nil_sublist _)

theorem dcCableCheck_branch (self : State.DcCableCheck) (req : DcCableCheckRequest)
    (pending : ctx.request = some (.request (.dcCableCheck req))) :
    Act.wp (State.feed platform env (.dcCableCheck self) .v2gtpMessage)
      (Branch platform env (.dcCableCheck self) (.dcCableCheck req) ctx) ctx := by
  simp only [State.feed, State.DcCableCheck.feed, Act.wp_bind, Feed.wp_pullRequest _ pending]
  simp only [Act.wp_bind, Act.wp_get, Act.wp_pure, Act.wp_ite, Feed.wp_signal, Feed.wp_respond,
    Feed.wp_stopSession, Platform.stringsFit, Bool.not_eq_true, true_implies, reduceCtorEq,
    false_implies, and_true]
  refine ⟨fun first => ?_, fun again => ?_⟩
  · have silent : [Signal.startCableCheck].Sublist
        ((State.dcCableCheck self).signals (.dcCableCheck req)) := by simp [State.signals, first]
    refine ⟨fun failed => ?_, fun fine => ⟨fun done => ?_, fun ongoing => ?_⟩⟩
    · exact .refused rfl rfl ⟨_, rfl⟩ failed rfl rfl rfl rfl silent
    · exact .moved rfl rfl ⟨_, rfl⟩ fine done rfl (fun fits => fits) silent
    · exact .stayed rfl rfl ⟨_, rfl⟩ fine ongoing silent
  · refine ⟨fun failed => ?_, fun fine => ⟨fun done => ?_, fun ongoing => ?_⟩⟩
    · exact .refused rfl rfl ⟨_, rfl⟩ failed rfl rfl rfl rfl (List.nil_sublist _)
    · exact .moved rfl rfl ⟨_, rfl⟩ fine done rfl (fun fits => fits) (List.nil_sublist _)
    · exact .stayed rfl rfl ⟨_, rfl⟩ fine ongoing (List.nil_sublist _)

theorem dcPreCharge_branch (self : State.DcPreCharge) (req : DcPreChargeRequest)
    (pending : ctx.request = some (.request (.dcPreCharge req))) :
    Act.wp (State.feed platform env (.dcPreCharge self) .v2gtpMessage)
      (Branch platform env (.dcPreCharge self) (.dcPreCharge req) ctx) ctx := by
  simp only [State.feed, State.DcPreCharge.feed, Act.wp_bind, Feed.wp_pullRequest _ pending]
  simp only [Act.wp_bind, Act.wp_get, Act.wp_pure, Act.wp_ite, Feed.wp_feedback, Feed.wp_signal,
    Feed.wp_respond, Feed.wp_stopSession, Platform.stringsFit, Bool.not_eq_true, true_implies,
    reduceCtorEq, false_implies, and_true]
  refine ⟨fun first => ?_, fun again => ?_⟩
  · have silent : [Signal.preChargeStarted].Sublist
        ((State.dcPreCharge self).signals (.dcPreCharge req)) := by simp [State.signals, first]
    refine ⟨fun failed => ?_, fun fine => ?_⟩
    · exact .refused rfl rfl ⟨_, rfl⟩ failed rfl rfl rfl rfl silent
    · exact .moved rfl rfl ⟨_, rfl⟩ fine rfl rfl (fun _ => rfl) silent
  · refine ⟨fun failed => ?_, fun fine => ?_⟩
    · exact .refused rfl rfl ⟨_, rfl⟩ failed rfl rfl rfl rfl (List.nil_sublist _)
    · exact .moved rfl rfl ⟨_, rfl⟩ fine rfl rfl (fun _ => rfl) (List.nil_sublist _)

theorem powerDelivery_dcPreCharge_branch (self : State.PowerDelivery) (req : DcPreChargeRequest)
    (pending : ctx.request = some (.request (.dcPreCharge req))) :
    Act.wp (State.feed platform env (.powerDelivery self) .v2gtpMessage)
      (Branch platform env (.powerDelivery self) (.dcPreCharge req) ctx) ctx := by
  simp only [State.feed, State.PowerDelivery.feed, State.PowerDelivery.feedPreCharge, Act.wp_bind,
    Feed.wp_pullRequest _ pending]
  simp only [Act.wp_get, Act.wp_pure, Act.wp_ite, Feed.wp_feedback, Feed.wp_respond,
    Platform.stringsFit, Bool.not_eq_true, true_implies, reduceCtorEq, false_implies, and_true]
  refine ⟨fun failed => ?_, fun fine => ?_⟩
  · exact .refused rfl rfl ⟨_, rfl⟩ failed rfl rfl rfl rfl (List.nil_sublist _)
  · exact .stayed rfl rfl ⟨_, rfl⟩ fine rfl (List.nil_sublist _)

theorem setupFinishedLog_signals (req : PowerDeliveryRequest) :
    (LibIso15118.signals (setupFinishedLog req)).Sublist [.setupFinished] := by
  unfold setupFinishedLog
  split
  · exact .refl _
  · exact List.nil_sublist _

theorem powerDelivery_powerDelivery_branch (self : State.PowerDelivery) (req : PowerDeliveryRequest)
    (pending : ctx.request = some (.request (.powerDelivery req))) :
    Act.wp (State.feed platform env (.powerDelivery self) .v2gtpMessage)
      (Branch platform env (.powerDelivery self) (.powerDelivery req) ctx) ctx := by
  simp only [State.feed, State.PowerDelivery.feed, Act.wp_bind, Feed.wp_pullRequest _ pending]
  apply wp_feedPowerDelivery
  · intro defers
    refine .unanswered (by simp [Output.response?]) rfl (.inr ⟨defers, _, rfl⟩) ?_
    simpa [State.signals, Output.signal?] using
      (setupFinishedLog_signals req).append (List.Sublist.refl [Signal.acCloseContactor])
  · intro ready
    have sent : responses ([] ++ (setupFinishedLog req ++
        [.respond (.powerDelivery (handlePowerDelivery env req ctx.session false))] ++ [])) =
        [.powerDelivery (handlePowerDelivery env req ctx.session false)] := by simp [Output.response?]
    have silent : (LibIso15118.signals ([] ++ (setupFinishedLog req ++
        [.respond (.powerDelivery (handlePowerDelivery env req ctx.session false))] ++ []))).Sublist
        ((State.powerDelivery self).signals (.powerDelivery req)) := by
      simpa [State.signals, Output.signal?] using
        (setupFinishedLog_signals req).trans (List.sublist_append_left _ [.acCloseContactor])
    have moves : (State.powerDelivery self).movesOn platform ctx (.powerDelivery req) =
        ctx.session.charges := by
      have undeferred : (ctx.session.isAcCharger && !self.acConnectorClosed &&
          decide (req.chargeProgress = .start)) = false := by
        simpa [State.PowerDelivery.Defers] using ready
      simp [State.movesOn, undeferred]
    simp only [Act.wp_pure]
    by_cases own : ctx.session.id = req.header.sessionId
    · have fine : (handlePowerDelivery env req ctx.session false).responseCode.isFailed = false := by
        simpa [own] using handlePowerDelivery_isFailed env req ctx.session
      by_cases ac : ctx.session.isAcCharger = true
      · rw [show deliveryResult req ctx.session = .createState (.acChargeLoop {}) by
          simp [deliveryResult, own, ac]]
        exact .moved sent rfl rfl fine (by simp [moves, Session.charges, ac]) rfl (fun _ => ac) silent
      · by_cases dc : ctx.session.isDcCharger = true
        · rw [show deliveryResult req ctx.session = .createState (.dcChargeLoop {}) by
            simp [deliveryResult, own, ac, dc]]
          exact .moved sent rfl rfl fine (by simp [moves, Session.charges, dc]) rfl (fun _ => dc) silent
        · rw [show deliveryResult req ctx.session = {} by simp [deliveryResult, own, ac, dc]]
          exact .stayed sent rfl rfl fine (by simp [moves, Session.charges, ac, dc]) silent
    · have failed := (handlePowerDelivery_isFailed env req ctx.session).mpr own
      rw [show deliveryResult req ctx.session = {} by simp [deliveryResult, own]]
      exact .refused sent rfl rfl failed rfl rfl rfl rfl silent

theorem acChargeLoop_powerDelivery_branch (self : State.AcChargeLoop) (req : PowerDeliveryRequest)
    (pending : ctx.request = some (.request (.powerDelivery req))) :
    Act.wp (State.feed platform env (.acChargeLoop self) .v2gtpMessage)
      (Branch platform env (.acChargeLoop self) (.powerDelivery req) ctx) ctx := by
  simp only [State.feed, State.AcChargeLoop.feed, Act.wp_bind, Feed.wp_pullRequest _ pending]
  simp only [Act.wp_bind, Act.wp_get, Act.wp_pure, Act.wp_ite, Feed.wp_signal, Feed.wp_respond,
    Feed.wp_stopSession, Platform.stringsFit, Bool.not_eq_true, true_implies, reduceCtorEq,
    false_implies, and_true]
  refine ⟨fun failed => ?_, fun fine => ⟨fun stop => ?_, fun progress => ?_⟩⟩
  · exact .refused rfl rfl rfl failed rfl rfl rfl rfl (List.nil_sublist _)
  · exact .moved rfl rfl rfl fine (decide_eq_true stop) rfl (fun _ => rfl) (.refl _)
  · exact .stayed rfl rfl rfl fine (decide_eq_false progress) (List.nil_sublist _)

theorem acChargeLoop_acChargeLoop_branch (self : State.AcChargeLoop) (req : AcChargeLoopRequest)
    (pending : ctx.request = some (.request (.acChargeLoop req))) :
    Act.wp (State.feed platform env (.acChargeLoop self) .v2gtpMessage)
      (Branch platform env (.acChargeLoop self) (.acChargeLoop req) ctx) ctx := by
  simp only [State.feed, State.AcChargeLoop.feed, Act.wp_bind, Feed.wp_pullRequest _ pending]
  simp only [Act.wp_bind, Act.wp_get, Act.wp_pure, Act.wp_ite, Feed.wp_feedback, Feed.wp_signal,
    Feed.wp_feedbackIfSome, Feed.wp_respond, Feed.wp_stopSession, Platform.stringsFit,
    Bool.not_eq_true, true_implies, reduceCtorEq, false_implies, and_true]
  refine ⟨fun _ => ?_, fun _ => ?_⟩
  · refine ⟨fun failed => ⟨fun _ => ?_, fun _ => ?_⟩, fun fine => ?_⟩
    · exact .refused rfl rfl ⟨_, rfl, rfl⟩ failed rfl rfl rfl rfl (.refl _)
    · exact .refused rfl rfl ⟨_, rfl, rfl⟩ failed rfl rfl rfl rfl (.refl _)
    · cases req.displayParameters <;> exact .stayed rfl rfl ⟨_, rfl, rfl⟩ fine rfl (.refl _)
  · refine ⟨fun failed => ⟨fun _ => ?_, fun _ => ?_⟩, fun fine => ?_⟩
    · exact .refused rfl rfl ⟨_, rfl, rfl⟩ failed rfl rfl rfl rfl (List.nil_sublist _)
    · exact .refused rfl rfl ⟨_, rfl, rfl⟩ failed rfl rfl rfl rfl (List.nil_sublist _)
    · cases req.displayParameters <;> exact .stayed rfl rfl ⟨_, rfl, rfl⟩ fine rfl (List.nil_sublist _)

theorem dcChargeLoop_powerDelivery_branch (self : State.DcChargeLoop) (req : PowerDeliveryRequest)
    (pending : ctx.request = some (.request (.powerDelivery req))) :
    Act.wp (State.feed platform env (.dcChargeLoop self) .v2gtpMessage)
      (Branch platform env (.dcChargeLoop self) (.powerDelivery req) ctx) ctx := by
  simp only [State.feed, State.DcChargeLoop.feed, Act.wp_bind, Feed.wp_pullRequest _ pending]
  simp only [Act.wp_bind, Act.wp_get, Act.wp_pure, Act.wp_ite, Feed.wp_signal, Feed.wp_respond,
    Feed.wp_stopSession, Platform.stringsFit, Bool.not_eq_true, true_implies, reduceCtorEq,
    false_implies, and_true]
  refine ⟨fun failed => ?_, fun fine => ⟨fun stop => ?_, fun progress => ?_⟩⟩
  · exact .refused rfl rfl rfl failed rfl rfl rfl rfl (List.nil_sublist _)
  · exact .moved rfl rfl rfl fine (decide_eq_true stop) rfl (fun fits => fits) (.refl _)
  · exact .stayed rfl rfl rfl fine (decide_eq_false progress) (List.nil_sublist _)

theorem dcChargeLoop_dcChargeLoop_branch (self : State.DcChargeLoop) (req : DcChargeLoopRequest)
    (pending : ctx.request = some (.request (.dcChargeLoop req))) :
    Act.wp (State.feed platform env (.dcChargeLoop self) .v2gtpMessage)
      (Branch platform env (.dcChargeLoop self) (.dcChargeLoop req) ctx) ctx := by
  simp only [State.feed, State.DcChargeLoop.feed, Act.wp_bind, Feed.wp_pullRequest _ pending]
  simp only [Act.wp_bind, Act.wp_get, Act.wp_pure, Act.wp_ite, Feed.wp_feedback, Feed.wp_signal,
    Feed.wp_feedbackIfSome, Feed.wp_respond, Feed.wp_stopSession, Platform.stringsFit,
    Bool.not_eq_true, true_implies, reduceCtorEq, false_implies, and_true]
  refine ⟨fun _ => ⟨fun failed => ?_, fun fine => ?_⟩, fun _ => ⟨fun failed => ?_, fun fine => ?_⟩⟩
  · exact .refused rfl rfl ⟨_, rfl, rfl⟩ failed rfl rfl rfl rfl (.refl _)
  · cases req.displayParameters <;> exact .stayed rfl rfl ⟨_, rfl, rfl⟩ fine rfl (.refl _)
  · exact .refused rfl rfl ⟨_, rfl, rfl⟩ failed rfl rfl rfl rfl (List.nil_sublist _)
  · cases req.displayParameters <;> exact .stayed rfl rfl ⟨_, rfl, rfl⟩ fine rfl (List.nil_sublist _)

theorem dcWeldingDetection_branch (self : State.DcWeldingDetection) (req : DcWeldingDetectionRequest)
    (pending : ctx.request = some (.request (.dcWeldingDetection req))) :
    Act.wp (State.feed platform env (.dcWeldingDetection self) .v2gtpMessage)
      (Branch platform env (.dcWeldingDetection self) (.dcWeldingDetection req) ctx) ctx := by
  simp only [State.feed, State.DcWeldingDetection.feed, Act.wp_bind, Feed.wp_pullRequest _ pending]
  simp only [Act.wp_bind, Act.wp_get, Act.wp_pure, Act.wp_ite, Feed.wp_respond, Feed.wp_stopSession,
    Platform.stringsFit, Bool.not_eq_true, true_implies, reduceCtorEq, false_implies, and_true]
  refine ⟨fun failed => ?_, fun fine => ⟨fun ongoing => ?_, fun finished => ?_⟩⟩
  · exact .refused rfl rfl ⟨_, rfl⟩ failed rfl rfl rfl rfl (List.nil_sublist _)
  · exact .stayed rfl rfl ⟨_, rfl⟩ fine (decide_eq_false (not_not.mpr ongoing)) (List.nil_sublist _)
  · exact .moved rfl rfl ⟨_, rfl⟩ fine (decide_eq_true finished) rfl (fun _ => rfl) (List.nil_sublist _)

theorem stopOnRequest_branch (state : State) (req : SessionStopRequest)
    (stays : state.movesOn platform ctx (.sessionStop req) = false) :
    Act.wp (stopOnRequest platform env req)
      (fun result ctx' log => Branch platform env state (.sessionStop req) ctx
        (result.map fun res => (state, res)) ctx' log) { ctx with request := none } := by
  rw [wp_stopOnRequest]
  by_cases failed : (handleSessionStop env req ctx.session).responseCode.isFailed = true
  · exact .refused rfl rfl rfl failed rfl rfl rfl rfl (List.nil_sublist _)
  · exact .stayed rfl rfl rfl (Bool.eq_false_of_not_eq_true failed) stays (List.nil_sublist _)

theorem State.movesOn_sessionStop (state : State) (req : SessionStopRequest) :
    state.movesOn platform ctx (.sessionStop req) = false := by
  cases state <;> rfl

theorem sessionStop_early_branch (state : State) (req : SessionStopRequest)
    (pending : ctx.request = some (.request (.sessionStop req)))
    (accepts : state.id.accepts (.sessionStop req) = true)
    (early : state.id.looksAway (.sessionStop req) = false) :
    Act.wp (state.feed platform env .v2gtpMessage)
      (Branch platform env state (.sessionStop req) ctx) ctx := by
  have spec := stopOnRequest_branch platform env ctx state req (state.movesOn_sessionStop platform ctx req)
  cases state <;> simp only [State.id, StateId.accepts, StateId.looksAway, reduceCtorEq] at accepts early
  all_goals simp only [State.feed, Act.wp_bind]
  case authorizationSetup | serviceDiscovery | serviceDetail | serviceSelection |
      dcChargeParameterDiscovery =>
    simp only [State.AuthorizationSetup.feed, State.ServiceDiscovery.feed,
      State.ServiceDetail.feed, State.ServiceSelection.feed, State.DcChargeParameterDiscovery.feed,
      Act.wp_bind, Act.wp_ite, Feed.wp_pullRequest _ pending]
    simp only [ne_eq, not_true_eq_false, false_implies, not_false_eq_true, true_implies, true_and]
    refine Act.wp_mono _ _ spec ?_
    rintro (e | res) ctx' log branch
    · exact branch
    · simpa [Except.map] using branch
  all_goals
    simp only [State.Authorization.feed, State.AcChargeParameterDiscovery.feed,
      State.ScheduleExchange.feed, State.DcCableCheck.feed, State.DcPreCharge.feed, Act.wp_bind,
      Feed.wp_pullRequest _ pending]
    refine Act.wp_mono _ _ spec ?_
    rintro (e | res) ctx' log branch
    · exact branch
    · simpa [Except.map] using branch

theorem sessionStop_late_branch (state : State) (req : SessionStopRequest)
    (pending : ctx.request = some (.request (.sessionStop req)))
    (late : state.id = .dcWeldingDetection ∨ state.id = .sessionStop) :
    Act.wp (state.feed platform env .v2gtpMessage)
      (Branch platform env state (.sessionStop req) ctx) ctx := by
  have leaf (ctx' : Context) (log : List Output)
      (sent : responses log = [.sessionStop (handleSessionStop env req ctx.session)])
      (held : ctx'.pendingResponse = platform.encode (.sessionStop (handleSessionStop env req ctx.session)))
      (silent : LibIso15118.signals log = []) :
      Branch platform env state (.sessionStop req) ctx (.ok (state, {})) ctx' log :=
    { answer := by simp [sent, Request.Answer]
      failed := by rcases late with late | late <;> simp [late, StateId.looksAway]
      fine := fun _ _ _ => ⟨by simp [state.movesOn_sessionStop], fun _ => ⟨state, rfl⟩⟩
      fits := by rintro _ _ ⟨⟩
      signals := by simp [silent]
      exchanged := .inr ⟨_, sent, held⟩
      silent := by simp [sent] }
  cases state <;> simp only [State.id, reduceCtorEq, or_false, or_true] at late
  · simp only [State.feed, State.DcWeldingDetection.feed, Act.wp_bind, Feed.wp_pullRequest _ pending]
    cases req.chargingSession <;>
      simp only [endSession, Act.wp_get, Act.wp_modify, Act.wp_pure, Feed.wp_respond,
        Platform.stringsFit, true_implies, reduceCtorEq, false_implies, and_true] <;>
      exact leaf _ _ rfl rfl rfl
  · simp only [State.feed, State.SessionStop.feed, Act.wp_bind, Act.wp_ite, Feed.wp_pullRequest _ pending]
    cases req.chargingSession <;>
      simp only [endSession, Act.wp_get, Act.wp_modify, Act.wp_pure, Feed.wp_respond, Feed.wp_feedback,
        Platform.stringsFit, true_implies, reduceCtorEq, false_implies, and_true, ne_eq,
        not_true_eq_false, not_false_eq_true, true_and] <;>
      exact ⟨fun _ => leaf _ _ rfl rfl rfl, fun _ => leaf _ _ rfl rfl rfl⟩

theorem State.message_branch (state : State) {req : Request} (pending : ctx.request = some (.request req))
    (accepts : state.id.accepts req = true) :
    Act.wp (state.feed platform env .v2gtpMessage) (Branch platform env state req ctx) ctx := by
  cases req
  case sessionStop req =>
    by_cases late : state.id = .dcWeldingDetection ∨ state.id = .sessionStop
    · exact sessionStop_late_branch platform env ctx state req pending late
    · refine sessionStop_early_branch platform env ctx state req pending accepts ?_
      cases state <;> simp_all [State.id, StateId.accepts, StateId.looksAway]
  all_goals
    cases state <;> simp only [State.id, StateId.accepts, Bool.false_eq_true] at accepts
  case supportedAppProtocol req => exact supportedAppProtocol_branch platform env ctx req pending
  case sessionSetup req => exact sessionSetup_branch platform env ctx req pending
  case authorizationSetup req => exact authorizationSetup_branch platform env ctx req pending
  case authorization req self => exact authorization_branch platform env ctx self req pending
  case serviceDiscovery req => exact serviceDiscovery_branch platform env ctx req pending
  case serviceDetail.serviceDetail req => exact serviceDetail_branch platform env ctx req pending
  case serviceDetail.serviceSelection req =>
    exact serviceSelection_serviceDetail_branch platform env ctx req pending
  case serviceSelection req => exact serviceSelection_branch platform env ctx req pending
  case dcChargeParameterDiscovery req =>
    exact dcChargeParameterDiscovery_branch platform env ctx req pending
  case scheduleExchange req self => exact scheduleExchange_branch platform env ctx self req pending
  case dcCableCheck req self => exact dcCableCheck_branch platform env ctx self req pending
  case dcPreCharge.dcPreCharge req self => exact dcPreCharge_branch platform env ctx self req pending
  case dcPreCharge.powerDelivery req self =>
    exact powerDelivery_dcPreCharge_branch platform env ctx self req pending
  case powerDelivery.powerDelivery req self =>
    exact powerDelivery_powerDelivery_branch platform env ctx self req pending
  case powerDelivery.acChargeLoop req self =>
    exact acChargeLoop_powerDelivery_branch platform env ctx self req pending
  case powerDelivery.dcChargeLoop req self =>
    exact dcChargeLoop_powerDelivery_branch platform env ctx self req pending
  case dcChargeLoop req self => exact dcChargeLoop_dcChargeLoop_branch platform env ctx self req pending
  case dcWeldingDetection req self => exact dcWeldingDetection_branch platform env ctx self req pending
  case acChargeParameterDiscovery req self =>
    exact acChargeParameterDiscovery_branch platform env ctx self req pending
  case acChargeLoop req self => exact acChargeLoop_acChargeLoop_branch platform env ctx self req pending

end Message

end LibIso15118
