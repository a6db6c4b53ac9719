import LibIso15118.Fsm.Branches

set_option autoImplicit false

namespace LibIso15118

open Datatypes Shared

section SequenceError

theorem sequenceErrorResponse_request {req : Request} (header : Header)
    (sequenced : ∀ sap, req ≠ .supportedAppProtocol sap) :
    ∃ res, sequenceErrorResponse header (Variant.request req).getType = some res ∧
      res.type = req.answerType ∧ res.code? = some .failedSequenceError ∧ res.header? = some header := by
  cases req with
  | supportedAppProtocol sap => exact absurd rfl (sequenced sap)
  | _ => exact ⟨_, rfl, rfl, rfl, rfl⟩

/-- A request out of sequence is answered with FAILED_SequenceError and stops the session. Nothing else
changes. -/
theorem Fsm.out_of_sequence (platform : Platform) (env : Env) (fsm : Fsm) (req : Request)
    (pending : fsm.ctx.request = some (.request req)) (later : fsm.state.id ≠ .supportedAppProtocol)
    (sequenced : ∀ sap, req ≠ .supportedAppProtocol sap)
    (unexpected : fsm.state.id.accepts req = false) :
    ∃ res, Fsm.feed platform env .v2gtpMessage fsm =
        ⟨.ok .unhandled,
          ⟨fsm.state,
            { fsm.ctx with
              request := none
              pendingResponse := platform.encode res
              sessionStopped := true }⟩,
          [.respond res]⟩ ∧
      res.type = req.answerType ∧ res.code? = some .failedSequenceError ∧
      res.header?.map (·.sessionId) = some fsm.ctx.session.id := by
  obtain ⟨res, answer, type, code, header⟩ :=
    sequenceErrorResponse_request (setupHeader env fsm.ctx.session) sequenced
  refine ⟨res, ?_, type, code, by rw [header]; rfl⟩
  have spec : fsm.state.feed platform env .v2gtpMessage fsm.ctx =
      ⟨.ok (fsm.state, {}), refusedContext platform env fsm.ctx (.request req),
        refusedLog env fsm.ctx (.request req)⟩ := by
    exact (State.wp_refused platform env pending fsm.state
      (by rintro _ ⟨⟩; exact unexpected) later
      fun result ctx log => fsm.state.feed platform env .v2gtpMessage fsm.ctx = ⟨result, ctx, log⟩).mp rfl
  simp [Fsm.feed, spec, refusedContext, refusedLog, answer]

end SequenceError

open Fsm Sample in
theorem Fsm.out_of_sequence_authorization :
    ∃ res, Fsm.feed platform {} .v2gtpMessage
        ⟨.authorizationSetup, messageContext (Fsm.new config none (sessionId 1)).ctx
          (.request (.authorization ⟨{}, .eim, .eim⟩))⟩ =
        ⟨.ok .unhandled,
          ⟨.authorizationSetup,
            { messageContext (Fsm.new config none (sessionId 1)).ctx
                (.request (.authorization ⟨{}, .eim, .eim⟩)) with
              request := none
              pendingResponse := platform.encode res
              sessionStopped := true }⟩,
          [.respond res]⟩ ∧
      res.type = .authorizationRes ∧ res.code? = some .failedSequenceError ∧
      res.header?.map (·.sessionId) = some (sessionId 1) :=
  Fsm.out_of_sequence platform {}
    ⟨.authorizationSetup, messageContext (Fsm.new config none (sessionId 1)).ctx
      (.request (.authorization ⟨{}, .eim, .eim⟩))⟩
    (.authorization ⟨{}, .eim, .eim⟩) rfl (by decide) (by simp) rfl

section Negotiation

theorem Table.first_eq_none (table : Table UInt8 UInt8) :
    table.first = none ↔ ∀ key, table key = none := by
  simp only [Table.first, List.findSome?_eq_none_iff, List.mem_range]
  constructor
  · intro empty key
    simpa using empty key.toNat key.toNat_lt
  · exact fun empty key _ => empty _

theorem negotiated_eq_none (custom : Option StdString) (protocols : List SupportedAppProtocol) :
    (evSupportedProtocols custom protocols).first = none ↔
      protocols.any (supportsNamespace custom ·.protocolNamespace) = false := by
  -- Nothing is negotiated when the EVSE speaks none of the protocols.
  suffices all : ∀ table : Table UInt8 UInt8, (protocols.foldl (fun table protocol =>
      if supportsNamespace custom protocol.protocolNamespace then
        table.insert protocol.priority protocol.schemaId
      else table) table).first = none ↔
      table.first = none ∧ protocols.any (supportsNamespace custom ·.protocolNamespace) = false by
    simpa [evSupportedProtocols, Table.first_eq_none, Table.empty] using all .empty
  induction protocols with
  | nil => simp
  | cons protocol rest hyp =>
      intro table
      rw [List.foldl_cons, hyp]
      by_cases spoken : supportsNamespace custom protocol.protocolNamespace = true
      · have chosen : (table.insert protocol.priority protocol.schemaId).first ≠ none := by
          rw [ne_eq, Table.first_eq_none]
          intro empty
          simpa [Table.insert] using empty protocol.priority
        simp [spoken, chosen]
      · simp [spoken]

theorem handleSupportedAppProtocol_failed (req : SupportedAppProtocolRequest) (custom : Option StdString) :
    (handleSupportedAppProtocol req custom).responseCode = .failedNoNegotiation ↔
      req.appProtocol.any (supportsNamespace custom ·.protocolNamespace) = false := by
  rw [← negotiated_eq_none, handleSupportedAppProtocol]
  cases (evSupportedProtocols custom req.appProtocol).first <;> simp

end Negotiation

def FailureHalts (state : State) (ctx : Context) (result : Except Exn (State × Result)) (ctx' : Context)
    (log : List Output) : Prop :=
  ∀ out ∈ responses log, out.isFailed = true → Halted state ctx result ctx'

/-- A `SessionStopReq` that is answered with OK, or whose effect is there already. -/
def haltsOnStop (ctx : Context) (req : SessionStopRequest) : Bool :=
  (ctx.session.id = req.header.sessionId &&
    !(req.chargingSession = .serviceRenegotiation && !ctx.session.serviceRenegotiationSupported)) ||
  match req.chargingSession with
  | .pause => ctx.sessionStopped && ctx.sessionPaused &&
      ctx.pauseCtx.all (·.selectedServiceParameters = ctx.session.selectedServices)
  | .terminate => ctx.pauseCtx.isNone
  | .serviceRenegotiation => ctx.sessionStopped

def State.haltsOnFailure (state : State) (ctx : Context) (ev : Event) : Bool :=
  match state, ev, ctx.request with
  | .supportedAppProtocol, .v2gtpMessage, some (.request (.supportedAppProtocol req)) =>
      req.appProtocol.any (supportsNamespace ctx.sessionConfig.customProtocol ·.protocolNamespace) ||
        ctx.sessionStopped
  | .dcWeldingDetection _, .v2gtpMessage, some (.request (.sessionStop req)) => haltsOnStop ctx req
  | .sessionStop, .v2gtpMessage, some (.request (.sessionStop req)) => haltsOnStop ctx req
  | _, _, _ => true

section Failures

variable (platform : Platform) (env : Env) (ctx : Context)

theorem handleSessionStop_failed (req : SessionStopRequest) (session : Session) :
    (handleSessionStop env req session).responseCode.isFailed = true ↔
      (session.id = req.header.sessionId &&
        !(req.chargingSession = .serviceRenegotiation && !session.serviceRenegotiationSupported)) =
        false := by
  simp only [handleSessionStop, validateHeader]
  by_cases own : session.id = req.header.sessionId
  · by_cases renegotiates : req.chargingSession = .serviceRenegotiation ∧
        session.serviceRenegotiationSupported = false
    · simp [own, renegotiates]
      rfl
    · simp [own, renegotiates]
  · simp [own]

def Context.ended (ctx : Context) : ChargingSession → Context
  | .pause =>
      { ctx with
        sessionPaused := true
        pauseCtx := ctx.pauseCtx.map fun pauseCtx =>
          { pauseCtx with selectedServiceParameters := ctx.session.selectedServices } }
  | .terminate => { ctx with sessionStopped := true, pauseCtx := none }
  | .serviceRenegotiation => ctx

theorem wp_endSession (chargingSession : ChargingSession)
    (post : Except Exn Unit → Context → List Output → Prop) :
    Act.wp (endSession chargingSession) post ctx ↔ post (.ok ()) (ctx.ended chargingSession) [] := by
  cases chargingSession <;> rfl

theorem keeps_pauseContext_iff (pauseCtx : Option PauseContext) (selected : SelectedServiceParameters) :
    (pauseCtx.map fun pauseCtx => { pauseCtx with selectedServiceParameters := selected }) = pauseCtx ↔
      pauseCtx.all (·.selectedServiceParameters = selected) = true := by
  cases pauseCtx with
  | none => simp
  | some old => cases old; simp [eq_comm]

theorem ended_halts_iff (state : State) (req : SessionStopRequest) (ctx' : Context)
    (log : List Output) (stopped : ctx'.sessionStopped = (ctx.ended req.chargingSession).sessionStopped)
    (paused : ctx'.sessionPaused = (ctx.ended req.chargingSession).sessionPaused)
    (pauseCtx : ctx'.pauseCtx = (ctx.ended req.chargingSession).pauseCtx)
    (sent : responses log = [.sessionStop (handleSessionStop env req ctx.session)]) :
    FailureHalts state ctx (.ok (state, {})) ctx' log ↔ haltsOnStop ctx req = true := by
  have failed : Response.isFailed (.sessionStop (handleSessionStop env req ctx.session)) = true ↔ _ :=
    handleSessionStop_failed env req ctx.session
  have halted : Halted state ctx (.ok (state, {})) ctx' ↔ ctx'.sessionStopped = true ∧
      ctx'.sessionPaused = ctx.sessionPaused ∧ ctx'.pauseCtx = ctx.pauseCtx :=
    ⟨fun halted => ⟨halted.stopped, halted.paused, halted.pauseCtx⟩,
      fun ⟨stopped, paused, pauseCtx⟩ => ⟨⟨state, rfl, rfl⟩, stopped, paused, pauseCtx⟩⟩
  simp only [FailureHalts, sent, List.mem_singleton, forall_eq, failed, halted, stopped, paused, pauseCtx,
    haltsOnStop]
  cases accepted : (ctx.session.id = req.header.sessionId &&
      !(req.chargingSession = .serviceRenegotiation && !ctx.session.serviceRenegotiationSupported))
  · cases ending : req.chargingSession with
    | pause => simp [Context.ended, keeps_pauseContext_iff, eq_comm (a := true), and_assoc]
    | terminate => simp [Context.ended, eq_comm (a := none)]
    | serviceRenegotiation => simp [Context.ended]
  · simp

theorem stopRequest_halts_iff (state : State) (req : SessionStopRequest)
    (pending : ctx.request = some (.request (.sessionStop req)))
    (late : state.id = .dcWeldingDetection ∨ state.id = .sessionStop) :
    Act.wp (state.feed platform env .v2gtpMessage)
      (fun result ctx' log => FailureHalts state ctx result ctx' log ↔ haltsOnStop ctx req = true) ctx := by
  cases state <;> simp only [State.id, reduceCtorEq, or_false, or_true] at late
  · simp only [State.feed, State.DcWeldingDetection.feed, Act.wp_bind, Feed.wp_pullRequest _ pending]
    simp only [Act.wp_get, Act.wp_pure, Feed.wp_respond, wp_endSession, Platform.stringsFit, true_implies,
      reduceCtorEq, false_implies, and_true]
    apply ended_halts_iff env
    · cases req.chargingSession <;> rfl
    · cases req.chargingSession <;> rfl
    · cases req.chargingSession <;> rfl
    · rfl
  · simp only [State.feed, State.SessionStop.feed, Act.wp_bind, Act.wp_ite, Feed.wp_pullRequest _ pending]
    simp only [Act.wp_get, Act.wp_pure, Feed.wp_feedback, Feed.wp_respond, wp_endSession,
      Platform.stringsFit, true_implies, reduceCtorEq, false_implies, and_true, ne_eq, not_true_eq_false,
      not_false_eq_true, true_and]
    constructor <;> intro _
    all_goals
      apply ended_halts_iff env
      · cases req.chargingSession <;> rfl
      · cases req.chargingSession <;> rfl
      · cases req.chargingSession <;> rfl
      · rfl

theorem negotiation_halts_iff (req : SupportedAppProtocolRequest)
    (pending : ctx.request = some (.request (.supportedAppProtocol req))) :
    Act.wp (State.feed platform env .supportedAppProtocol .v2gtpMessage)
      (fun result ctx' log => FailureHalts .supportedAppProtocol ctx result ctx' log ↔
        (req.appProtocol.any (supportsNamespace ctx.sessionConfig.customProtocol ·.protocolNamespace) ||
          ctx.sessionStopped) = true) ctx := by
  have failed := handleSupportedAppProtocol_failed req ctx.sessionConfig.customProtocol
  simp only [State.feed, State.SupportedAppProtocol.feed, Act.wp_bind, Act.wp_ite,
    Feed.wp_pullRequest _ pending]
  simp only [Act.wp_get, Act.wp_modify, Act.wp_pure, Feed.wp_respond, Platform.stringsFit, ne_eq,
    not_true_eq_false, not_false_eq_true, true_implies, reduceCtorEq, false_implies, true_and, and_true]
  refine ⟨fun refused => ?_, fun negotiated => ?_⟩
  · rw [failed.mp refused, Bool.false_or]
    refine ⟨fun halts => (halts _ (.head _) (decide_eq_true refused)).stopped, fun stopped _ _ _ => ?_⟩
    exact ⟨⟨_, rfl, rfl⟩, stopped, rfl, rfl⟩
  · apply wp_selectAll
    intro result info log _ named
    have unsent : responses log = [] := by
      rw [List.eq_nil_iff_forall_not_mem]
      intro out member
      obtain ⟨_, ⟨⟩⟩ := named _ ((mem_responses log).mp member)
    rw [Bool.eq_true_of_not_eq_false (mt failed.mpr negotiated), Bool.true_or]
    cases result <;> simp [FailureHalts, Output.response?, unsent, Response.isFailed, negotiated]

theorem State.unasked {state : State} {ev : Event} (unasked : ev ≠ .v2gtpMessage)
    (elsewhere : state.id ≠ .powerDelivery) :
    Act.wp (state.feed platform env ev)
      (fun result _ log => (∃ state', result = .ok (state', {})) ∧ log = []) ctx := by
  -- No state but `PowerDelivery` answers anything but a message.
  cases ev
  case v2gtpMessage => exact absurd rfl unasked
  case reset | failed => cases state <;> exact ⟨⟨_, rfl⟩, rfl⟩
  case timeout =>
    cases state <;> first
      | exact absurd rfl elsewhere
      | exact ⟨⟨_, rfl⟩, rfl⟩
      | simp [State.feed, State.Authorization.feed, State.ScheduleExchange.feed]
  case controlMessage =>
    cases state <;> first
      | exact absurd rfl elsewhere
      | exact ⟨⟨_, rfl⟩, rfl⟩
      | simp only [State.feed, State.Authorization.feed, State.AcChargeParameterDiscovery.feed,
          State.ScheduleExchange.feed, State.DcCableCheck.feed, State.DcPreCharge.feed,
          State.DcWeldingDetection.feed, Act.wp_bind, Act.wp_get]
        split <;> exact ⟨⟨_, rfl⟩, rfl⟩

theorem powerDelivery_unasked_halts (self : State.PowerDelivery) {ev : Event}
    (unasked : ev ≠ .v2gtpMessage) :
    Act.wp (State.feed platform env (.powerDelivery self) ev) (FailureHalts (.powerDelivery self) ctx)
      ctx := by
  simp only [State.feed, State.PowerDelivery.feed, Act.wp_bind]
  cases ev
  case v2gtpMessage => exact absurd rfl unasked
  case reset | failed => simp [FailureHalts]
  case controlMessage =>
    simp only [State.PowerDelivery.feedControl, Act.wp_bind, Act.wp_get]
    split
    · simp [FailureHalts]
    · simp only [Act.wp_bind, Feed.wp_stopTimeout]
      split
      · simp [FailureHalts]
      · simp only [Act.wp_pure, Act.wp_ite, Feed.wp_respond, Feed.wp_stopSession, Platform.stringsFit,
          true_implies, reduceCtorEq, false_implies, and_true, Act.wp_bind]
        refine ⟨fun _ _ _ _ => ⟨⟨_, rfl, rfl⟩, rfl, rfl, rfl⟩, fun fine => ?_⟩
        simp [FailureHalts, Output.response?, Response.isFailed, Response.code?, fine]
    · simp [FailureHalts]
  case timeout =>
    simp only [State.PowerDelivery.feedTimeout, Act.wp_bind, Act.wp_get, Act.wp_ite, Act.wp_pure,
      Feed.wp_respond, Feed.wp_stopSession, Platform.stringsFit, true_implies, reduceCtorEq, false_implies,
      and_true]
    exact ⟨fun _ _ _ _ => ⟨⟨_, rfl, rfl⟩, rfl, rfl, rfl⟩, fun _ => by simp [FailureHalts]⟩

theorem State.haltsOnFailure_eq_true {state : State} {variant : Variant}
    (pending : ctx.request = some variant)
    (looks : ∀ req, variant = .request req → state.id.accepts req = true →
      state.id.looksAway req = false) : state.haltsOnFailure ctx .v2gtpMessage = true := by
  unfold State.haltsOnFailure
  split
  case h_4 => rfl
  all_goals
    rename_i waiting
    cases Option.some.inj (pending.symm.trans waiting)
    exact Bool.noConfusion (looks _ rfl rfl)

theorem message_halts_iff (state : State) {variant : Variant} (pending : ctx.request = some variant) :
    Act.wp (state.feed platform env .v2gtpMessage)
      (fun result ctx' log => FailureHalts state ctx result ctx' log ↔
        state.haltsOnFailure ctx .v2gtpMessage = true) ctx := by
  by_cases accepted : ∃ req, variant = .request req ∧ state.id.accepts req = true
  · obtain ⟨req, rfl, accepts⟩ := accepted
    cases looks : state.id.looksAway req with
    | true =>
        cases state <;> cases req <;> simp only [State.id, StateId.accepts, StateId.looksAway,
          Bool.false_eq_true] at accepts looks
        · rename_i req
          simpa [State.haltsOnFailure, pending] using negotiation_halts_iff platform env ctx req pending
        · rename_i self req
          simpa [State.haltsOnFailure, pending] using
            stopRequest_halts_iff platform env ctx (.dcWeldingDetection self) req pending (.inl rfl)
        · rename_i req
          simpa [State.haltsOnFailure, pending] using
            stopRequest_halts_iff platform env ctx .sessionStop req pending (.inr rfl)
    | false =>
        refine Act.wp_mono _ _ (state.message_branch platform env ctx pending accepts) ?_
        intro result ctx' log branch
        have always := State.haltsOnFailure_eq_true ctx pending (by rintro _ ⟨⟩ _; exact looks)
        exact ⟨fun _ => always, fun _ => branch.failed looks⟩
  · have always := State.haltsOnFailure_eq_true ctx pending
      (fun req same accepts => absurd ⟨req, same, accepts⟩ accepted)
    apply state.wp_unexpected platform env pending
    · intro req same
      by_contra accepts
      exact accepted ⟨req, same, Bool.eq_true_of_not_eq_false accepts⟩
    · intro response log _
      exact ⟨fun _ => always, fun _ _ _ _ => ⟨⟨state, rfl, rfl⟩, rfl, rfl, rfl⟩⟩

theorem State.unfed (state : State) (unfed : ctx.request = none) :
    Act.wp (state.feed platform env .v2gtpMessage)
      (fun result _ log => result = .error .runtimeError ∧ log = []) ctx := by
  have thrown (post : Except Exn Variant → Context → List Output → Prop) :
      Act.wp Feed.pullRequest post ctx ↔ post (.error .runtimeError) ctx [] := by
    simp [Feed.pullRequest, unfed]
  cases state
  case supportedAppProtocol | sessionSetup | authorizationSetup | serviceDiscovery | serviceDetail |
      serviceSelection | dcChargeParameterDiscovery | sessionStop =>
    simp [State.feed, State.SupportedAppProtocol.feed, State.SessionSetup.feed,
      State.AuthorizationSetup.feed, State.ServiceDiscovery.feed, State.ServiceDetail.feed,
      State.ServiceSelection.feed, State.DcChargeParameterDiscovery.feed, State.SessionStop.feed, thrown]
  all_goals
    simp [State.feed, State.Authorization.feed, State.AcChargeParameterDiscovery.feed,
      State.ScheduleExchange.feed, State.DcCableCheck.feed, State.DcPreCharge.feed,
      State.PowerDelivery.feed, State.AcChargeLoop.feed, State.DcChargeLoop.feed,
      State.DcWeldingDetection.feed, thrown]

/-- A failing answer stops the session and changes nothing else, exactly when the state looks at its
answer or what it does instead changes nothing. -/
theorem failure_halts_iff (state : State) (ev : Event) :
    FailureHalts state ctx (state.feed platform env ev ctx).result (state.feed platform env ev ctx).state
      (state.feed platform env ev ctx).log ↔ state.haltsOnFailure ctx ev = true := by
  by_cases message : ev = .v2gtpMessage
  · subst message
    cases pending : ctx.request with
    | some variant => exact message_halts_iff platform env ctx state pending
    | none =>
        have always : state.haltsOnFailure ctx .v2gtpMessage = true := by
          unfold State.haltsOnFailure
          split <;> simp_all
        have silent : (state.feed platform env .v2gtpMessage ctx).log = [] :=
          (state.unfed platform env ctx pending).2
        simp [FailureHalts, silent, always]
  · have always : state.haltsOnFailure ctx ev = true := by
      unfold State.haltsOnFailure
      split <;> simp_all
    refine ⟨fun _ => always, fun _ => ?_⟩
    by_cases delivery : state.id = .powerDelivery
    · obtain ⟨self, rfl⟩ := State.eq_powerDelivery delivery
      exact powerDelivery_unasked_halts platform env ctx self message
    · have silent : (state.feed platform env ev ctx).log = [] :=
        (State.unasked platform env ctx message delivery).2
      simp [FailureHalts, silent]

end Failures

open Fsm Sample in
/-- A `SessionStopReq(Pause)` of another session is refused, but it pauses the session. -/
theorem failure_pauses :
    ¬∀ (platform : Platform) (config : SessionConfig) (pauseCtx : Option PauseContext) (id : SessionId)
      (inputs : List Input) (env : Env) (req : Request),
      FailureHalts (reached platform config pauseCtx id inputs).state
        (messageContext (reached platform config pauseCtx id inputs).ctx (.request req))
        ((reached platform config pauseCtx id inputs).state.feed platform env .v2gtpMessage
          (messageContext (reached platform config pauseCtx id inputs).ctx (.request req))).result
        ((reached platform config pauseCtx id inputs).state.feed platform env .v2gtpMessage
          (messageContext (reached platform config pauseCtx id inputs).ctx (.request req))).state
        ((reached platform config pauseCtx id inputs).state.feed platform env .v2gtpMessage
          (messageContext (reached platform config pauseCtx id inputs).ctx (.request req))).log := by
  intro halts
  have halted := halts platform config none (sessionId 9)
    (reachDcPowerDelivery (sessionId 1) ++ [deliver (sessionId 1) .start, deliver (sessionId 1) .stop]) {}
    (.sessionStop { header := { sessionId := sessionId 2 }, chargingSession := .pause })
  have halting := (message_halts_iff platform {} _ _ (messageContext_request _ _)).mp halted
  exact absurd halting (by decide +kernel)

end LibIso15118
