import LibIso15118.Session.Run

set_option autoImplicit false

namespace LibIso15118

open Datatypes Shared

def Input.isTimer : Input → Bool
  | .sequenceTimeout | .timeout _ _ => true
  | _ => false

/-- The machine serves the request: its answer is no failure, or `PowerDelivery` saves it until the
contactor reports. -/
def Serves (record : FsmStep) (req : Request) : Prop :=
  (∃ res ∈ responses record.outputs, res.isFailed = false) ∨
    ∃ self delivery, record.before.state = .powerDelivery self ∧ req = .powerDelivery delivery ∧
      self.Defers delivery record.before.ctx.session

theorem Response.isFailed_of_code {res : Response} {code : ResponseCode} (coded : res.code? = some code) :
    res.isFailed = code.isFailed := by
  cases res <;> simp_all [Response.isFailed, Response.code?]

namespace Fsm

variable (platform : Platform)

structure Undeferred (fsm : Fsm) : Prop where
  idle : fsm.ctx.request = none
  unsaved : fsm.ctx.sessionStopped = false → ∀ self, fsm.state = .powerDelivery self →
    self.previousReq = none

theorem undeferred_step {fsm : Fsm} (undeferred : Undeferred fsm) (input : Input) :
    Undeferred (step platform input fsm).state := by
  have frame := step_frame platform fsm input undeferred.idle
  refine ⟨frame.idle, fun running self' delivery' => ?_⟩
  have running' : fsm.ctx.sessionStopped = false := by
    by_contra stopped
    exact absurd (frame.stopped (by simpa using stopped)) (by simp [running])
  by_cases inside : fsm.state.id = .powerDelivery
  · obtain ⟨self, delivery⟩ := State.eq_powerDelivery inside
    rcases powerDelivery_saves platform delivery undeferred.idle input self' delivery' with same | stopped
    · rw [same]
      exact undeferred.unsaved running' self delivery
    · exact absurd stopped (by simp [running])
  · -- the state has just been created
    rcases frame.next with same | ⟨next, _, created⟩
    · exact absurd (same.symm.trans (by rw [delivery']; rfl)) inside
    · rw [created] at delivery'
      cases next <;> cases delivery'
      rfl

theorem Undeferred.unresumed {fsm : Fsm} (undeferred : Undeferred fsm)
    (running : fsm.ctx.sessionStopped = false) (event : ControlEvent) : ¬fsm.state.Resumes event := by
  rintro ⟨self, req, closed, delivery, saved, -⟩
  rw [undeferred.unsaved running self delivery] at saved
  cases saved

theorem deferred_stops {fsm : Fsm} {self : State.PowerDelivery} {req : PowerDeliveryRequest}
    (idle : fsm.ctx.request = none) (delivery : fsm.state = .powerDelivery self)
    (defers : self.Defers req fsm.ctx.session) (env : Env) :
    (step platform (.message env (.request (.powerDelivery req))) fsm).state.ctx.sessionStopped = true := by
  -- A deferred request counts as unhandled.
  suffices spec : Act.wp (step platform (.message env (.request (.powerDelivery req))))
      (fun _ fsm' _ => fsm'.ctx.sessionStopped = true) fsm from spec
  rw [wp_step_message platform env _ fsm idle, delivery]
  have pending := messageContext_request fsm.ctx (.request (.powerDelivery req))
  simp only [State.feed, State.PowerDelivery.feed, Act.wp_bind, Feed.wp_pullRequest _ pending]
  apply wp_feedPowerDelivery
  · exact fun _ => rfl
  · exact fun ready => absurd defers ready

theorem movesOn_congr (state : State) (req : Request) {ctx ctx' : Context}
    (cert : ctx'.vehicleCertHash = ctx.vehicleCertHash) (pauseCtx : ctx'.pauseCtx = ctx.pauseCtx)
    (session : ctx'.session = ctx.session) :
    state.movesOn platform ctx' req = state.movesOn platform ctx req := by
  cases state <;> cases req <;> simp only [State.movesOn, cert, pauseCtx, session]

theorem message_stops_iff {fsm : Fsm} (idle : fsm.ctx.request = none)
    (running : fsm.ctx.sessionStopped = false) (env : Env) (req : Request)
    (serves : Serves (Machine.stepOf (step platform) fsm (.message env (.request req))) req) :
    (step platform (.message env (.request req)) fsm).state.ctx.sessionStopped = false ↔
      fsm.state.movesOn platform fsm.ctx req = true := by
  -- A request that is served stops the session unless the state asks for another one.
  rcases serves with ⟨res, answered, fine⟩ | ⟨self, delivery, state, rfl, defers⟩
  · suffices spec : Act.wp (step platform (.message env (.request req))) (fun _ fsm' log =>
        res ∈ responses log → (fsm'.ctx.sessionStopped = false ↔
          fsm.state.movesOn platform fsm.ctx req = true)) fsm from spec answered
    rw [wp_step_message platform env _ fsm idle]
    have pending := messageContext_request fsm.ctx (.request req)
    by_cases accepts : fsm.state.id.accepts req = true
    · refine Act.wp_mono _ _ (State.message_branch platform env _ fsm.state pending accepts) ?_
      intro result ctx' log branch sent
      have goesOn := branch.fine res (by simpa [Output.response?] using sent) fine
      have same : fsm.state.movesOn platform (messageContext fsm.ctx (.request req)) req =
          fsm.state.movesOn platform fsm.ctx req := movesOn_congr platform _ _ rfl rfl rfl
      rw [same] at goesOn
      by_cases moves : fsm.state.movesOn platform fsm.ctx req = true
      · obtain ⟨kept, handled⟩ := goesOn.moves moves
        have still : ctx'.sessionStopped = false := kept.trans running
        rcases result with e | ⟨state', res⟩
        · simpa [moves] using still
        · have handled := handled state' res rfl
          simp only [moves, iff_true, settle, handled]
          cases res.newState <;> exact still
      · obtain ⟨state', rfl⟩ := goesOn.stays (by simpa using moves)
        simp [moves]
    · apply State.wp_unexpected platform env pending
      · rintro _ ⟨⟩
        simpa using accepts
      · intro response log refused sent
        have refusal : Output.respond res ∈ log := by simpa [Output.response?, mem_responses] using sent
        obtain ⟨_, ⟨⟩, code⟩ := refused _ refusal
        exact absurd fine (by rw [Response.isFailed_of_code code]; decide)
  · have stops := deferred_stops platform idle state defers env
    obtain ⟨ac, opened, start⟩ : _ ∧ _ := defers
    have state : fsm.state = .powerDelivery self := state
    have ac : fsm.ctx.session.isAcCharger = true := ac
    simp [stops, state, State.movesOn, ac, opened, start]

end Fsm

namespace IsoSession

variable (platform : Platform)

structure Prepared (state : State) (ctx : Context) (session : IsoSession) : Prop where
  undeferred : session.fsm.Undeferred
  running : session.fsm.ctx.sessionStopped = false
  state : session.fsm.state = state
  cert : session.fsm.ctx.vehicleCertHash = ctx.vehicleCertHash
  pauseCtx : session.fsm.ctx.pauseCtx = ctx.pauseCtx
  session : session.fsm.ctx.session = ctx.session

variable {state : State} {ctx : Context} {session : IsoSession}

theorem dispatch_control_prepared (prepared : Prepared state ctx session) (env : Env)
    (event : ControlEvent) :
    (dispatch platform (.control env event) session).result = .ok () ∧
      Prepared (state.afterControl event) ctx (dispatch platform (.control env event) session).state := by
  have undeferred := Fsm.undeferred_step platform prepared.undeferred (.control env event)
  suffices spec : Act.wp (Fsm.step platform (.control env event)) (fun result fsm' _ => fsm'.Undeferred →
      result = .ok () ∧ Prepared (state.afterControl event) ctx { session with fsm := fsm' }) session.fsm from
    spec undeferred
  have unresumed := prepared.undeferred.unresumed prepared.running event
  apply Fsm.wp_step_control_quiet platform env event session.fsm unresumed
  intro timeouts _ undeferred
  exact ⟨rfl,
    { undeferred
      running := by simpa using prepared.running
      state := by simp [prepared.state]
      cert := by simpa using prepared.cert
      pauseCtx := by simpa using prepared.pauseCtx
      session := by simpa using prepared.session }⟩

theorem sendControlEvents_prepared (env : Nat → Env) (index : Nat) (events : List ControlEvent)
    (prepared : Prepared state ctx session) :
    Act.wp (sendControlEvents platform env index events) (fun result session' log => result = .ok () ∧
      Prepared (events.foldl State.afterControl state) ctx session' ∧
      ∀ record ∈ machineSteps log, ∃ env event, record.input = .control env event) session := by
  induction events generalizing index state session with
  | nil => exact ⟨rfl, prepared, by simp [sendControlEvents]⟩
  | cons event rest hyp =>
      -- taking the event from the queue does not touch the machine
      have taken : Prepared state ctx { session with controlEventQueue := rest } := { prepared with }
      obtain ⟨returned, next⟩ := dispatch_control_prepared platform taken (env index) event
      obtain ⟨result, last, controls⟩ := hyp (index + 1) next
      simp only [sendControlEvents, Act.wp_bind, Act.wp_modify]
      rw [Act.wp_iff, returned]
      refine ⟨result, last, ?_⟩
      simp only [List.nil_append, machineSteps_append, List.mem_append]
      rintro record (here | later)
      · rw [show record = _ from List.mem_singleton.mp here]
        exact ⟨env index, event, rfl⟩
      · exact controls record later

def Spared (state : State) (ctx : Context) (session' : IsoSession) (log : List SessionOutput) : Prop :=
  (∀ record ∈ machineSteps log, record.input.isTimer = false) →
    ∀ record ∈ machineSteps log, ∀ env req, record.input = .message env (.request req) → Serves record req →
      (session'.fsm.ctx.sessionStopped = false ↔ state.movesOn platform ctx req = true)

variable {platform} {log log' : List SessionOutput} {session' : IsoSession}

theorem Spared.of_unfed (unfed : ∀ record ∈ machineSteps log, ∀ env variant,
    record.input ≠ .message env variant) : Spared platform state ctx session' log :=
  fun _ record member env req fed => absurd fed (unfed record member env (.request req))

theorem Spared.prepend (unfed : ∀ record ∈ machineSteps log, ∀ env variant,
    record.input ≠ .message env variant) (spared : Spared platform state ctx session' log') :
    Spared platform state ctx session' (log ++ log') := by
  intro untimed record member env req fed
  rw [machineSteps_append] at untimed member
  rcases List.mem_append.mp member with before | here
  · exact absurd fed (unfed record before env (.request req))
  · exact spared (fun other there => untimed other (List.mem_append_right _ there)) record here env req fed

theorem Spared.append (spared : Spared platform state ctx session log)
    (unfed : ∀ record ∈ machineSteps log', ∀ env variant, record.input ≠ .message env variant)
    (same : session'.fsm.ctx.sessionStopped = session.fsm.ctx.sessionStopped) :
    Spared platform state ctx session' (log ++ log') := by
  intro untimed record member env req fed
  rw [machineSteps_append] at untimed member
  rcases List.mem_append.mp member with here | after
  · rw [same]
    exact spared (fun other there => untimed other (List.mem_append_left _ there)) record here env req fed
  · exact absurd fed (unfed record after env (.request req))

theorem Spared.of_timer {record : FsmStep} (member : record ∈ machineSteps log)
    (timer : record.input.isTimer = true) : Spared platform state ctx session' log :=
  fun untimed => absurd timer (by simp [untimed record member])

variable (platform)

theorem dispatch_message_spared (prepared : Prepared state ctx session) (env : Env) (variant : Variant) :
    Spared platform state ctx (dispatch platform (.message env variant) session).state
      (dispatch platform (.message env variant) session).log := by
  intro _ record member env' req fed serves
  obtain rfl := List.mem_singleton.mp member
  obtain ⟨rfl, rfl⟩ := Input.message.inj fed
  rw [← Fsm.movesOn_congr platform state req prepared.cert prepared.pauseCtx prepared.session, ← prepared.state]
  exact Fsm.message_stops_iff platform prepared.undeferred.idle prepared.running env req serves

theorem handlePacket_spared (prepared : Prepared state ctx session) (env : PollEnv) :
    Spared platform state ctx (handlePacket platform env session).state
      (handlePacket platform env session).log := by
  suffices spec : Act.wp (handlePacket platform env)
      (fun _ session' log => Spared platform state ctx session' log) session from spec
  simp only [handlePacket, Act.wp_bind, Act.wp_get, Act.wp_ite, List.nil_append]
  refine ⟨fun _ => ?_, fun _ => .of_unfed (by simp)⟩
  cases platform.decode session.packet.getPayloadType session.packet.getPayload with
  | error e => exact .of_unfed (by simp)
  | ok variant =>
      simp only [Act.wp_bind, Act.wp_ite, Act.wp_modify, List.nil_append]
      have reset : Prepared state ctx { session with packet := {} } := { prepared with }
      exact ⟨fun _ => dispatch_message_spared platform reset env.message variant,
        fun _ => dispatch_message_spared platform prepared env.message variant⟩

theorem handleTimeouts_cases (env : TimeoutType → Env) (types : List TimeoutType) (session : IsoSession) :
    handleTimeouts platform env types session = ⟨.ok (), session, []⟩ ∨
      ∃ record ∈ machineSteps (handleTimeouts platform env types session).log,
        record.input.isTimer = true := by
  cases types with
  | nil => exact .inl rfl
  | cons type rest =>
      right
      have fired (input : Input) (timer : input.isTimer = true) (rest : SessionAct Unit) :
          ∃ record ∈ machineSteps ((dispatch platform input >>= fun _ => rest) session).log,
            record.input.isTimer = true := by
        obtain ⟨later, log⟩ := Act.log_bind (dispatch platform input) (fun _ => rest) session
        rw [log, machineSteps_append]
        exact ⟨_, List.mem_append_left _ (List.mem_singleton_self _), timer⟩
      cases type
      case sequence => exact ⟨_, List.mem_singleton_self _, rfl⟩
      all_goals exact fired _ rfl _

theorem checkTimeouts_cases (env : PollEnv) (session : IsoSession) :
    checkTimeouts platform env session = ⟨.ok (), session, []⟩ ∨
      ∃ record ∈ machineSteps (checkTimeouts platform env session).log, record.input.isTimer = true :=
  handleTimeouts_cases platform env.timeout ((session.fsm.ctx.timeouts.check env.clock).getD []) session

def Unfed (session session' : IsoSession) (log : List SessionOutput) : Prop :=
  (∀ record ∈ machineSteps log, ∀ env variant, record.input ≠ .message env variant) ∧
    session'.fsm.ctx.sessionStopped = session.fsm.ctx.sessionStopped

theorem Unfed.trans {s t u : IsoSession} {l l' : List SessionOutput} (first : Unfed s t l)
    (next : Unfed t u l') : Unfed s u (l ++ l') := by
  refine ⟨fun record member => ?_, next.2.trans first.2⟩
  rw [machineSteps_append] at member
  exact (List.mem_append.mp member).elim (first.1 record) (next.1 record)

theorem CloseStep.unfed {now : TimePoint} {s t : IsoSession} {l : List SessionOutput}
    (step : CloseStep now s t l) : Unfed s t l := by
  cases step <;> simp [Unfed, machineSteps, SessionOutput.step?]

theorem sendResponse_unfed (env : PollEnv) : Act.Keeps Unfed (sendResponse platform env) := by
  have silent {out : SessionOutput} (step : out.step? = none) :
      Act.Keeps Unfed (Act.emit out : SessionAct Unit) := fun _ => by simp [Unfed, machineSteps, step]
  have dispatched {input : Input} (fed : ∀ env variant, input ≠ .message env variant)
      (same : ∀ fsm, (Fsm.step platform input fsm).state.ctx.sessionStopped = fsm.ctx.sessionStopped) :
      Act.Keeps Unfed (dispatch platform input) := by
    refine fun session => ⟨fun record member => ?_, same session.fsm⟩
    rw [List.mem_singleton.mp member]
    exact fed
  refine .bind .trans (.get fun _ => ⟨by simp, rfl⟩) fun session => ?_
  refine .bind .trans (dispatched (by simp) fun _ => rfl) fun _ => ?_
  cases session.fsm.ctx.pendingResponse with
  | none => exact .pure (fun _ => ⟨by simp, rfl⟩) ()
  | some pending =>
      refine .ite (fun _ => .throw (fun _ => ⟨by simp, rfl⟩) _) fun _ => ?_
      refine .bind .trans (silent rfl) fun _ => .bind .trans (dispatched (by simp) fun _ => rfl) fun _ => ?_
      exact silent rfl

section Bind

variable {α β : Type} {m : SessionAct α} {f : α → SessionAct β}

theorem spared_then (first : Spared platform state ctx (m session).state (m session).log)
    (next : ∀ a, Act.Keeps Unfed (f a)) :
    Spared platform state ctx ((m >>= f) session).state ((m >>= f) session).log := by
  rw [Act.bind_apply]
  cases (m session).result with
  | error e => exact first
  | ok a => exact first.append (next a _).1 (next a _).2

theorem spared_after (unfed : ∀ record ∈ machineSteps (m session).log, ∀ env variant,
      record.input ≠ .message env variant)
    (next : ∀ a, (m session).result = .ok a →
      Spared platform state ctx (f a (m session).state).state (f a (m session).state).log) :
    Spared platform state ctx ((m >>= f) session).state ((m >>= f) session).log := by
  rw [Act.bind_apply]
  cases result : (m session).result with
  | error e => exact .of_unfed unfed
  | ok a => exact (next a result).prepend unfed

end Bind

theorem receive_machine (env : PollEnv) (session : IsoSession) :
    (receive env session).log = [] ∧ (receive env session).state.fsm = session.fsm := by
  unfold receive
  by_cases data : session.newData = true
  · simp only [data, if_true]
    split <;> exact ⟨rfl, rfl⟩
  · simp only [data]
    exact ⟨rfl, rfl⟩

theorem advance_spared (env : PollEnv) (queue : List ControlEvent)
    (undeferred : session.fsm.Undeferred) (running : session.fsm.ctx.sessionStopped = false) :
    Spared platform (queue.foldl State.afterControl session.fsm.state) session.fsm.ctx
      (advance platform env queue session).state (advance platform env queue session).log := by
  obtain ⟨silent, same⟩ := receive_machine env session
  refine spared_after platform (by simp [silent]) fun _ _ => ?_
  have received : Prepared session.fsm.state session.fsm.ctx (receive env session).state := by
    constructor <;> simp [same, undeferred, running]
  obtain ⟨_, prepared, controls⟩ := sendControlEvents_prepared platform env.control 0 queue received
  refine spared_after platform ?_ fun _ _ => ?_
  · intro record member env' variant fed
    obtain ⟨_, _, control⟩ := controls record member
    rw [control] at fed
    cases fed
  rcases checkTimeouts_cases platform env
      (sendControlEvents platform env.control 0 queue (receive env session).state).state with
    untimed | ⟨record, member, timer⟩
  · rw [Act.bind_apply, untimed]
    exact spared_then platform (handlePacket_spared platform prepared env) fun _ =>
      sendResponse_unfed platform env
  · obtain ⟨later, log⟩ := Act.log_bind (checkTimeouts platform env)
      (fun _ => handlePacket platform env >>= fun _ => sendResponse platform env)
      (sendControlEvents platform env.control 0 queue (receive env session).state).state
    rw [log]
    exact .of_timer (by rw [machineSteps_append]; exact List.mem_append_left _ member) timer

theorem poll_spared (env : PollEnv) (undeferred : session.fsm.Undeferred)
    (running : session.fsm.ctx.sessionStopped = false) :
    Spared platform (session.controlEventQueue.foldl State.afterControl session.fsm.state) session.fsm.ctx
      (poll platform env session).state (poll platform env session).log := by
  suffices spec : Act.wp (poll platform env) (fun _ session' log =>
      Spared platform (session.controlEventQueue.foldl State.afterControl session.fsm.state)
        session.fsm.ctx session' log) session from spec
  rw [wp_poll]
  refine ⟨fun _ => .of_unfed (by simp), fun _ => ?_⟩
  have advanced := advance_spared platform env session.controlEventQueue undeferred running
  rw [Act.wp_iff]
  cases (advance platform env session.controlEventQueue session).result with
  | error e => exact advanced
  | ok _ =>
      have closed : Unfed _ _ (closeWhenDue env.now _).log :=
        (closeWhenDue_step env.now (advance platform env session.controlEventQueue session).state).2.unfed
      exact advanced.append closed.1 closed.2

end IsoSession

open LinkedSession in
theorem undeferred_reached (platform : Platform) (config : SessionConfig) (pauseCtx : Option PauseContext)
    (vehicle : Option Sha512Hash) (id : SessionId) (start : TimePoint) (inputs : List SessionInput) :
    (reached platform (.new config pauseCtx vehicle id start) inputs).session.fsm.Undeferred := by
  obtain ⟨machineInputs, fsm⟩ := reached_fsm platform (.new config pauseCtx vehicle id start) inputs
  rw [fsm]
  refine Machine.run_induction (Fsm.step platform) _ (motive := fun _ fsm => fsm.Undeferred)
    ⟨rfl, by rintro _ _ ⟨⟩⟩ ?_ machineInputs
  exact fun _ fsm input undeferred => Fsm.undeferred_step platform undeferred input

open LinkedSession in
/-- A poll that serves a request, with no timer reached, keeps the session alive exactly when the state,
as the queued control events leave it, goes on to another one. -/
theorem spurious_stop_iff (platform : Platform) (config : SessionConfig) (pauseCtx : Option PauseContext)
    (vehicle : Option Sha512Hash) (id : SessionId) (start : TimePoint) (inputs : List SessionInput)
    (env : PollEnv) {record : FsmStep} {messageEnv : Env} {req : Request}
    (running : (reached platform (.new config pauseCtx vehicle id start)
      inputs).session.fsm.ctx.sessionStopped = false)
    (member : record ∈ machineSteps
      (act platform (.poll env) (reached platform (.new config pauseCtx vehicle id start) inputs)).log)
    (fed : record.input = .message messageEnv (.request req)) (serves : Serves record req)
    (untimed : ∀ other ∈ machineSteps
      (act platform (.poll env) (reached platform (.new config pauseCtx vehicle id start) inputs)).log,
      other.input.isTimer = false) :
    (act platform (.poll env) (reached platform (.new config pauseCtx vehicle id start)
        inputs)).state.session.fsm.ctx.sessionStopped = false ↔
      ((reached platform (.new config pauseCtx vehicle id start) inputs).session.controlEventQueue.foldl
          State.afterControl
          (reached platform (.new config pauseCtx vehicle id start) inputs).session.fsm.state).movesOn
        platform (reached platform (.new config pauseCtx vehicle id start) inputs).session.fsm.ctx req =
      true :=
  IsoSession.poll_spared platform env (undeferred_reached platform config pauseCtx vehicle id start inputs)
    running untimed record member messageEnv req fed serves

namespace Sample

def appHandDocument : Request → Option (AppHandExiDocument capacities)
  | .supportedAppProtocol req => (req.convert default).toOption.map .supportedAppProtocolReq
  | _ => none

def iso20Document : Request → Option (Iso20ExiDocument capacities)
  | .sessionSetup req => (req.convert default).toOption.map .sessionSetupReq
  | .authorizationSetup req => some (.authorizationSetupReq req.convert)
  | .authorization req => some (.authorizationReq (req.convert default))
  | .serviceDiscovery req => (req.convert default).toOption.map .serviceDiscoveryReq
  | .serviceDetail req => some (.serviceDetailReq req.convert)
  | .serviceSelection req => (req.convert default).toOption.map .serviceSelectionReq
  | .scheduleExchange req => (req.convert default).toOption.map .scheduleExchangeReq
  | .powerDelivery req => (req.convert default).toOption.map .powerDeliveryReq
  | .sessionStop req => (req.convert default).toOption.map .sessionStopReq
  | _ => none

def iso20AcDocument : Request → Option (Iso20AcExiDocument capacities)
  | .acChargeParameterDiscovery req => some (.chargeParameterDiscoveryReq (req.convert default))
  | _ => none

def numbering (requests : List Request) : Platform :=
  let sent (payload : List UInt8) : Option Request := do requests[(← payload.head?).toNat]?
  { platform with
    decoders :=
      { appHand := fun payload => sent payload >>= appHandDocument
        iso20 := fun payload => sent payload >>= iso20Document
        iso20Dc := fun _ => none
        iso20Ac := fun payload => sent payload >>= iso20AcDocument } }

def authorizationReq : Request := .authorization ⟨{ sessionId := sessionId 1 }, .eim, .eim⟩

def numberedPlatform : Platform := numbering
  [.supportedAppProtocol ⟨[⟨iso20DcNamespace, 1, 0, 1, 1⟩]⟩, .sessionSetup ⟨{}, "EVCC"⟩,
    .authorizationSetup ⟨{ sessionId := sessionId 1 }⟩, authorizationReq]

def request (number : UInt8) : PollEnv :=
  let payloadType := if number = 0 then payloadTypeSap else if number = 7 then payloadTypePart20Ac
    else payloadTypePart20Main
  { reads := [fun _ => .ok ⟨false, setupResponseHeader payloadType 1⟩, fun _ => .ok ⟨false, [number]⟩]
    message := { newSessionId := sessionId 1 } }

def authorizing : List SessionInput :=
  [.accept, .opened, .data, .poll (request 0), .poll (request 1), .poll (request 2)]

def authorization : Outcome LinkedSession SessionOutput Exn Unit :=
  LinkedSession.act numberedPlatform (.poll (request 3))
    (LinkedSession.reached numberedPlatform (.new config none none (sessionId 9) 0) authorizing)

theorem authorization_serves : ∃ record ∈ machineSteps authorization.log,
    record.input = .message { newSessionId := sessionId 1 } (.request authorizationReq) ∧
      Serves record authorizationReq := by
  have fed : machineSteps authorization.log ≠ [] := by decide +kernel
  have answered : ((responses ((machineSteps authorization.log).head fed).outputs).any
      fun res => !res.isFailed) = true := by decide +kernel +revert
  exact ⟨_, List.head_mem fed, rfl, .inl (by simpa using answered)⟩

theorem authorization_untimed : ∀ other ∈ machineSteps authorization.log, other.input.isTimer = false := by
  decide +kernel

end Sample

open LinkedSession Sample in
theorem spurious_stop_ongoing :
    authorization.state.session.fsm.ctx.sessionStopped = false ↔
      State.movesOn numberedPlatform
        (reached numberedPlatform (.new config none none (sessionId 9) 0) authorizing).session.fsm.ctx
        (.authorization {}) authorizationReq = true := by
  obtain ⟨record, member, fed, serves⟩ := authorization_serves
  exact spurious_stop_iff numberedPlatform config none none (sessionId 9) 0 authorizing (request 3)
    (by decide +kernel) member fed serves authorization_untimed

open LinkedSession Sample in
/-- The first `AuthorizationReq` is answered with Ongoing, and the session is stopped. -/
theorem spurious_stop_authorization :
    ¬∀ (platform : Platform) (config : SessionConfig) (pauseCtx : Option PauseContext)
      (vehicle : Option Sha512Hash) (id : SessionId) (start : TimePoint) (inputs : List SessionInput)
      (env : PollEnv) (record : FsmStep) (messageEnv : Env) (req : Request),
      (reached platform (.new config pauseCtx vehicle id start)
        inputs).session.fsm.ctx.sessionStopped = false →
      record ∈ machineSteps
        (act platform (.poll env) (reached platform (.new config pauseCtx vehicle id start) inputs)).log →
      record.input = .message messageEnv (.request req) → (∀ stop, req ≠ .sessionStop stop) →
      Serves record req →
      (∀ other ∈ machineSteps
        (act platform (.poll env) (reached platform (.new config pauseCtx vehicle id start) inputs)).log,
        other.input.isTimer = false) →
      (act platform (.poll env) (reached platform (.new config pauseCtx vehicle id start)
        inputs)).state.session.fsm.ctx.sessionStopped = false := by
  intro spared
  obtain ⟨record, member, fed, serves⟩ := authorization_serves
  have still := spared numberedPlatform config none none (sessionId 9) 0 authorizing (request 3) record _ _
    (by decide +kernel) member fed (by simp [authorizationReq]) serves authorization_untimed
  exact absurd still (by decide +kernel)

end LibIso15118
