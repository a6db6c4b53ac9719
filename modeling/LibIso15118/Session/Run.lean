import LibIso15118.Session.Iso
import LibIso15118.Fsm.Phases

set_option autoImplicit false

/-!
# Runs of a session

The session together with its connection. Both connections of the library accept one vehicle, report
NEW_DATA only once they are open, and report CLOSED only from their own `close`.
-/

namespace LibIso15118

open Datatypes Shared

inductive Link where
  | listening
  | accepted
  | opened
  | closed
  deriving DecidableEq

structure LinkedSession where
  session : IsoSession
  link : Link := .listening

inductive SessionInput where
  /-- a vehicle connects -/
  | accept
  /-- the connection is open: at once without TLS, else after the handshake -/
  | opened
  | data
  | push (event : ControlEvent)
  | poll (env : PollEnv)
  /-- `Session::close` -/
  | close

abbrev SessionStep := Step LinkedSession SessionInput SessionOutput

def Input.fed : Input → Bool
  | .control _ _ | .sequenceTimeout | .timeout _ _ | .message _ _ => true
  | _ => false

def SessionOutput.isClose : SessionOutput → Bool
  | .close => true
  | _ => false

def SessionOutput.step? : SessionOutput → Option FsmStep
  | .step record => some record
  | _ => none

/-- The signals of an output: those that the machine sends and those of `Session` itself. -/
def SessionOutput.signals : SessionOutput → List Signal
  | .step record => LibIso15118.signals record.outputs
  | .feedback (.signal signal) => [signal]
  | _ => []

def closes (log : List SessionOutput) : Nat := log.countP (·.isClose)

def machineSteps (log : List SessionOutput) : List FsmStep := log.filterMap (·.step?)

def sessionSignals (log : List SessionOutput) : List Signal := log.flatMap (·.signals)

section Logs

variable (log log' : List SessionOutput)

@[simp] theorem closes_append : closes (log ++ log') = closes log + closes log' := List.countP_append ..

@[simp] theorem machineSteps_append :
    machineSteps (log ++ log') = machineSteps log ++ machineSteps log' := List.filterMap_append

@[simp] theorem sessionSignals_append :
    sessionSignals (log ++ log') = sessionSignals log ++ sessionSignals log' := List.flatMap_append

@[simp] theorem closes_nil : closes [] = 0 := rfl

@[simp] theorem machineSteps_nil : machineSteps [] = [] := rfl

@[simp] theorem sessionSignals_nil : sessionSignals [] = [] := rfl

end Logs

namespace LinkedSession

variable (platform : Platform)

/-- A call of the session; its `connection->close` closes the link. -/
def call (m : SessionAct Unit) : Act LinkedSession SessionOutput Exn Unit := fun linked =>
  ⟨(m linked.session).result,
    ⟨(m linked.session).state,
      if (m linked.session).log.any (·.isClose) then .closed else linked.link⟩,
    (m linked.session).log⟩

def report (before after : Link) (event : ConnectionEvent) :
    Act LinkedSession SessionOutput Exn Unit := fun linked =>
  if linked.link = before then
    let outcome := IsoSession.handleConnectionEvent platform event linked.session
    ⟨outcome.result, ⟨outcome.state, after⟩, outcome.log⟩
  else ⟨.ok (), linked, []⟩

def act : SessionInput → Act LinkedSession SessionOutput Exn Unit
  | .accept => report platform .listening .accepted .accepted
  | .opened => report platform .accepted .opened .opened
  | .data => report platform .opened .opened .newData
  | .push event => call (IsoSession.pushControlEvent event)
  | .poll env => call (IsoSession.poll platform env)
  | .close => call (IsoSession.close platform)

def run (start : LinkedSession) (inputs : List SessionInput) : List SessionStep :=
  Machine.steps (act platform) start inputs

def reached (start : LinkedSession) (inputs : List SessionInput) : LinkedSession :=
  Machine.final (act platform) start inputs

end LinkedSession

def Follows (platform : Platform) (session session' : IsoSession) (log : List SessionOutput) : Prop :=
  ∃ inputs, machineSteps log = Machine.steps (Fsm.step platform) session.fsm inputs ∧
    session'.fsm = Machine.final (Fsm.step platform) session.fsm inputs

structure Drives (platform : Platform) (session session' : IsoSession) (log : List SessionOutput) :
    Prop where
  follows : Follows platform session session' log
  connected : session'.connected = session.connected
  delayedCloseAt : session'.delayedCloseAt = session.delayedCloseAt
  closes : closes log = 0
  signals : sessionSignals log = runSignals (machineSteps log)

section Drives

variable {platform : Platform} {session session' session'' : IsoSession} {log log' : List SessionOutput}

theorem Follows.of_fsm (silent : machineSteps log = []) (same : session'.fsm = session.fsm) :
    Follows platform session session' log := ⟨[], silent, same⟩

theorem Follows.trans (first : Follows platform session session' log)
    (next : Follows platform session' session'' log') : Follows platform session session'' (log ++ log') := by
  obtain ⟨inputs, steps, fsm⟩ := first
  obtain ⟨inputs', steps', fsm'⟩ := next
  refine ⟨inputs ++ inputs', ?_, ?_⟩
  · rw [machineSteps_append, Machine.steps_append, steps, steps', fsm]
  · rw [Machine.final_append, fsm', fsm]

theorem Follows.keeps {motive : Fsm → Prop}
    (step : ∀ fsm input, fsm.ctx.request = none → motive fsm → motive (Fsm.step platform input fsm).state)
    (follows : Follows platform session session' log) (idle : session.fsm.ctx.request = none)
    (start : motive session.fsm) : session'.fsm.ctx.request = none ∧ motive session'.fsm := by
  -- What every step of an idle machine keeps, the session keeps.
  obtain ⟨inputs, -, final⟩ := follows
  rw [final]
  refine Machine.run_induction (Fsm.step platform) session.fsm
    (motive := fun _ fsm => fsm.ctx.request = none ∧ motive fsm) ⟨idle, start⟩ ?_ inputs
  rintro _ fsm input ⟨idle, held⟩
  exact ⟨(Fsm.step_frame platform fsm input idle).idle, step fsm input idle held⟩

theorem Follows.idle (follows : Follows platform session session' log)
    (idle : session.fsm.ctx.request = none) : session'.fsm.ctx.request = none :=
  (follows.keeps (motive := fun _ => True) (fun _ _ _ _ => trivial) idle trivial).1

theorem Follows.finished (follows : Follows platform session session' log)
    (idle : session.fsm.ctx.request = none) (finished : session.isFinished = true) :
    session'.isFinished = true := by
  refine (follows.keeps
    (motive := fun fsm => (fsm.ctx.sessionStopped || fsm.ctx.sessionPaused) = true) ?_ idle finished).2
  intro fsm input idle held
  have frame := Fsm.step_frame platform fsm input idle
  rcases (Bool.or_eq_true _ _).mp held with stopped | paused
  · simp [frame.stopped stopped]
  · simp [frame.paused paused]

theorem Drives.trans (first : Drives platform session session' log)
    (next : Drives platform session' session'' log') :
    Drives platform session session'' (log ++ log') where
  follows := first.follows.trans next.follows
  connected := next.connected.trans first.connected
  delayedCloseAt := next.delayedCloseAt.trans first.delayedCloseAt
  closes := by rw [closes_append, first.closes, next.closes]
  signals := by
    rw [sessionSignals_append, machineSteps_append, first.signals, next.signals]
    simp [runSignals]

theorem Drives.of_fsm (fsm : session'.fsm = session.fsm) (connected : session'.connected = session.connected)
    (delayedCloseAt : session'.delayedCloseAt = session.delayedCloseAt) :
    Drives platform session session' [] :=
  ⟨.of_fsm rfl fsm, connected, delayedCloseAt, rfl, rfl⟩

theorem Drives.refl (session : IsoSession) : Drives platform session session [] := .of_fsm rfl rfl rfl

end Drives

namespace IsoSession

variable (platform : Platform)

theorem dispatch_drives (input : Input) : Act.Keeps (Drives platform) (dispatch platform input) :=
  fun session =>
    { follows := ⟨[input], rfl, rfl⟩
      connected := rfl
      delayedCloseAt := rfl
      closes := rfl
      signals := by simp [sessionSignals, machineSteps, runSignals, dispatch, SessionOutput.signals,
        SessionOutput.step?] }

theorem sendResponse_drives (env : PollEnv) : Act.Keeps (Drives platform) (sendResponse platform env) := by
  refine .bind .trans (.get .refl) fun session => .bind .trans (dispatch_drives platform _) fun _ => ?_
  cases session.fsm.ctx.pendingResponse with
  | none => exact .pure .refl ()
  | some pending =>
      refine .ite (fun _ => .throw .refl _) fun _ => ?_
      have silent {out : SessionOutput} (closes : out.isClose = false) (step : out.step? = none)
          (signals : out.signals = []) : Act.Keeps (Drives platform) (Act.emit out : SessionAct Unit) :=
        fun _ => ⟨.of_fsm (by simp [machineSteps, step]) rfl, rfl, rfl, by simp [LibIso15118.closes, closes],
          by simp [sessionSignals, runSignals, machineSteps, step, signals]⟩
      refine .bind .trans (silent rfl rfl rfl) fun _ => ?_
      exact .bind .trans (dispatch_drives platform _) fun _ => silent rfl rfl rfl

def prepare (env : PollEnv) (queue : List ControlEvent) : SessionAct Unit := do
  receive env
  sendControlEvents platform env.control 0 queue
  checkTimeouts platform env
  handlePacket platform env

def advance (env : PollEnv) (queue : List ControlEvent) : SessionAct Unit := do
  receive env
  sendControlEvents platform env.control 0 queue
  checkTimeouts platform env
  handlePacket platform env
  sendResponse platform env

theorem advance_eq (env : PollEnv) (queue : List ControlEvent) :
    advance platform env queue = prepare platform env queue >>= fun _ => sendResponse platform env := by
  simp only [advance, prepare, Act.bind_assoc]

structure PrepareRule (K : ∀ {α : Type}, SessionAct α → Prop) : Prop extends Act.Closed K where
  receive : ∀ env, K (receive env)
  queued : ∀ rest, K (Act.modify fun session => { session with controlEventQueue := rest })
  reset : K (Act.modify fun session => { session with packet := {} })
  dispatch : ∀ input, input.fed = true → (∀ env type, input ≠ .timeout env type) →
    K (dispatch platform input)
  check : ∀ env, K (checkTimeouts platform env)

namespace PrepareRule

variable {platform} {K : ∀ {α : Type}, SessionAct α → Prop} (rule : PrepareRule platform K)
include rule

theorem sendControlEvents (env : Nat → Env) (index : Nat) (events : List ControlEvent) :
    K (sendControlEvents platform env index events) := by
  induction events generalizing index with
  | nil => exact rule.pure ()
  | cons event rest hyp =>
      refine rule.bind (rule.queued rest) fun _ => ?_
      exact rule.bind (rule.dispatch _ rfl (by simp)) fun _ => hyp _

theorem handlePacket (env : PollEnv) : K (handlePacket platform env) := by
  refine rule.bind rule.get fun session => Act.Closed.ite (fun _ => ?_) fun _ => rule.pure ()
  cases platform.decode session.packet.getPayloadType session.packet.getPayload with
  | error e => exact rule.throw e
  | ok variant =>
      refine Act.Closed.ite (fun _ => ?_) fun _ => rule.dispatch _ rfl (by simp)
      exact rule.bind rule.reset fun _ => rule.dispatch _ rfl (by simp)

theorem prepare (env : PollEnv) (queue : List ControlEvent) : K (prepare platform env queue) := by
  refine rule.bind (rule.receive env) fun _ => rule.bind (rule.sendControlEvents _ _ _) fun _ => ?_
  exact rule.bind (rule.check env) fun _ => rule.handlePacket env

end PrepareRule

theorem checkTimeouts_closed {K : ∀ {α : Type}, SessionAct α → Prop} (closed : Act.Closed K)
    (dispatch : ∀ input, input.fed = true → K (dispatch platform input)) (env : PollEnv) :
    K (checkTimeouts platform env) := by
  have handles (types : List TimeoutType) : K (handleTimeouts platform env.timeout types) := by
    induction types with
    | nil => exact closed.pure ()
    | cons type rest hyp =>
        cases type
        case sequence => exact dispatch _ rfl
        all_goals exact closed.bind (dispatch _ rfl) fun _ => hyp
  exact closed.bind closed.get fun _ => handles _

def Still (R : IsoSession → IsoSession → List SessionOutput → Prop) : Prop :=
  ∀ {s t : IsoSession}, t.fsm = s.fsm → t.connected = s.connected → t.delayedCloseAt = s.delayedCloseAt →
    R s t []

theorem Still.receive {R : IsoSession → IsoSession → List SessionOutput → Prop} (still : Still R)
    (env : PollEnv) : Act.Keeps R (receive env) := by
  intro session
  unfold IsoSession.receive
  by_cases data : session.newData = true
  · simp only [data, if_true]
    split <;> exact still rfl rfl rfl
  · simp only [data]
    exact still rfl rfl rfl

structure PollRule (R : IsoSession → IsoSession → List SessionOutput → Prop) : Prop where
  trans : ∀ {s t u l l'}, R s t l → R t u l' → R s u (l ++ l')
  still : Still R
  dispatch : ∀ input, (∀ env type, input ≠ .timeout env type) → Act.Keeps R (dispatch platform input)
  check : ∀ env, Act.Keeps R (checkTimeouts platform env)
  send : ∀ env, Act.Keeps R (sendResponse platform env)

namespace PollRule

variable {platform} {R : IsoSession → IsoSession → List SessionOutput → Prop} (rule : PollRule platform R)
include rule

theorem prepareRule : PrepareRule platform fun m => Act.Keeps R m :=
  { Act.Keeps.closed (fun _ => rule.still rfl rfl rfl) rule.trans with
    receive := Still.receive rule.still
    queued := fun _ _ => rule.still rfl rfl rfl
    reset := fun _ => rule.still rfl rfl rfl
    dispatch := fun input _ => rule.dispatch input
    check := rule.check }

theorem advance (env : PollEnv) (queue : List ControlEvent) : Act.Keeps R (advance platform env queue) := by
  rw [advance_eq]
  exact .bind rule.trans (rule.prepareRule.prepare env queue) fun _ => rule.send env

omit rule in
theorem of_dispatch (trans : ∀ {s t u l l'}, R s t l → R t u l' → R s u (l ++ l')) (still : Still R)
    (dispatch : ∀ input, Act.Keeps R (IsoSession.dispatch platform input))
    (send : ∀ env, Act.Keeps R (IsoSession.sendResponse platform env)) : PollRule platform R where
  trans := trans
  still := still
  dispatch input _ := dispatch input
  send := send
  check := checkTimeouts_closed platform (Act.Keeps.closed (fun _ => still rfl rfl rfl) trans) fun input _ =>
    dispatch input

end PollRule

theorem advance_drives (env : PollEnv) (queue : List ControlEvent) :
    Act.Keeps (Drives platform) (advance platform env queue) :=
  PollRule.advance (.of_dispatch .trans .of_fsm (dispatch_drives platform) (sendResponse_drives platform))
    env queue

theorem wp_poll (env : PollEnv) (session : IsoSession)
    (post : Except Exn Unit → IsoSession → List SessionOutput → Prop) :
    Act.wp (poll platform env) post session ↔
      (session.connected = false →
        post (.ok ()) { session with
          nextSessionEvent := offsetTimePointByMs env.now sessionIdleTimeoutMs } []) ∧
      (session.connected = true →
        Act.wp (advance platform env session.controlEventQueue)
          (fun result state log =>
            match result with
            | .ok _ => Act.wp (closeWhenDue env.now) (fun result state' log' =>
                post result state' (log ++ log')) state
            | .error e => post (.error e) state log) session) := by
  cases connected : session.connected
  · simp [poll, connected, wakeUp]
  · have parts : poll platform env = Act.get >>= fun session =>
        if session.connected then
          advance platform env session.controlEventQueue >>= fun _ => closeWhenDue env.now
        else wakeUp (offsetTimePointByMs env.now sessionIdleTimeoutMs) := by
      simp only [poll, advance, Act.bind_assoc]
    simp only [parts, Act.wp_bind, Act.wp_get, connected, if_true, List.nil_append, reduceCtorEq,
      false_implies, true_implies, true_and]
    simp only [Act.wp]
    cases (advance platform env session.controlEventQueue session).result <;> rfl

def closeAt (session : IsoSession) (now : TimePoint) : TimePoint :=
  session.delayedCloseAt.getD (offsetTimePointByMs now delayedCloseMs)

inductive CloseStep (now : TimePoint) (session : IsoSession) : IsoSession → List SessionOutput → Prop
  | running (unfinished : session.isFinished = false) :
      CloseStep now session
        { session with nextSessionEvent := offsetTimePointByMs now sessionIdleTimeoutMs } []
  | waiting (finished : session.isFinished = true) (early : now < session.closeAt now) :
      CloseStep now session
        { session with
          delayedCloseAt := some (session.closeAt now)
          nextSessionEvent := session.closeAt now } []
  | closing (finished : session.isFinished = true) (due : session.closeAt now ≤ now) :
      CloseStep now session
        { session with
          connected := false
          delayedCloseAt := none
          nextSessionEvent := offsetTimePointByMs now sessionIdleTimeoutMs }
        [.close, .feedback (.signal
          (if session.fsm.ctx.sessionPaused then .dlinkPause else .dlinkTerminate))]

theorem closeWhenDue_step (now : TimePoint) (session : IsoSession) :
    Act.wp (closeWhenDue now)
      (fun result session' log => result = .ok () ∧ CloseStep now session session' log) session := by
  simp only [closeWhenDue, closeConnection, wakeUp, Act.wp_bind, Act.wp_get, Act.wp_ite, Act.wp_modify,
    Act.wp_emit]
  refine ⟨fun finished => ⟨fun due => ⟨trivial, ?_⟩, fun early => ⟨trivial, ?_⟩⟩,
    fun unfinished => ⟨trivial, ?_⟩⟩
  · exact .closing finished due
  · exact .waiting finished (lt_of_not_ge early)
  · exact .running (by simpa using unfinished)

theorem poll_keeps {R : IsoSession → IsoSession → List SessionOutput → Prop} (rule : PollRule platform R)
    (closes : ∀ now s t l, CloseStep now s t l → R s t l) (env : PollEnv) :
    Act.Keeps R (poll platform env) := by
  -- A relation that the part before the delayed close and the delayed close itself keep.
  intro session
  suffices spec : Act.wp (poll platform env) (fun _ state log => R session state log) session from spec
  rw [wp_poll]
  refine ⟨fun _ => rule.still rfl rfl rfl, fun _ => ?_⟩
  have advanced := rule.advance env session.controlEventQueue session
  rw [Act.wp_iff]
  cases (advance platform env session.controlEventQueue session).result with
  | error e => exact advanced
  | ok _ => exact rule.trans advanced (closes env.now _ _ _ (closeWhenDue_step env.now _).2)

theorem wp_poll_returns (env : PollEnv) (session : IsoSession)
    (post : IsoSession → List SessionOutput → Prop)
    (idles : session.connected = false → post { session with
      nextSessionEvent := offsetTimePointByMs env.now sessionIdleTimeoutMs } [])
    (sends : ∀ prepared log sent log' closed log'', session.connected = true →
      prepare platform env session.controlEventQueue session = ⟨.ok (), prepared, log⟩ →
      sendResponse platform env prepared = ⟨.ok (), sent, log'⟩ →
      CloseStep env.now sent closed log'' → post closed (log ++ log' ++ log''))
    (returned : (poll platform env session).result = .ok ()) :
    post (poll platform env session).state (poll platform env session).log := by
  suffices spec : Act.wp (poll platform env) (fun result state log => result = .ok () → post state log)
      session from spec returned
  rw [wp_poll]
  refine ⟨fun absent _ => idles absent, fun connected => ?_⟩
  rw [advance_eq, Act.wp_bind, Act.wp_iff]
  cases prepares : prepare platform env session.controlEventQueue session with
  | mk result prepared log =>
      cases result with
      | error e => exact fun threw => absurd threw (by simp)
      | ok _ =>
          simp only [Act.wp_iff]
          cases send : sendResponse platform env prepared with
          | mk result sent log' =>
              cases result with
              | error e => exact fun threw => absurd threw (by simp)
              | ok _ =>
                  intro _
                  exact sends prepared log sent log' _ _ connected prepares send
                    (closeWhenDue_step env.now sent).2

theorem poll_follows (env : PollEnv) : Act.Keeps (Follows platform) (poll platform env) := by
  refine poll_keeps platform (.of_dispatch .trans (fun same _ _ => .of_fsm rfl same)
    (fun input session => (dispatch_drives platform input session).follows)
    fun env session => (sendResponse_drives platform env session).follows) ?_ env
  intro now session session' log step
  cases step <;> exact .of_fsm rfl rfl

def Severs (session session' : IsoSession) (log : List SessionOutput) : Prop :=
  session'.connected = (session.connected && !log.any (·.isClose))

theorem drives_severs {session session' : IsoSession} {log : List SessionOutput}
    (drives : Drives platform session session' log) : Severs session session' log := by
  have none : log.any (·.isClose) = false := by
    simpa [LibIso15118.closes, List.countP_eq_zero] using drives.closes
  simp [Severs, none, drives.connected]

theorem poll_severs (env : PollEnv) : Act.Keeps Severs (poll platform env) := by
  refine poll_keeps platform (.of_dispatch ?_ (fun _ same _ => by simp [Severs, same])
    (fun input session => drives_severs platform (dispatch_drives platform input session))
    fun env session => drives_severs platform (sendResponse_drives platform env session)) ?_ env
  · intro s t u l l' first next
    rw [Severs] at first next ⊢
    rw [next, first, List.any_append, Bool.not_or, Bool.and_assoc]
  · intro now s t l step
    cases step <;> simp [Severs, SessionOutput.isClose]

theorem handleConnectionEvent_drives {event : ConnectionEvent} (accepted : event ≠ .accepted)
    (closed : event ≠ .closed) : Act.Keeps (Drives platform) (handleConnectionEvent platform event) := by
  cases event with
  | accepted => exact absurd rfl accepted
  | closed => exact absurd rfl closed
  | newData => exact fun _ => .of_fsm rfl rfl rfl
  | opened =>
      refine .bind .trans (.get .refl) fun session => ?_
      cases session.vehicle with
      | none => exact .pure .refl ()
      | some hash => exact dispatch_drives platform _

theorem handleConnectionEvent_follows (event : ConnectionEvent) :
    Act.Keeps (Follows platform) (handleConnectionEvent platform event) := by
  by_cases accepted : event = .accepted
  · exact fun _ => by subst accepted; exact .of_fsm rfl rfl
  by_cases closed : event = .closed
  · exact fun _ => by subst closed; exact .of_fsm rfl rfl
  exact fun s => (handleConnectionEvent_drives platform accepted closed s).follows

theorem close_follows : Act.Keeps (Follows platform) (close platform) :=
  fun _ => ⟨[.close], rfl, rfl⟩

theorem close_severs : Act.Keeps Severs (close platform) :=
  fun session => (Bool.and_false session.connected).symm

end IsoSession

namespace LinkedSession

variable (platform : Platform)

theorem act_relates {R : IsoSession → IsoSession → List SessionOutput → Prop}
    (still : ∀ {s t : IsoSession}, t.fsm = s.fsm → R s t [])
    (event : ∀ event, Act.Keeps R (IsoSession.handleConnectionEvent platform event))
    (close : Act.Keeps R (IsoSession.close platform)) (input : SessionInput) (linked : LinkedSession)
    (poll : ∀ env, input = .poll env → R linked.session (IsoSession.poll platform env linked.session).state
      (IsoSession.poll platform env linked.session).log) :
    R linked.session (act platform input linked).state.session (act platform input linked).log := by
  have reported (before after : Link) (reports : ConnectionEvent) :
      R linked.session (report platform before after reports linked).state.session
        (report platform before after reports linked).log := by
    unfold report
    by_cases ready : linked.link = before
    · simpa only [ready, if_true] using event reports _
    · simpa only [ready, if_false] using still rfl
  cases input with
  | accept => exact reported _ _ _
  | opened => exact reported _ _ _
  | data => exact reported _ _ _
  | push event => exact still rfl
  | poll env => exact poll env rfl
  | close => exact close linked.session

theorem act_keeps {R : IsoSession → IsoSession → List SessionOutput → Prop}
    (still : ∀ {s t : IsoSession}, t.fsm = s.fsm → R s t [])
    (event : ∀ event, Act.Keeps R (IsoSession.handleConnectionEvent platform event))
    (poll : ∀ env, Act.Keeps R (IsoSession.poll platform env))
    (close : Act.Keeps R (IsoSession.close platform)) (input : SessionInput) (linked : LinkedSession) :
    R linked.session (act platform input linked).state.session (act platform input linked).log :=
  act_relates platform still event close input linked fun env _ => poll env linked.session

theorem act_follows (input : SessionInput) (linked : LinkedSession) :
    Follows platform linked.session (act platform input linked).state.session
      (act platform input linked).log :=
  act_keeps platform (.of_fsm rfl) (IsoSession.handleConnectionEvent_follows platform)
    (IsoSession.poll_follows platform) (IsoSession.close_follows platform) input linked

theorem reached_fsm (start : LinkedSession) (inputs : List SessionInput) :
    ∃ machineInputs, (reached platform start inputs).session.fsm =
      Machine.final (Fsm.step platform) start.session.fsm machineInputs := by
  refine Machine.run_induction (act platform) start
    (motive := fun _ linked => ∃ machineInputs, linked.session.fsm =
      Machine.final (Fsm.step platform) start.session.fsm machineInputs) ⟨[], rfl⟩ ?_ inputs
  rintro _ linked input ⟨machineInputs, fsm⟩
  obtain ⟨more, -, fsm'⟩ := act_follows platform input linked
  exact ⟨machineInputs ++ more, by rw [fsm', fsm, Machine.final_append]⟩

def new (config : SessionConfig) (pauseCtx : Option PauseContext) (vehicle : Option Sha512Hash)
    (id : SessionId) (now : TimePoint) : LinkedSession :=
  { session := .new config pauseCtx vehicle id now }

end LinkedSession

end LibIso15118
