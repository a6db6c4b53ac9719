import LibIso15118.Controller.Teardown
import LibIso15118.Io.Connections

set_option autoImplicit false

/-!
# What is registered in the poll manager

The controller together with its connection, the poll manager and the open sockets. `poll_manager.poll`
calls the callbacks of descriptors that are ready, one after the other and in any order.
-/

namespace LibIso15118

open Shared

structure PolledController where
  controller : TbdController
  connection : Option IoConnection := none
  descriptors : Descriptors := {}
  /-- the socket of the SDP server, if there is one -/
  sdpFd : Option Fd := none

inductive Handshake where
  | wantsMore
  | failed
  | complete

/-- What a callback finds: the request that the SDP server reads, the socket of a new connection, what
`accept4` returns, and how far `SSL_accept` comes. -/
structure Readiness where
  request : Option Security := none
  socket : Option Fd := none
  new : NewSession := {}
  accepted : Option Fd := none
  handshake : Handshake := .complete

inductive PolledInput where
  /-- `poll_manager.poll` calls the callback of a descriptor -/
  | ready (fd : Fd) (found : Readiness)
  | wait (clock : TimePoint) (throws : Bool)
  /-- the part of a round after `poll_manager.poll`, with the socket of a successor -/
  | iterate (clock : TimePoint) (env : PollEnv) (new : NewSession) (socket : Option Fd)
  /-- a call from outside -/
  | outside (input : ControllerInput)

inductive PolledOutput where
  | controller (out : ControllerOutput)
  /-- the callback of a connection that is destroyed -/
  | dangling (owner : Nat)

abbrev PolledAct := Act PolledController PolledOutput Exn
abbrev PolledStep := Step PolledController PolledInput PolledOutput

namespace PolledController

def follow (polled : PolledController) : ControllerOutput → PolledController
  | .session _ .close =>
      match polled.connection with
      | some connection =>
          let (connection, descriptors) := connection.close polled.descriptors
          { polled with connection := some connection, descriptors }
      | none => polled
  | .destroyed _ _ =>
      match polled.connection with
      | some connection =>
          { polled with connection := none, descriptors := connection.destroy polled.descriptors }
      | none => polled
  | _ => polled

def lift (m : ControllerAct Unit) : PolledAct Unit := fun polled =>
  let outcome := m polled.controller
  ⟨outcome.result, outcome.log.foldl follow { polled with controller := outcome.state },
    outcome.log.map .controller⟩

/-- The connection of a session that was just made. Without a socket its constructor throws. -/
def connect (secure : Bool) (socket : Option Fd) (polled : PolledController) : PolledController :=
  match polled.controller.session, polled.connection, socket with
  | some (number, _), none, some fd =>
      let (connection, descriptors) := IoConnection.construct number polled.descriptors secure fd
      { polled with connection := some connection, descriptors }
  | some _, none, none => { polled with controller := { polled.controller with session := none, looping := false } }
  | _, _, _ => polled

/-- An exception of a callback ends `loop`. -/
def throws : PolledAct Unit :=
  Act.modify fun polled => { polled with controller := { polled.controller with looping := false } }

variable (platform : Platform)

def handleSdpServerInput (found : Readiness) : PolledAct Unit := do
  let polled ← Act.get
  let socket := found.socket.filter polled.descriptors.available
  let secure := found.request.any fun request =>
    TbdController.negotiated polled.controller.config.tlsNegotiationStrategy request = .tls
  lift (TbdController.act platform (.sdp found.request socket.isSome found.new))
  Act.modify (connect secure socket)

def handleConnect (owner : Nat) (connection : IoConnection) (found : Readiness) : PolledAct Unit := do
  let polled ← Act.get
  match found.accepted.filter polled.descriptors.available with
  | none => throws
  | some acceptFd => do
      let (connection, descriptors) := connection.handleConnect owner polled.descriptors acceptFd
      Act.modify fun polled => { polled with connection := some connection, descriptors }
      lift (TbdController.act platform .accept)
      match connection with
      | .plain _ => lift (TbdController.act platform .opened)
      | .ssl _ => return

def handleData (connection : IoConnection) (found : Readiness) : PolledAct Unit :=
  match connection with
  | .plain _ => lift (TbdController.act platform .data)
  | .ssl connection =>
      if connection.handshakeComplete then lift (TbdController.act platform .data)
      else
        match found.handshake with
        | .wantsMore => return
        | .failed => throws
        | .complete => do
            Act.modify fun polled =>
              { polled with connection := some (.ssl { connection with handshakeComplete := true }) }
            lift (TbdController.act platform .opened)

/-- A callback of a connection, which is alive only as long as its session is the current one. -/
def callBack (owner : Nat) (handler : IoConnection → PolledAct Unit) : PolledAct Unit := do
  let polled ← Act.get
  match polled.controller.session, polled.connection with
  | some (number, _), some connection =>
      if number = owner then handler connection else Act.emit (.dangling owner)
  | _, _ => Act.emit (.dangling owner)

def ready (fd : Fd) (found : Readiness) : PolledAct Unit := do
  let polled ← Act.get
  match polled.descriptors.registeredFds fd with
  | none => return
  | some .sdpServer => handleSdpServerInput platform found
  | some (.handleConnect owner) => callBack owner fun connection => handleConnect platform owner connection found
  | some (.handleData owner) => callBack owner fun connection => handleData platform connection found

def iterate (clock : TimePoint) (env : PollEnv) (new : NewSession) (socket : Option Fd) : PolledAct Unit := do
  lift (TbdController.act platform (.iterate clock env new))
  Act.modify fun polled => connect false (socket.filter polled.descriptors.available) polled

def act (input : PolledInput) : PolledAct Unit := do
  let polled ← Act.get
  match input with
  | .ready fd found => if polled.controller.looping then ready platform fd found
  | .wait clock throws => lift (TbdController.act platform (.wait clock throws))
  | .iterate clock env new socket => iterate platform clock env new socket
  | .outside input => lift (TbdController.update platform input)

def new (config : TbdConfig) (evseSetup : EvseSetupConfig) (session : NewSession) (clock : TimePoint)
    (sdpFd : Fd) (socket : Option Fd) : PolledController :=
  let controller := TbdController.new config evseSetup session clock
  if config.enableSdpServer then
    let descriptors := ({} : Descriptors).opened sdpFd none |>.registerFd sdpFd .sdpServer
    { controller, sdpFd := some sdpFd, descriptors }
  else connect false (socket.filter (Descriptors.available {})) { controller }

/-- The descriptor belongs to the SDP server or to the connection of the current session, with the callback
that its owner has for it. -/
def Owns (polled : PolledController) (fd : Fd) (callback : PollCallback) : Prop :=
  polled.sdpFd = some fd ∧ callback = .sdpServer ∨
    ∃ number linked connection, polled.controller.session = some (number, linked) ∧
      polled.connection = some connection ∧ fd = connection.watched ∧ callback = connection.callback number

/-- No registration and no socket is left of a session that is gone. -/
structure Owned (polled : PolledController) : Prop where
  registered : ∀ fd callback, polled.descriptors.registeredFds fd = some callback → polled.Owns fd callback
  sockets : ∀ fd number, polled.descriptors.sockets fd = some (some number) →
    ∃ linked, polled.controller.session = some (number, linked)

/-- A round of `loop` does not find its session stopped or paused once `session->poll` has returned. -/
def Unfinished (record : PolledStep) : Prop :=
  ∀ clock env new socket, record.input = .iterate clock env new socket →
    record.before.controller.looping = true →
      ∀ number linked, record.before.controller.session = some (number, linked) →
        (LinkedSession.act platform (.poll env) linked).result = .ok () →
          (LinkedSession.act platform (.poll env) linked).state.session.isFinished = false

def base (polled : PolledController) : Descriptors :=
  match polled.sdpFd with
  | some fd => { registeredFds := Table.empty.insert fd .sdpServer, sockets := Table.empty.insert fd none }
  | none => {}

def Holds (polled : PolledController) (number : Nat) (connection : IoConnection) : Prop :=
  polled.base.sockets connection.watched = none ∧
    polled.descriptors =
      { registeredFds := polled.base.registeredFds.insert connection.watched (connection.callback number)
        sockets := polled.base.sockets.insert connection.watched (some number) }

structure Held (polled : PolledController) : Prop where
  sound : polled.controller.Sound
  free : polled.controller.session = none → polled.connection = none ∧ polled.descriptors = polled.base
  held : ∀ number linked, polled.controller.session = some (number, linked) →
    ∃ connection, polled.connection = some connection ∧ polled.Holds number connection ∧
      (linked.session.connected = true → connection.accepted = true)

theorem base_fresh {polled : PolledController} {fd : Fd} (closed : polled.base.sockets fd = none) :
    polled.base.registeredFds fd = none := by
  unfold base at closed ⊢
  cases sdp : polled.sdpFd with
  | none => rfl
  | some server =>
      rw [sdp] at closed
      by_cases same : fd = server
      · simp [same] at closed
      · simp [Table.insert_of_ne _ _ same, Table.empty]

theorem base_owned {polled : PolledController} {fd : Fd} {callback : PollCallback}
    (registered : polled.base.registeredFds fd = some callback) :
    polled.sdpFd = some fd ∧ callback = .sdpServer := by
  unfold base at registered
  cases sdp : polled.sdpFd with
  | none => simp [sdp, Table.empty] at registered
  | some server =>
      rw [sdp] at registered
      rcases Table.insert_eq_some.mp registered with ⟨rfl, rfl⟩ | ⟨-, found⟩
      · exact ⟨rfl, rfl⟩
      · cases found

theorem base_sockets {polled : PolledController} {fd : Fd} {number : Nat} :
    polled.base.sockets fd ≠ some (some number) := by
  unfold base
  cases polled.sdpFd with
  | none => simp [Table.empty]
  | some server =>
      intro found
      rcases Table.insert_eq_some.mp found with ⟨-, impossible⟩ | ⟨-, impossible⟩ <;> cases impossible

theorem Held.owned {polled : PolledController} (held : polled.Held) : polled.Owned := by
  cases current : polled.controller.session with
  | none =>
      obtain ⟨-, descriptors⟩ := held.free current
      constructor
      · intro fd callback registered
        rw [descriptors] at registered
        exact .inl (base_owned registered)
      · intro fd number opened
        rw [descriptors] at opened
        exact absurd opened base_sockets
  | some session =>
      obtain ⟨number, linked⟩ := session
      obtain ⟨connection, connected, ⟨-, descriptors⟩, -⟩ := held.held number linked current
      constructor
      · intro fd callback registered
        rw [descriptors] at registered
        rcases Table.insert_eq_some.mp registered with ⟨rfl, rfl⟩ | ⟨-, found⟩
        · exact .inr ⟨number, linked, connection, current, connected, rfl, rfl⟩
        · exact .inl (base_owned found)
      · intro fd other opened
        rw [descriptors] at opened
        rcases Table.insert_eq_some.mp opened with ⟨-, same⟩ | ⟨-, found⟩
        · cases same
          exact ⟨linked, current⟩
        · exact absurd found base_sockets

end PolledController

def ControllerOutput.isCall : ControllerOutput → Bool
  | .session _ out => !out.isClose
  | .wait _ => true
  | _ => false

def PolledOutput.isCall : PolledOutput → Bool
  | .controller out => out.isCall
  | .dangling _ => false

structure Calls (accepts : Prop) (controller controller' : TbdController) (log : List ControllerOutput) : Prop where
  quiet : ∀ out ∈ log, out.isCall = true
  sound : controller.Sound → controller'.Sound
  free : controller.session = none → controller'.session = none
  same : ∀ number linked, controller.session = some (number, linked) →
    ∃ linked', controller'.session = some (number, linked') ∧
      (linked'.session.connected = true → linked.session.connected = true ∨ accepts)

namespace Calls

variable {accepts : Prop} {s t : TbdController}

theorem still (session : t.session = s.session) (count : t.count = s.count)
    (looping : t.looping = s.looping ∨ t.looping = false) {log : List ControllerOutput}
    (quiet : ∀ out ∈ log, out.isCall = true) : Calls accepts s t log where
  quiet := quiet
  sound sound := by
    refine ⟨?_, ?_, ?_⟩
    · rw [session, count]; exact sound.numbered
    · rw [session]; exact sound.linked
    · rw [session]
      rcases looping with same | ended
      · rw [same]; exact sound.running
      · rw [ended]
        intro _ _ _ impossible
        cases impossible
  free free := session.trans free
  same number linked current := ⟨linked, session.trans current, .inl⟩

theorem idle (session : t.session = s.session) (count : t.count = s.count)
    (looping : t.looping = s.looping ∨ t.looping = false) : Calls accepts s t [] :=
  still session count looping fun _ member => absurd member List.not_mem_nil

variable (platform : Platform)

theorem open_connected (linked : LinkedSession) :
    (LinkedSession.act platform .opened linked).state.session.connected = linked.session.connected := by
  by_cases accepted : linked.link = .accepted
  · cases hash : linked.session.vehicle <;>
      simp [LinkedSession.act, LinkedSession.report, accepted, IsoSession.handleConnectionEvent, Act.bind_apply,
        hash, IsoSession.dispatch]
  · simp [LinkedSession.act, LinkedSession.report, accepted]

theorem data_connected (linked : LinkedSession) :
    (LinkedSession.act platform .data linked).state.session.connected = linked.session.connected := by
  by_cases isOpen : linked.link = .opened <;>
    simp [LinkedSession.act, LinkedSession.report, isOpen, IsoSession.handleConnectionEvent]

theorem quiet_session {number : Nat} {outs : List SessionOutput} (unclosed : closes outs = 0) :
    ∀ out ∈ outs.map (ControllerOutput.session number), out.isCall = true := by
  intro out member
  obtain ⟨inner, present, rfl⟩ := List.mem_map.mp member
  simpa [ControllerOutput.isCall] using List.countP_eq_zero.mp unclosed inner present

theorem callSession (input : SessionInput) (unpolled : input.clock? = none) (called : input ≠ .close)
    (controller : TbdController) :
    Calls (input = .accept) controller (TbdController.callSession platform input controller).state
      (TbdController.callSession platform input controller).log := by
  have undisturbed := TbdController.callSession_undisturbed platform input unpolled called controller
  cases current : controller.session with
  | none =>
      have idles : TbdController.callSession platform input controller = ⟨.ok (), controller, []⟩ := by
        simp [TbdController.callSession, current]
      rw [idles]
      exact idle rfl rfl (.inl rfl)
  | some session =>
      obtain ⟨number, linked⟩ := session
      have between := @LinkedSession.between_polls platform linked input unpolled called
      refine ⟨?_, fun sound => (undisturbed sound).1, by simp [current], ?_⟩
      · simp only [TbdController.callSession, current]
        exact quiet_session between.quiet.closes
      · intro other linked' same
        obtain ⟨rfl, rfl⟩ : number = other ∧ linked = linked' := by simpa [current] using same
        refine ⟨(LinkedSession.act platform input linked).state, by simp only [TbdController.callSession, current],
          fun connected => ?_⟩
        cases input with
        | accept => exact .inr rfl
        | poll | close => simp [SessionInput.clock?] at unpolled called
        | push event => exact .inl connected
        | opened => exact .inl (open_connected platform linked ▸ connected)
        | data => exact .inl (data_connected platform linked ▸ connected)

theorem trans {u : TbdController} {l l' : List ControllerOutput} (first : Calls accepts s t l)
    (next : Calls accepts t u l') : Calls accepts s u (l ++ l') where
  quiet out member := (List.mem_append.mp member).elim (first.quiet out) (next.quiet out)
  sound sound := next.sound (first.sound sound)
  free free := next.free (first.free free)
  same number linked current := by
    obtain ⟨linked', current', connected⟩ := first.same number linked current
    obtain ⟨linked'', current'', connected'⟩ := next.same number linked' current'
    exact ⟨linked'', current'', fun holds => (connected' holds).elim connected .inr⟩

theorem update (input : ControllerInput) :
    Act.Keeps (Calls False) (TbdController.update platform input) := by
  have setup (f : EvseSetupConfig → EvseSetupConfig) : Act.Keeps (Calls False) (TbdController.setup f) :=
    fun _ => idle rfl rfl (.inl rfl)
  have push (event : ControlEvent) :
      Act.Keeps (Calls False) (TbdController.callSession platform (.push event)) := by
    intro controller
    have calls := callSession platform (.push event) rfl (by simp) controller
    rwa [show (SessionInput.push event = .accept) = False by simp] at calls
  cases input with
  | updateAuthorizationServices services certInstallService =>
      refine .bind trans (setup _) fun _ => .ite (fun _ => ?_) fun _ => setup _
      exact fun _ => idle rfl rfl (.inl rfl)
  | updateDcLimits | updateEnergyModes | updateSupportedVasServices | updateAcLimits =>
      exact .bind trans (setup _) fun _ => push _
  | updatePowersupplyLimits limits => exact setup _
  | sendControlEvent event => exact push event
  | _ => exact fun _ => idle rfl rfl (.inl rfl)

theorem tells {input : ControllerInput} {told : SessionInput} (unpolled : told.clock? = none)
    (called : told ≠ .close) {controller : TbdController}
    (acts : TbdController.act platform input controller =
      if controller.looping then TbdController.callSession platform told controller else ⟨.ok (), controller, []⟩) :
    Calls (told = .accept) controller (TbdController.act platform input controller).state
      (TbdController.act platform input controller).log := by
  rw [acts]
  by_cases looping : controller.looping = true
  · rw [if_pos looping]
    exact callSession platform told unpolled called controller
  · rw [if_neg looping]
    exact idle rfl rfl (.inl rfl)

theorem accept (controller : TbdController) :
    Calls True controller (TbdController.act platform .accept controller).state
      (TbdController.act platform .accept controller).log := by
  have calls := @tells platform .accept .accept rfl (by simp) controller ?_
  · simpa using calls
  · by_cases looping : controller.looping = true <;> simp [TbdController.act, Act.bind_apply, looping]

theorem opened (controller : TbdController) :
    Calls False controller (TbdController.act platform .opened controller).state
      (TbdController.act platform .opened controller).log := by
  have calls := @tells platform .opened .opened rfl (by simp) controller ?_
  · simpa using calls
  · by_cases looping : controller.looping = true <;> simp [TbdController.act, Act.bind_apply, looping]

theorem data (controller : TbdController) :
    Calls False controller (TbdController.act platform .data controller).state
      (TbdController.act platform .data controller).log := by
  have calls := @tells platform .data .data rfl (by simp) controller ?_
  · simpa using calls
  · by_cases looping : controller.looping = true <;> simp [TbdController.act, Act.bind_apply, looping]

theorem wait (clock : TimePoint) (throws : Bool) (controller : TbdController) :
    Calls False controller (TbdController.act platform (.wait clock throws) controller).state
      (TbdController.act platform (.wait clock throws) controller).log := by
  rw [TbdController.act_wait]
  cases looping : controller.looping with
  | false => exact idle rfl rfl (.inl rfl)
  | true =>
      have quiet : ∀ out ∈ [ControllerOutput.wait (TbdController.getTimeoutMsUntil clock controller.nextEvent
          TbdController.pollManagerTimeoutMs)], out.isCall = true := by
        simp [ControllerOutput.isCall]
      cases throws with
      | false => exact still rfl rfl (.inl rfl) quiet
      | true => exact still (s := controller) (t := { controller with looping := false }) rfl rfl (.inr rfl) quiet

variable {platform} in
theorem stays {controller next : TbdController} {number : Nat} {linked : LinkedSession} {env : PollEnv}
    (current : controller.session = some (number, linked)) (sound : next.Sound)
    (session : next.session = some (number, (LinkedSession.act platform (.poll env) linked).state)) :
    Calls False controller next [] where
  quiet := by simp
  sound _ := sound
  free free := absurd (current.symm.trans free) (by simp)
  same other linked' same := by
    obtain ⟨rfl, rfl⟩ : number = other ∧ linked = linked' := by simpa [current] using same
    refine ⟨_, session, fun connected => .inl ?_⟩
    cases before : linked.session.connected with
    | true => rfl
    | false =>
        rw [(LinkedSession.poll_disconnected platform env before).2] at connected
        exact absurd connected (by simp [before])

end Calls

namespace PolledController

@[simp] theorem follow_quiet (polled : PolledController) {out : ControllerOutput} (quiet : out.isCall = true) :
    polled.follow out = polled := by
  unfold follow
  split
  · simp [ControllerOutput.isCall, SessionOutput.isClose] at quiet
  · simp [ControllerOutput.isCall] at quiet
  · rfl

theorem foldl_follow_quiet (polled : PolledController) {log : List ControllerOutput}
    (quiet : ∀ out ∈ log, out.isCall = true) : log.foldl follow polled = polled := by
  induction log with
  | nil => rfl
  | cons out rest hyp =>
      rw [List.foldl_cons, follow_quiet polled (quiet out List.mem_cons_self)]
      exact hyp fun other member => quiet other (List.mem_cons_of_mem _ member)

theorem lift_quiet {m : ControllerAct Unit} {polled : PolledController}
    (quiet : ∀ out ∈ (m polled.controller).log, out.isCall = true) :
    lift m polled = ⟨(m polled.controller).result, { polled with controller := (m polled.controller).state },
      (m polled.controller).log.map .controller⟩ := by
  rw [lift, foldl_follow_quiet _ quiet]

theorem Held.calls {accepts : Prop} {polled : PolledController} {controller : TbdController}
    {log : List ControllerOutput} (held : polled.Held) (calls : Calls accepts polled.controller controller log)
    (accepted : accepts → ∀ connection, polled.connection = some connection → connection.accepted = true) :
    Held { polled with controller } where
  sound := calls.sound held.sound
  free free := by
    cases current : polled.controller.session with
    | none => exact held.free current
    | some session =>
        obtain ⟨linked', current', -⟩ := calls.same session.1 session.2 current
        exact absurd (current'.symm.trans free) (by simp)
  held number linked' current' := by
    cases current : polled.controller.session with
    | none => exact absurd (current'.symm.trans (calls.free current)) (by simp)
    | some session =>
        obtain ⟨other, linked⟩ := session
        obtain ⟨linked'', same, connects⟩ := calls.same other linked current
        obtain ⟨rfl, rfl⟩ : number = other ∧ linked' = linked'' := by simpa using current'.symm.trans same
        obtain ⟨connection, connected, holds, listens⟩ := held.held number linked current
        exact ⟨connection, connected, holds, fun now =>
          (connects now).elim listens fun accepts => accepted accepts connection connected⟩

theorem Held.lift {accepts : Prop} {m : ControllerAct Unit} {polled : PolledController} (held : polled.Held)
    (calls : Calls accepts polled.controller (m polled.controller).state (m polled.controller).log)
    (accepted : accepts → ∀ connection, polled.connection = some connection → connection.accepted = true) :
    (PolledController.lift m polled).state.Held := by
  rw [lift_quiet calls.quiet]
  exact held.calls calls accepted

def Settles (polled polled' : PolledController) (log : List PolledOutput) : Prop :=
  polled.Held → polled'.Held ∧ ∀ out ∈ log, out.isCall = true

theorem Settles.trans {s t u : PolledController} {l l' : List PolledOutput} (first : Settles s t l)
    (next : Settles t u l') : Settles s u (l ++ l') := by
  intro held
  obtain ⟨held', quiet⟩ := first held
  obtain ⟨held'', quiet'⟩ := next held'
  refine ⟨held'', fun out member => ?_⟩
  exact (List.mem_append.mp member).elim (quiet out) (quiet' out)

theorem lift_isCall {m : ControllerAct Unit} {polled : PolledController}
    (quiet : ∀ out ∈ (m polled.controller).log, out.isCall = true) :
    ∀ out ∈ (PolledController.lift m polled).log, out.isCall = true := by
  intro out member
  obtain ⟨inner, present, rfl⟩ := List.mem_map.mp member
  exact quiet inner present

theorem lift_settles {m : ControllerAct Unit} (calls : Act.Keeps (Calls False) m) :
    Act.Keeps Settles (PolledController.lift m) := fun polled held =>
  ⟨held.lift (calls polled.controller) False.elim, lift_isCall (calls polled.controller).quiet⟩

theorem throws_settles : Act.Keeps Settles throws := by
  intro polled held
  have calls : Calls False polled.controller { polled.controller with looping := false } [] :=
    .idle rfl rfl (.inr rfl)
  exact ⟨held.calls calls False.elim, by simp [throws]⟩

structure Bare (polled : PolledController) : Prop where
  sound : polled.controller.Sound
  connection : polled.connection = none
  descriptors : polled.descriptors = polled.base
  listens : ∀ number linked, polled.controller.session = some (number, linked) → linked.session.connected = false

theorem Bare.connect {polled : PolledController} (bare : polled.Bare) (secure : Bool) (socket : Option Fd)
    (given : ∀ fd ∈ socket, polled.descriptors.available fd = true) : (polled.connect secure socket).Held := by
  obtain ⟨sound, connection, descriptors, listens⟩ := bare
  cases current : polled.controller.session with
  | none =>
      simp only [PolledController.connect, current]
      exact ⟨sound, fun _ => ⟨connection, descriptors⟩, by simp [current]⟩
  | some session =>
      obtain ⟨number, linked⟩ := session
      cases socket with
      | none =>
          simp only [PolledController.connect, current, connection]
          exact ⟨⟨by simp, by simp, by simp⟩, fun _ => ⟨rfl, descriptors⟩, by simp⟩
      | some fd =>
          have closed : polled.base.sockets fd = none := by
            have free := given fd rfl
            simp only [Descriptors.available, Bool.and_eq_true, Bool.not_eq_true', Table.contains] at free
            simpa [descriptors] using free.2
          simp only [PolledController.connect, current, connection]
          refine ⟨sound, fun gone => absurd (current.symm.trans gone) (by simp), fun other linked' same => ?_⟩
          obtain ⟨rfl, rfl⟩ : number = other ∧ linked = linked' := by simpa [current] using same
          refine ⟨_, rfl, ⟨?_, ?_⟩, fun connected => ?_⟩
          · rw [IoConnection.construct_watched]
            exact closed
          · rw [IoConnection.construct_watched, IoConnection.construct_descriptors, descriptors,
              Table.emplace_fresh _ (base_fresh closed), IoConnection.callback, IoConnection.construct_accepted]
            rfl
          · exact absurd connected (by simp [listens number linked current])

theorem connect_occupied {polled : PolledController} (held : polled.Held) (secure : Bool) (socket : Option Fd) :
    polled.connect secure socket = polled := by
  cases current : polled.controller.session with
  | none => simp [connect, current]
  | some session =>
      obtain ⟨connection, connected, -⟩ := held.held session.1 session.2 current
      simp [connect, current, connected]

variable (platform : Platform)

theorem sdp_step (request : Option Security) (established : Bool) (new : NewSession) (controller : TbdController) :
    TbdController.act platform (.sdp request established new) controller = ⟨.ok (), controller, []⟩ ∨
      controller.session = none ∧ established = true ∧ ∃ new',
        TbdController.act platform (.sdp request established new) controller =
          ⟨.ok (), controller.buildSession new', []⟩ := by
  by_cases serving : controller.looping = true ∧ controller.config.enableSdpServer = true
  · cases current : controller.session with
    | some session => simp [TbdController.act, TbdController.handleSdpServerInput, Act.bind_apply, serving, current]
    | none =>
        cases request with
        | none => simp [TbdController.act, TbdController.handleSdpServerInput, Act.bind_apply, serving]
        | some request =>
            cases established with
            | false =>
                simp [TbdController.act, TbdController.handleSdpServerInput, Act.bind_apply, serving]
            | true =>
                refine .inr ⟨rfl, rfl, ?_⟩
                by_cases tls : TbdController.negotiated controller.config.tlsNegotiationStrategy request = .tls
                · exact ⟨new, by
                    simp [TbdController.act, TbdController.handleSdpServerInput, Act.bind_apply, serving,
                      current, tls]⟩
                · exact ⟨{ new with vehicle := none }, by
                    simp [TbdController.act, TbdController.handleSdpServerInput, Act.bind_apply, serving,
                      current, tls, TbdController.buildPlainSession]⟩
  · simp [TbdController.act, Act.bind_apply, serving]

theorem handleSdpServerInput_settles (found : Readiness) :
    Act.Keeps Settles (handleSdpServerInput platform found) := by
  intro polled held
  simp only [handleSdpServerInput, Act.get_bind]
  rcases sdp_step platform found.request (found.socket.filter polled.descriptors.available).isSome found.new
    polled.controller with idles | ⟨free, established, new, builds⟩
  · have kept : PolledController.lift (TbdController.act platform (.sdp found.request
        (found.socket.filter polled.descriptors.available).isSome found.new)) polled = ⟨.ok (), polled, []⟩ := by
      rw [lift_quiet (by rw [idles]; simp), idles]
      rfl
    simp only [Act.bind_apply, kept, Act.modify_apply, connect_occupied held]
    exact ⟨held, by simp⟩
  · have built : PolledController.lift (TbdController.act platform (.sdp found.request
        (found.socket.filter polled.descriptors.available).isSome found.new)) polled =
          ⟨.ok (), { polled with controller := polled.controller.buildSession new }, []⟩ := by
      rw [lift_quiet (by rw [builds]; simp), builds]
      rfl
    simp only [Act.bind_apply, built, Act.modify_apply]
    obtain ⟨connection, descriptors⟩ := held.free free
    have sound := (TbdController.buildSession_undisturbed new polled.controller held.sound).1
    have bare : Bare { polled with controller := polled.controller.buildSession new } := by
      refine ⟨sound, connection, descriptors, ?_⟩
      rintro number linked ⟨⟩
      rfl
    exact ⟨bare.connect _ _ (by simp [Option.filter_eq_some_iff]), by simp⟩

theorem available_iff {descriptors : Descriptors} {fd : Fd} :
    descriptors.available fd = true ↔ 0 ≤ fd ∧ descriptors.sockets fd = none := by
  simp [Descriptors.available, Table.contains]

theorem Held.handleConnect {polled : PolledController} (held : polled.Held) {number : Nat} {linked : LinkedSession}
    {connection : IoConnection} (current : polled.controller.session = some (number, linked))
    (connected : polled.connection = some connection) (listening : connection.accepted = false) {acceptFd : Fd}
    (given : polled.descriptors.available acceptFd = true) :
    Held { polled with
      connection := some (connection.handleConnect number polled.descriptors acceptFd).1
      descriptors := (connection.handleConnect number polled.descriptors acceptFd).2 } := by
  obtain ⟨valid, closed⟩ := available_iff.mp given
  obtain ⟨other, same, ⟨unused, descriptors⟩, -⟩ := held.held number linked current
  obtain rfl : connection = other := by simpa [connected] using same
  rw [descriptors] at closed
  have different : acceptFd ≠ connection.watched := by
    rintro rfl
    simp at closed
  replace closed := (Table.insert_of_ne polled.base.sockets _ different).symm.trans closed
  refine ⟨held.sound, fun free => absurd (current.symm.trans free) (by simp), fun number' linked' same => ?_⟩
  obtain ⟨rfl, rfl⟩ : number = number' ∧ linked = linked' := by simpa [current] using same
  refine ⟨_, rfl, ⟨?_, ?_⟩, fun _ => IoConnection.handleConnect_accepted valid⟩
  · rw [IoConnection.handleConnect_watched valid]
    exact closed
  · rw [IoConnection.handleConnect_watched valid, IoConnection.handleConnect_callback valid,
      IoConnection.handleConnect_descriptors listening, descriptors, Table.erase_insert _ (base_fresh unused),
      Table.emplace_fresh _ (base_fresh closed), Table.insert_insert_erase _ _ unused different]
    rfl

theorem handleConnect_settles (found : Readiness) {polled : PolledController} {number : Nat} {linked : LinkedSession}
    {connection : IoConnection} (current : polled.controller.session = some (number, linked))
    (connected : polled.connection = some connection) (listening : connection.accepted = false) :
    Settles polled (PolledController.handleConnect platform number connection found polled).state
      (PolledController.handleConnect platform number connection found polled).log := by
  simp only [PolledController.handleConnect, Act.get_bind]
  cases accepts : found.accepted.filter polled.descriptors.available with
  | none => exact throws_settles polled
  | some acceptFd =>
      obtain ⟨-, given⟩ := Option.filter_eq_some_iff.mp accepts
      refine Act.relates_bind .trans (fun held => ⟨held.handleConnect current connected listening given, ?_⟩) fun _ =>
        Act.relates_bind .trans (fun held =>
          ⟨held.lift (Calls.accept platform _) ?_, lift_isCall (Calls.accept platform _).quiet⟩) fun _ => ?_
      · simp
      · rintro - _ ⟨⟩
        exact IoConnection.handleConnect_accepted (available_iff.mp given).1
      · cases (connection.handleConnect number polled.descriptors acceptFd).1 with
        | plain _ => exact lift_settles (Calls.opened platform) _
        | ssl _ => exact fun held => ⟨held, by simp⟩

theorem handleData_settles (found : Readiness) {polled : PolledController} {number : Nat} {linked : LinkedSession}
    {connection : IoConnection} (current : polled.controller.session = some (number, linked))
    (connected : polled.connection = some connection) :
    Settles polled (handleData platform connection found polled).state
      (handleData platform connection found polled).log := by
  cases connection with
  | plain connection => exact lift_settles (Calls.data platform) polled
  | ssl connection =>
      unfold handleData
      by_cases complete : connection.handshakeComplete = true
      · simpa only [complete, if_true] using lift_settles (Calls.data platform) polled
      simp only [complete]
      cases found.handshake with
      | wantsMore => exact fun held => ⟨held, by simp⟩
      | failed => exact throws_settles polled
      | complete =>
          refine Act.relates_bind .trans (fun held => ⟨?_, by simp⟩) fun _ => lift_settles (Calls.opened platform) _
          refine ⟨held.sound, fun free => absurd (current.symm.trans free) (by simp), fun other linked' same => ?_⟩
          obtain ⟨connection', connected', holds, listens⟩ := held.held other linked' same
          obtain rfl : .ssl connection = connection' := by simpa [connected] using connected'
          -- The handshake changes neither the descriptor nor its callback.
          exact ⟨_, rfl, holds, listens⟩

theorem ready_settles (fd : Fd) (found : Readiness) : Act.Keeps Settles (ready platform fd found) := by
  intro polled held
  simp only [ready, Act.get_bind]
  cases registered : polled.descriptors.registeredFds fd with
  | none => exact ⟨held, by simp⟩
  | some callback =>
      rcases held.owned.registered fd callback registered with ⟨-, rfl⟩ | ⟨number, linked, connection, current,
        connected, -, rfl⟩
      · exact handleSdpServerInput_settles platform found polled held
      · by_cases accepted : connection.accepted = true
        · simp only [IoConnection.callback, accepted, callBack, Act.get_bind, current, connected, if_true]
          exact handleData_settles platform found current connected held
        · have listening : connection.accepted = false := by simpa using accepted
          simp only [IoConnection.callback, listening, Bool.false_eq_true, if_false, callBack, Act.get_bind, current,
            connected, if_true]
          exact handleConnect_settles platform found current connected listening held

section Follow

variable {polled : PolledController} {connection : IoConnection} {number : Nat} {outs rest : List SessionOutput}
  {result : Except Exn Unit} {session session' : IsoSession}

theorem follow_close (connected : polled.connection = some connection) :
    polled.follow (.session number .close) =
      { polled with
        connection := some (connection.close polled.descriptors).1
        descriptors := (connection.close polled.descriptors).2 } := by
  simp [follow, connected]

theorem follow_destroyed (connected : polled.connection = some connection) :
    polled.follow (.destroyed number session') =
      { polled with connection := none, descriptors := connection.destroy polled.descriptors } := by
  simp [follow, connected]

theorem follow_polled : polled.follow (.polled number result session) = polled := rfl

theorem follow_finished (connected : polled.connection = some connection) (unclosed : closes outs = 0) :
    List.foldl follow polled (outs.map (.session number) ++ [.polled number result session] ++
        [.destroyed number session']) =
      { polled with connection := none, descriptors := connection.destroy polled.descriptors } := by
  -- A session that is destroyed leaves the descriptors to the destructor of its connection.
  simp only [List.foldl_append, foldl_follow_quiet _ (Calls.quiet_session unclosed), List.foldl_cons,
    List.foldl_nil, follow_polled, follow_destroyed connected]

theorem follow_caught (connected : polled.connection = some connection) (unclosed : closes outs = 0)
    (unclosed' : closes rest = 0) :
    List.foldl follow polled (outs.map (.session number) ++ [.polled number result session] ++
        (SessionOutput.close :: rest).map (.session number) ++ [.destroyed number session']) =
      { polled with
        connection := none
        descriptors := (connection.close polled.descriptors).1.destroy (connection.close polled.descriptors).2 } := by
  simp only [List.foldl_append, List.map_cons, foldl_follow_quiet _ (Calls.quiet_session unclosed),
    foldl_follow_quiet _ (Calls.quiet_session unclosed'), List.foldl_cons, List.foldl_nil, follow_polled,
    follow_close connected]
  rw [follow_destroyed rfl]

end Follow

theorem close_log (linked : LinkedSession) :
    ∃ rest, (LinkedSession.act platform .close linked).log = .close :: rest ∧ closes rest = 0 :=
  ⟨_, rfl, rfl⟩

theorem resetFinished_fresh (new : NewSession) (controller : TbdController) {number : Nat} {linked : LinkedSession}
    (next : (TbdController.resetFinished new controller).state.session = some (number, linked)) :
    controller.session = some (number, linked) ∨ linked.session.connected = false := by
  cases current : controller.session with
  | none => simp [TbdController.resetFinished, current] at next
  | some session =>
      by_cases finished : session.2.session.isFinished = true
      · by_cases sdp : controller.config.enableSdpServer = true
        · simp [TbdController.resetFinished, current, finished, sdp] at next
        · simp only [TbdController.resetFinished, current, finished, sdp, if_true] at next
          rcases next with ⟨⟩
          exact .inr rfl
      · simp only [TbdController.resetFinished, current, finished] at next
        exact .inl (current ▸ next)

theorem iterate_fresh (clock : TimePoint) (env : PollEnv) (new : NewSession) {controller : TbdController}
    {number : Nat} {linked : LinkedSession} (current : controller.session = some (number, linked)) :
    (∀ other linked', (TbdController.iterate platform clock env new controller).state.session =
        some (other, linked') → other = number ∨ linked'.session.connected = false) ∧
      ((LinkedSession.act platform (.poll env) linked).result = .error .runtimeError →
        (TbdController.iterate platform clock env new controller).result = .ok ()) := by
  -- A round keeps its session or ends with a new one. It throws nothing that it catches.
  have returns (controller : TbdController) : (TbdController.resetFinished new controller).result = .ok () := by
    unfold TbdController.resetFinished
    split
    · rfl
    · split <;> rfl
  have fresh {controller : TbdController} {linked' : LinkedSession}
    (same : controller.session = some (number, linked'))
      (other : Nat) (next : LinkedSession)
      (after : (TbdController.resetFinished new controller).state.session = some (other, next)) :
      other = number ∨ next.session.connected = false := by
    rcases resetFinished_fresh new controller after with before | fresh
    · exact .inl (Prod.mk.inj (Option.some.inj (before.symm.trans same))).1
    · exact .inr fresh
  simp only [TbdController.iterate, Act.bind_apply, Act.modify_apply, Act.tryCatch, TbdController.pollSession,
    current, List.nil_append]
  generalize LinkedSession.act platform (.poll env) linked = outcome
  cases result : outcome.result with
  | ok _ =>
      simp only [if_true]
      exact ⟨fun other next => fresh rfl other next, by simp⟩
  | error e =>
      by_cases caught : e = .runtimeError
      · subst caught
        simp only [TbdController.callSession, (TbdController.close_finished platform _).1]
        exact ⟨fun other next => fresh rfl other next, fun _ => returns _⟩
      · cases e <;> simp_all [Act.bind_apply]

theorem iterate_connects (clock : TimePoint) (env : PollEnv) (new : NewSession) (socket : Option Fd)
    (polled : PolledController) :
    ∃ follows : PolledController,
      follows = (TbdController.act platform (.iterate clock env new) polled.controller).log.foldl follow
        { polled with
          controller := (TbdController.act platform (.iterate clock env new) polled.controller).state } ∧
      (PolledController.iterate platform clock env new socket polled).log =
        (TbdController.act platform (.iterate clock env new) polled.controller).log.map .controller ∧
      ((PolledController.iterate platform clock env new socket polled).state =
          follows.connect false (socket.filter follows.descriptors.available) ∨
        (PolledController.iterate platform clock env new socket polled).state = follows ∧
          (TbdController.act platform (.iterate clock env new) polled.controller).result ≠ .ok ()) := by
  refine ⟨_, rfl, ?_⟩
  simp only [PolledController.iterate, Act.bind_apply, PolledController.lift]
  cases (TbdController.act platform (.iterate clock env new) polled.controller).result with
  | ok _ => simp
  | error e => simp

theorem connect_registered (polled : PolledController) (secure : Bool) (socket : Option Fd) {fd : Fd}
    {callback : PollCallback} (registered : polled.descriptors.registeredFds fd = some callback) :
    (polled.connect secure socket).descriptors.registeredFds fd = some callback := by
  -- `emplace` does not replace a registration.
  unfold connect
  split
  · rename_i number _ opened _ _
    have emplaced := congrArg Descriptors.registeredFds
      (@IoConnection.construct_descriptors number polled.descriptors secure opened)
    exact (congrFun emplaced fd).trans (Table.emplace_kept _ registered)
  · exact registered
  · exact registered

theorem connect_session (polled : PolledController) (secure : Bool) (socket : Option Fd)
    {session : Nat × LinkedSession}
    (current : (polled.connect secure socket).controller.session = some session) :
    polled.controller.session = some session := by
  unfold connect at current
  split at current
  · exact current
  · cases current
  · exact current

structure Registers (record : PolledStep) : Prop where
  held : Unfinished platform record → record.after.Held
  unfinished : record.after.Owned → Unfinished platform record
  alive : ∀ owner, .dangling owner ∉ record.outputs

theorem Settles.registers {polled : PolledController} {input : PolledInput} (held : polled.Held)
    (settles : Settles polled (act platform input polled).state (act platform input polled).log)
    (unfinished : Unfinished platform (Machine.stepOf (act platform) polled input)) :
    Registers platform (Machine.stepOf (act platform) polled input) := by
  obtain ⟨held', quiet⟩ := settles held
  refine ⟨fun _ => held', fun _ => unfinished, fun owner member => ?_⟩
  exact absurd (quiet _ member) (by simp [PolledOutput.isCall])

theorem iterate_idle (clock : TimePoint) (env : PollEnv) (new : NewSession) {controller : TbdController}
    (idle : controller.looping = false ∨ controller.session = none) :
    (TbdController.act platform (.iterate clock env new) controller).log = [] ∧
      Calls False controller (TbdController.act platform (.iterate clock env new) controller).state [] := by
  rw [TbdController.act_iterate]
  cases looping : controller.looping with
  | false => exact ⟨rfl, .idle rfl rfl (.inl rfl)⟩
  | true =>
      have free : controller.session = none := idle.resolve_left (by simp [looping])
      have idles : TbdController.iterate platform clock env new controller =
          ⟨.ok (),
            { controller with nextEvent := offsetTimePointByMs clock TbdController.pollManagerTimeoutMs }, []⟩ := by
        simp [TbdController.iterate, Act.bind_apply, Act.tryCatch, TbdController.pollSession,
          TbdController.resetFinished, free]
      rw [if_pos rfl, idles]
      exact ⟨rfl, .idle rfl rfl (.inl rfl)⟩

theorem orphaned {polled : PolledController} {number : Nat} {connection : IoConnection} {fd : Fd}
    (registered : polled.descriptors.registeredFds fd = some (connection.callback number))
    (gone : ∀ linked, polled.controller.session ≠ some (number, linked)) : ¬polled.Owned := by
  -- A session that is destroyed unclosed leaves its registration behind.
  intro owned
  rcases owned.registered fd _ registered with ⟨-, same⟩ | ⟨other, linked, connection', current, -, -, same⟩
  · by_cases accepted : connection.accepted = true <;> simp [IoConnection.callback, accepted] at same
  · have numbers : number = other := by
      by_cases accepted : connection.accepted = true <;> by_cases accepted' : connection'.accepted = true <;>
        simp [IoConnection.callback, accepted, accepted'] at same
      all_goals exact same
    exact gone linked (numbers ▸ current)

theorem poll_connected (env : PollEnv) {linked : LinkedSession} {e : Exn}
    (threw : (LinkedSession.act platform (.poll env) linked).result = .error e) :
    linked.session.connected = true := by
  by_contra disconnected
  simp [LinkedSession.act, LinkedSession.call, IsoSession.poll, Act.bind_apply, disconnected,
    IsoSession.wakeUp] at threw

theorem iterate_registers (clock : TimePoint) (env : PollEnv) (new : NewSession) (socket : Option Fd)
    {polled : PolledController} (held : polled.Held) :
    Registers platform (Machine.stepOf (act platform) polled (.iterate clock env new socket)) := by
  have acts : act platform (.iterate clock env new socket) polled =
      PolledController.iterate platform clock env new socket polled := rfl
  obtain ⟨follows, followed, logged, connects⟩ := iterate_connects platform clock env new socket polled
  -- Where the session stays, the connection stays.
  have stays : follows.Held → (act platform (.iterate clock env new socket) polled).state.Held := by
    intro held'
    rw [acts]
    rcases connects with same | ⟨same, -⟩
    · rw [same, connect_occupied held']
      exact held'
    · rw [same]
      exact held'
  by_cases idle : polled.controller.looping = false ∨ polled.controller.session = none
  · obtain ⟨silent, calls⟩ := iterate_idle platform clock env new idle
    refine Settles.registers platform held (fun _ => ⟨stays ?_, ?_⟩) ?_
    · rw [followed, silent]
      exact held.calls calls False.elim
    · rw [acts, logged, silent]
      simp
    · rintro _ _ _ _ - looping number linked current
      rcases idle with ended | free
      · exact absurd (ended.symm.trans looping) (by simp)
      · exact absurd (free.symm.trans current) (by simp)
  simp only [not_or, Bool.not_eq_false] at idle
  obtain ⟨looping, present⟩ := idle
  obtain ⟨⟨number, linked⟩, current⟩ := Option.ne_none_iff_exists'.mp present
  obtain ⟨connection, connected, ⟨unused, descriptors⟩, listens⟩ := held.held number linked current
  obtain ⟨unclosed, -⟩ := TbdController.poll_hushed platform env current held.sound looping
  have here : Unfinished platform (Machine.stepOf (act platform) polled (.iterate clock env new socket)) ↔
      ((LinkedSession.act platform (.poll env) linked).result = .ok () →
        (LinkedSession.act platform (.poll env) linked).state.session.isFinished = false) := by
    refine ⟨fun unfinished => unfinished clock env new socket rfl looping number linked current, ?_⟩
    rintro unfinished _ _ _ _ ⟨⟩ - other linked' same
    obtain ⟨rfl, rfl⟩ : number = other ∧ linked = linked' := by simpa [current] using same
    exact unfinished
  have round := TbdController.iterate_round platform clock env new current
  have sound := (@TbdController.iterate_undisturbed platform env _ clock new looping held.sound).1
  obtain ⟨fresh, returns⟩ := iterate_fresh platform clock env new current
  rw [TbdController.act_iterate, if_pos looping] at followed logged connects
  generalize (TbdController.iterate platform clock env new polled.controller).state = next at *
  generalize (TbdController.iterate platform clock env new polled.controller).log = log at *
  generalize (TbdController.iterate platform clock env new polled.controller).result = result at *
  cases round with
  | goesOn returned unfinished session count =>
      rw [List.foldl_append, foldl_follow_quiet _ (Calls.quiet_session unclosed)] at followed
      refine ⟨fun _ => stays ?_, fun _ => ?_, ?_⟩
      · rw [followed]
        exact held.calls (Calls.stays current sound session) False.elim
      · exact here.mpr fun _ => unfinished
      · simp [acts, logged]
  | aborted threw other session count stopped =>
      rw [List.foldl_append, foldl_follow_quiet _ (Calls.quiet_session unclosed)] at followed
      refine ⟨fun _ => stays ?_, fun _ => ?_, ?_⟩
      · rw [followed]
        exact held.calls (Calls.stays current sound session) False.elim
      · exact here.mpr fun returned => absurd (returned.symm.trans threw) (by simp)
      · simp [acts, logged]
  | finished returned finished replaced =>
      rw [@follow_finished { polled with controller := next } _ _ _ _ _ _ connected unclosed] at followed
      refine ⟨fun unfinished => ?_, fun owned => ?_, ?_⟩
      · exact absurd (here.mp unfinished returned) (by simp [finished])
      · have registered : follows.descriptors.registeredFds connection.watched =
            some (connection.callback number) := by
          rw [followed, IoConnection.destroy_registeredFds, descriptors]
          exact Table.insert_self ..
        have gone (linked' : LinkedSession) : follows.controller.session ≠ some (number, linked') := by
          intro same
          rw [followed] at same
          have later := replaced.later number (.inr ⟨linked', same⟩)
          have earlier := held.sound.numbered number linked current
          omega
        refine absurd owned ?_
        rcases connects with after | ⟨after, -⟩
        · rw [Machine.stepOf_after, acts, after]
          exact orphaned (connect_registered follows _ _ registered) fun linked' same =>
            gone linked' (connect_session follows _ _ same)
        · rw [Machine.stepOf_after, acts, after]
          exact orphaned registered gone
      · simp [acts, logged]
  | caught threw replaced =>
      obtain ⟨rest, closing, unclosed'⟩ := close_log platform (LinkedSession.act platform (.poll env) linked).state
      rw [closing, @follow_caught { polled with controller := next } _ _ _ _ _ _ _ connected unclosed unclosed']
        at followed
      have accepted := listens (poll_connected platform env threw)
      have bare : follows.Bare := by
        obtain ⟨registeredFds, sockets⟩ := @IoConnection.release_descriptors polled.descriptors connection accepted
        rw [descriptors, Table.erase_insert _ (base_fresh unused)] at registeredFds
        rw [descriptors, Table.erase_insert _ unused] at sockets
        rw [followed]
        refine ⟨sound, rfl, ?_, fun other linked' same => ?_⟩
        · exact congrArg₂ Descriptors.mk (descriptors ▸ registeredFds) (descriptors ▸ sockets)
        · have later := replaced.later other (.inr ⟨linked', same⟩)
          have earlier := held.sound.numbered number linked current
          exact (fresh other linked' same).resolve_left (by omega)
      refine ⟨fun _ => ?_, fun _ => ?_, ?_⟩
      · rcases connects with after | ⟨-, failed⟩
        · rw [Machine.stepOf_after, acts, after]
          exact bare.connect _ _ (by simp [Option.filter_eq_some_iff])
        · exact absurd (returns threw) failed
      · exact here.mpr fun returned => absurd (returned.symm.trans threw) (by simp)
      · simp [acts, logged]

theorem act_registers (input : PolledInput) {polled : PolledController} (held : polled.Held) :
    Registers platform (Machine.stepOf (act platform) polled input) := by
  cases input with
  | iterate clock env new socket => exact iterate_registers platform clock env new socket held
  | ready fd found =>
      refine Settles.registers platform held ?_ (by simp [Unfinished])
      simp only [act, Act.get_bind]
      by_cases looping : polled.controller.looping = true
      · simpa only [looping, if_true] using ready_settles platform fd found polled
      · simp only [looping]
        exact fun held => ⟨held, by simp⟩
  | wait clock throws =>
      exact Settles.registers platform held (lift_settles (Calls.wait platform clock throws) polled)
        (by simp [Unfinished])
  | outside input =>
      exact Settles.registers platform held (lift_settles (Calls.update platform input) polled)
        (by simp [Unfinished])

theorem held_new (config : TbdConfig) (evseSetup : EvseSetupConfig) (session : NewSession) (clock : TimePoint)
    (sdpFd : Fd) (socket : Option Fd) : (new config evseSetup session clock sdpFd socket).Held := by
  have sound := (TbdController.calm_new config evseSetup session clock).sound
  unfold new
  by_cases sdp : config.enableSdpServer = true
  · have free : (TbdController.new config evseSetup session clock).session = none := by
      simp [TbdController.new, sdp]
    simp only [sdp, if_true]
    exact ⟨sound, fun _ => ⟨rfl, rfl⟩, by simp [free]⟩
  · simp only [sdp]
    refine Bare.connect ⟨sound, rfl, rfl, ?_⟩ false _ (by simp [Option.filter_eq_some_iff])
    intro number linked current
    simp only [TbdController.new, sdp] at current
    rcases current with ⟨⟩
    rfl

/-- Around the step every registration and every socket has an owner, and no callback of a destroyed
connection is called. -/
structure Unorphaned (record : PolledStep) : Prop where
  before : record.before.Owned
  after : record.after.Owned
  alive : ∀ owner, .dangling owner ∉ record.outputs

end PolledController

open PolledController in
/-- `loop` destroys a session that it finds stopped or paused without `connection->close`, and only then is a
registration orphaned. -/
theorem registrations_owned_iff (platform : Platform) (config : TbdConfig) (evseSetup : EvseSetupConfig)
    (session : NewSession) (clock : TimePoint) (sdpFd : Fd) (socket : Option Fd) (inputs : List PolledInput) :
    (∀ record ∈ Machine.steps (act platform) (new config evseSetup session clock sdpFd socket) inputs,
        Unorphaned record) ↔
      ∀ record ∈ Machine.steps (act platform) (new config evseSetup session clock sdpFd socket) inputs,
        Unfinished platform record := by
  have held := held_new config evseSetup session clock sdpFd socket
  generalize new config evseSetup session clock sdpFd socket = polled at *
  induction inputs generalizing polled with
  | nil => simp [Machine.steps]
  | cons input rest hyp =>
      have registers := act_registers platform input held
      simp only [Machine.steps, List.forall_mem_cons]
      constructor
      · rintro ⟨unorphaned, later⟩
        have unfinished := registers.unfinished unorphaned.after
        exact ⟨unfinished, (hyp _ (registers.held unfinished)).mp later⟩
      · rintro ⟨unfinished, later⟩
        have held' := registers.held unfinished
        exact ⟨⟨held.owned, held'.owned, registers.alive⟩, (hyp _ held').mpr later⟩

namespace Sample

def unexpectedPolled : List PolledInput :=
  [.ready 3 { accepted := some 4 }, .ready 4 {}, .iterate 0 { reads := [fun _ => emptyPacket] } {} (some 3)]

end Sample

open PolledController Sample in
/-- The callback of the connection of a stopped session stays registered. -/
theorem registrations_owned_unexpected :
    ¬∀ record ∈ Machine.steps (act platform) (new { enableSdpServer := false } setup {} 0 0 (some 3))
      unexpectedPolled, Unorphaned record := by
  intro unorphaned
  have current : ((Machine.final (act platform) (new { enableSdpServer := false } setup {} 0 0 (some 3))
      unexpectedPolled).controller.session.map Prod.fst) = some 2 := by decide +kernel
  have owned : (Machine.final (act platform) (new { enableSdpServer := false } setup {} 0 0 (some 3))
      unexpectedPolled).Owned :=
    (unorphaned _ (List.mem_cons_of_mem _ (List.mem_cons_of_mem _ List.mem_cons_self))).after
  refine @orphaned _ 1 (.plain { fd := 4, connectionOpen := true }) 4 (by decide +kernel)
    (fun linked same => ?_) owned
  simp [same] at current

end LibIso15118
