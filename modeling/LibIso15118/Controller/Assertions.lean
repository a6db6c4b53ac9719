import LibIso15118.Controller.Registrations
import LibIso15118.Session.Readiness

set_option autoImplicit false

namespace LibIso15118

open Datatypes Shared

def PollCallback.owner? : PollCallback → Option Nat
  | .sdpServer => none
  | .handleConnect owner | .handleData owner => some owner

theorem Table.emplace_eq_some {κ α : Type} [DecidableEq κ] {table : Table κ α} {key other : κ}
    {value found : α} (there : table.emplace key value other = some found) :
    other = key ∧ found = value ∨ table other = some found := by
  unfold emplace at there
  split at there
  · exact .inr there
  · exact (insert_eq_some.mp there).imp_right And.right

namespace IoConnection

/-- `connection_open` and `handshake_complete` -/
def isOpen : IoConnection → Bool
  | .plain connection => connection.connectionOpen
  | .ssl connection => connection.handshakeComplete

def link (connection : IoConnection) : Link :=
  if connection.isOpen then .opened else if connection.accepted then .accepted else .listening

theorem link_open {connection : IoConnection} : connection.link = .opened ↔ connection.isOpen = true := by
  unfold link
  by_cases isOpen : connection.isOpen = true
  · simp [isOpen]
  · by_cases accepted : connection.accepted = true <;> simp [isOpen, accepted]

theorem handleConnect_opens {owner : Nat} {descriptors : Descriptors} {connection : IoConnection}
    {acceptFd : Fd}
    (closed : connection.isOpen = false) :
    (∃ plain, (connection.handleConnect owner descriptors acceptFd).1 = .plain plain ∧
        (connection.handleConnect owner descriptors acceptFd).1.isOpen = true) ∨
      ∃ ssl, (connection.handleConnect owner descriptors acceptFd).1 = .ssl ssl ∧
        (connection.handleConnect owner descriptors acceptFd).1.isOpen = false := by
  cases connection with
  | plain connection => exact .inl ⟨_, rfl, rfl⟩
  | ssl connection => exact .inr ⟨_, rfl, closed⟩

theorem close_registered {connection : IoConnection} {descriptors : Descriptors} {fd : Fd}
    {callback : PollCallback}
    (registered : (connection.close descriptors).2.registeredFds fd = some callback) :
    descriptors.registeredFds fd = some callback := by
  cases connection with
  | plain connection => exact (Table.erase_eq_some.mp registered).2
  | ssl connection => exact (Table.erase_eq_some.mp registered).2

theorem construct_isOpen (owner : Nat) (descriptors : Descriptors) (secure : Bool) (fd : Fd) :
    (construct owner descriptors secure fd).1.isOpen = false := by
  cases secure <;> simp [construct, ConnectionPlain.construct, ConnectionSsl.construct, isOpen]

end IoConnection

namespace LinkedSession

structure Serves (linked : LinkedSession) (connection : IoConnection) : Prop where
  link : linked.link = connection.link
  shaken : connection.isOpen = true → connection.accepted = true
  early : connection.isOpen = false → linked.session.Untouched
  waiting : linked.session.packet.Waiting

theorem Serves.connected {linked : LinkedSession} {connection : IoConnection}
    (serves : linked.Serves connection)
    (sound : linked.Linked) : linked.session.connected = connection.accepted := by
  have shaken := serves.shaken
  rw [Bool.eq_iff_iff, sound.connected, serves.link, IoConnection.link]
  by_cases isOpen : connection.isOpen = true
  · simp [isOpen, shaken isOpen]
  · by_cases accepted : connection.accepted = true <;> simp [isOpen, accepted]

theorem serves_new (config : SessionConfig) (pauseCtx : Option PauseContext) (vehicle : Option Sha512Hash)
    (id : SessionId) (now : TimePoint) {connection : IoConnection} (closed : connection.isOpen = false)
    (listening : connection.accepted = false) :
    (LinkedSession.new config pauseCtx vehicle id now).Serves connection where
  link := by simp [IoConnection.link, closed, listening, LinkedSession.new]
  shaken := by simp [closed]
  early _ := ⟨rfl, rfl, rfl, rfl, rfl⟩
  waiting := .empty [] (by decide)

variable (platform : Platform)

theorem Serves.accept {linked : LinkedSession} {connection connection' : IoConnection}
    (serves : linked.Serves connection) (listening : connection.link = .listening)
    (accepted : connection'.link = .accepted) : (act platform .accept linked).state.Serves connection' := by
  have reports := serves.link.trans listening
  have closed : connection.isOpen = false := by
    rw [← Bool.not_eq_true, ← IoConnection.link_open, listening]
    simp
  have closed' : connection'.isOpen = false := by
    rw [← Bool.not_eq_true, ← IoConnection.link_open, accepted]
    simp
  obtain ⟨newData, packet, state, pending, idle⟩ := serves.early closed
  simp only [act, report, reports, if_true]
  exact ⟨accepted.symm, by simp [closed'], fun _ => ⟨newData, packet, state, pending, idle⟩, serves.waiting⟩

theorem open_packet (linked : LinkedSession) :
    (act platform .opened linked).state.session.packet = linked.session.packet := by
  by_cases accepted : linked.link = .accepted
  · cases hash : linked.session.vehicle <;>
      simp [act, report, accepted, IsoSession.handleConnectionEvent, Act.bind_apply, hash,
        IsoSession.dispatch]
  · simp [act, report, accepted]

theorem Serves.opens {linked : LinkedSession} {connection : IoConnection} (reports : linked.link = .accepted)
    (waiting : linked.session.packet.Waiting) (isOpen : connection.isOpen = true)
    (accepted : connection.accepted = true) : (act platform .opened linked).state.Serves connection where
  link := by simp [IoConnection.link, isOpen, act, report, reports]
  shaken _ := accepted
  early closed := absurd closed (by simp [isOpen])
  waiting := by
    -- A connection that opens has been accepted before.
    rw [open_packet]
    exact waiting

theorem Serves.data {linked : LinkedSession} {connection : IoConnection} (serves : linked.Serves connection)
    (isOpen : connection.isOpen = true) : (act platform .data linked).state.Serves connection := by
  have reports : linked.link = .opened := by rw [serves.link, IoConnection.link, if_pos isOpen]
  simp only [act, report, reports, if_true]
  refine ⟨?_, serves.shaken, fun closed => absurd closed (by simp [isOpen]), serves.waiting⟩
  simp [IoConnection.link, isOpen]

theorem Serves.push {linked : LinkedSession} {connection : IoConnection} (serves : linked.Serves connection)
    (event : ControlEvent) : (act platform (.push event) linked).state.Serves connection :=
  ⟨serves.link, serves.shaken, fun closed =>
    let untouched := serves.early closed
    ⟨untouched.newData, untouched.packet, untouched.state, untouched.pending, untouched.idle⟩, serves.waiting⟩

theorem Serves.poll {linked : LinkedSession} {connection : IoConnection} {env : PollEnv}
    (serves : linked.Serves connection) (real : ∀ read ∈ env.reads, FromConnection read)
    (idle : linked.session.fsm.ctx.request = none)
    (unclosed : closes (act platform (.poll env) linked).log = 0)
    (returned : (act platform (.poll env) linked).result = .ok ()) :
    (act platform (.poll env) linked).state.Serves connection where
  link := by
    have silent : (IsoSession.poll platform env linked.session).log.any (·.isClose) = false := by
      rw [List.any_eq_false]
      exact fun out member => by simpa using List.countP_eq_zero.mp unclosed out member
    simp only [act, call, silent, Bool.false_eq_true, if_false]
    exact serves.link
  shaken := serves.shaken
  early closed := (IsoSession.poll_untouched platform env linked.session (serves.early closed)).1
  waiting := IsoSession.poll_waiting platform real idle serves.waiting returned

end LinkedSession

namespace PolledController

def Waits (polled : PolledController) (number : Nat) (connection : IoConnection) : Prop :=
  ∀ fd callback, polled.descriptors.registeredFds fd = some callback → callback.owner? = some number →
    fd = connection.watched ∧ callback = connection.callback number

def Numbered (polled : PolledController) (count : Nat) : Prop :=
  ∀ fd callback owner, polled.descriptors.registeredFds fd = some callback → callback.owner? = some owner →
    owner ≤ count

structure Attended (polled : PolledController) : Prop where
  sound : polled.controller.Sound
  free : polled.controller.session = none → polled.connection = none
  owners : polled.Numbered polled.controller.count
  attended : ∀ number linked, polled.controller.session = some (number, linked) →
    ∃ connection, polled.connection = some connection ∧ linked.Serves connection ∧
      polled.Waits number connection

theorem Attended.of_current {polled : PolledController} {number : Nat} {linked : LinkedSession}
    {connection : IoConnection} (current : polled.controller.session = some (number, linked))
    (connected : polled.connection = some connection) (sound : polled.controller.Sound)
    (owners : polled.Numbered polled.controller.count) (serves : linked.Serves connection)
    (waits : polled.Waits number connection) : polled.Attended where
  sound := sound
  free free := absurd (current.symm.trans free) (by simp)
  owners := owners
  attended other linked' same := by
    obtain ⟨rfl, rfl⟩ : number = other ∧ linked = linked' := by simpa [current] using same
    exact ⟨connection, connected, serves, waits⟩

structure Vacant (polled : PolledController) : Prop where
  sound : polled.controller.Sound
  connection : polled.connection = none
  owners : polled.Numbered polled.controller.count
  fresh : ∀ number linked, polled.controller.session = some (number, linked) →
    (∀ fd callback, polled.descriptors.registeredFds fd = some callback → callback.owner? ≠ some number) ∧
      ∃ config pauseCtx vehicle id now, linked = .new config pauseCtx vehicle id now

theorem Vacant.connect {polled : PolledController} (vacant : polled.Vacant) (secure : Bool)
    (socket : Option Fd)
    (looping : (polled.connect secure socket).controller.looping = true) :
    (polled.connect secure socket).Attended := by
  cases current : polled.controller.session with
  | none =>
      simp only [PolledController.connect, current]
      exact ⟨vacant.sound, fun _ => vacant.connection, vacant.owners, by simp [current]⟩
  | some session =>
      obtain ⟨number, linked⟩ := session
      cases socket with
      | none => simp [PolledController.connect, current, vacant.connection] at looping
      | some fd =>
          obtain ⟨unowned, config, pauseCtx, vehicle, id, now, rfl⟩ := vacant.fresh number linked current
          have bounded := vacant.sound.numbered number _ current
          simp only [PolledController.connect, current, vacant.connection]
          refine .of_current current rfl vacant.sound ?_
            (LinkedSession.serves_new _ _ _ _ _ (IoConnection.construct_isOpen ..)
              (IoConnection.construct_accepted ..)) ?_
          · intro other callback owner registered owned
            rw [IoConnection.construct_descriptors] at registered
            rcases Table.emplace_eq_some registered with ⟨-, rfl⟩ | before
            · obtain rfl : number = owner := by simpa [PollCallback.owner?] using owned
              exact bounded
            · exact vacant.owners other callback owner before owned
          · intro other callback registered owned
            rw [IoConnection.construct_descriptors] at registered
            rcases Table.emplace_eq_some registered with ⟨rfl, rfl⟩ | before
            · simp [IoConnection.callback]
            · exact absurd owned (unowned other callback before)

theorem Attended.connect {polled : PolledController} (attended : polled.Attended) (secure : Bool)
    (socket : Option Fd) : polled.connect secure socket = polled := by
  cases current : polled.controller.session with
  | none => simp [PolledController.connect, current]
  | some session =>
      obtain ⟨connection, connected, -⟩ := attended.attended session.1 session.2 current
      simp [PolledController.connect, current, connected]

variable (platform : Platform)

structure Told (told : SessionInput) (number : Nat) (linked : LinkedSession)
    (controller controller' : TbdController) :
    Prop where
  session : controller'.session = some (number, (LinkedSession.act platform told linked).state)
  count : controller'.count = controller.count
  looping : controller'.looping = true
  sound : controller'.Sound

section Tells

variable {controller : TbdController} {number : Nat} {linked : LinkedSession} (sound : controller.Sound)
  (current : controller.session = some (number, linked)) (looping : controller.looping = true)
include sound current looping

theorem told_accept : (TbdController.act platform .accept controller).result = .ok () ∧
    Told platform .accept number linked controller (TbdController.act platform .accept controller).state := by
  have kept := (Calls.accept platform controller).sound sound
  have tells : TbdController.act platform .accept controller =
      TbdController.callSession platform .accept controller := by
    simp [TbdController.act, Act.bind_apply, looping]
  have returns : (LinkedSession.act platform .accept linked).result = .ok () := by
    by_cases listening : linked.link = .listening <;>
      simp [LinkedSession.act, LinkedSession.report, listening, IsoSession.handleConnectionEvent]
  rw [tells] at kept ⊢
  simp only [TbdController.callSession, current] at kept ⊢
  exact ⟨returns, rfl, rfl, looping, kept⟩

theorem told_open :
    Told platform .opened number linked controller (TbdController.act platform .opened controller).state := by
  have kept := (Calls.opened platform controller).sound sound
  have tells : TbdController.act platform .opened controller =
      TbdController.callSession platform .opened controller := by
    simp [TbdController.act, Act.bind_apply, looping]
  rw [tells] at kept ⊢
  simp only [TbdController.callSession, current] at kept ⊢
  exact ⟨rfl, rfl, looping, kept⟩

theorem told_data :
    Told platform .data number linked controller (TbdController.act platform .data controller).state := by
  have kept := (Calls.data platform controller).sound sound
  have tells : TbdController.act platform .data controller =
      TbdController.callSession platform .data controller := by
    simp [TbdController.act, Act.bind_apply, looping]
  rw [tells] at kept ⊢
  simp only [TbdController.callSession, current] at kept ⊢
  exact ⟨rfl, rfl, looping, kept⟩

end Tells

end PolledController

namespace PolledController

variable (platform : Platform)

section Callbacks

variable {polled : PolledController} {number : Nat} {linked : LinkedSession} {connection : IoConnection}
  (attended : polled.Attended) (current : polled.controller.session = some (number, linked))
  (connected : polled.connection = some connection) (looping : polled.controller.looping = true)
include attended current connected looping

theorem attended_handleConnect (found : Readiness) (listening : connection.accepted = false)
    (goesOn : (handleConnect platform number connection found polled).state.controller.looping = true) :
    (handleConnect platform number connection found polled).state.Attended := by
  obtain ⟨other, same, serves, waits⟩ := attended.attended number linked current
  obtain rfl : connection = other := by simpa [connected] using same
  have bounded := attended.sound.numbered number linked current
  have unopened : connection.isOpen = false := by
    simpa [listening] using mt serves.shaken
  have waiting : connection.link = .listening := by simp [IoConnection.link, unopened, listening]
  simp only [handleConnect, Act.get_bind] at goesOn ⊢
  cases accepts : found.accepted.filter polled.descriptors.available with
  | none =>
      rw [accepts] at goesOn
      simp [throws] at goesOn
  | some acceptFd =>
      have valid := (available_iff.mp (Option.filter_eq_some_iff.mp accepts).2).1
      have watched := @IoConnection.handleConnect_watched number polled.descriptors connection acceptFd valid
      have accepted := @IoConnection.handleConnect_accepted number polled.descriptors connection
        acceptFd valid
      have callback := @IoConnection.handleConnect_callback number polled.descriptors connection
        acceptFd valid
      have descriptors := @IoConnection.handleConnect_descriptors number polled.descriptors connection
        acceptFd listening
      have opens := @IoConnection.handleConnect_opens number polled.descriptors connection acceptFd unopened
      simp only [Act.bind_apply, Act.modify_apply]
      generalize (connection.handleConnect number polled.descriptors acceptFd).1 = connection' at *
      generalize (connection.handleConnect number polled.descriptors acceptFd).2 = descriptors' at *
      -- What was registered for the listening socket is gone.
      have registered {fd : Fd} {found : PollCallback} (there : descriptors'.registeredFds fd = some found) :
          fd = acceptFd ∧ found = .handleData number ∨
            fd ≠ connection.watched ∧ polled.descriptors.registeredFds fd = some found := by
        rw [descriptors] at there
        exact (Table.emplace_eq_some there).imp_right Table.erase_eq_some.mp
      have owners : Numbered { polled with connection := some connection', descriptors := descriptors' }
          polled.controller.count := by
        intro fd found owner there owned
        rcases registered there with ⟨-, rfl⟩ | ⟨-, before⟩
        · obtain rfl : number = owner := by simpa [PollCallback.owner?] using owned
          exact bounded
        · exact attended.owners fd found owner before owned
      have waits' : Waits { polled with connection := some connection', descriptors := descriptors' } number
          connection' := by
        intro fd found there owned
        rcases registered there with ⟨rfl, rfl⟩ | ⟨elsewhere, before⟩
        · exact ⟨watched.symm, callback.symm⟩
        · exact absurd (waits fd found before owned).1 elsewhere
      obtain ⟨returned, accepts⟩ := told_accept platform attended.sound current looping
      simp only [lift_quiet (Calls.accept platform _).quiet, returned]
      generalize (TbdController.act platform .accept polled.controller).state = told at *
      rcases opens with ⟨plain, rfl, isOpen⟩ | ⟨ssl, rfl, closed⟩
      · -- `connection_open` is set between the two events.
        have opens := told_open platform accepts.sound accepts.session accepts.looping
        simp only [lift_quiet (Calls.opened platform _).quiet]
        refine .of_current opens.session rfl opens.sound ?_ ?_ waits'
        · rw [opens.count, accepts.count]
          exact owners
        · have reports := serves.link.trans waiting
          refine .opens platform ?_ ?_ isOpen accepted
          · simp [LinkedSession.act, LinkedSession.report, reports]
          · simp only [LinkedSession.act, LinkedSession.report, reports, if_true]
            exact serves.waiting
      · simp only [Act.pure_apply]
        refine .of_current accepts.session rfl accepts.sound ?_ (serves.accept platform waiting ?_) waits'
        · rw [accepts.count]
          exact owners
        · simp [IoConnection.link, closed, accepted]

theorem attended_handleData (found : Readiness) (accepted : connection.accepted = true)
    (goesOn : (handleData platform connection found polled).state.controller.looping = true) :
    (handleData platform connection found polled).state.Attended := by
  -- What comes in before the handshake is complete belongs to it.
  obtain ⟨other, same, serves, waits⟩ := attended.attended number linked current
  obtain rfl : connection = other := by simpa [connected] using same
  have hears (isOpen : connection.isOpen = true) :
      (lift (TbdController.act platform .data) polled).state.Attended := by
    have told := told_data platform attended.sound current looping
    rw [lift_quiet (Calls.data platform _).quiet]
    refine .of_current told.session connected told.sound ?_ (serves.data platform isOpen) waits
    rw [told.count]
    exact attended.owners
  cases connection with
  | plain connection => exact hears accepted
  | ssl connection =>
      unfold handleData at goesOn ⊢
      by_cases complete : connection.handshakeComplete = true
      · simpa only [complete, if_true] using hears complete
      have waiting : linked.link = .accepted := by
        rw [serves.link]
        simp [IoConnection.link, IoConnection.isOpen, complete, accepted]
      simp only [complete, Bool.false_eq_true, if_false] at goesOn ⊢
      cases handshake : found.handshake with
      | wantsMore => exact attended
      | failed => simp [handshake, throws] at goesOn
      | complete =>
          have told := told_open platform attended.sound current looping
          simp only [Act.bind_apply, Act.modify_apply, lift_quiet (Calls.opened platform _).quiet]
          refine .of_current told.session rfl told.sound ?_
            (.opens platform waiting serves.waiting rfl accepted) waits
          rw [told.count]
          exact attended.owners

end Callbacks

theorem sdp_connects (found : Readiness) (polled : PolledController) :
    ∃ secure socket, (handleSdpServerInput platform found polled).state = polled.connect secure socket ∨
      polled.controller.session = none ∧ ∃ new, (handleSdpServerInput platform found polled).state =
        connect secure socket { polled with controller := polled.controller.buildSession new } := by
  simp only [handleSdpServerInput, Act.get_bind]
  rcases sdp_step platform found.request (found.socket.filter polled.descriptors.available).isSome found.new
    polled.controller with idles | ⟨free, -, new, builds⟩
  · have kept : lift (TbdController.act platform (.sdp found.request
        (found.socket.filter polled.descriptors.available).isSome found.new)) polled =
          ⟨.ok (), polled, []⟩ := by
      rw [lift_quiet (by rw [idles]; simp), idles]
      rfl
    simp only [Act.bind_apply, kept, Act.modify_apply]
    exact ⟨_, _, .inl rfl⟩
  · have built : lift (TbdController.act platform (.sdp found.request
        (found.socket.filter polled.descriptors.available).isSome found.new)) polled =
          ⟨.ok (), { polled with controller := polled.controller.buildSession new }, []⟩ := by
      rw [lift_quiet (by rw [builds]; simp), builds]
      rfl
    simp only [Act.bind_apply, built, Act.modify_apply]
    exact ⟨_, _, .inr ⟨free, new, rfl⟩⟩

theorem attended_sdp (found : Readiness) {polled : PolledController} (attended : polled.Attended)
    (goesOn : (handleSdpServerInput platform found polled).state.controller.looping = true) :
    (handleSdpServerInput platform found polled).state.Attended := by
  obtain ⟨secure, socket, idles | ⟨free, new, builds⟩⟩ := sdp_connects platform found polled
  · rw [idles, attended.connect]
    exact attended
  · rw [builds] at goesOn ⊢
    have sound := (TbdController.buildSession_undisturbed new polled.controller attended.sound).1
    have vacant : Vacant { polled with controller := polled.controller.buildSession new } := by
      refine ⟨sound, attended.free free, ?_, ?_⟩
      · exact fun fd callback owner registered owned =>
          Nat.le_succ_of_le (attended.owners fd callback owner registered owned)
      · rintro number linked ⟨⟩
        refine ⟨fun fd callback registered owned => ?_, _, _, _, _, _, rfl⟩
        have bounded := attended.owners fd callback _ registered owned
        omega
    exact vacant.connect secure socket goesOn

theorem attended_ready (fd : Fd) (found : Readiness) {polled : PolledController} (attended : polled.Attended)
    (looping : polled.controller.looping = true)
    (goesOn : (ready platform fd found polled).state.controller.looping = true) :
    (ready platform fd found polled).state.Attended := by
  -- The callback that `poll_manager.poll` finds is one of the current connection, or of one that
  -- is gone.
  simp only [ready, Act.get_bind] at goesOn ⊢
  cases registered : polled.descriptors.registeredFds fd with
  | none => exact attended
  | some callback =>
      simp only [registered] at goesOn
      -- the callback of a connection, which is gone or that of the current session
      have calls (owner : Nat) (handler : IoConnection → PolledAct Unit)
          (goesOn : (callBack owner handler polled).state.controller.looping = true)
          (handles : ∀ linked connection, polled.controller.session = some (owner, linked) →
            polled.connection = some connection → polled.Waits owner connection →
            (handler connection polled).state.controller.looping = true →
              (handler connection polled).state.Attended) :
          (callBack owner handler polled).state.Attended := by
        unfold callBack at goesOn ⊢
        simp only [Act.get_bind] at goesOn ⊢
        cases current : polled.controller.session with
        | none => exact attended
        | some session =>
            obtain ⟨number, linked⟩ := session
            obtain ⟨connection, connected, -, waits⟩ := attended.attended number linked current
            simp only [current, connected] at goesOn ⊢
            by_cases same : number = owner
            · subst same
              simp only [if_true] at goesOn ⊢
              exact handles linked connection current connected waits goesOn
            · simp only [same, if_false] at goesOn ⊢
              exact attended
      cases callback with
      | sdpServer => exact attended_sdp platform found attended goesOn
      | handleConnect owner =>
          refine calls owner _ goesOn fun linked connection current connected waits goesOn => ?_
          obtain ⟨-, callback⟩ := waits fd _ registered rfl
          refine attended_handleConnect platform attended current connected looping found ?_ goesOn
          by_contra accepted
          simp [IoConnection.callback, accepted] at callback
      | handleData owner =>
          refine calls owner _ goesOn fun linked connection current connected waits goesOn => ?_
          obtain ⟨-, callback⟩ := waits fd _ registered rfl
          refine attended_handleData platform attended current connected looping found ?_ goesOn
          by_contra listening
          simp [IoConnection.callback, listening] at callback

structure Serving (controller controller' : TbdController) (log : List ControllerOutput) : Prop where
  silent : log = []
  free : controller.session = none → controller'.session = none
  count : controller'.count = controller.count
  looping : controller'.looping = controller.looping
  serves : ∀ number linked connection, controller.session = some (number, linked) → linked.Serves connection →
    ∃ linked', controller'.session = some (number, linked') ∧ linked'.Serves connection

namespace Serving

theorem still {controller controller' : TbdController} (session : controller'.session = controller.session)
    (count : controller'.count = controller.count) (looping : controller'.looping = controller.looping) :
    Serving controller controller' [] where
  silent := rfl
  free := session.trans
  count := count
  looping := looping
  serves _ linked _ current serves := ⟨linked, session.trans current, serves⟩

theorem trans {s t u : TbdController} {l l' : List ControllerOutput} (first : Serving s t l)
    (next : Serving t u l') : Serving s u (l ++ l') where
  silent := by rw [first.silent, next.silent]; rfl
  free free := next.free (first.free free)
  count := next.count.trans first.count
  looping := next.looping.trans first.looping
  serves number linked connection current serves := by
    obtain ⟨linked', current', serves'⟩ := first.serves number linked connection current serves
    exact next.serves number linked' connection current' serves'

end Serving

theorem update_serving (input : ControllerInput) :
    Act.Keeps Serving (TbdController.update platform input) := by
  have setup (f : EvseSetupConfig → EvseSetupConfig) :
      Act.Keeps Serving (TbdController.setup f) := fun _ => .still rfl rfl rfl
  have push (event : ControlEvent) :
      Act.Keeps Serving (TbdController.callSession platform (.push event)) := by
    intro controller
    cases current : controller.session with
    | none =>
        simp only [TbdController.callSession, current]
        exact .still rfl rfl rfl
    | some session =>
        simp only [TbdController.callSession, current]
        refine ⟨rfl, by simp [current], rfl, rfl, fun number linked _ same serves => ?_⟩
        obtain rfl : session = (number, linked) := by simpa [current] using same
        exact ⟨_, rfl, serves.push platform event⟩
  cases input with
  | updateAuthorizationServices services certInstallService =>
      refine .bind .trans (setup _) fun _ => .ite (fun _ => ?_) fun _ => setup _
      exact fun _ => .still rfl rfl rfl
  | updateDcLimits | updateEnergyModes | updateSupportedVasServices | updateAcLimits =>
      exact .bind .trans (setup _) fun _ => push _
  | updatePowersupplyLimits limits => exact setup _
  | sendControlEvent event => exact push event
  | _ => exact fun _ => .still rfl rfl rfl

theorem Attended.serving {polled : PolledController} (attended : polled.Attended) {controller : TbdController}
    {log : List ControllerOutput} (serving : Serving polled.controller controller log)
    (sound : controller.Sound) :
    Attended { polled with controller } := by
  cases current : polled.controller.session with
  | none =>
      have free := serving.free current
      refine ⟨sound, fun _ => attended.free current, ?_, by simp [free]⟩
      rw [serving.count]
      exact attended.owners
  | some session =>
      obtain ⟨number, linked⟩ := session
      obtain ⟨connection, connected, serves, waits⟩ := attended.attended number linked current
      obtain ⟨linked', current', serves'⟩ := serving.serves number linked connection current serves
      refine .of_current current' connected sound ?_ serves' waits
      rw [serving.count]
      exact attended.owners

theorem resetFinished_new (new : NewSession) (controller : TbdController) {number : Nat}
    {linked : LinkedSession}
    (next : (TbdController.resetFinished new controller).state.session = some (number, linked)) :
    controller.session = some (number, linked) ∨
      ∃ config pauseCtx vehicle id now, linked = .new config pauseCtx vehicle id now := by
  cases current : controller.session with
  | none => simp [TbdController.resetFinished, current] at next
  | some session =>
      by_cases finished : session.2.session.isFinished = true
      · by_cases sdp : controller.config.enableSdpServer = true
        · simp [TbdController.resetFinished, current, finished, sdp] at next
        · simp only [TbdController.resetFinished, current, finished, sdp, if_true] at next
          rcases next with ⟨⟩
          exact .inr ⟨_, _, _, _, _, rfl⟩
      · simp only [TbdController.resetFinished, current, finished] at next
        exact .inl (current ▸ next)

theorem iterate_new (clock : TimePoint) (env : PollEnv) (new : NewSession) {controller : TbdController}
    {number : Nat} {linked : LinkedSession} (current : controller.session = some (number, linked))
    (caught : (LinkedSession.act platform (.poll env) linked).result = .ok () ∨
      (LinkedSession.act platform (.poll env) linked).result = .error .runtimeError) :
    (TbdController.iterate platform clock env new controller).result = .ok () ∧
      ∀ other linked', (TbdController.iterate platform clock env new controller).state.session =
        some (other, linked') → other = number ∨
          ∃ config pauseCtx vehicle id now, linked' = .new config pauseCtx vehicle id now := by
  have resets {controller : TbdController} {linked' : LinkedSession}
      (same : controller.session = some (number, linked')) :
      (TbdController.resetFinished new controller).result = .ok () ∧
        ∀ other next, (TbdController.resetFinished new controller).state.session = some (other, next) →
          other = number ∨ ∃ config pauseCtx vehicle id now, next = .new config pauseCtx vehicle id now := by
    refine ⟨?_, fun other next after => ?_⟩
    · simp only [TbdController.resetFinished, same]
      split <;> rfl
    · refine (resetFinished_new new controller after).imp_left fun before => ?_
      exact (Prod.mk.inj (Option.some.inj (before.symm.trans same))).1
  simp only [TbdController.iterate, Act.bind_apply, Act.modify_apply, Act.tryCatch,
    TbdController.pollSession, current,
    List.nil_append]
  generalize LinkedSession.act platform (.poll env) linked = outcome at caught ⊢
  rcases caught with returned | threw
  · simp only [returned]
    exact resets rfl
  · simp only [threw, TbdController.callSession, (TbdController.close_finished platform _).1]
    exact resets rfl

theorem connect_looping {polled : PolledController} {secure : Bool} {socket : Option Fd}
    (looping : (polled.connect secure socket).controller.looping = true) :
      polled.controller.looping = true := by
  unfold connect at looping
  split at looping
  · exact looping
  · cases looping
  · exact looping

theorem attended_iterate (clock : TimePoint) (env : PollEnv) (new : NewSession) (socket : Option Fd)
    (real : ∀ read ∈ env.reads, FromConnection read) {polled : PolledController} (attended : polled.Attended)
    (looping : polled.controller.looping = true)
    (goesOn : (iterate platform clock env new socket polled).state.controller.looping = true) :
    (iterate platform clock env new socket polled).state.Attended := by
  obtain ⟨follows, followed, -, connects⟩ := iterate_connects platform clock env new socket polled
  have goesOn' : follows.controller.looping = true := by
    rcases connects with same | ⟨same, -⟩
    · rw [same] at goesOn
      exact connect_looping goesOn
    · rw [← same]
      exact goesOn
  -- Where the session stays, the connection stays.
  have stays (attended' : follows.Attended) :
      (iterate platform clock env new socket polled).state.Attended := by
    rcases connects with same | ⟨same, -⟩
    · rw [same, attended'.connect]
      exact attended'
    · rw [same]
      exact attended'
  rw [TbdController.act_iterate, if_pos looping] at followed connects
  cases current : polled.controller.session with
  | none =>
      have idles : TbdController.iterate platform clock env new polled.controller =
          ⟨.ok (), { polled.controller with
            nextEvent := offsetTimePointByMs clock TbdController.pollManagerTimeoutMs }, []⟩ := by
        simp [TbdController.iterate, Act.bind_apply, Act.tryCatch, TbdController.pollSession,
          TbdController.resetFinished, current]
      rw [idles] at followed
      refine stays ?_
      rw [followed]
      exact attended.serving (.still rfl rfl rfl) ⟨attended.sound.numbered, attended.sound.linked,
        attended.sound.running⟩
  | some session =>
      obtain ⟨number, linked⟩ := session
      obtain ⟨connection, connected, serves, waits⟩ := attended.attended number linked current
      have bounded := attended.sound.numbered number linked current
      have idle := (attended.sound.linked number linked current).idle
      obtain ⟨unclosed, -⟩ := TbdController.poll_hushed platform env current attended.sound looping
      have round := TbdController.iterate_round platform clock env new current
      have sound := (@TbdController.iterate_undisturbed platform env _ clock new looping attended.sound).1
      have renews := iterate_new platform clock env new current
      generalize (TbdController.iterate platform clock env new polled.controller).state = next at *
      generalize (TbdController.iterate platform clock env new polled.controller).log = log at *
      generalize (TbdController.iterate platform clock env new polled.controller).result = result at *
      -- The successor of a session that is gone gets a connection of its own.
      have renewed (replaced : polled.controller.Replaced next) (controller : follows.controller = next)
          (gone : follows.connection = none)
          (fewer : ∀ fd callback, follows.descriptors.registeredFds fd = some callback →
            polled.descriptors.registeredFds fd = some callback)
          (caught : (LinkedSession.act platform (.poll env) linked).result = .ok () ∨
            (LinkedSession.act platform (.poll env) linked).result = .error .runtimeError) :
          (iterate platform clock env new socket polled).state.Attended := by
        obtain ⟨returns, fresh⟩ := renews caught
        have vacant : follows.Vacant := by
          refine ⟨controller ▸ replaced.sound, gone, ?_, ?_⟩
          · intro fd callback owner registered owned
            have earlier := attended.owners fd callback owner (fewer fd callback registered) owned
            have later := replaced.later (next.count + 1) (.inl (Nat.lt_succ_self _))
            rw [controller]
            omega
          · intro other linked' same
            have later := replaced.later other (.inr ⟨linked', controller ▸ same⟩)
            refine ⟨fun fd callback registered owned => ?_, ?_⟩
            · have earlier := attended.owners fd callback other (fewer fd callback registered) owned
              omega
            · exact (fresh other linked' (controller ▸ same)).resolve_left (by omega)
        rcases connects with same | ⟨-, failed⟩
        · rw [same] at goesOn ⊢
          exact vacant.connect false _ goesOn
        · exact absurd returns failed
      cases round with
      | goesOn returned unfinished session count =>
          rw [List.foldl_append, foldl_follow_quiet _ (Calls.quiet_session unclosed)] at followed
          simp only [List.foldl_cons, List.foldl_nil, follow_polled] at followed
          refine stays ?_
          rw [followed]
          refine .of_current session connected sound ?_
            (serves.poll platform real idle unclosed returned) waits
          rw [count]
          exact attended.owners
      | aborted threw other session count stopped =>
          rw [List.foldl_append, foldl_follow_quiet _ (Calls.quiet_session unclosed)] at followed
          rw [followed] at goesOn'
          exact absurd (goesOn'.symm.trans stopped) (by simp)
      | finished returned finished replaced =>
          rw [@follow_finished { polled with controller := next } _ _ _ _ _ _ connected unclosed] at followed
          refine renewed replaced ?_ ?_ (fun fd callback registered => ?_) (.inl returned)
          · rw [followed]
          · rw [followed]
          · rwa [followed, IoConnection.destroy_registeredFds] at registered
      | caught threw replaced =>
          obtain ⟨rest, closing, unclosed'⟩ :=
            close_log platform (LinkedSession.act platform (.poll env) linked).state
          rw [closing, @follow_caught { polled with controller := next } _ _ _ _ _ _ _ connected
            unclosed unclosed']
            at followed
          refine renewed replaced ?_ ?_ (fun fd callback registered => ?_) (.inr threw)
          · rw [followed]
          · rw [followed]
          · rw [followed, IoConnection.destroy_registeredFds] at registered
            exact IoConnection.close_registered registered

theorem act_ready (fd : Fd) (found : Readiness) (polled : PolledController) :
    act platform (.ready fd found) polled =
      if polled.controller.looping then ready platform fd found polled else ⟨.ok (), polled, []⟩ := by
  simp only [act, Act.get_bind]
  split <;> rfl

inductive Telling : ControllerInput → Prop
  | accept : Telling .accept
  | opened : Telling .opened
  | data : Telling .data

structure CallbackRule (R : PolledController → PolledController → List PolledOutput → Prop) : Prop where
  trans : ∀ {s t u l l'}, R s t l → R t u l' → R s u (l ++ l')
  still : ∀ {s t : PolledController}, t.controller.config = s.controller.config →
    t.controller.count = s.controller.count → R s t []
  dangling : ∀ owner s, R s s [.dangling owner]
  tells : ∀ {input}, Telling input → Act.Keeps R (lift (TbdController.act platform input))

variable {platform} in
theorem CallbackRule.ready {R : PolledController → PolledController → List PolledOutput → Prop}
    (rule : CallbackRule platform R) (fd : Fd) (found : Readiness) {polled : PolledController}
    (other : polled.descriptors.registeredFds fd ≠ some .sdpServer) :
    R polled (act platform (.ready fd found) polled).state (act platform (.ready fd found) polled).log := by
  have throws : Act.Keeps R throws := fun _ => rule.still rfl rfl
  have none : Act.Keeps R (Pure.pure () : PolledAct Unit) := fun _ => rule.still rfl rfl
  have get : Act.Keeps R (Act.get : PolledAct PolledController) := fun _ => rule.still rfl rfl
  have calls (owner : Nat) (handler : IoConnection → PolledAct Unit)
      (handles : ∀ connection, Act.Keeps R (handler connection)) : Act.Keeps R (callBack owner handler) := by
    have dangling : Act.Keeps R (Act.emit (.dangling owner) : PolledAct Unit) := rule.dangling owner
    refine .bind rule.trans get fun polled => ?_
    split
    · exact .ite (fun _ => handles _) fun _ => dangling
    · exact dangling
  rw [act_ready]
  split
  · simp only [PolledController.ready, Act.get_bind]
    cases registered : polled.descriptors.registeredFds fd with
    | none => exact none polled
    | some callback =>
        cases callback with
        | sdpServer => exact absurd registered other
        | handleConnect owner =>
            refine calls owner _ (fun connection => .bind rule.trans get fun polled => ?_) polled
            cases found.accepted.filter polled.descriptors.available with
            | none => exact throws
            | some acceptFd =>
                refine .bind rule.trans (fun _ => rule.still rfl rfl) fun _ => ?_
                refine .bind rule.trans (rule.tells .accept) fun _ => ?_
                split
                · exact rule.tells .opened
                · exact none
        | handleData owner =>
            refine calls owner _ (fun connection => ?_) polled
            cases connection with
            | plain connection => exact rule.tells .data
            | ssl connection =>
                refine .ite (fun _ => rule.tells .data) fun _ => ?_
                cases found.handshake with
                | wantsMore => exact none
                | failed => exact throws
                | complete => exact .bind rule.trans (fun _ => rule.still rfl rfl) fun _ => rule.tells .opened
  · exact none polled

end PolledController

def ControllerOutput.isWrite : ControllerOutput → Bool
  | .session _ out => out.isWrite
  | _ => false

def PolledOutput.isWrite : PolledOutput → Bool
  | .controller out => out.isWrite
  | .dangling _ => false

namespace PolledController

def Unwritten (_ _ : PolledController) (log : List PolledOutput) : Prop := ∀ out ∈ log, out.isWrite = false

namespace Unwritten

variable (platform : Platform)

theorem trans {s t u : PolledController} {l l' : List PolledOutput} (first : Unwritten s t l)
    (next : Unwritten t u l') : Unwritten s u (l ++ l') := by
  intro out member
  exact (List.mem_append.mp member).elim (first out) (next out)

theorem silent (s t : PolledController) : Unwritten s t [] := fun _ member => absurd member List.not_mem_nil

theorem callSession (input : SessionInput) (unpolled : ∀ env, input ≠ .poll env) :
    Act.Keeps (TbdController.Lacks (·.isWrite = true)) (TbdController.callSession platform input) := by
  intro controller
  unfold TbdController.callSession
  cases controller.session with
  | none => exact TbdController.Lacks.silent _ _
  | some session =>
      intro out member
      obtain ⟨inner, there, rfl⟩ := List.mem_map.mp member
      cases input with
      | poll env => exact absurd rfl (unpolled env)
      | push event => simp [LinkedSession.act, LinkedSession.call, IsoSession.pushControlEvent] at there
      | close =>
          simp only [LinkedSession.act, LinkedSession.call, IsoSession.close, IsoSession.closeConnection,
            Act.bind_apply, Act.emit_apply, Act.modify_apply, IsoSession.dispatch, List.cons_append,
              List.nil_append,
            List.mem_cons] at there
          rcases there with rfl | rfl | there
          · simp [ControllerOutput.isWrite, SessionOutput.isWrite]
          · simp [ControllerOutput.isWrite, SessionOutput.isWrite]
          · simp only [List.not_mem_nil, or_false] at there
            subst there
            simp [ControllerOutput.isWrite, SessionOutput.isWrite]
      | accept | data =>
          simp only [LinkedSession.act, LinkedSession.report] at there
          split at there <;> simp [IsoSession.handleConnectionEvent] at there
      | opened =>
          simp only [LinkedSession.act, LinkedSession.report] at there
          split at there
          · cases hash : session.2.session.vehicle <;>
              simp [IsoSession.handleConnectionEvent, Act.bind_apply, hash, IsoSession.dispatch] at there
            simp [there, ControllerOutput.isWrite, SessionOutput.isWrite]
          · simp at there

theorem lift {m : ControllerAct Unit} (lacks : Act.Keeps (TbdController.Lacks (·.isWrite = true)) m) :
    Act.Keeps Unwritten (PolledController.lift m) := by
  intro polled out member
  obtain ⟨inner, there, rfl⟩ := List.mem_map.mp member
  simpa [PolledOutput.isWrite] using lacks polled.controller inner there

theorem act (input : PolledInput) (outside : ∀ clock env new socket, input ≠ .iterate clock env new socket) :
    Act.Keeps Unwritten (PolledController.act platform input) := by
  have rule : TbdController.CallRule platform (TbdController.Lacks (·.isWrite = true)) :=
    ⟨.trans, fun _ _ _ _ => .silent _ _, fun _ _ _ => .silent _ _, fun input unpolled _ =>
      callSession platform input unpolled⟩
  have callbacks : CallbackRule platform Unwritten :=
    { trans := .trans
      still := fun _ _ => silent _ _
      dangling := fun owner _ => by simp [Unwritten, PolledOutput.isWrite]
      tells := fun told => lift (rule.act _ (by cases told <;> rfl)) }
  intro polled
  cases input with
  | iterate clock env new socket => exact absurd rfl (outside clock env new socket)
  | outside input => exact lift (rule.update input) polled
  | wait clock throws =>
      refine lift (fun controller => ?_) polled
      rw [TbdController.act_wait]
      split
      · cases throws <;> simp [TbdController.wait, Act.bind_apply, TbdController.Lacks,
          ControllerOutput.isWrite]
      · exact TbdController.Lacks.silent _ _
  | ready fd found =>
      by_cases sdp : polled.descriptors.registeredFds fd = some .sdpServer
      · rw [act_ready]
        split
        · simp only [ready, Act.get_bind, sdp, handleSdpServerInput]
          have lifted := lift (rule.act (.sdp found.request
            (found.socket.filter polled.descriptors.available).isSome found.new) rfl) polled
          exact Act.relates_bind .trans lifted fun _ => silent _ _
        · exact silent _ _
      · exact callbacks.ready fd found sdp

end Unwritten

variable (platform : Platform)

theorem iterate_writes (clock : TimePoint) (env : PollEnv) (new : NewSession) (socket : Option Fd)
    {polled : PolledController} (attended : polled.Attended) (looping : polled.controller.looping = true)
    {out : PolledOutput} (logged : out ∈ (iterate platform clock env new socket polled).log)
    (writes : out.isWrite = true) :
      ∃ connection, polled.connection = some connection ∧ connection.isOpen = true := by
  obtain ⟨-, -, log, -⟩ := iterate_connects platform clock env new socket polled
  rw [log, TbdController.act_iterate, if_pos looping] at logged
  obtain ⟨inner, there, rfl⟩ := List.mem_map.mp logged
  replace writes : inner.isWrite = true := writes
  cases current : polled.controller.session with
  | none => simp [TbdController.iterate, Act.bind_apply, Act.tryCatch, TbdController.pollSession,
      TbdController.resetFinished, current] at there
  | some session =>
      obtain ⟨number, linked⟩ := session
      obtain ⟨connection, connected, serves, -⟩ := attended.attended number linked current
      refine ⟨connection, connected, ?_⟩
      by_contra closed
      have rests := (IsoSession.poll_untouched platform env linked.session
        (serves.early (by simpa using closed))).2
      have polls : inner ∉ (LinkedSession.act platform (.poll env) linked).log.map (.session number) := by
        intro member
        obtain ⟨said, spoken, rfl⟩ := List.mem_map.mp member
        exact absurd (writes.symm.trans (rests said spoken)) (by simp)
      have closes : inner ∉ (LinkedSession.act platform .close
          (LinkedSession.act platform (.poll env) linked).state).log.map (.session number) := by
        intro member
        exact Unwritten.callSession platform .close (by simp) { polled.controller with
          session := some (number, (LinkedSession.act platform (.poll env) linked).state) } inner member
            writes
      have round := TbdController.iterate_round platform clock env new current
      generalize (TbdController.iterate platform clock env new polled.controller).log = log at *
      have unpolled (number : Nat) (result : Except Exn Unit) (session : IsoSession) :
          inner ≠ .polled number result session := by
        rintro rfl
        cases writes
      have undestroyed (number : Nat) (session : IsoSession) : inner ≠ .destroyed number session := by
        rintro rfl
        cases writes
      cases round <;>
        simp only [List.mem_append, List.mem_singleton, polls, closes, unpolled, undestroyed,
          or_self] at there

end PolledController

namespace PolledController

variable (platform : Platform)

theorem act_waits (clock : TimePoint) (throws : Bool) (polled : PolledController) :
    (act platform (.wait clock throws) polled).state =
      { polled with controller :=
        (TbdController.act platform (.wait clock throws) polled.controller).state } := by
  have calls := Calls.wait platform clock throws polled.controller
  have lifts : act platform (.wait clock throws) polled =
    lift (TbdController.act platform (.wait clock throws)) polled := rfl
  rw [lifts, lift_quiet calls.quiet]

theorem act_outside (input : ControllerInput) (polled : PolledController) :
    (act platform (.outside input) polled).state =
      { polled with controller := (TbdController.update platform input polled.controller).state } := by
  have calls := Calls.update platform input polled.controller
  have lifts : act platform (.outside input) polled = lift (TbdController.update platform input) polled := rfl
  rw [lifts, lift_quiet calls.quiet]

theorem act_looping (input : PolledInput) {polled : PolledController}
    (goesOn : (act platform input polled).state.controller.looping = true) :
    polled.controller.looping = true := by
  by_contra ended
  cases input with
  | ready fd found =>
      rw [act_ready, if_neg ended] at goesOn
      exact ended goesOn
  | wait clock throws =>
      rw [act_waits, TbdController.act_wait, if_neg ended] at goesOn
      exact ended goesOn
  | iterate clock env new socket =>
      have acts : act platform (.iterate clock env new socket) polled =
        iterate platform clock env new socket polled := rfl
      obtain ⟨follows, followed, -, connects⟩ := iterate_connects platform clock env new socket polled
      rw [TbdController.act_iterate, if_neg ended] at followed
      subst followed
      rw [acts] at goesOn
      rcases connects with same | ⟨same, -⟩
      · rw [same] at goesOn
        exact ended (connect_looping goesOn)
      · rw [same] at goesOn
        exact ended goesOn
  | outside input =>
      rw [act_outside] at goesOn
      exact ended ((update_serving platform input polled.controller).looping ▸ goesOn)

theorem attended_step (input : PolledInput)
    (real : ∀ clock env new socket, input = .iterate clock env new socket → ∀ read ∈ env.reads,
      FromConnection read)
    {polled : PolledController} (attended : polled.controller.looping = true → polled.Attended)
    (goesOn : (act platform input polled).state.controller.looping = true) :
    (act platform input polled).state.Attended := by
  have looping := act_looping platform input goesOn
  replace attended := attended looping
  cases input with
  | ready fd found =>
      rw [act_ready, if_pos looping] at goesOn ⊢
      exact attended_ready platform fd found attended looping goesOn
  | wait clock throws =>
      have calls := Calls.wait platform clock throws polled.controller
      rw [act_waits, TbdController.act_wait, if_pos looping] at goesOn
      rw [act_waits]
      rw [TbdController.act_wait, if_pos looping] at calls ⊢
      cases throws with
      | true => cases goesOn
      | false => exact attended.serving (.still rfl rfl rfl) (calls.sound attended.sound)
  | iterate clock env new socket =>
      exact attended_iterate platform clock env new socket
        (real clock env new socket rfl) attended looping goesOn
  | outside input =>
      have calls := Calls.update platform input polled.controller
      rw [act_outside]
      exact attended.serving (update_serving platform input polled.controller) (calls.sound attended.sound)

end PolledController

/-- What the source asserts in a step: of the events that a connection reports, and of the calls of `read` and
`write`. -/
structure Asserted (record : PolledStep) : Prop where
  connects : ∀ fd found number linked, record.input = .ready fd found →
    record.before.controller.looping = true →
    record.before.descriptors.registeredFds fd = some (.handleConnect number) →
    record.before.controller.session = some (number, linked) →
      linked.session.connected = false ∧ linked.link = .listening
  hears : ∀ fd found number linked, record.input = .ready fd found → record.before.controller.looping = true →
    record.before.descriptors.registeredFds fd = some (.handleData number) →
    record.before.controller.session = some (number, linked) →
      linked.session.connected = true ∧ ∃ connection, record.before.connection = some connection ∧
        connection.accepted = true ∧ linked.link = connection.link
  reads : ∀ clock env new socket number linked, record.input = .iterate clock env new socket →
    record.before.controller.looping = true → record.before.controller.session = some (number, linked) →
    linked.session.newData = true →
      (linked.session.packet.state = .empty ∨ linked.session.packet.state = .headerRead) ∧
        ∃ connection, record.before.connection = some connection ∧ connection.isOpen = true
  writes : ∀ out ∈ record.outputs, out.isWrite = true →
    ∃ connection, record.before.connection = some connection ∧ connection.isOpen = true

namespace PolledController

variable (platform : Platform)

theorem attended_new (config : TbdConfig) (evseSetup : EvseSetupConfig) (session : NewSession)
    (clock : TimePoint)
    (sdpFd : Fd) (socket : Option Fd)
    (looping : (new config evseSetup session clock sdpFd socket).controller.looping = true) :
    (new config evseSetup session clock sdpFd socket).Attended := by
  have sound := (TbdController.calm_new config evseSetup session clock).sound
  unfold new at looping ⊢
  by_cases sdp : config.enableSdpServer = true
  · have free : (TbdController.new config evseSetup session clock).session = none := by
      simp [TbdController.new, sdp]
    simp only [sdp, if_true]
    refine ⟨sound, fun _ => rfl, fun fd callback owner registered owned => ?_, by simp [free]⟩
    replace registered : (Table.empty.emplace sdpFd .sdpServer) fd = some callback := registered
    rcases Table.emplace_eq_some registered with ⟨-, rfl⟩ | before
    · cases owned
    · cases before
  · simp only [sdp, Bool.false_eq_true, if_false] at looping ⊢
    have vacant : Vacant { controller := TbdController.new config evseSetup session clock } := by
      refine ⟨sound, rfl, fun fd callback owner registered _ => ?_, fun number linked current => ⟨?_, ?_⟩⟩
      · cases registered
      · intro fd callback registered
        cases registered
      · simp only [TbdController.new, sdp] at current
        rcases current with ⟨⟩
        exact ⟨_, _, _, _, _, rfl⟩
    exact vacant.connect false _ looping

theorem asserted_step (input : PolledInput) {polled : PolledController}
    (attended : polled.controller.looping = true → polled.Attended) :
    Asserted (Machine.stepOf (act platform) polled input) where
  connects fd found number linked taken looping registered current := by
    obtain ⟨connection, -, serves, waits⟩ := (attended looping).attended number linked current
    obtain ⟨-, callback⟩ := waits fd _ registered rfl
    have listening : connection.accepted = false := by
      by_contra accepted
      simp [IoConnection.callback, accepted] at callback
    have closed : connection.isOpen = false := by simpa [listening] using mt serves.shaken
    refine ⟨(serves.connected ((attended looping).sound.linked number linked current)).trans listening, ?_⟩
    rw [serves.link]
    simp [IoConnection.link, closed, listening]
  hears fd found number linked taken looping registered current := by
    obtain ⟨connection, connected, serves, waits⟩ := (attended looping).attended number linked current
    obtain ⟨-, callback⟩ := waits fd _ registered rfl
    have accepted : connection.accepted = true := by
      by_contra listening
      simp [IoConnection.callback, listening] at callback
    refine ⟨(serves.connected ((attended looping).sound.linked number linked current)).trans accepted, ?_⟩
    exact ⟨connection, connected, accepted, serves.link⟩
  reads clock env new socket number linked taken looping current newData := by
    obtain ⟨connection, connected, serves, -⟩ := (attended looping).attended number linked current
    refine ⟨Receiver.SdpPacket.Waiting.state serves.waiting, connection, connected, ?_⟩
    by_contra closed
    exact absurd (newData.symm.trans (serves.early (by simpa using closed)).newData) (by simp)
  writes out member writes := by
    rw [Machine.stepOf_outputs] at member
    cases input with
    | iterate clock env new socket =>
        replace member : out ∈ (iterate platform clock env new socket polled).log := member
        by_cases looping : polled.controller.looping = true
        · exact iterate_writes platform clock env new socket (attended looping) looping member writes
        · obtain ⟨-, -, log, -⟩ := iterate_connects platform clock env new socket polled
          rw [log, TbdController.act_iterate, if_neg looping] at member
          cases member
    | _ => exact absurd (writes.symm.trans (Unwritten.act platform _ (by simp) polled out member)) (by simp)

end PolledController

namespace Sample

def hesitating : List PolledInput :=
  [.ready 3 { accepted := some 4 }, .ready 4 {},
    .iterate 0 { reads := [ConnectionPlain.read fun _ => some [1, 0xfe]] } {} none,
    .ready 4 {}, .iterate 1 { reads := [ConnectionPlain.read fun _ => none] } {} none]

end Sample

end LibIso15118
