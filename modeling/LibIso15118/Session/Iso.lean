import LibIso15118.Session.Dispatch
import LibIso15118.Io.SdpPacket

set_option autoImplicit false

/-!
# The session driver

`Session` owns the connection, the context and the state machine; `poll` advances all of them. The
context and the machine change only in steps of the machine, and each of them is logged.
-/

namespace LibIso15118

open Datatypes Shared

def sessionIdleTimeoutMs : Nat := 5000

def delayedCloseMs : Nat := 5000

-- `vehicle` is what `get_vehicle_cert_hash` of the connection tells once it is open. `fsm_needs_call` of
-- `SessionState` is never used.
structure IsoSession where
  fsm : Fsm
  vehicle : Option Sha512Hash := none
  connected : Bool := false
  newData : Bool := false
  packet : SdpPacket := {}
  controlEventQueue : List ControlEvent := []
  delayedCloseAt : Option TimePoint := none
  nextSessionEvent : TimePoint := 0

inductive SessionOutput where
  /-- a step of the machine and its context -/
  | step (record : FsmStep)
  /-- `connection->write` of a header and an encoded response -/
  | write (header : List UInt8) (res : Response)
  /-- `connection->close` -/
  | close
  /-- a call that `Session` itself passes to the application -/
  | feedback (call : Feedback)

/-- What one call of `poll` reads from its surroundings: the clock at its several readings, what the
calls of `read` return, and what each call of `feed` reads. -/
structure PollEnv where
  now : TimePoint := 0
  reads : List (Nat → Except Exn ReadResult) := []
  control : Nat → Env := fun _ => {}
  clock : TimeoutType → TimePoint := fun _ => 0
  timeout : TimeoutType → Env := fun _ => {}
  message : Env := {}
  writeFails : Bool := false
  written : TimePoint := 0

abbrev SessionAct := Act IsoSession SessionOutput Exn

namespace IsoSession

/-- The constructor of `Session`. -/
def new (config : SessionConfig) (pauseCtx : Option PauseContext) (vehicle : Option Sha512Hash)
    (id : SessionId) (now : TimePoint) : IsoSession :=
  { fsm := .new config pauseCtx id
    vehicle
    nextSessionEvent := offsetTimePointByMs now sessionIdleTimeoutMs }

def isFinished (session : IsoSession) : Bool :=
  session.fsm.ctx.sessionStopped || session.fsm.ctx.sessionPaused

variable (platform : Platform)

def dispatch (input : Input) : SessionAct Unit := fun session =>
  let outcome := Fsm.step platform input session.fsm
  ⟨outcome.result, { session with fsm := outcome.state },
    [.step ⟨session.fsm, input, outcome.log, outcome.state⟩]⟩

/-- `push_control_event` -/
def pushControlEvent (event : ControlEvent) : SessionAct Unit :=
  Act.modify fun session => { session with controlEventQueue := session.controlEventQueue ++ [event] }

/-- `connection->close`, whose callback is `ConnectionEvent::CLOSED`. -/
def closeConnection : SessionAct Unit := do
  Act.emit .close
  Act.modify fun session => { session with connected := false }

/-- A connection whose calls of `read` return these results one after the other. -/
def scripted : Read (List (Nat → Except Exn ReadResult))
  | _, [] => (.ok {}, [])
  | size, read :: reads => (read size, reads)

/-- The first part of `poll`: new data is read into the packet. -/
def receive (env : PollEnv) : SessionAct Unit := fun session =>
  if session.newData then
    let outcome := readSingleSdpPacket scripted ⟨env.reads, session.packet⟩
    match outcome.result with
    | .error e => ⟨.error e, { session with packet := outcome.state.packet }, []⟩
    | .ok wouldBlock =>
        ⟨.ok (), { session with packet := outcome.state.packet, newData := !wouldBlock }, []⟩
  else ⟨.ok (), session, []⟩

def sendControlEvents (env : Nat → Env) : Nat → List ControlEvent → SessionAct Unit
  | _, [] => return
  | index, event :: rest => do
      Act.modify fun session => { session with controlEventQueue := rest }
      dispatch platform (.control (env index) event)
      sendControlEvents env (index + 1) rest

/-- The loop over the timers that `check` has found; SEQUENCE breaks it. -/
def handleTimeouts (env : TimeoutType → Env) : List TimeoutType → SessionAct Unit
  | [] => return
  | .sequence :: _ => dispatch platform .sequenceTimeout
  | type :: rest => do
      dispatch platform (.timeout (env type) type)
      handleTimeouts env rest

def checkTimeouts (env : PollEnv) : SessionAct Unit := do
  let session ← Act.get
  handleTimeouts platform env.timeout ((session.fsm.ctx.timeouts.check env.clock).getD [])

/-- A complete packet is decoded and fed. `set_request` comes before the reset of the packet, and it
throws when the exchange still holds a request. -/
def handlePacket (env : PollEnv) : SessionAct Unit := do
  let session ← Act.get
  if session.packet.isComplete then
    match platform.decode session.packet.getPayloadType session.packet.getPayload with
    | .error e => Act.throw e
    | .ok variant => do
        if session.fsm.ctx.request.isNone then
          Act.modify fun session => { session with packet := {} }
        dispatch platform (.message env.message variant)

def sendResponse (env : PollEnv) : SessionAct Unit := do
  let session ← Act.get
  dispatch platform .takeResponse
  match session.fsm.ctx.pendingResponse with
  | none => return
  | some (res, size) => do
      if env.writeFails then Act.throw .runtimeError
      else do
        Act.emit (.write (setupResponseHeader res.payloadType size) res)
        dispatch platform (.responseWritten env.written)
        Act.emit (.feedback (.v2gMessage res.type))

/-- `next_session_event` -/
def wakeUp (timePoint : TimePoint) : SessionAct Unit :=
  Act.modify fun session => { session with nextSessionEvent := timePoint }

/-- The last part of `poll`: the delayed close. -/
def closeWhenDue (now : TimePoint) : SessionAct Unit := do
  let session ← Act.get
  if session.isFinished then do
    let closeAt := session.delayedCloseAt.getD (offsetTimePointByMs now delayedCloseMs)
    Act.modify fun session => { session with delayedCloseAt := some closeAt }
    if closeAt ≤ now then do
      closeConnection
      Act.modify fun session => { session with delayedCloseAt := none }
      Act.emit (.feedback (.signal
        (if session.fsm.ctx.sessionPaused then .dlinkPause else .dlinkTerminate)))
      wakeUp (offsetTimePointByMs now sessionIdleTimeoutMs)
    else wakeUp closeAt
  else wakeUp (offsetTimePointByMs now sessionIdleTimeoutMs)

def poll (env : PollEnv) : SessionAct Unit := do
  let session ← Act.get
  if session.connected then do
    receive env
    sendControlEvents platform env.control 0 session.controlEventQueue
    checkTimeouts platform env
    handlePacket platform env
    sendResponse platform env
    closeWhenDue env.now
  else wakeUp (offsetTimePointByMs env.now sessionIdleTimeoutMs)

end IsoSession

inductive ConnectionEvent where
  | accepted
  | opened
  | newData
  | closed

namespace IsoSession

variable (platform : Platform)

def handleConnectionEvent : ConnectionEvent → SessionAct Unit
  | .accepted => Act.modify fun session => { session with connected := true }
  | .newData => Act.modify fun session => { session with newData := true }
  | .opened => do
      let session ← Act.get
      match session.vehicle with
      | some hash => dispatch platform (.certHash hash)
      | none => return
  | .closed => Act.modify fun session => { session with connected := false }

def close : SessionAct Unit := do
  closeConnection
  Act.emit (.feedback (.signal .dlinkTerminate))
  dispatch platform .close

end IsoSession

end LibIso15118
