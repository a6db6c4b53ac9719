import LibIso15118.Session.Run

set_option autoImplicit false

/-!
# The controller

`TbdController` owns at most one session at a time. The application calls it from outside, the event
loop from within `poll_manager.poll`, and `loop` polls and destroys the session.
-/

namespace LibIso15118

open Datatypes Shared

inductive TlsNegotiationStrategy where
  | acceptClientOffer
  | enforceTls
  | enforceNoTls
  deriving DecidableEq

/-- `io::v2gtp::Security` -/
inductive Security where
  | tls
  | noTransportSecurity
  deriving DecidableEq

-- The settings of the TLS connection and the interface are left out.
structure TbdConfig where
  tlsNegotiationStrategy : TlsNegotiationStrategy := .acceptClientOffer
  enableSdpServer : Bool := true

-- `count` numbers the sessions; the source tells them apart by their addresses. `looping` is false once
-- `loop` has returned.
structure TbdController where
  config : TbdConfig
  evseSetup : EvseSetupConfig
  count : Nat := 0
  session : Option (Nat × LinkedSession) := none
  pauseCtx : Option PauseContext := none
  nextEvent : TimePoint := 0
  looping : Bool := true

structure NewSession where
  id : SessionId := Vector.replicate 8 0
  now : TimePoint := 0
  vehicle : Option Sha512Hash := none

inductive ControllerInput where
  /-- the SDP server has input: a request, and whether its connection can be established -/
  | sdp (request : Option Security) (established : Bool) (new : NewSession)
  /-- what `poll_manager.poll` tells the connection -/
  | accept
  | opened
  | data
  | sendControlEvent (event : ControlEvent)
  | updateAuthorizationServices (services : List Authorization) (certInstallService : Bool)
  | updateDcLimits (limits : DcTransferLimits)
  | updatePowersupplyLimits (limits : DcTransferLimits)
  | updateEnergyModes (modes : List ServiceCategory)
  | updateSupportedVasServices (vasServices : List UInt16)
  | updateAcLimits (limits : AcTransferLimits)
  /-- the start of a round of `loop`: the clock, and whether `poll_manager.poll` throws -/
  | wait (clock : TimePoint) (throws : Bool)
  /-- the part of a round of `loop` after `poll_manager.poll` -/
  | iterate (clock : TimePoint) (env : PollEnv) (new : NewSession)

inductive ControllerOutput where
  /-- `poll_manager.poll` -/
  | wait (timeoutMs : Int)
  | session (number : Nat) (out : SessionOutput)
  /-- what `session->poll` returned or threw, and the session it left -/
  | polled (number : Nat) (result : Except Exn Unit) (session : IsoSession)
  /-- `session.reset` -/
  | destroyed (number : Nat) (session : IsoSession)

abbrev ControllerAct := Act TbdController ControllerOutput Exn
abbrev ControllerStep := Step TbdController ControllerInput ControllerOutput

namespace TbdController

def pollManagerTimeoutMs : Nat := 50

/-- `get_timeout_ms_until`: the nanoseconds until then are cut to milliseconds, and these to 32 bits. -/
def getTimeoutMsUntil (clock untilPoint : TimePoint) (maxTimeoutMs : Int) : Int :=
  let timeoutMs := ((untilPoint - clock).tdiv 1000000).bmod (2 ^ 32)
  if timeoutMs < maxTimeoutMs then timeoutMs else maxTimeoutMs

/-- `std::make_unique<Session>`, for a connection that listens. -/
def buildSession (new : NewSession) (controller : TbdController) : TbdController :=
  { controller with
    count := controller.count + 1
    session := some (controller.count + 1,
      .new (.ofSetup controller.evseSetup) controller.pauseCtx new.vehicle new.id new.now) }

def buildPlainSession (new : NewSession) : TbdController → TbdController :=
  buildSession { new with vehicle := none }

def new (config : TbdConfig) (evseSetup : EvseSetupConfig) (session : NewSession) (clock : TimePoint) :
    TbdController :=
  let controller : TbdController := { config, evseSetup, nextEvent := clock }
  if config.enableSdpServer then controller else controller.buildPlainSession session

def negotiated (strategy : TlsNegotiationStrategy) (request : Security) : Security :=
  match strategy with
  | .acceptClientOffer => request
  | .enforceTls => .tls
  | .enforceNoTls => .noTransportSecurity

variable (platform : Platform)

def handleSdpServerInput (request : Option Security) (established : Bool) (new : NewSession) :
    ControllerAct Unit := do
  let controller ← Act.get
  if controller.session.isSome then return
  match request with
  | none => return
  | some request => do
      if ¬established then return
      if negotiated controller.config.tlsNegotiationStrategy request = .tls then
        Act.modify (buildSession new)
      else Act.modify (buildPlainSession new)

/-- A call of the session. Its context refers to the `pause_ctx` of the controller. -/
def callSession (input : SessionInput) : ControllerAct Unit := fun controller =>
  match controller.session with
  | none => ⟨.ok (), controller, []⟩
  | some (number, linked) =>
      let outcome := LinkedSession.act platform input linked
      ⟨outcome.result,
        { controller with
          session := some (number, outcome.state)
          pauseCtx := outcome.state.session.fsm.ctx.pauseCtx },
        outcome.log.map (.session number)⟩

/-- The round of `loop` when there is a session: `poll`, and what it throws. -/
def pollSession (env : PollEnv) : ControllerAct Unit := fun controller =>
  match controller.session with
  | none => ⟨.ok (), controller, []⟩
  | some (number, linked) =>
      let outcome := LinkedSession.act platform (.poll env) linked
      ⟨outcome.result,
        { controller with
          session := some (number, outcome.state)
          pauseCtx := outcome.state.session.fsm.ctx.pauseCtx
          nextEvent :=
            if outcome.result = .ok () then min controller.nextEvent outcome.state.session.nextSessionEvent
            else controller.nextEvent },
        outcome.log.map (.session number) ++ [.polled number outcome.result outcome.state.session]⟩

/-- `session.reset` of a finished session, and its successor without an SDP server. -/
def resetFinished (new : NewSession) : ControllerAct Unit := fun controller =>
  match controller.session with
  | none => ⟨.ok (), controller, []⟩
  | some (number, linked) =>
      if linked.session.isFinished then
        let rest := { controller with session := none }
        ⟨.ok (), if controller.config.enableSdpServer then rest else rest.buildPlainSession new,
          [.destroyed number linked.session]⟩
      else ⟨.ok (), controller, []⟩

/-- The start of a round of `loop`, which ends when `poll_manager.poll` throws. -/
def wait (clock : TimePoint) (throws : Bool) : ControllerAct Unit := do
  let controller ← Act.get
  Act.emit (.wait (getTimeoutMsUntil clock controller.nextEvent pollManagerTimeoutMs))
  if throws then Act.modify fun controller => { controller with looping := false }

/-- The rest of a round of `loop`. Only a `std::runtime_error` of the session is caught. -/
def iterate (clock : TimePoint) (env : PollEnv) (new : NewSession) : ControllerAct Unit := do
  Act.modify fun controller =>
    { controller with nextEvent := offsetTimePointByMs clock pollManagerTimeoutMs }
  Act.tryCatch (pollSession platform env) fun e =>
    match e with
    | .runtimeError => callSession platform .close
    | e => do
        Act.modify fun controller => { controller with looping := false }
        Act.throw e
  resetFinished new

def setup (f : EvseSetupConfig → EvseSetupConfig) : ControllerAct Unit :=
  Act.modify fun controller => { controller with evseSetup := f controller.evseSetup }

def update : ControllerInput → ControllerAct Unit
  | .updateAuthorizationServices services certInstallService => do
      setup fun setup => { setup with enableCertificateInstallService := certInstallService }
      if services = [] then return
      setup fun setup => { setup with authorizationServices := services }
  | .updateDcLimits limits => do
      setup fun setup => { setup with dcLimits := limits }
      callSession platform (.push (.dcTransferLimits limits))
  | .updatePowersupplyLimits limits => setup fun setup => { setup with powersupplyLimits := limits }
  | .updateEnergyModes modes => do
      setup fun setup => { setup with supportedEnergyServices := modes }
      callSession platform (.push (.energyServices modes))
  | .updateSupportedVasServices vasServices => do
      setup fun setup => { setup with supportedVasServices := vasServices }
      callSession platform (.push (.supportedVass vasServices))
  | .updateAcLimits limits => do
      setup fun setup => { setup with acLimits := limits }
      callSession platform (.push (.acTransferLimits limits))
  | .sendControlEvent event => callSession platform (.push event)
  | _ => return

def act (input : ControllerInput) : ControllerAct Unit := do
  let controller ← Act.get
  match input with
  | .sdp request established new =>
      if controller.looping ∧ controller.config.enableSdpServer then
        handleSdpServerInput request established new
  | .accept => if controller.looping then callSession platform .accept
  | .opened => if controller.looping then callSession platform .opened
  | .data => if controller.looping then callSession platform .data
  | .wait clock throws => if controller.looping then wait clock throws
  | .iterate clock env new => if controller.looping then iterate platform clock env new
  | input => update platform input

theorem act_iterate (clock : TimePoint) (env : PollEnv) (new : NewSession) (controller : TbdController) :
    act platform (.iterate clock env new) controller =
      if controller.looping then iterate platform clock env new controller else ⟨.ok (), controller, []⟩ := by
  cases looping : controller.looping <;> simp [act, Act.bind_apply, looping]

theorem act_wait (clock : TimePoint) (throws : Bool) (controller : TbdController) :
    act platform (.wait clock throws) controller =
      if controller.looping then wait clock throws controller else ⟨.ok (), controller, []⟩ := by
  cases looping : controller.looping <;> simp [act, Act.bind_apply, looping]

def isLoop : ControllerInput → Bool
  | .wait _ _ | .iterate _ _ _ => true
  | _ => false

structure CallRule (R : TbdController → TbdController → List ControllerOutput → Prop) : Prop where
  trans : ∀ {s t u l l'}, R s t l → R t u l' → R s u (l ++ l')
  still : ∀ {s t : TbdController}, t.session = s.session → t.count = s.count → t.looping = s.looping →
    t.nextEvent = s.nextEvent → R s t []
  build : ∀ new s, s.session = none → R s (buildSession new s) []
  call : ∀ input, (∀ env, input ≠ .poll env) → input ≠ .close → Act.Keeps R (callSession platform input)

namespace CallRule

variable {platform} {R : TbdController → TbdController → List ControllerOutput → Prop}
  (rule : CallRule platform R)
include rule

theorem refl (controller : TbdController) : R controller controller [] := rule.still rfl rfl rfl rfl

theorem setup (f : EvseSetupConfig → EvseSetupConfig) : Act.Keeps R (setup f) := fun _ => rule.still rfl rfl rfl rfl

theorem handleSdpServerInput (request : Option Security) (established : Bool) (new : NewSession) :
    Act.Keeps R (handleSdpServerInput request established new) := by
  intro controller
  rw [TbdController.handleSdpServerInput, Act.get_bind]
  by_cases busy : controller.session.isSome = true
  · rw [if_pos busy]
    exact rule.refl controller
  have free : controller.session = none := by simpa using busy
  rw [if_neg busy]
  cases request with
  | none => exact rule.refl controller
  | some request =>
      cases established with
      | false => exact rule.refl controller
      | true =>
          simp only [not_true_eq_false, if_false]
          split
          · exact rule.build new controller free
          · exact rule.build _ controller free

theorem update (input : ControllerInput) : Act.Keeps R (update platform input) := by
  cases input with
  | updateAuthorizationServices services certInstallService =>
      exact .bind rule.trans (rule.setup _) fun _ =>
        .ite (fun _ => .pure rule.refl ()) fun _ => rule.setup _
  | updateDcLimits | updateEnergyModes | updateSupportedVasServices | updateAcLimits =>
      exact .bind rule.trans (rule.setup _) fun _ => rule.call _ (by simp) (by simp)
  | updatePowersupplyLimits limits => exact rule.setup _
  | sendControlEvent event => exact rule.call _ (by simp) (by simp)
  | _ => exact .pure rule.refl ()

theorem act (input : ControllerInput) (outside : isLoop input = false) : Act.Keeps R (act platform input) := by
  refine .bind rule.trans (.get rule.refl) fun controller => ?_
  cases input with
  | wait | iterate => cases outside
  | sdp request established new =>
      exact .ite (fun _ => rule.handleSdpServerInput request established new) fun _ => .pure rule.refl ()
  | accept | opened | data =>
      exact .ite (fun _ => rule.call _ (by simp) (by simp)) fun _ => .pure rule.refl ()
  | _ => exact rule.update _

end CallRule

def Lacks (kind : ControllerOutput → Prop) (_ _ : TbdController) (log : List ControllerOutput) : Prop :=
  ∀ out ∈ log, ¬kind out

namespace Lacks

variable {kind : ControllerOutput → Prop} {s t u : TbdController} {l l' : List ControllerOutput}

theorem trans (first : Lacks kind s t l) (next : Lacks kind t u l') : Lacks kind s u (l ++ l') := by
  intro out member
  exact (List.mem_append.mp member).elim (first out) (next out)

theorem silent (s t : TbdController) : Lacks kind s t [] := fun _ member => absurd member List.not_mem_nil

variable (platform : Platform) (sessions : ∀ number out, ¬kind (.session number out))
include sessions

theorem callSession (input : SessionInput) : Act.Keeps (Lacks kind) (callSession platform input) := by
  intro controller
  rw [TbdController.callSession]
  split
  · exact .silent _ _
  · intro out member
    obtain ⟨_, _, rfl⟩ := List.mem_map.mp member
    exact sessions _ _

theorem rule : CallRule platform (Lacks kind) :=
  ⟨.trans, fun _ _ _ _ => .silent _ _, fun _ _ _ => .silent _ _, fun input _ _ =>
    callSession platform sessions input⟩

end Lacks

end TbdController

end LibIso15118
