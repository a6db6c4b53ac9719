import LibIso15118.Controller.Assertions
import LibIso15118.Io.SdpServer

set_option autoImplicit false

namespace LibIso15118

open Datatypes Shared

structure Ipv6EndPoint where
  port : UInt16
  address : Vector UInt8 16

def connectionPort : UInt16 := 50000

namespace Security

/-- The value of `v2gtp::Security` on the wire. -/
def byte : Security → UInt8
  | .tls => 0x00
  | .noTransportSecurity => 0x10

def ofByte (byte : UInt8) : Security := if byte = Security.tls.byte then .tls else .noTransportSecurity

end Security

def IoConnection.secure : IoConnection → Bool
  | .plain _ => false
  | .ssl _ => true

namespace SdpServer

variable {Address : Type}

/-- The packet that `send_response` sends. `writeHeader` stands for `V2GTP20_WriteHeader` with the payload id of
a response. -/
def sendResponse (writeHeader : Nat → Header) (request : PeerRequest Address) (endPoint : Ipv6EndPoint) :
    List UInt8 :=
  (writeHeader 20).toList ++ (endPoint.address.toList ++ toBigEndian 2 endPoint.port.toNat ++
    [request.security, request.transportProtocol])

end SdpServer

/-- What `poll_manager.poll` finds: for the SDP server a datagram and the address of the interface, for a
connection what its callback finds. -/
structure SdpArrival (Address : Type) where
  datagram : SdpServer.Datagram Address
  address : Vector UInt8 16
  found : Readiness

structure Discovery where
  polled : PolledController
  udpBuffer : SdpServer.UdpBuffer

inductive DiscoveryInput (Address : Type) where
  | ready (fd : Fd) (arrival : SdpArrival Address)
  | wait (clock : TimePoint) (throws : Bool)
  | iterate (clock : TimePoint) (env : PollEnv) (new : NewSession) (socket : Option Fd)
  | outside (input : ControllerInput)

inductive DiscoveryOutput (Address : Type) where
  | polled (out : PolledOutput)
  /-- `sendto`, to the address of the peer -/
  | response (address : Address) (packet : List UInt8)

def DiscoveryOutput.response? {Address : Type} : DiscoveryOutput Address → Option (Address × List UInt8)
  | .polled _ => none
  | .response address packet => some (address, packet)

abbrev DiscoveryAct (Address : Type) := Act Discovery (DiscoveryOutput Address) Exn
abbrev DiscoveryStep (Address : Type) := Step Discovery (DiscoveryInput Address) (DiscoveryOutput Address)

def discoveryResponses {Address : Type} (steps : List (DiscoveryStep Address)) :
    List (Address × List UInt8) :=
  steps.flatMap fun record => record.outputs.filterMap (·.response?)

namespace Discovery

section Server

variable {Address : Type} (platform : Platform) (readHeader : SdpServer.Header → Bool)
  (writeHeader : Nat → SdpServer.Header)

def lift (m : PolledAct Unit) : DiscoveryAct Address Unit := fun discovery =>
  let outcome := m discovery.polled
  ⟨outcome.result, { discovery with polled := outcome.state }, outcome.log.map .polled⟩

/-- The switch over the `tls_negotiation_strategy`. -/
def negotiate (strategy : TlsNegotiationStrategy) (request : SdpServer.PeerRequest Address) :
    SdpServer.PeerRequest Address :=
  match strategy with
  | .acceptClientOffer => request
  | .enforceTls => { request with security := Security.tls.byte }
  | .enforceNoTls => { request with security := Security.noTransportSecurity.byte }

def build (secure : Bool) (new : NewSession) (fd : Fd) (polled : PolledController) : PolledController :=
  PolledController.connect secure (some fd)
    { polled with
      controller :=
        if secure then polled.controller.buildSession new else polled.controller.buildPlainSession new }

def handleSdpServerInput (arrival : SdpArrival Address) : DiscoveryAct Address Unit := do
  let discovery ← Act.get
  let (request, udpBuffer) := SdpServer.getPeerRequest readHeader discovery.udpBuffer arrival.datagram
  Act.modify fun discovery => { discovery with udpBuffer }
  if discovery.polled.controller.session.isSome then return
  match request with
  | none => return
  | some request => do
      let request := negotiate discovery.polled.controller.config.tlsNegotiationStrategy request
      let secure := request.security = Security.tls.byte
      -- the constructor of the connection throws without a socket
      match arrival.found.socket.filter discovery.polled.descriptors.available with
      | none => return
      | some fd => do
          Act.modify fun discovery =>
            { discovery with polled := build secure arrival.found.new fd discovery.polled }
          let endPoint := { port := connectionPort, address := arrival.address }
          Act.emit (.response request.address (SdpServer.sendResponse writeHeader request endPoint))

/-- The callback of the SDP server is the one that is ready. -/
def Hears (discovery : Discovery) (fd : Fd) : Prop :=
  discovery.polled.controller.looping = true ∧ discovery.polled.descriptors.registeredFds fd = some .sdpServer

instance (discovery : Discovery) (fd : Fd) : Decidable (discovery.Hears fd) :=
  inferInstanceAs (Decidable (_ ∧ _))

def act (input : DiscoveryInput Address) : DiscoveryAct Address Unit := do
  let discovery ← Act.get
  match input with
  | .ready fd arrival =>
      if discovery.Hears fd then handleSdpServerInput readHeader writeHeader arrival
      else lift (PolledController.act platform (.ready fd arrival.found))
  | .wait clock throws => lift (PolledController.act platform (.wait clock throws))
  | .iterate clock env new socket => lift (PolledController.act platform (.iterate clock env new socket))
  | .outside input => lift (PolledController.act platform (.outside input))

def abstract (discovery : Discovery) : DiscoveryInput Address → PolledInput
  | .ready fd arrival =>
      if discovery.Hears fd then
        let request := (SdpServer.getPeerRequest readHeader discovery.udpBuffer arrival.datagram).1
        .ready fd { arrival.found with request := request.map fun request => .ofByte request.security }
      else .ready fd arrival.found
  | .wait clock throws => .wait clock throws
  | .iterate clock env new socket => .iterate clock env new socket
  | .outside input => .outside input

end Server

def new (config : TbdConfig) (evseSetup : EvseSetupConfig) (session : NewSession) (clock : TimePoint)
    (sdpFd : Fd) (udpBuffer : SdpServer.UdpBuffer) : Discovery :=
  { polled := .new config evseSetup session clock sdpFd none, udpBuffer }

section Steps

variable {Address : Type} (platform : Platform) {readHeader : SdpServer.Header → Bool}
  {writeHeader : Nat → SdpServer.Header}

theorem negotiate_secure (strategy : TlsNegotiationStrategy) (request : SdpServer.PeerRequest Address) :
    (negotiate strategy request).security = Security.tls.byte ↔
      TbdController.negotiated strategy (.ofByte request.security) = .tls := by
  cases strategy with
  | acceptClientOffer =>
      by_cases tls : request.security = Security.tls.byte <;>
        simp [negotiate, TbdController.negotiated, Security.ofByte, tls]
  | enforceTls => simp [negotiate, TbdController.negotiated]
  | enforceNoTls => simp [negotiate, TbdController.negotiated, Security.byte]

inductive Handled (readHeader : SdpServer.Header → Bool) (writeHeader : Nat → SdpServer.Header)
    (arrival : SdpArrival Address) (discovery : Discovery) :
    Outcome Discovery (DiscoveryOutput Address) Exn Unit → Prop
  | ignored
      (unanswerable : discovery.polled.controller.session ≠ none ∨
        (SdpServer.getPeerRequest readHeader discovery.udpBuffer arrival.datagram).1 = none ∨
        arrival.found.socket.filter discovery.polled.descriptors.available = none) :
      Handled readHeader writeHeader arrival discovery
        ⟨.ok (), { discovery with
          udpBuffer := (SdpServer.getPeerRequest readHeader discovery.udpBuffer arrival.datagram).2 }, []⟩
  | answered (request : SdpServer.PeerRequest Address) (fd : Fd)
      (free : discovery.polled.controller.session = none)
      (asked : (SdpServer.getPeerRequest readHeader discovery.udpBuffer arrival.datagram).1 = some request)
      (given : arrival.found.socket.filter discovery.polled.descriptors.available = some fd) :
      Handled readHeader writeHeader arrival discovery
        ⟨.ok (),
          { polled := build ((negotiate discovery.polled.controller.config.tlsNegotiationStrategy
            request).security =
              Security.tls.byte) arrival.found.new fd discovery.polled
            udpBuffer := (SdpServer.getPeerRequest readHeader discovery.udpBuffer arrival.datagram).2 },
          [.response request.address (SdpServer.sendResponse writeHeader
            (negotiate discovery.polled.controller.config.tlsNegotiationStrategy request)
            { port := connectionPort, address := arrival.address })]⟩

theorem negotiate_address (strategy : TlsNegotiationStrategy) (request : SdpServer.PeerRequest Address) :
    (negotiate strategy request).address = request.address := by
  cases strategy <;> rfl

theorem handleSdpServerInput_handled (arrival : SdpArrival Address) (discovery : Discovery) :
    Handled readHeader writeHeader arrival discovery
      (handleSdpServerInput readHeader writeHeader arrival discovery) := by
  have ignores (unanswerable : discovery.polled.controller.session ≠ none ∨
      (SdpServer.getPeerRequest readHeader discovery.udpBuffer arrival.datagram).1 = none ∨
      arrival.found.socket.filter discovery.polled.descriptors.available = none) :
      Handled readHeader writeHeader arrival discovery _ := .ignored unanswerable
  simp only [handleSdpServerInput, Act.bind_apply, Act.get_apply, Act.modify_apply, List.nil_append]
  cases current : discovery.polled.controller.session with
  | some session => exact ignores (.inl (by simp [current]))
  | none =>
      cases asked : (SdpServer.getPeerRequest readHeader discovery.udpBuffer arrival.datagram).1 with
      | none => exact ignores (.inr (.inl asked))
      | some request =>
          cases given : arrival.found.socket.filter discovery.polled.descriptors.available with
          | none => exact ignores (.inr (.inr given))
          | some fd =>
              have answers : Handled readHeader writeHeader arrival discovery _ :=
                .answered request fd current asked given
              simp only [Option.isSome_none, Bool.false_eq_true, if_false, Act.bind_apply, Act.modify_apply,
                Act.emit_apply, List.nil_append, negotiate_address]
              exact answers

theorem sdp_ignored {request : Option Security} {established : Bool} (new : NewSession)
    {controller : TbdController}
    (unanswerable : controller.session ≠ none ∨ request = none ∨ established = false) :
    TbdController.act platform (.sdp request established new) controller = ⟨.ok (), controller, []⟩ := by
  by_cases serving : controller.looping = true ∧ controller.config.enableSdpServer = true
  · cases current : controller.session with
    | some session =>
        simp [TbdController.act, TbdController.handleSdpServerInput, Act.bind_apply, serving, current]
    | none =>
        cases request with
        | none => simp [TbdController.act, TbdController.handleSdpServerInput, Act.bind_apply, serving]
        | some request =>
            have unestablished : established = false := by simpa [current] using unanswerable
            simp [TbdController.act, TbdController.handleSdpServerInput, Act.bind_apply, serving,
              unestablished]
  · simp [TbdController.act, Act.bind_apply, serving]

theorem sdp_answered {request : Security} (new : NewSession) {controller : TbdController}
    (serving : controller.looping = true ∧ controller.config.enableSdpServer = true)
    (free : controller.session = none) :
    TbdController.act platform (.sdp (some request) true new) controller =
      ⟨.ok (), if TbdController.negotiated controller.config.tlsNegotiationStrategy request = .tls then
          controller.buildSession new else controller.buildPlainSession new, []⟩ := by
  by_cases tls : TbdController.negotiated controller.config.tlsNegotiationStrategy request = .tls <;>
    simp [TbdController.act, TbdController.handleSdpServerInput, Act.bind_apply, serving, free, tls]

theorem handleSdpServerInput_abstract (fd : Fd) (arrival : SdpArrival Address) {discovery : Discovery}
    (hears : discovery.Hears fd) (serving : discovery.polled.controller.config.enableSdpServer = true)
    (attended : discovery.polled.Attended) :
    (handleSdpServerInput readHeader writeHeader arrival discovery).state.polled =
      (PolledController.act platform (abstract readHeader discovery (.ready fd arrival))
        discovery.polled).state := by
  -- The bytes of the datagram decide nothing beyond what it offers.
  obtain ⟨looping, registered⟩ := hears
  have handled := @handleSdpServerInput_handled Address readHeader writeHeader arrival discovery
  simp only [abstract, Hears, looping, registered, and_self, if_true, PolledController.act_ready,
    PolledController.ready, Act.get_bind, PolledController.handleSdpServerInput]
  generalize handleSdpServerInput readHeader writeHeader arrival discovery = outcome at handled ⊢
  cases handled with
  | ignored unanswerable =>
      have ignores := @sdp_ignored platform
        ((SdpServer.getPeerRequest readHeader discovery.udpBuffer arrival.datagram).1.map fun request =>
          .ofByte request.security)
        (arrival.found.socket.filter discovery.polled.descriptors.available).isSome arrival.found.new
        discovery.polled.controller ?_
      simp only [Act.bind_apply, PolledController.lift, ignores, List.foldl_nil, Act.modify_apply,
        attended.connect]
      rcases unanswerable with busy | unasked | ungiven
      · exact .inl busy
      · exact .inr (.inl (by rw [unasked, Option.map_none]))
      · exact .inr (.inr (by rw [ungiven, Option.isSome_none]))
  | answered request fd free asked given =>
      have answers := @sdp_answered platform (.ofByte request.security) arrival.found.new
        discovery.polled.controller ⟨looping, serving⟩ free
      have secure := negotiate_secure discovery.polled.controller.config.tlsNegotiationStrategy request
      simp only [Act.bind_apply, PolledController.lift, asked, given, Option.map_some,
        Option.isSome_some, answers,
        List.foldl_nil, Act.modify_apply, Option.any_some, build, decide_eq_true_eq, secure]

theorem act_abstract (input : DiscoveryInput Address) {discovery : Discovery}
    (serving : discovery.polled.controller.config.enableSdpServer = true)
    (attended : discovery.polled.controller.looping = true → discovery.polled.Attended) :
    (act platform readHeader writeHeader input discovery).state.polled =
      (PolledController.act platform (abstract readHeader discovery input) discovery.polled).state := by
  cases input with
  | ready fd arrival =>
      by_cases hears : discovery.Hears fd
      · have handles : act platform readHeader writeHeader (.ready fd arrival) discovery =
            handleSdpServerInput readHeader writeHeader arrival discovery := by
          simp only [act, Act.get_bind, if_pos hears]
        rw [handles]
        exact handleSdpServerInput_abstract platform fd arrival hears serving (attended hears.1)
      · have lifts : act platform readHeader writeHeader (.ready fd arrival) discovery =
            lift (PolledController.act platform (.ready fd arrival.found)) discovery := by
          simp only [act, Act.get_bind, if_neg hears]
        rw [lifts, abstract, if_neg hears]
        rfl
  | wait | iterate | outside => rfl

end Steps

def Steady (controller controller' : TbdController) (_ : List ControllerOutput) : Prop :=
  controller'.config = controller.config ∧
    (controller.config.enableSdpServer = true → controller'.count = controller.count)

namespace Steady

variable (platform : Platform) {s t u : TbdController} {l l' : List ControllerOutput}

theorem still (config : t.config = s.config) (count : t.count = s.count) :
    Steady s t l := ⟨config, fun _ => count⟩

theorem trans (first : Steady s t l) (next : Steady t u l') : Steady s u (l ++ l') := by
  refine ⟨next.1.trans first.1, fun serving => ?_⟩
  exact (next.2 (first.1 ▸ serving)).trans (first.2 serving)

theorem callSession (input : SessionInput) : Act.Keeps Steady (TbdController.callSession platform input) := by
  intro controller
  unfold TbdController.callSession
  split <;> exact .still rfl rfl

theorem update (input : ControllerInput) : Act.Keeps Steady (TbdController.update platform input) := by
  have setup (f : EvseSetupConfig → EvseSetupConfig) : Act.Keeps Steady (TbdController.setup f) :=
    fun _ => .still rfl rfl
  cases input with
  | updateAuthorizationServices services certInstallService =>
      refine .bind .trans (setup _) fun _ => .ite (fun _ => ?_) fun _ => setup _
      exact fun _ => .still rfl rfl
  | updateDcLimits | updateEnergyModes | updateSupportedVasServices | updateAcLimits =>
      exact .bind .trans (setup _) fun _ => callSession platform _
  | updatePowersupplyLimits limits => exact setup _
  | sendControlEvent event => exact callSession platform _
  | _ => exact fun _ => .still rfl rfl

theorem iterate (clock : TimePoint) (env : PollEnv) (new : NewSession) :
    Act.Keeps Steady (TbdController.iterate platform clock env new) := by
  refine .bind .trans (fun _ => .still rfl rfl) fun _ =>
    .bind .trans (.tryCatch .trans ?_ fun e => ?_) fun _ => ?_
  · intro controller
    unfold TbdController.pollSession
    split <;> exact .still rfl rfl
  · cases e with
    | runtimeError => exact callSession platform .close
    | _ =>
        exact .bind .trans (fun _ => .still rfl rfl) fun _ => .throw (fun _ => .still rfl rfl) _
  · intro controller
    unfold TbdController.resetFinished
    split
    · exact .still rfl rfl
    · split
      · by_cases serving : controller.config.enableSdpServer = true
        · simp only [serving, if_true]
          exact .still rfl rfl
        · simp only [serving]
          exact ⟨rfl, fun other => absurd other serving⟩
      · exact .still rfl rfl

theorem act (input : ControllerInput)
    (other : ∀ request established new, input ≠ .sdp request established new) :
    Act.Keeps Steady (TbdController.act platform input) := by
  refine .bind .trans (fun _ => .still rfl rfl) fun controller => ?_
  cases input with
  | sdp request established new => exact absurd rfl (other request established new)
  | accept | opened | data => exact .ite (fun _ => callSession platform _) fun _ _ => .still rfl rfl
  | wait clock throws =>
      refine .ite (fun _ => ?_) fun _ _ => .still rfl rfl
      refine .bind .trans (fun _ => .still rfl rfl) fun _ =>
        .bind .trans (fun _ => .still rfl rfl) fun _ => ?_
      exact .ite (fun _ _ => .still rfl rfl) fun _ _ => .still rfl rfl
  | iterate clock env new => exact .ite (fun _ => iterate platform clock env new) fun _ _ => .still rfl rfl
  | _ => exact update platform _

end Steady

theorem follow_controller (polled : PolledController) (out : ControllerOutput) :
    (polled.follow out).controller = polled.controller := by
  unfold PolledController.follow
  split
  · split <;> rfl
  · split <;> rfl
  · rfl

theorem foldl_follow_controller (polled : PolledController) (log : List ControllerOutput) :
    (log.foldl PolledController.follow polled).controller = polled.controller := by
  induction log generalizing polled with
  | nil => rfl
  | cons out rest hyp => rw [List.foldl_cons, hyp, follow_controller]

def Idles (polled polled' : PolledController) (_ : List PolledOutput) : Prop :=
  Steady polled.controller polled'.controller []

theorem idles_lift {m : ControllerAct Unit} (steady : Act.Keeps Steady m) :
    Act.Keeps Idles (PolledController.lift m) := by
  intro polled
  have same := steady polled.controller
  unfold Idles PolledController.lift
  rw [foldl_follow_controller]
  exact same

theorem connect_steady (polled : PolledController) (secure : Bool) (socket : Option Fd) :
    (polled.connect secure socket).controller.config = polled.controller.config ∧
      (polled.connect secure socket).controller.count = polled.controller.count := by
  unfold PolledController.connect
  split <;> exact ⟨rfl, rfl⟩

theorem idles_act (platform : Platform) (input : PolledInput) {polled : PolledController}
    (other : ∀ fd found, input = .ready fd found → ¬(polled.controller.looping = true ∧
      polled.descriptors.registeredFds fd = some .sdpServer)) :
    Idles polled (PolledController.act platform input polled).state
      (PolledController.act platform input polled).log := by
  have trans {s t u : PolledController} {l l' : List PolledOutput} (first : Idles s t l)
    (next : Idles t u l') :
      Idles s u (l ++ l') := Steady.trans first next
  have rule : PolledController.CallbackRule platform Idles :=
    { trans := trans
      still := fun config count => .still config count
      dangling := fun _ _ => .still rfl rfl
      tells := fun told => idles_lift (Steady.act platform _ (by cases told <;> simp)) }
  cases input with
  | ready fd found =>
      by_cases sdp : polled.descriptors.registeredFds fd = some .sdpServer
      · rw [PolledController.act_ready, if_neg fun looping => other fd found rfl ⟨looping, sdp⟩]
        exact .still rfl rfl
      · exact rule.ready fd found sdp
  | wait clock throws => exact idles_lift (Steady.act platform (.wait clock throws) (by simp)) polled
  | outside input => exact idles_lift (Steady.update platform input) polled
  | iterate clock env new socket =>
      have connects (polled : PolledController) (socket : Option Fd) :
          Idles polled (polled.connect false socket) [] :=
        .still (connect_steady polled false socket).1 (connect_steady polled false socket).2
      have lifted : Act.Keeps Idles _ := idles_lift (Steady.act platform (.iterate clock env new) (by simp))
      have keeps : Act.Keeps Idles (PolledController.iterate platform clock env new socket) :=
        .bind (R := Idles) trans lifted fun _ polled => connects polled _
      exact keeps polled

section Responses

variable {Address : Type} (platform : Platform) (readHeader : SdpServer.Header → Bool)
  (writeHeader : Nat → SdpServer.Header)

structure Answers (record : DiscoveryStep Address) (address : Address) (packet : List UInt8) : Prop where
  free : record.before.polled.controller.session = none
  asked : ∃ fd arrival request, record.input = .ready fd arrival ∧ record.before.Hears fd ∧
    (SdpServer.getPeerRequest readHeader record.before.udpBuffer arrival.datagram).1 = some request ∧
    address = request.address ∧
    packet = SdpServer.sendResponse writeHeader
      (negotiate record.before.polled.controller.config.tlsNegotiationStrategy request)
      { port := connectionPort, address := arrival.address }
  listens : ∃ linked connection,
    record.after.polled.controller.session = some (record.before.polled.controller.count + 1, linked) ∧
    record.after.polled.connection = some connection ∧ connection.link = .listening ∧
    (connection.secure = true ↔ packet[26]? = some Security.tls.byte)

inductive Discovers (record : DiscoveryStep Address) : Prop
  | silent (responses : discoveryResponses [record] = [])
      (count : record.after.polled.controller.count = record.before.polled.controller.count)
  | answers (address : Address) (packet : List UInt8)
      (responses : discoveryResponses [record] = [(address, packet)])
      (count : record.after.polled.controller.count = record.before.polled.controller.count + 1)
      (answers : Answers readHeader writeHeader record address packet)

theorem sendResponse_security (request : SdpServer.PeerRequest Address) (endPoint : Ipv6EndPoint) :
    (SdpServer.sendResponse writeHeader request endPoint)[26]? = some request.security := by
  have header : (writeHeader 20).toList.length = 8 := by simp
  have address : endPoint.address.toList.length = 16 := by simp
  rw [SdpServer.sendResponse, List.getElem?_append_right (by omega), List.getElem?_append_right (by
    rw [List.length_append, header, address]
    simp [toBigEndian])]
  rw [List.length_append, header, address]
  simp [toBigEndian]

theorem build_listens (secure : Bool) (new : NewSession) (fd : Fd) {polled : PolledController}
    (unconnected : polled.connection = none) :
    ∃ linked connection,
      (build secure new fd polled).controller.session = some (polled.controller.count + 1, linked) ∧
        (build secure new fd polled).connection = some connection ∧ connection.link = .listening ∧
        connection.secure = secure := by
  cases secure with
  | true =>
      simp only [build, PolledController.connect, unconnected]
      exact ⟨_, _, rfl, rfl, rfl, rfl⟩
  | false =>
      simp only [build, PolledController.connect, unconnected]
      exact ⟨_, _, rfl, rfl, rfl, rfl⟩

theorem act_discovers (input : DiscoveryInput Address) {discovery : Discovery}
    (serving : discovery.polled.controller.config.enableSdpServer = true)
    (attended : discovery.polled.controller.looping = true → discovery.polled.Attended) :
    (act platform readHeader writeHeader input discovery).state.polled.controller.config =
        discovery.polled.controller.config ∧
      Discovers readHeader writeHeader
        (Machine.stepOf (act platform readHeader writeHeader) discovery input) := by
  have lifted {m : PolledAct Unit}
    (lifts : act platform readHeader writeHeader input discovery = lift m discovery)
      (idles : Idles discovery.polled (m discovery.polled).state (m discovery.polled).log) :
      (act platform readHeader writeHeader input discovery).state.polled.controller.config =
          discovery.polled.controller.config ∧
        Discovers readHeader writeHeader
          (Machine.stepOf (act platform readHeader writeHeader) discovery input) := by
    refine ⟨lifts ▸ idles.1, .silent ?_ ?_⟩
    · simp only [discoveryResponses, List.flatMap_cons, List.flatMap_nil, List.append_nil,
        Machine.stepOf_outputs,
        lifts, lift, List.filterMap_map, List.filterMap_eq_nil_iff]
      exact fun _ _ => rfl
    · rw [Machine.stepOf_after, lifts]
      exact idles.2 serving
  cases input with
  | wait clock throws => exact lifted rfl (idles_act platform (.wait clock throws) (by simp))
  | iterate clock env new socket =>
      exact lifted rfl (idles_act platform (.iterate clock env new socket) (by simp))
  | outside input => exact lifted rfl (idles_act platform (.outside input) (by simp))
  | ready fd arrival =>
      by_cases hears : discovery.Hears fd
      · have handles : act platform readHeader writeHeader (.ready fd arrival) discovery =
            handleSdpServerInput readHeader writeHeader arrival discovery := by
          simp only [act, Act.get_bind, if_pos hears]
        have handled := @handleSdpServerInput_handled Address readHeader writeHeader arrival discovery
        rw [← handles] at handled
        generalize outcome : act platform readHeader writeHeader (.ready fd arrival) discovery =
          next at handled
        cases handled with
        | ignored unanswerable =>
            refine ⟨rfl, .silent ?_ ?_⟩
            · simp [discoveryResponses, outcome]
            · rw [Machine.stepOf_after, outcome]
              rfl
        | answered request socket free asked given =>
            have unconnected := (attended hears.1).free free
            refine ⟨?_, .answers _ _ ?_ ?_ ⟨free, ⟨fd, arrival, request, rfl, hears, asked, rfl, rfl⟩, ?_⟩⟩
            · refine (connect_steady _ _ _).1.trans ?_
              split <;> rfl
            · simp [discoveryResponses, outcome, DiscoveryOutput.response?]
            · rw [Machine.stepOf_after, outcome]
              refine (connect_steady _ _ _).2.trans ?_
              split <;> rfl
            · rw [Machine.stepOf_after, outcome]
              obtain ⟨linked, connection, session, connected, listens, secure⟩ := build_listens
                ((negotiate discovery.polled.controller.config.tlsNegotiationStrategy request).security =
                  Security.tls.byte) arrival.found.new socket unconnected
              refine ⟨linked, connection, session, connected, listens, ?_⟩
              rw [secure, sendResponse_security]
              simp
      · refine lifted (m := PolledController.act platform (.ready fd arrival.found)) ?_
          (idles_act platform _ ?_)
        · simp only [act, Act.get_bind, if_neg hears]
        · rintro other found ⟨⟩
          exact hears

theorem act_busy (fd : Fd) (arrival : SdpArrival Address) {discovery : Discovery} (hears : discovery.Hears fd)
    (busy : discovery.polled.controller.session ≠ none) :
    (act platform readHeader writeHeader (.ready fd arrival) discovery).state.polled = discovery.polled ∧
      (act platform readHeader writeHeader (.ready fd arrival) discovery).log = [] := by
  -- The datagrams that come in while there is a session change nothing but the buffer.
  have handles : act platform readHeader writeHeader (.ready fd arrival) discovery =
      handleSdpServerInput readHeader writeHeader arrival discovery := by
    simp only [act, Act.get_bind, if_pos hears]
  have handled := @handleSdpServerInput_handled Address readHeader writeHeader arrival discovery
  rw [handles]
  generalize handleSdpServerInput readHeader writeHeader arrival discovery = outcome at handled
  cases handled with
  | ignored => exact ⟨rfl, rfl⟩
  | answered request socket free => exact absurd free busy

structure Invites (past : List (DiscoveryStep Address)) (discovery : Discovery) : Prop where
  serving : discovery.polled.controller.config.enableSdpServer = true
  attended : discovery.polled.controller.looping = true → discovery.polled.Attended
  count : discovery.polled.controller.count = (discoveryResponses past).length

theorem invites_step (input : DiscoveryInput Address)
    (real : ∀ clock env new socket, input = .iterate clock env new socket → ∀ read ∈ env.reads,
      FromConnection read)
    {past : List (DiscoveryStep Address)} {discovery : Discovery} (invites : Invites past discovery) :
    Invites (past ++ [Machine.stepOf (act platform readHeader writeHeader) discovery input])
      (act platform readHeader writeHeader input discovery).state where
  serving := by
    rw [(act_discovers platform readHeader writeHeader input invites.serving invites.attended).1]
    exact invites.serving
  attended looping := by
    have refines := @act_abstract Address platform readHeader writeHeader input discovery invites.serving
      invites.attended
    rw [refines] at looping ⊢
    refine PolledController.attended_step platform _ ?_ invites.attended looping
    intro clock env new socket abstracted
    cases input with
    | ready fd arrival => by_cases hears : discovery.Hears fd <;> simp [abstract, hears] at abstracted
    | iterate clock' env' new' socket' =>
        cases abstracted
        exact real clock env new socket rfl
    | wait | outside => cases abstracted
  count := by
    have concat : discoveryResponses
        (past ++ [Machine.stepOf (act platform readHeader writeHeader) discovery input]) =
          discoveryResponses past ++
            discoveryResponses [Machine.stepOf (act platform readHeader writeHeader) discovery input] :=
      List.flatMap_append
    rw [concat, List.length_append, ← invites.count]
    cases (act_discovers platform readHeader writeHeader input invites.serving invites.attended).2 with
    | silent responses count => simpa [responses] using count
    | answers address packet responses count => simpa [responses] using count

theorem invites_new (config : TbdConfig) (serving : config.enableSdpServer = true)
    (evseSetup : EvseSetupConfig)
    (session : NewSession) (clock : TimePoint) (sdpFd : Fd) (udpBuffer : SdpServer.UdpBuffer) :
    Invites ([] : List (DiscoveryStep Address)) (new config evseSetup session clock sdpFd udpBuffer) := by
  refine ⟨?_, PolledController.attended_new config evseSetup session clock sdpFd none, ?_⟩
  · simp [new, PolledController.new, serving, TbdController.new]
  · simp [new, PolledController.new, serving, TbdController.new, discoveryResponses]

end Responses

end Discovery

open Discovery in
/-- In every run, the k-th response invites the peer that has asked to the k-th session. -/
theorem discovery_answers {Address : Type} (platform : Platform) (readHeader : SdpServer.Header → Bool)
    (writeHeader : Nat → SdpServer.Header) (config : TbdConfig) (serving : config.enableSdpServer = true)
    (evseSetup : EvseSetupConfig) (session : NewSession) (clock : TimePoint) (sdpFd : Fd)
    (udpBuffer : SdpServer.UdpBuffer) (inputs : List (DiscoveryInput Address))
    (real : ∀ clock env new socket, .iterate clock env new socket ∈ inputs → ∀ read ∈ env.reads,
      FromConnection read)
    {past future : List (DiscoveryStep Address)} {record : DiscoveryStep Address}
    (split : Machine.steps (act platform readHeader writeHeader)
      (new config evseSetup session clock sdpFd udpBuffer) inputs = past ++ record :: future) :
    record.before.polled.controller.count = (discoveryResponses past).length ∧
      Discovers readHeader writeHeader record ∧
      (∀ fd arrival, record.input = .ready fd arrival → record.before.Hears fd →
        record.before.polled.controller.session ≠ none →
          record.after.polled = record.before.polled ∧ record.outputs = []) := by
  obtain ⟨before, input, after, rfl, rfl, rfl⟩ := Machine.split_of_steps _ split
  have invites : Invites (Machine.steps (act platform readHeader writeHeader)
      (new config evseSetup session clock sdpFd udpBuffer) before)
        (Machine.final (act platform readHeader writeHeader)
          (new config evseSetup session clock sdpFd udpBuffer) before) := by
    replace real : ∀ clock env new socket, .iterate clock env new socket ∈ before →
        ∀ read ∈ env.reads, FromConnection read := fun clock env new socket member =>
      real clock env new socket (List.mem_append_left _ member)
    clear split
    induction before using List.reverseRecOn with
    | nil => exact invites_new config serving evseSetup session clock sdpFd udpBuffer
    | append_singleton before input hyp =>
        rw [Machine.steps_append, Machine.final_append]
        refine invites_step platform readHeader writeHeader input (fun clock env new socket here => ?_)
          (hyp fun clock env new socket member => ?_)
        · exact real clock env new socket (by simp [here])
        · exact real clock env new socket (List.mem_append_left _ member)
  refine ⟨invites.count, ?_, ?_⟩
  · exact (act_discovers platform readHeader writeHeader input invites.serving invites.attended).2
  · rintro fd arrival rfl hears busy
    exact act_busy platform readHeader writeHeader fd arrival hears busy

namespace Sample

def writeResponseHeader (size : Nat) :
    SdpServer.Header := #v[0x01, 0xFE, 0x90, 0x01, 0, 0, 0, UInt8.ofNat size]

def asksForTls : SdpArrival Nat where
  datagram := { bytes := [0x01, 0xFE, 0x90, 0x00, 0, 0, 0, 2, 0x00, 0x00], address := 1, addressLength := 28 }
  address := Vector.replicate 16 0
  found := { socket := some 4 }

end Sample

open Discovery Sample in
theorem discovery_answers_tls :
    Discovers SdpServer.readSdpRequestHeader writeResponseHeader
      (Machine.stepOf (act platform SdpServer.readSdpRequestHeader writeResponseHeader)
        (new {} setup {} 0 3 (Vector.replicate SdpServer.udpBufferSize 0)) (.ready 3 asksForTls)) := by
  have split : Machine.steps (act platform SdpServer.readSdpRequestHeader writeResponseHeader)
      (new {} setup {} 0 3 (Vector.replicate SdpServer.udpBufferSize 0)) [.ready 3 asksForTls] =
        [] ++ Machine.stepOf (act platform SdpServer.readSdpRequestHeader writeResponseHeader)
          (new {} setup {} 0 3 (Vector.replicate SdpServer.udpBufferSize 0)) (.ready 3 asksForTls) ::
            [] := rfl
  exact (discovery_answers platform SdpServer.readSdpRequestHeader writeResponseHeader {} rfl setup {} 0 3
    (Vector.replicate SdpServer.udpBufferSize 0) [.ready 3 asksForTls] (by simp) split).2.1

end LibIso15118
