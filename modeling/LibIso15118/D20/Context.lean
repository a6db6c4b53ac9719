import LibIso15118.Codec.Variant
import LibIso15118.Shared.Act
import LibIso15118.D20.Session
import LibIso15118.D20.Timeout

set_option autoImplicit false

namespace LibIso15118

open Datatypes Shared

structure UpdateDynamicModeParameters where
  departureTime : Option Int64 := none
  targetSoc : Option UInt8 := none
  minSoc : Option UInt8 := none

structure AcTargetPower where
  targetActivePower : Option RationalNumber := none
  targetActivePowerL2 : Option RationalNumber := none
  targetActivePowerL3 : Option RationalNumber := none
  targetReactivePower : Option RationalNumber := none
  targetReactivePowerL2 : Option RationalNumber := none
  targetReactivePowerL3 : Option RationalNumber := none
  targetFrequency : Option RationalNumber := none

structure AcPresentPower where
  presentActivePower : Option RationalNumber := none
  presentActivePowerL2 : Option RationalNumber := none
  presentActivePowerL3 : Option RationalNumber := none

inductive ControlEvent where
  | cableCheckFinished (success : Bool)
  | presentVoltageCurrent (voltage current : ℚ)
  | authorizationResponse (authorized : Bool)
  | stopCharging (stop : Bool)
  | pauseCharging (pause : Bool)
  | dcTransferLimits (limits : DcTransferLimits)
  | acTransferLimits (limits : AcTransferLimits)
  | updateDynamicModeParameters (parameters : UpdateDynamicModeParameters)
  | closedContactor (closed : Bool)
  | acTargetPower (power : AcTargetPower)
  | acPresentPower (power : AcPresentPower)
  | energyServices (services : List ServiceCategory)
  | supportedVass (services : List UInt16)

/-- `session::feedback::Signal` -/
inductive Signal where
  | requireAuthEim
  | startCableCheck
  | setupFinished
  | preChargeStarted
  | chargeLoopStarted
  | chargeLoopFinished
  | dcOpenContactor
  | acCloseContactor
  | acOpenContactor
  | dlinkTerminate
  | dlinkError
  | dlinkPause
  deriving DecidableEq

-- A field that was never written holds NaN, here `none`.
structure DcMaximumLimits where
  voltage : Option ℚ := none
  current : Option ℚ := none
  power : Option ℚ := none

structure AcDerControlDiagnostic where
  requestType : MessageType := .none
  responseCode : ResponseCode := .ok
  failureReason : AcDerControlFailureReason := .none

inductive EvseTransferLimits where
  | dc (limits : DcTransferLimits)
  | ac (limits : AcTransferLimits)
  -- the value-initialised variant, sent when the session is neither AC nor DC
  | unset

inductive EvTransferLimits where
  | dc (mode : DcCpdReqTransferMode)
  | ac (mode : AcCpdReqTransferMode)

inductive DcChargeLoopReq where
  | controlMode (mode : DcClReqControlMode)
  | displayParameters (parameters : DisplayParameters)
  | presentVoltage (voltage : RationalNumber)
  | meterInfoRequested (requested : Bool)

inductive AcChargeLoopReq where
  | controlMode (mode : AcClReqControlMode)
  | displayParameters (parameters : DisplayParameters)
  | meterInfoRequested (requested : Bool)

structure EvInformation where
  evSupportedAppProtocols : List SupportedAppProtocol := []
  selectedAppProtocol : Option SupportedAppProtocol := none
  evccId : StdString := ""

/-- The calls that `session::Feedback` passes to the application. -/
inductive Feedback where
  | signal (signal : Signal)
  | dcPreChargeTargetVoltage (voltage : ℚ)
  | dcChargeLoopReq (req : DcChargeLoopReq)
  | dcMaxLimits (limits : DcMaximumLimits)
  | acChargeLoopReq (req : AcChargeLoopReq)
  | v2gMessage (type : MessageType)
  | evccId (id : StdString)
  | selectedProtocol (protocol : StdString)
  | notifyEvChargingNeeds (service : ServiceCategory) (connector : Option AcConnector)
      (controlMode : ControlMode) (mobilityNeedsMode : MobilityNeedsMode)
      (evseLimits : EvseTransferLimits) (evLimits : EvTransferLimits)
      (evControlMode : SeReqControlMode) (evEnergyServices : List ServiceCategory)
  | selectedServiceParameters (parameters : SelectedServiceParameters)
  | evInformation (information : EvInformation)
  | getVasParameters (vasId : UInt16)
  | selectedVasServices (services : VasSelectedServiceList)
  | acLimits (mode : AcCpdReqTransferMode)
  | acDerControlDiagnostic (diagnostic : AcDerControlDiagnostic)
  | evTermination (code explanation : StdString)

/-- What a step of the state machine does that its context does not show. -/
inductive Output where
  | feedback (call : Feedback)
  | respond (res : Response)
  | generatedId (id : SessionId)
  | digest (input : Vector UInt8 72)

inductive Exn where
  | runtimeError
  | badOptionalAccess
  | badVariantAccess
  /-- `std::out_of_range` -/
  | outOfRange
  /-- undefined behaviour, or an assertion that fails -/
  | undefined
  deriving DecidableEq

def Fault.exn : Fault → Exn
  | .runtimeError _ => .runtimeError
  | .outOfRange => .outOfRange
  | .outsideArray | .outsideTarget | .unnamedEnumerator | .assertion => .undefined

-- `ev_control_mode` of `EVSessionInfo` is never written or read.
structure EvSessionInfo where
  evTransferLimits : EvTransferLimits := .dc (.dc {})
  evEnergyServices : List ServiceCategory := []

-- `request` and `pendingResponse` are the two directions of `MessageExchange`. A response is
-- available together with its encoded size.
structure Context where
  session : Session
  sessionConfig : SessionConfig
  sessionEvInfo : EvSessionInfo := {}
  evInfo : EvInformation := {}
  pauseCtx : Option PauseContext := none
  sessionStopped : Bool := false
  sessionPaused : Bool := false
  cacheDynamicModeParameters : Option UpdateDynamicModeParameters := none
  cacheAcTargetPower : Option AcTargetPower := none
  cacheAcPresentPower : Option AcPresentPower := none
  currentControlEvent : Option ControlEvent := none
  request : Option Variant := none
  pendingResponse : Option (Response × Nat) := none
  vehicleCertHash : Option Sha512Hash := none
  timeouts : Timeouts := {}
  currentTimeout : Option TimeoutType := none

structure Stored where
  dcLimits : DcTransferLimits
  acLimits : AcTransferLimits
  dynamicModeParameters : Option UpdateDynamicModeParameters
  acTargetPower : Option AcTargetPower
  acPresentPower : Option AcPresentPower

def Context.stored (ctx : Context) : Stored :=
  { dcLimits := ctx.sessionConfig.dcLimits
    acLimits := ctx.sessionConfig.acLimits
    dynamicModeParameters := ctx.cacheDynamicModeParameters
    acTargetPower := ctx.cacheAcTargetPower
    acPresentPower := ctx.cacheAcPresentPower }

/-- The parts the code takes from outside: `EVP_Digest`, and of the EXI codec the sizes of its generated
arrays, the encoder (0 when it fails or overflows) and the decoders. -/
structure Platform where
  evpDigest : Vector UInt8 72 → Option Sha512Hash
  capacities : DocumentCapacities
  encodedSize : Response → Nat
  decoders : ExiDecoders capacities

/-- What one call of `feed` reads from its surroundings. -/
structure Env where
  now : TimePoint := 0
  time : UInt64 := 0
  scheduleTime : UInt64 := 0
  newSessionId : SessionId := Vector.replicate 8 0
  genChallenge : GenChallenge := Vector.replicate 16 0
  vasParameters : UInt16 → Option ServiceParameterList := fun _ => none

abbrev Feed := Act Context Output Exn

namespace Platform

variable (platform : Platform)

/-- The constructor of `Variant`, as its caller sees it. -/
def decode (payloadType : UInt16) (payload : List UInt8) : Except Exn Variant :=
  (Variant.new platform.decoders payloadType payload).mapError Fault.exn

def parameterFits (parameter : Parameter) : Bool :=
  decide (parameter.name.length ≤ platform.capacities.services.parameterName) &&
    match parameter.value with
    | .name value => decide (value.length ≤ platform.capacities.services.finiteString)
    | _ => true

/-- `CPP2CB_STRING` throws on a string that is longer than the buffer of the encoder. These two
responses are the only ones the states fill with strings. -/
def stringsFit : Response → Bool
  | .sessionSetup res => decide (res.evseid.length ≤ platform.capacities.session.evseid)
  | .serviceDetail res =>
      res.serviceParameterList.all fun set => set.parameter.all platform.parameterFits
  | _ => true

/-- What `set_response` leaves in the exchange: an encoding of size 0 is discarded. -/
def encode (res : Response) : Option (Response × Nat) :=
  if platform.encodedSize res = 0 then none else some (res, platform.encodedSize res)

end Platform

namespace Feed

def feedback (call : Feedback) : Feed Unit := Act.emit (.feedback call)

def feedbackIfSome (call : Option Feedback) : Feed Unit := fun ctx =>
  ⟨.ok (), ctx, call.toList.map .feedback⟩

def signal (signal : Signal) : Feed Unit := feedback (.signal signal)

/-- `pull_request` -/
def pullRequest : Feed Variant := do
  let ctx ← Act.get
  match ctx.request with
  | none => Act.throw .runtimeError
  | some variant => do
      Act.modify fun ctx => { ctx with request := none }
      return variant

/-- `respond`, which is `MessageExchange::set_response`. -/
def respond (platform : Platform) (res : Response) : Feed Unit :=
  if platform.stringsFit res then do
    Act.modify fun ctx => { ctx with pendingResponse := platform.encode res }
    Act.emit (.respond res)
  else Act.throw .runtimeError

def stopSession : Feed Unit := Act.modify fun ctx => { ctx with sessionStopped := true }

def startTimeout (env : Env) (type : TimeoutType) (timeoutMs : Nat) : Feed Unit :=
  Act.modify fun ctx =>
    { ctx with timeouts := ctx.timeouts.startTimeout env.now type timeoutMs }

def stopTimeout (type : TimeoutType) : Feed Unit :=
  Act.modify fun ctx => { ctx with timeouts := ctx.timeouts.stopTimeout type }

section WeakestPrecondition

variable (platform : Platform) (env : Env) (ctx : Context)

@[simp] theorem wp_feedback (call : Feedback) (post : Except Exn Unit → Context → List Output → Prop) :
    Act.wp (feedback call) post ctx ↔ post (.ok ()) ctx [.feedback call] := Iff.rfl

@[simp] theorem wp_signal (s : Signal) (post : Except Exn Unit → Context → List Output → Prop) :
    Act.wp (signal s) post ctx ↔ post (.ok ()) ctx [.feedback (.signal s)] := Iff.rfl

@[simp] theorem wp_feedbackIfSome (call : Option Feedback)
    (post : Except Exn Unit → Context → List Output → Prop) :
    Act.wp (feedbackIfSome call) post ctx ↔ post (.ok ()) ctx (call.toList.map .feedback) := Iff.rfl

theorem wp_pullRequest {variant : Variant} (pending : ctx.request = some variant)
    (post : Except Exn Variant → Context → List Output → Prop) :
    Act.wp pullRequest post ctx ↔ post (.ok variant) { ctx with request := none } [] := by
  simp [pullRequest, pending]

@[simp] theorem wp_respond (res : Response) (post : Except Exn Unit → Context → List Output → Prop) :
    Act.wp (respond platform res) post ctx ↔
      (platform.stringsFit res = true →
        post (.ok ()) { ctx with pendingResponse := platform.encode res } [.respond res]) ∧
      (platform.stringsFit res = false → post (.error .runtimeError) ctx []) := by
  simp [respond]

@[simp] theorem wp_stopSession (post : Except Exn Unit → Context → List Output → Prop) :
    Act.wp stopSession post ctx ↔ post (.ok ()) { ctx with sessionStopped := true } [] := Iff.rfl

@[simp] theorem wp_startTimeout (type : TimeoutType) (timeoutMs : Nat)
    (post : Except Exn Unit → Context → List Output → Prop) :
    Act.wp (startTimeout env type timeoutMs) post ctx ↔
      post (.ok ()) { ctx with timeouts := ctx.timeouts.startTimeout env.now type timeoutMs } [] :=
  Iff.rfl

@[simp] theorem wp_stopTimeout (type : TimeoutType)
    (post : Except Exn Unit → Context → List Output → Prop) :
    Act.wp (stopTimeout type) post ctx ↔
      post (.ok ()) { ctx with timeouts := ctx.timeouts.stopTimeout type } [] := Iff.rfl

end WeakestPrecondition

end Feed

def setupHeader (env : Env) (session : Session) : Header :=
  { sessionId := session.id, timestamp := env.time }

/-- The result of `validate_and_setup_header`; the header is `setupHeader`. -/
def validateHeader (session : Session) (reqSessionId : SessionId) : Bool := session.id = reqSessionId

/-- `handle_sequence_error` for the response that belongs to a request type. -/
def sequenceErrorResponse (header : Header) : MessageType → Option Response
  | .sessionSetupReq => some (.sessionSetup { header, responseCode := .failedSequenceError })
  | .authorizationSetupReq =>
      some (.authorizationSetup { header, responseCode := .failedSequenceError })
  | .authorizationReq => some (.authorization { header, responseCode := .failedSequenceError })
  | .serviceDiscoveryReq => some (.serviceDiscovery { header, responseCode := .failedSequenceError })
  | .serviceDetailReq => some (.serviceDetail { header, responseCode := .failedSequenceError })
  | .serviceSelectionReq => some (.serviceSelection { header, responseCode := .failedSequenceError })
  | .acChargeParameterDiscoveryReq =>
      some (.acChargeParameterDiscovery { header, responseCode := .failedSequenceError })
  | .dcChargeParameterDiscoveryReq =>
      some (.dcChargeParameterDiscovery { header, responseCode := .failedSequenceError })
  | .scheduleExchangeReq => some (.scheduleExchange { header, responseCode := .failedSequenceError })
  | .dcCableCheckReq => some (.dcCableCheck { header, responseCode := .failedSequenceError })
  | .powerDeliveryReq => some (.powerDelivery { header, responseCode := .failedSequenceError })
  | .dcPreChargeReq => some (.dcPreCharge { header, responseCode := .failedSequenceError })
  | .dcChargeLoopReq => some (.dcChargeLoop { header, responseCode := .failedSequenceError })
  | .acChargeLoopReq => some (.acChargeLoop { header, responseCode := .failedSequenceError })
  | .dcWeldingDetectionReq =>
      some (.dcWeldingDetection { header, responseCode := .failedSequenceError })
  | .sessionStopReq => some (.sessionStop { header, responseCode := .failedSequenceError })
  | _ => none

def sendSequenceError (platform : Platform) (env : Env) (reqType : MessageType) : Feed Unit := do
  let ctx ← Act.get
  match sequenceErrorResponse (setupHeader env ctx.session) reqType with
  | none => return
  | some res => Feed.respond platform res

theorem sequenceErrorResponse_isFailed {header : Header} {type : MessageType} {res : Response}
    (answer : sequenceErrorResponse header type = some res) :
    res.code? = some .failedSequenceError := by
  cases type <;> simp [sequenceErrorResponse] at answer <;> subst answer <;> rfl

theorem sequenceErrorResponse_fits (platform : Platform) {header : Header} {type : MessageType}
    {res : Response} (answer : sequenceErrorResponse header type = some res) :
    platform.stringsFit res = true := by
  cases type <;> simp [sequenceErrorResponse] at answer <;> subst answer <;>
    simp [Platform.stringsFit]

theorem wp_sendSequenceError (platform : Platform) (env : Env) (reqType : MessageType) (ctx : Context)
    (post : Except Exn Unit → Context → List Output → Prop)
    (silent : post (.ok ()) ctx [])
    (answered : ∀ res pending, res.code? = some ResponseCode.failedSequenceError →
      post (.ok ()) { ctx with pendingResponse := pending } [.respond res]) :
    Act.wp (sendSequenceError platform env reqType) post ctx := by
  -- A sequence error never throws; it answers at most once, and then with FAILED_SequenceError.
  simp only [sendSequenceError, Act.wp_bind, Act.wp_get]
  cases answer : sequenceErrorResponse (setupHeader env ctx.session) reqType with
  | none => simpa using silent
  | some res =>
      simp only [Feed.wp_respond, sequenceErrorResponse_fits platform answer]
      simpa using answered res _ (sequenceErrorResponse_isFailed answer)

end LibIso15118
