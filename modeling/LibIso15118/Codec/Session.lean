import LibIso15118.Codec.DcChargeParameterDiscovery
import LibIso15118.Codec.ScheduleExchange

set_option autoImplicit false

/-!
# Conversion of the session, authorization and power delivery messages

The authorization services are counted in a `uint8_t`; their array has fewer entries than that.
-/

namespace LibIso15118

open Datatypes Codec

structure SessionCapacities where
  evccid : Nat
  evseid : Nat
  authorizationServices : Nat
  pncId : Nat
  powerProfileEntries : Nat
  terminationCode : Nat
  terminationExplanation : Nat
  authorizationServices_lt : authorizationServices < 256

instance : Enumeration Authorization where
  toInt
    | .eim => 0
    | .pnc => 1
  enumerators := [.eim, .pnc]
  found := by intro value; cases value <;> rfl

instance : Enumeration Progress where
  toInt
    | .start => 0
    | .stop => 1
    | .standby => 2
    | .scheduleRenegotiation => 3
  enumerators := [.start, .stop, .standby, .scheduleRenegotiation]
  found := by intro value; cases value <;> rfl

instance : Enumeration PowerToleranceAcceptance where
  toInt
    | .notConfirmed => 0
    | .confirmed => 1
  enumerators := [.notConfirmed, .confirmed]
  found := by intro value; cases value <;> rfl

instance : Enumeration ChannelSelection where
  toInt
    | .charge => 0
    | .discharge => 1
  enumerators := [.charge, .discharge]
  found := by intro value; cases value <;> rfl

instance : Enumeration ChargingSession where
  toInt
    | .pause => 0
    | .terminate => 1
    | .serviceRenegotiation => 2
  enumerators := [.pause, .terminate, .serviceRenegotiation]
  found := by intro value; cases value <;> rfl

namespace Iso20

structure SessionSetupReqType (capacities : SessionCapacities) where
  header : MessageHeaderType
  evccid : CbString capacities.evccid
  deriving Inhabited

structure SessionSetupResType (capacities : SessionCapacities) where
  header : MessageHeaderType
  responseCode : Int32
  evseid : CbString capacities.evseid
  deriving Inhabited

structure AuthorizationSetupReqType where
  header : MessageHeaderType
  deriving Inhabited

structure GenChallengeType where
  bytes : Vector UInt8 16
  bytesLen : Nat
  deriving Inhabited

structure PncAsResAuthorizationModeType where
  genChallenge : GenChallengeType
  deriving Inhabited

structure AuthorizationSetupResType (capacities : SessionCapacities) where
  header : MessageHeaderType
  responseCode : Int32
  authorizationServices : Bounded capacities.authorizationServices Int32
  certificateInstallationService : Int32
  eimAsResAuthorizationMode : Used Unit
  pncAsResAuthorizationMode : Used PncAsResAuthorizationModeType
  deriving Inhabited

structure PncAReqAuthorizationModeType (capacities : SessionCapacities) where
  id : CbString capacities.pncId
  genChallenge : GenChallengeType
  deriving Inhabited

structure AuthorizationReqType (capacities : SessionCapacities) where
  header : MessageHeaderType
  selectedAuthorizationService : Int32
  eimAReqAuthorizationMode : Used Unit
  pncAReqAuthorizationMode : Used (PncAReqAuthorizationModeType capacities)
  deriving Inhabited

structure AuthorizationResType where
  header : MessageHeaderType
  responseCode : Int32
  evseProcessing : Int32
  deriving Inhabited

structure ScheduledEvpptControlModeType where
  selectedScheduleTupleId : UInt32
  powerToleranceAcceptance : Used Int32
  deriving Inhabited

structure EvPowerProfileType (capacities : SessionCapacities) where
  timeAnchor : UInt64
  dynamicEvpptControlMode : Used Unit
  scheduledEvpptControlMode : Used ScheduledEvpptControlModeType
  evPowerProfileEntries : Bounded capacities.powerProfileEntries PowerScheduleEntryType
  deriving Inhabited

structure PowerDeliveryReqType (capacities : SessionCapacities) where
  header : MessageHeaderType
  evProcessing : Int32
  chargeProgress : Int32
  evPowerProfile : Used (EvPowerProfileType capacities)
  bptChannelSelection : Used Int32
  deriving Inhabited

structure PowerDeliveryResType where
  header : MessageHeaderType
  responseCode : Int32
  evseStatus : Used EvseStatusType
  deriving Inhabited

structure SessionStopReqType (capacities : SessionCapacities) where
  header : MessageHeaderType
  chargingSession : Int32
  evTerminationCode : Used (CbString capacities.terminationCode)
  evTerminationExplanation : Used (CbString capacities.terminationExplanation)
  deriving Inhabited

structure SessionStopResType where
  header : MessageHeaderType
  responseCode : Int32
  deriving Inhabited

variable {capacities : SessionCapacities}

-- The functions `init_iso20_…`.
def SessionSetupReqType.init (out : SessionSetupReqType capacities) : SessionSetupReqType capacities :=
  { out with evccid := out.evccid.clear }

def SessionSetupResType.init (out : SessionSetupResType capacities) : SessionSetupResType capacities :=
  { out with evseid := out.evseid.clear }

def AuthorizationSetupResType.init (out : AuthorizationSetupResType capacities) :
    AuthorizationSetupResType capacities :=
  { out with
    authorizationServices := out.authorizationServices.clear
    eimAsResAuthorizationMode := out.eimAsResAuthorizationMode.clear id
    pncAsResAuthorizationMode := out.pncAsResAuthorizationMode.clear id }

def AuthorizationReqType.init (out : AuthorizationReqType capacities) : AuthorizationReqType capacities :=
  { out with
    eimAReqAuthorizationMode := out.eimAReqAuthorizationMode.clear id
    pncAReqAuthorizationMode := out.pncAReqAuthorizationMode.clear id }

def EvPowerProfileType.init (out : EvPowerProfileType capacities) : EvPowerProfileType capacities :=
  { out with
    dynamicEvpptControlMode := out.dynamicEvpptControlMode.clear id
    scheduledEvpptControlMode := out.scheduledEvpptControlMode.clear fun mode =>
      { mode with powerToleranceAcceptance := mode.powerToleranceAcceptance.clear id }
    evPowerProfileEntries := out.evPowerProfileEntries.clear }

def PowerDeliveryReqType.init (out : PowerDeliveryReqType capacities) : PowerDeliveryReqType capacities :=
  { out with
    evPowerProfile := out.evPowerProfile.clear (·.init)
    bptChannelSelection := out.bptChannelSelection.clear id }

def SessionStopReqType.init (out : SessionStopReqType capacities) : SessionStopReqType capacities :=
  { out with
    evTerminationCode := out.evTerminationCode.clear Bounded.clear
    evTerminationExplanation := out.evTerminationExplanation.clear Bounded.clear }

-- From the generated records.
def SessionSetupReqType.convert (req : SessionSetupReqType capacities) : Except Fault SessionSetupRequest := do
  let header ← req.header.convert
  let evccid ← cb2cppString req.evccid
  return { header, evccid }

def SessionSetupResType.convert (held : ResponseCode) (res : SessionSetupResType capacities) :
    Except Fault SessionSetupResponse := do
  -- The response code is not looked at; the message keeps the one that it held.
  let header ← res.header.convert
  let evseid ← cb2cppString res.evseid
  return { header, responseCode := held, evseid }

def AuthorizationSetupReqType.convert (req : AuthorizationSetupReqType) : Except Fault AuthorizationSetupRequest := do
  let header ← req.header.convert
  return { header }

/-- `CB2CPP_BYTES` -/
def GenChallengeType.convert (challenge : GenChallengeType) : Except Fault GenChallenge :=
  if 16 < challenge.bytesLen then .error (.runtimeError "Byte array too long")
  else .ok challenge.bytes

def AuthorizationSetupResType.authorizationMode (res : AuthorizationSetupResType capacities) :
    Except Fault AsResAuthorizationMode :=
  if res.eimAsResAuthorizationMode.isUsed then return .eim
  else if res.pncAsResAuthorizationMode.isUsed then do
    let challenge ← res.pncAsResAuthorizationMode.value.genChallenge.convert
    return .pnc challenge none
  else return .eim

def AuthorizationSetupResType.convert (res : AuthorizationSetupResType capacities) :
    Except Fault AuthorizationSetupResponse := do
  let responseCode ← cppEnum res.responseCode
  let authorizationServices ← res.authorizationServices.entries .outsideArray cppEnum
  let authorizationMode ← res.authorizationMode
  let header ← res.header.convert
  return {
    header
    responseCode
    authorizationServices
    certificateInstallationService := cppBool res.certificateInstallationService
    authorizationMode }

def AuthorizationReqType.authorizationMode (req : AuthorizationReqType capacities) :
    Except Fault AsReqAuthorizationMode :=
  if req.eimAReqAuthorizationMode.isUsed then return .eim
  else if req.pncAReqAuthorizationMode.isUsed then do
    let id ← cb2cppString req.pncAReqAuthorizationMode.value.id
    let challenge ← req.pncAReqAuthorizationMode.value.genChallenge.convert
    return .pnc id challenge ⟨"", []⟩
  else return .eim

def AuthorizationReqType.convert (req : AuthorizationReqType capacities) : Except Fault AuthorizationRequest := do
  let header ← req.header.convert
  let selectedAuthorizationService ← cppEnum req.selectedAuthorizationService
  let authorizationMode ← req.authorizationMode
  return { header, selectedAuthorizationService, authorizationMode }

def AuthorizationResType.convert (res : AuthorizationResType) : Except Fault AuthorizationResponse := do
  let responseCode ← cppEnum res.responseCode
  let evseProcessing ← cppEnum res.evseProcessing
  let header ← res.header.convert
  return { header, responseCode, evseProcessing }

def EvPowerProfileType.controlMode (profile : EvPowerProfileType capacities) : Except Fault EvpptControlMode :=
  if profile.dynamicEvpptControlMode.isUsed then return .dynamic
  else if profile.scheduledEvpptControlMode.isUsed then do
    let mode := profile.scheduledEvpptControlMode.value
    let acceptance ← mode.powerToleranceAcceptance.readM cppEnum
    return .scheduled mode.selectedScheduleTupleId acceptance
  else .error (.runtimeError "PowerProfile control mode not defined")

def EvPowerProfileType.convert (profile : EvPowerProfileType capacities) : Except Fault PowerProfile := do
  let controlMode ← profile.controlMode
  let entries ← profile.evPowerProfileEntries.entries .outsideArray fun entry => .ok entry.convert
  return { timeAnchor := profile.timeAnchor, controlMode, entries }

def PowerDeliveryReqType.convert (req : PowerDeliveryReqType capacities) : Except Fault PowerDeliveryRequest := do
  let header ← req.header.convert
  let processing ← cppEnum req.evProcessing
  let chargeProgress ← cppEnum req.chargeProgress
  let powerProfile ← req.evPowerProfile.readM (·.convert)
  let channelSelection ← req.bptChannelSelection.readM cppEnum
  return { header, processing, chargeProgress, powerProfile, channelSelection }

def PowerDeliveryResType.convert (res : PowerDeliveryResType) : Except Fault PowerDeliveryResponse := do
  let responseCode ← cppEnum res.responseCode
  let status ← res.evseStatus.readM (·.convert)
  let header ← res.header.convert
  return { header, responseCode, status }

def SessionStopReqType.convert (req : SessionStopReqType capacities) : Except Fault SessionStopRequest := do
  let header ← req.header.convert
  let chargingSession ← cppEnum req.chargingSession
  let evTerminationCode ← cb2cppStringIfUsed req.evTerminationCode
  let evTerminationExplanation ← cb2cppStringIfUsed req.evTerminationExplanation
  return { header, chargingSession, evTerminationCode, evTerminationExplanation }

def SessionStopResType.convert (res : SessionStopResType) : Except Fault SessionStopResponse := do
  let responseCode ← cppEnum res.responseCode
  let header ← res.header.convert
  return { header, responseCode }

end Iso20

-- To the generated records.

variable {capacities : SessionCapacities}

def SessionSetupRequest.convert (req : SessionSetupRequest) (out : Iso20.SessionSetupReqType capacities) :
    Except Fault (Iso20.SessionSetupReqType capacities) := do
  let out := out.init
  let evccid ← cpp2cbString req.evccid out.evccid
  return { header := req.header.convert, evccid }

def SessionSetupResponse.convert (res : SessionSetupResponse) (out : Iso20.SessionSetupResType capacities) :
    Except Fault (Iso20.SessionSetupResType capacities) := do
  let out := out.init
  let evseid ← cpp2cbString res.evseid out.evseid
  return { header := res.header.convert, responseCode := cbEnum res.responseCode, evseid }

def AuthorizationSetupRequest.convert (req : AuthorizationSetupRequest) : Iso20.AuthorizationSetupReqType :=
  { header := req.header.convert }

/-- `CPP2CB_BYTES`; the array has room for the 16 bytes. -/
def convertGenChallenge (challenge : GenChallenge) : Iso20.GenChallengeType :=
  { bytes := challenge, bytesLen := 16 }

/-- `AuthorizationModeVisitor` -/
def Datatypes.AsResAuthorizationMode.convert (mode : AsResAuthorizationMode)
    (out : Iso20.AuthorizationSetupResType capacities) : Iso20.AuthorizationSetupResType capacities :=
  match mode with
  | .eim => { out with eimAsResAuthorizationMode := out.eimAsResAuthorizationMode.set id }
  -- "supported_providers missing"
  | .pnc challenge _ => {
      out with
      pncAsResAuthorizationMode :=
        out.pncAsResAuthorizationMode.set fun _ => { genChallenge := convertGenChallenge challenge } }

def AuthorizationSetupResponse.convert (res : AuthorizationSetupResponse)
    (out : Iso20.AuthorizationSetupResType capacities) :
    Except Fault (Iso20.AuthorizationSetupResType capacities) := do
  let out := out.init
  let authorizationServices ←
    out.authorizationServices.fill .outsideArray (fun service _ => .ok (cbEnum service)) res.authorizationServices
  return res.authorizationMode.convert {
    out with
    header := res.header.convert
    responseCode := cbEnum res.responseCode
    authorizationServices
    certificateInstallationService := cbBool res.certificateInstallationService }

/-- "add pnc": the mode of the message is not looked at. -/
def AuthorizationRequest.convert (req : AuthorizationRequest) (out : Iso20.AuthorizationReqType capacities) :
    Iso20.AuthorizationReqType capacities :=
  let out := out.init
  { out with
    header := req.header.convert
    selectedAuthorizationService := cbEnum req.selectedAuthorizationService
    eimAReqAuthorizationMode := out.eimAReqAuthorizationMode.set id }

def AuthorizationResponse.convert (res : AuthorizationResponse) : Iso20.AuthorizationResType :=
  { header := res.header.convert
    responseCode := cbEnum res.responseCode
    evseProcessing := cbEnum res.evseProcessing }

namespace Datatypes

def EvpptControlMode.convert (mode : EvpptControlMode) (out : Iso20.EvPowerProfileType capacities) :
    Iso20.EvPowerProfileType capacities :=
  match mode with
  | .dynamic => { out with dynamicEvpptControlMode := out.dynamicEvpptControlMode.set id }
  | .scheduled selectedSchedule acceptance => {
      out with
      scheduledEvpptControlMode := out.scheduledEvpptControlMode.set fun mode =>
        { selectedScheduleTupleId := selectedSchedule
          powerToleranceAcceptance :=
            mode.powerToleranceAcceptance.write (fun acceptance _ => cbEnum acceptance) acceptance } }

def PowerProfile.convert (profile : PowerProfile) (out : Iso20.EvPowerProfileType capacities) :
    Except Fault (Iso20.EvPowerProfileType capacities) := do
  -- The size of the list is not compared with that of the array.
  let out := profile.controlMode.convert { out.init with timeAnchor := profile.timeAnchor }
  let evPowerProfileEntries ←
    out.evPowerProfileEntries.fill .outsideArray (fun entry out => .ok (entry.convert out)) profile.entries
  return { out with evPowerProfileEntries }

end Datatypes

def PowerDeliveryRequest.convert (req : PowerDeliveryRequest) (out : Iso20.PowerDeliveryReqType capacities) :
    Except Fault (Iso20.PowerDeliveryReqType capacities) := do
  let out := out.init
  let evPowerProfile ← out.evPowerProfile.writeM PowerProfile.convert req.powerProfile
  return {
    header := req.header.convert
    evProcessing := cbEnum req.processing
    chargeProgress := cbEnum req.chargeProgress
    evPowerProfile
    bptChannelSelection := out.bptChannelSelection.write (fun selection _ => cbEnum selection) req.channelSelection }

def PowerDeliveryResponse.convert (res : PowerDeliveryResponse) (out : Iso20.PowerDeliveryResType) :
    Iso20.PowerDeliveryResType :=
  { header := res.header.convert
    responseCode := cbEnum res.responseCode
    evseStatus := (out.evseStatus.clear id).write (fun status _ => status.convert) res.status }

def SessionStopRequest.convert (req : SessionStopRequest) (out : Iso20.SessionStopReqType capacities) :
    Except Fault (Iso20.SessionStopReqType capacities) := do
  let out := out.init
  let evTerminationCode ← cpp2cbStringIfUsed req.evTerminationCode out.evTerminationCode
  let evTerminationExplanation ←
    cpp2cbStringIfUsed req.evTerminationExplanation out.evTerminationExplanation
  return {
    header := req.header.convert
    chargingSession := cbEnum req.chargingSession
    evTerminationCode
    evTerminationExplanation }

def SessionStopResponse.convert (res : SessionStopResponse) : Iso20.SessionStopResType :=
  { header := res.header.convert, responseCode := cbEnum res.responseCode }

theorem SessionSetupRequest.convert_codes (req : SessionSetupRequest) :
    Codes Fault.isThrown (fun req (out : Iso20.SessionSetupReqType capacities) => req.convert out) (·.convert)
      (fun req => req.evccid.length ≤ capacities.evccid) (fun _ => True) req := by
  intro out
  refine ((cpp2cbString_codes req.evccid out.init.evccid).bind fun _ evccid => Outcome.of_ok trivial ?_).mono
    (by simp) fun _ holds => holds
  simp only [iff_true] at evccid
  simp [Iso20.SessionSetupReqType.convert, evccid, bind_eq_ok]

theorem SessionSetupResponse.convert_codes (held : ResponseCode) (res : SessionSetupResponse) :
    Codes Fault.isThrown (fun res (out : Iso20.SessionSetupResType capacities) => res.convert out) (·.convert held)
      (fun res => res.evseid.length ≤ capacities.evseid) (fun res => held = res.responseCode) res := by
  -- A response comes back with the response code that the message held before.
  intro out
  refine ((cpp2cbString_codes res.evseid out.init.evseid).bind fun _ evseid => Outcome.of_ok trivial ?_).mono
    (by simp) fun _ holds => holds
  simp only [iff_true] at evseid
  cases res
  simp [Iso20.SessionSetupResType.convert, evseid, bind_eq_ok]

theorem AuthorizationSetupRequest.convert_convert (req : AuthorizationSetupRequest) :
    req.convert.convert = .ok req := by
  simp [AuthorizationSetupRequest.convert, Iso20.AuthorizationSetupReqType.convert]

@[simp] theorem convertGenChallenge_convert (challenge : GenChallenge) :
    (convertGenChallenge challenge).convert = .ok challenge := by
  simp [convertGenChallenge, Iso20.GenChallengeType.convert]

theorem cbEnum_codes {α : Type} [Enumeration α] (value : α) :
    Codes Fault.isThrown (fun value (_ : Int32) => .ok (cbEnum value)) cppEnum (fun _ => True)
      (fun _ => True) value := by
  intro out
  simp [Outcome]

def Datatypes.AsResAuthorizationMode.carried : AsResAuthorizationMode → AsResAuthorizationMode
  | .eim => .eim
  | .pnc challenge _ => .pnc challenge none

theorem AuthorizationSetupResponse.convert_codes (res : AuthorizationSetupResponse)
    (room : res.authorizationServices.length ≤ capacities.authorizationServices) :
    Codes Fault.isThrown (fun res (out : Iso20.AuthorizationSetupResType capacities) => res.convert out) (·.convert)
      (fun _ => True) (fun res => res.authorizationMode.carried = res.authorizationMode) res := by
  intro out
  refine ((Bounded.fill_codes _ room (fun service _ => cbEnum_codes service) _).bind fun _ services =>
    Outcome.of_ok trivial ?_).mono (by simp) fun _ holds => holds
  simp only [implies_true, iff_true] at services
  obtain ⟨header, code, list, installation, mode⟩ := res
  cases mode <;>
    simp [Iso20.AuthorizationSetupResType.convert, Iso20.AuthorizationSetupResType.authorizationMode,
      Iso20.AuthorizationSetupResType.init, AsResAuthorizationMode.convert, AsResAuthorizationMode.carried, services,
      Used.set, bind_eq_ok]

theorem AuthorizationRequest.convert_convert_iff (req : AuthorizationRequest)
    (out : Iso20.AuthorizationReqType capacities) :
    (req.convert out).convert = .ok req ↔ req.authorizationMode = .eim := by
  -- Every request comes back as one of the mode EIM.
  obtain ⟨header, service, mode⟩ := req
  simp [AuthorizationRequest.convert, Iso20.AuthorizationReqType.convert,
    Iso20.AuthorizationReqType.authorizationMode, Used.set, bind_eq_ok]
  exact eq_comm

theorem AuthorizationResponse.convert_convert (res : AuthorizationResponse) : res.convert.convert = .ok res := by
  simp [AuthorizationResponse.convert, Iso20.AuthorizationResType.convert, bind_eq_ok]

theorem Datatypes.PowerProfile.convert_codes (profile : PowerProfile)
    (room : profile.entries.length ≤ capacities.powerProfileEntries) :
    Codes Fault.isThrown (fun profile (out : Iso20.EvPowerProfileType capacities) => profile.convert out) (·.convert)
      (fun _ => True) (fun _ => True) profile := by
  intro out
  refine ((Bounded.fill_codes _ room (fun entry _ => entry.convert_codes) _).bind fun _ entries =>
    Outcome.of_ok trivial ?_).mono (by simp) fun _ holds => holds
  simp only [implies_true, iff_true] at entries
  obtain ⟨timeAnchor, mode, list⟩ := profile
  cases mode <;>
    simp [Iso20.EvPowerProfileType.convert, Iso20.EvPowerProfileType.controlMode, Iso20.EvPowerProfileType.init,
      EvpptControlMode.convert, entries, Used.set, bind_eq_ok]

theorem PowerDeliveryRequest.convert_codes (req : PowerDeliveryRequest)
    (room : ∀ profile ∈ req.powerProfile, profile.entries.length ≤ capacities.powerProfileEntries) :
    Codes Fault.isThrown (fun req (out : Iso20.PowerDeliveryReqType capacities) => req.convert out) (·.convert)
      (fun _ => True) (fun _ => True) req := by
  intro out
  refine ((Used.codes (fun profile present => profile.convert_codes (room profile present))
    out.init.evPowerProfile).bind fun _ profile => Outcome.of_ok trivial ?_).mono (by simp) fun _ holds => holds
  simp only [implies_true, iff_true] at profile
  simp [Iso20.PowerDeliveryReqType.convert, profile, bind_eq_ok]

theorem PowerDeliveryResponse.convert_convert (res : PowerDeliveryResponse) (out : Iso20.PowerDeliveryResType) :
    (res.convert out).convert = .ok res := by
  simp [PowerDeliveryResponse.convert, Iso20.PowerDeliveryResType.convert, bind_eq_ok]

theorem SessionStopRequest.convert_codes (req : SessionStopRequest) :
    Codes Fault.isThrown (fun req (out : Iso20.SessionStopReqType capacities) => req.convert out) (·.convert)
      (fun req => (∀ code ∈ req.evTerminationCode, code.length ≤ capacities.terminationCode) ∧
        ∀ text ∈ req.evTerminationExplanation, text.length ≤ capacities.terminationExplanation)
      (fun _ => True) req := by
  intro out
  refine ((cpp2cbStringIfUsed_codes req.evTerminationCode _).bind fun _ code =>
    (cpp2cbStringIfUsed_codes req.evTerminationExplanation _).bind fun _ text =>
      Outcome.of_ok trivial ?_).mono (by simp) fun _ holds => holds
  simp only [iff_true] at code text
  simp [Iso20.SessionStopReqType.convert, code, text, bind_eq_ok]

theorem SessionStopResponse.convert_convert (res : SessionStopResponse) : res.convert.convert = .ok res := by
  simp [SessionStopResponse.convert, Iso20.SessionStopResType.convert, bind_eq_ok]

/-- The messages whose lists and strings fit come back, except a `SessionSetupRes` with another response code
than the message holds that it is read into, and an `AuthorizationReq` of another mode than EIM. -/
theorem session_messages_round_trip_iff (capacities : SessionCapacities) :
    (∀ req : SessionSetupRequest, req.evccid.length ≤ capacities.evccid →
      ∀ out : Iso20.SessionSetupReqType capacities, (req.convert out >>= (·.convert)) = .ok req) ∧
    (∀ res : SessionSetupResponse, res.evseid.length ≤ capacities.evseid →
      ∀ (out : Iso20.SessionSetupResType capacities) (held : ResponseCode),
        (res.convert out >>= (·.convert held)) = .ok res ↔ held = res.responseCode) ∧
    (∀ req : AuthorizationSetupRequest, req.convert.convert = .ok req) ∧
    (∀ res : AuthorizationSetupResponse, res.authorizationServices.length ≤ capacities.authorizationServices →
      res.authorizationMode.carried = res.authorizationMode →
      ∀ out : Iso20.AuthorizationSetupResType capacities, (res.convert out >>= (·.convert)) = .ok res) ∧
    (∀ (req : AuthorizationRequest) (out : Iso20.AuthorizationReqType capacities),
      (req.convert out).convert = .ok req ↔ req.authorizationMode = .eim) ∧
    (∀ res : AuthorizationResponse, res.convert.convert = .ok res) ∧
    (∀ req : PowerDeliveryRequest,
      (∀ profile ∈ req.powerProfile, profile.entries.length ≤ capacities.powerProfileEntries) →
      ∀ out : Iso20.PowerDeliveryReqType capacities, (req.convert out >>= (·.convert)) = .ok req) ∧
    (∀ (res : PowerDeliveryResponse) (out : Iso20.PowerDeliveryResType), (res.convert out).convert = .ok res) ∧
    (∀ req : SessionStopRequest,
      (∀ code ∈ req.evTerminationCode, code.length ≤ capacities.terminationCode) →
      (∀ text ∈ req.evTerminationExplanation, text.length ≤ capacities.terminationExplanation) →
      ∀ out : Iso20.SessionStopReqType capacities, (req.convert out >>= (·.convert)) = .ok req) ∧
    (∀ res : SessionStopResponse, res.convert.convert = .ok res) ∧
    (∀ (req : DcChargeParameterDiscoveryRequest) (out : Iso20.Dc.DcChargeParameterDiscoveryReqType),
      (req.convert out).convert = .ok req) ∧
    ∀ (res : DcChargeParameterDiscoveryResponse) (out : Iso20.Dc.DcChargeParameterDiscoveryResType),
      (res.convert out).convert = .ok res := by
  refine ⟨fun req room out => ?_, fun res room out held => ?_, fun req => req.convert_convert,
    fun res room carried out => ?_, fun req out => req.convert_convert_iff out, fun res => res.convert_convert,
    fun req room out => ?_, fun res out => res.convert_convert out, fun req code text out => ?_,
    fun res => res.convert_convert, fun req out => req.convert_convert out, fun res out => res.convert_convert out⟩
  · exact (req.convert_codes.back_iff out).mpr ⟨room, trivial⟩
  · rw [(res.convert_codes held).back_iff out]
    exact ⟨fun both => both.2, fun same => ⟨room, same⟩⟩
  · exact ((res.convert_codes room).back_iff out).mpr ⟨trivial, carried⟩
  · exact ((req.convert_codes room).back_iff out).mpr ⟨trivial, trivial⟩
  · exact (req.convert_codes.back_iff out).mpr ⟨⟨code, text⟩, trivial⟩

namespace Sample

def sessionCapacities : SessionCapacities :=
  { evccid := 255, evseid := 255, authorizationServices := 2, pncId := 255, powerProfileEntries := 2048
    terminationCode := 80, terminationExplanation := 160, authorizationServices_lt := by decide }

def refusedSetup : SessionSetupResponse :=
  { responseCode := .failed, evseid := "DE*PNX*E12345*1" }

end Sample

theorem session_messages_round_trip_refused :
    (Sample.refusedSetup.convert (default : Iso20.SessionSetupResType Sample.sessionCapacities) >>=
      (·.convert .failed)) = .ok Sample.refusedSetup :=
  ((session_messages_round_trip_iff Sample.sessionCapacities).2.1 Sample.refusedSetup (by decide +kernel) default
    .failed).mpr rfl

/-- A refusal is read into a message that says OK, and says OK then. -/
theorem session_messages_round_trip_accepted :
    (Sample.refusedSetup.convert (default : Iso20.SessionSetupResType Sample.sessionCapacities) >>=
      (·.convert .ok)) ≠ .ok Sample.refusedSetup := by
  intro back
  have kept := ((Sample.refusedSetup.convert_codes .ok).back_iff
    (default : Iso20.SessionSetupResType Sample.sessionCapacities)).mp back
  cases kept.2

end LibIso15118
