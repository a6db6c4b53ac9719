import Mathlib.Data.Rat.Floor
import Mathlib.Data.Int.Log

set_option autoImplicit false

namespace LibIso15118

namespace Datatypes

/-- `std::string`: bytes, whatever they encode. -/
structure StdString where
  bytes : List UInt8
  deriving DecidableEq, Inhabited

namespace StdString

def length (string : StdString) : Nat := string.bytes.length

def ofText (text : String) : StdString := ⟨text.toByteArray.data.toList⟩

instance : Coe String StdString := ⟨ofText⟩

@[simp] theorem length_ofText_empty : (ofText "").length = 0 := rfl

@[simp] theorem ofText_inj {text text' : String} : ofText text = ofText text' ↔ text = text' := by
  simp [ofText, ByteArray.ext_iff, ← String.toByteArray_inj]

end StdString

abbrev SessionId := Vector UInt8 8
abbrev GenChallenge := Vector UInt8 16

inductive ResponseCode where
  | ok
  | okCertificateExpiresSoon
  | okNewSessionEstablished
  | okOldSessionJoined
  | okPowerToleranceConfirmed
  | warningAuthorizationSelectionInvalid
  | warningCertificateExpired
  | warningCertificateNotYetValid
  | warningCertificateRevoked
  | warningCertificateValidationError
  | warningChallengeInvalid
  | warningEimAuthorizationFailure
  | warningEmspUnknown
  | warningEvPowerProfileViolation
  | warningGeneralPncAuthorizationError
  | warningNoCertificateAvailable
  | warningNoContractMatchingPcidFound
  | warningPowerToleranceNotConfirmed
  | warningScheduleRenegotiationFailed
  | warningStandbyNotAllowed
  | warningWpt
  | failed
  | failedAssociationError
  | failedContactorError
  | failedEvPowerProfileInvalid
  | failedEvPowerProfileViolation
  | failedMeteringSignatureNotValid
  | failedNoEnergyTransferServiceSelected
  | failedNoServiceRenegotiationSupported
  | failedPauseNotAllowed
  | failedPowerDeliveryNotApplied
  | failedPowerToleranceNotConfirmed
  | failedScheduleRenegotiation
  | failedScheduleSelectionInvalid
  | failedSequenceError
  | failedServiceIdInvalid
  | failedServiceSelectionInvalid
  | failedSignatureError
  | failedUnknownSession
  | failedWrongChargeParameter
  deriving DecidableEq

/-- The numeric values of the source run from 0 to 39 in declaration order. -/
def ResponseCode.toNat (code : ResponseCode) : Nat := code.ctorIdx

/-- The comparison `response_code >= ResponseCode::FAILED` that every state makes. -/
def ResponseCode.isFailed (code : ResponseCode) : Bool :=
  decide (ResponseCode.failed.toNat ≤ code.toNat)

@[simp] theorem ResponseCode.isFailed_ok : ResponseCode.ok.isFailed = false := rfl

@[simp] theorem ResponseCode.isFailed_warningStandbyNotAllowed :
    ResponseCode.warningStandbyNotAllowed.isFailed = false := rfl

@[simp] theorem ResponseCode.isFailed_failedUnknownSession :
    ResponseCode.failedUnknownSession.isFailed = true := rfl

inductive Processing where
  | finished
  | ongoing
  | ongoingWaitingForCustomerInteraction
  deriving DecidableEq

inductive Authorization where
  | eim
  | pnc
  deriving DecidableEq

-- `enum class ServiceCategory : uint16_t` is filled by casts from received ids and is
-- value-initialised to 0, so it is its underlying integer with named values.
structure ServiceCategory where
  value : UInt16
  deriving DecidableEq

namespace ServiceCategory

def ac : ServiceCategory := ⟨1⟩
def dc : ServiceCategory := ⟨2⟩
def wpt : ServiceCategory := ⟨3⟩
def dcAcdp : ServiceCategory := ⟨4⟩
def acBpt : ServiceCategory := ⟨5⟩
def dcBpt : ServiceCategory := ⟨6⟩
def dcAcdpBpt : ServiceCategory := ⟨7⟩
def mcs : ServiceCategory := ⟨8⟩
def mcsBpt : ServiceCategory := ⟨9⟩
def acDer : ServiceCategory := ⟨10⟩
def internet : ServiceCategory := ⟨65⟩
def parkingStatus : ServiceCategory := ⟨66⟩

end ServiceCategory

inductive EvseNotification where
  | pause
  | exitStandby
  | terminate
  | scheduleRenegotiation
  | serviceRenegotiation
  | meteringConfirmation
  deriving DecidableEq

inductive ChargingSession where
  | pause
  | terminate
  | serviceRenegotiation
  deriving DecidableEq

-- The enumerations below have no enumerator of value 0 in the source; `unset` is the value a
-- value-initialised field has.
inductive AcConnector where
  | unset
  | singlePhase
  | threePhase
  deriving DecidableEq

def AcConnector.toInt : AcConnector → Int32
  | .unset => 0
  | .singlePhase => 1
  | .threePhase => 3

inductive DcConnector where
  | core
  | extended
  | dual2
  | dual4
  deriving DecidableEq

def DcConnector.toInt : DcConnector → Int32
  | .core => 1
  | .extended => 2
  | .dual2 => 3
  | .dual4 => 4

inductive McsConnector where
  | mcs
  | chaoji
  | ultraChaoji
  | rMcs
  | xMcs
  | aviation
  | marine
  deriving DecidableEq

def McsConnector.toInt : McsConnector → Int32
  | .mcs => 1
  | .chaoji => 2
  | .ultraChaoji => 3
  | .rMcs => 4
  | .xMcs => 5
  | .aviation => 6
  | .marine => 7

inductive ControlMode where
  | unset
  | scheduled
  | dynamic
  deriving DecidableEq

def ControlMode.toInt : ControlMode → Int32
  | .unset => 0
  | .scheduled => 1
  | .dynamic => 2

inductive MobilityNeedsMode where
  | unset
  | providedByEvcc
  | providedBySecc
  deriving DecidableEq

def MobilityNeedsMode.toInt : MobilityNeedsMode → Int32
  | .unset => 0
  | .providedByEvcc => 1
  | .providedBySecc => 2

inductive Pricing where
  | noPricing
  | absolutePricing
  | priceLevels
  deriving DecidableEq

def Pricing.toInt : Pricing → Int32
  | .noPricing => 0
  | .absolutePricing => 1
  | .priceLevels => 2

inductive BptChannel where
  | unified
  | separated
  deriving DecidableEq

def BptChannel.toInt : BptChannel → Int32
  | .unified => 1
  | .separated => 2

inductive GeneratorMode where
  | gridFollowing
  | gridForming
  deriving DecidableEq

def GeneratorMode.toInt : GeneratorMode → Int32
  | .gridFollowing => 1
  | .gridForming => 2

inductive GridCodeIslandingDetectionMethod where
  | active
  | passive
  deriving DecidableEq

def GridCodeIslandingDetectionMethod.toInt : GridCodeIslandingDetectionMethod → Int32
  | .active => 1
  | .passive => 2

inductive DerCurveDataUnit where
  | v
  | hz
  | w
  | s
  | var
  deriving DecidableEq

inductive DerPowerReference where
  | maximumDischargePower
  | momentaryPower
  deriving DecidableEq

inductive DerPowerFactorExcitation where
  | overExcited
  | underExcited
  deriving DecidableEq

structure DerControlFunctions where
  standardBitmap : UInt32 := 0
  extendedBitmap : UInt32 := 0
  voltWatt : Bool := false
  dsoQSetpointProvision : Bool := false
  dsoCosPhiSetpointProvision : Bool := false
  dcInjectionRestriction : Bool := false
  underFrequencyWatt : Bool := false
  overFrequencyWatt : Bool := false
  voltVar : Bool := false
  wattVar : Bool := false
  wattCosPhi : Bool := false
  overVoltageFaultRideThrough : Bool := false
  underVoltageFaultRideThrough : Bool := false
  zeroCurrent : Bool := false
  deriving DecidableEq

inductive Protocol where
  | ftp
  | http
  | https
  deriving DecidableEq

/-- `from_Protocol` -/
def fromProtocol : Protocol → StdString
  | .ftp => "ftp"
  | .http => "http"
  | .https => "https"

-- `Port`, `IntendedService` and `ParkingStatus` are value-initialised by `emplace_back` or cast
-- from application integers, so they too are their underlying integer.
structure Port where
  value : Int32 := 0
  deriving DecidableEq

namespace Port

def port20 : Port := ⟨20⟩
def port21 : Port := ⟨21⟩
def port80 : Port := ⟨80⟩
def port443 : Port := ⟨443⟩

end Port

structure IntendedService where
  value : Int32 := 0
  deriving DecidableEq

structure ParkingStatus where
  value : Int32 := 0
  deriving DecidableEq

structure RationalNumber where
  value : Int16 := 0
  exponent : Int8 := 0
  deriving DecidableEq

/-- `from_RationalNumber`, with `float` read as the exact number it denotes. -/
def fromRationalNumber (number : RationalNumber) : ℚ :=
  (number.value.toInt : ℚ) * (10 : ℚ) ^ number.exponent.toInt

/-- Truncation towards zero, as `static_cast` does from a floating to an integral type. -/
def truncate (x : ℚ) : Int := if 0 ≤ x then ⌊x⌋ else ⌈x⌉

/-- `from_float`: four significant digits, the rest is cut off. -/
def fromFloat (x : ℚ) : RationalNumber :=
  if x = 0 then {}
  else
    let exponent : Int8 := Int8.ofInt (Int.log 10 |x|) - 3
    { value := Int16.ofInt (truncate (x * (10 : ℚ) ^ (-exponent.toInt)))
      exponent }

/-- The conversion from `uint32_t` to `float`, which has 24 significant bits: to the nearest such number,
and to the even one of two that are as near. -/
def floatOfUInt32 (n : UInt32) : Nat :=
  let unit := 2 ^ (n.toNat.log2 - 23)
  let quotient := n.toNat / unit
  let rest := n.toNat % unit
  if 2 * rest < unit ∨ 2 * rest = unit ∧ quotient % 2 = 0 then quotient * unit
  else (quotient + 1) * unit

structure EvseStatus where
  notificationMaxDelay : UInt16
  notification : EvseNotification
  deriving DecidableEq

structure AcParameterList where
  connector : AcConnector
  controlMode : ControlMode
  mobilityNeedsMode : MobilityNeedsMode
  evseNominalVoltage : UInt32
  pricing : Pricing
  deriving DecidableEq

structure AcBptParameterList extends AcParameterList where
  bptChannel : BptChannel
  generatorMode : GeneratorMode
  gridCodeDetectionMethod : GridCodeIslandingDetectionMethod
  deriving DecidableEq

structure AcDerParameterList extends AcBptParameterList where
  controlFunctions : DerControlFunctions
  deriving DecidableEq

structure DcParameterList where
  connector : DcConnector
  controlMode : ControlMode
  mobilityNeedsMode : MobilityNeedsMode
  pricing : Pricing
  deriving DecidableEq

structure DcBptParameterList extends DcParameterList where
  bptChannel : BptChannel
  generatorMode : GeneratorMode
  deriving DecidableEq

structure McsParameterList where
  connector : McsConnector
  controlMode : ControlMode
  mobilityNeedsMode : MobilityNeedsMode
  pricing : Pricing
  deriving DecidableEq

structure McsBptParameterList extends McsParameterList where
  bptChannel : BptChannel
  generatorMode : GeneratorMode
  deriving DecidableEq

structure InternetParameterList where
  protocol : Protocol := .ftp
  port : Port := {}
  deriving DecidableEq

structure ParkingParameterList where
  intendedService : IntendedService := {}
  parkingStatus : ParkingStatus := {}
  deriving DecidableEq

structure ScheduledClReqControlMode where
  targetEnergyRequest : Option RationalNumber := none
  maxEnergyRequest : Option RationalNumber := none
  minEnergyRequest : Option RationalNumber := none

structure DynamicClReqControlMode where
  departureTime : Option UInt32 := none
  targetEnergyRequest : RationalNumber := {}
  maxEnergyRequest : RationalNumber := {}
  minEnergyRequest : RationalNumber := {}

structure DynamicClResControlMode where
  departureTime : Option UInt32 := none
  minimumSoc : Option UInt8 := none
  targetSoc : Option UInt8 := none
  ackMaxDelay : Option UInt16 := none

structure PowerScheduleEntry where
  duration : UInt32
  power : RationalNumber
  powerL2 : Option RationalNumber := none
  powerL3 : Option RationalNumber := none

structure MeterInfo where
  meterId : StdString
  chargedEnergyReadingWh : UInt64
  bptDischargedEnergyReadingWh : Option UInt64 := none
  capacitiveEnergyReadingVarh : Option UInt64 := none
  bptInductiveEnergyReadingVarh : Option UInt64 := none
  meterSignature : Option StdString := none
  meterStatus : Option Int16 := none
  meterTimestamp : Option UInt64 := none

structure DisplayParameters where
  presentSoc : Option UInt8 := none
  minSoc : Option UInt8 := none
  targetSoc : Option UInt8 := none
  maxSoc : Option UInt8 := none
  remainingTimeToMinSoc : Option UInt32 := none
  remainingTimeToTargetSoc : Option UInt32 := none
  remainingTimeToMaxSoc : Option UInt32 := none
  chargingComplete : Option Bool := none
  batteryEnergyCapacity : Option RationalNumber := none
  inletHot : Option Bool := none

structure DetailedCost where
  amount : RationalNumber
  costPerUnit : RationalNumber

structure DetailedTax where
  taxRuleId : UInt32
  amount : RationalNumber

structure Receipt where
  timeAnchor : UInt64
  energyCosts : Option DetailedCost := none
  occupancyCosts : Option DetailedCost := none
  additionalServiceCosts : Option DetailedCost := none
  overstayCosts : Option DetailedCost := none
  taxCosts : List DetailedTax := []

end Datatypes

structure Header where
  sessionId : Datatypes.SessionId := Vector.replicate 8 0
  timestamp : UInt64 := 0
  deriving DecidableEq

end LibIso15118
