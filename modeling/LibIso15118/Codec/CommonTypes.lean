import LibIso15118.Message.Messages
import LibIso15118.Shared.Codec

set_option autoImplicit false

/-!
# Conversion of the common types

The generated records of the EXI codec, and the macros and functions that convert them. A `char` of a string
is a byte, a member of type `int` that holds a truth value is an `Int32`, an enumeration of C is its
number. The functions `init_…` clear every flag and every length of a record, however deep. A conversion that
assigns every member does not take the record it fills.
-/

namespace LibIso15118

open Datatypes Codec

inductive Fault where
  | runtimeError (what : String)
  /-- `std::out_of_range` -/
  | outOfRange
  /-- An access behind the last entry of a generated array. -/
  | outsideArray
  /-- A write behind the end of what the message holds. -/
  | outsideTarget
  /-- A number that is not one of the enumerators. -/
  | unnamedEnumerator
  /-- `assert(false)` -/
  | assertion
  deriving DecidableEq

def Fault.isThrown : Fault → Prop
  | .runtimeError _ | .outOfRange => True
  | .outsideArray | .outsideTarget | .unnamedEnumerator | .assertion => False

section Members

variable {α β : Type} {capacity : Nat}

def cbBool (value : Bool) : Int32 := if value then 1 else 0

def cppBool (value : Int32) : Bool := value ≠ 0

@[simp] theorem cppBool_cbBool (value : Bool) : cppBool (cbBool value) = value := by
  cases value <;> rfl

/-- `CPP2CB_ASSIGN_IF_USED` -/
def cpp2cbAssignIfUsed (value : Option α) (out : Used α) : Used α := out.write (fun a _ => a) value

/-- `CB2CPP_ASSIGN_IF_USED` -/
def cb2cppAssignIfUsed (member : Used α) : Option α := member.read id

@[simp] theorem cb2cpp_assignIfUsed (value : Option α) (out : Used α) :
    cb2cppAssignIfUsed (cpp2cbAssignIfUsed value out) = value :=
  Used.read_write (fun _ _ => rfl) value out

/-- `CPP2CB_ASSIGN_IF_USED` of a truth value -/
def cpp2cbBoolIfUsed (value : Option Bool) (out : Used Int32) : Used Int32 :=
  out.write (fun a _ => cbBool a) value

/-- `CB2CPP_ASSIGN_IF_USED` of a truth value -/
def cb2cppBoolIfUsed (member : Used Int32) : Option Bool := member.read cppBool

@[simp] theorem cb2cpp_boolIfUsed (value : Option Bool) (out : Used Int32) :
    cb2cppBoolIfUsed (cpp2cbBoolIfUsed value out) = value :=
  Used.read_write (fun a _ => cppBool_cbBool a) value out

abbrev CbString (capacity : Nat) := Bounded capacity UInt8

def copyChars (characters : List UInt8) (out : CbString capacity) : Except Fault (CbString capacity) :=
  out.fill .outsideArray (fun char _ => .ok char) characters

/-- `CPP2CB_STRING` -/
def cpp2cbString (string : StdString) (out : CbString capacity) : Except Fault (CbString capacity) :=
  if capacity < string.length then .error (.runtimeError "String too long")
  else copyChars string.bytes out

/-- `CB2CPP_STRING` -/
def cb2cppString (member : CbString capacity) : Except Fault StdString := do
  let bytes ← member.entries .outsideArray .ok
  return { bytes }

/-- `CPP2CB_STRING_IF_USED` -/
def cpp2cbStringIfUsed (string : Option StdString) (out : Used (CbString capacity)) :
    Except Fault (Used (CbString capacity)) :=
  out.writeM cpp2cbString string

/-- `CB2CPP_STRING_IF_USED` -/
def cb2cppStringIfUsed (member : Used (CbString capacity)) : Except Fault (Option StdString) :=
  member.readM cb2cppString

/-- A list is copied to an array after its size is checked. -/
def cpp2cbArray (convert : α → β → Except Fault β) (list : List α) (out : Bounded capacity β) :
    Except Fault (Bounded capacity β) :=
  if capacity < list.length then .error (.runtimeError "array is too large")
  else out.fill .outsideArray convert list

/-- The entries of a `std::array` that are not assigned keep their initial value. -/
def cb2cppArray {count : Nat} (beyond : Fault) (initial : α) (convert : β → Except Fault α)
    (member : Bounded capacity β) : Except Fault (Vector α count) := do
  let list ← member.entries .outsideArray convert
  if count < list.length then .error beyond
  else return Vector.ofFn fun index => list.getD index initial

/-- `CPP2CB_BYTES` -/
def cpp2cbBytes (bytes : StdString) (out : CbString capacity) : Except Fault (CbString capacity) :=
  if capacity < bytes.length then .error (.runtimeError "Byte vector too long")
  else copyChars bytes.bytes out

/-- `CB2CPP_BYTES` copies the whole array, whatever its length says, over what the target holds. -/
def cb2cppBytes (member : CbString capacity) (out : StdString) : Except Fault StdString :=
  if out.length < member.length then .error (.runtimeError "Byte array too long")
  else if out.length < capacity then .error .outsideTarget
  else .ok { bytes := member.array.toList ++ out.bytes.drop capacity }

/-- `CB2CPP_BYTES_IF_USED`: the check and the copy each have a target that was just made. -/
def cb2cppBytesIfUsed (member : Used (CbString capacity)) : Except Fault (Option StdString) :=
  member.readM fun bytes => cb2cppBytes bytes { bytes := [] }

theorem copyChars_outcome (string : StdString) (room : string.length ≤ capacity) (out : CbString capacity) :
    Outcome Fault.isThrown True
      (fun written => cb2cppString written = .ok string ∧ written.length = string.length)
      (copyChars string.bytes out) := by
  have inner : ∀ char ∈ string.bytes,
      Codes Fault.isThrown (fun char _ => .ok char) .ok (fun _ => True) (fun _ => True) char := by
    intro char _ out
    simp [Outcome]
  have filled := Bounded.store_load Fault.outsideArray string.bytes inner 0 out.array
    (by simpa [StdString.length] using room)
  refine (filled.andThen fun written loaded => ?_).mono (by simp) fun _ holds => holds
  have back : Bounded.load Fault.outsideArray .ok written 0 string.bytes.length = .ok string.bytes := by
    simpa using loaded.2
  simp only [Outcome.pure_iff, cb2cppString, Bounded.entries, back]
  exact ⟨rfl, rfl⟩

theorem cpp2cbString_codes (string : StdString) :
    Codes Fault.isThrown (@cpp2cbString capacity) cb2cppString
      (fun string => string.length ≤ capacity) (fun _ => True) string := by
  intro out
  refine (Outcome.checked trivial fun room => copyChars_outcome string (by omega) out).mono (by simp) ?_
  intro written back
  simp [back.1]

-- two characters, each of two bytes
example (out : CbString 3) : cpp2cbString "éé" out = .error (.runtimeError "String too long") := rfl

theorem cpp2cbStringIfUsed_codes (string : Option StdString) :
    Codes Fault.isThrown (@cpp2cbStringIfUsed capacity) cb2cppStringIfUsed
      (fun string => ∀ characters ∈ string, characters.length ≤ capacity) (fun _ => True) string := by
  intro out
  exact (Used.codes (fun string _ => cpp2cbString_codes string) out).mono Iff.rfl (by simp [cb2cppStringIfUsed])

theorem cpp2cbArray_codes {convert : α → β → Except Fault β} {back : β → Except Fault α} {fits kept : α → Prop}
    (list : List α) (inner : ∀ a ∈ list, Codes Fault.isThrown convert back fits kept a) :
    Codes Fault.isThrown (fun list (out : Bounded capacity β) => cpp2cbArray convert list out)
      (·.entries .outsideArray back)
      (fun list => list.length ≤ capacity ∧ ∀ a ∈ list, fits a) (fun list => ∀ a ∈ list, kept a) list := by
  intro out
  refine (Outcome.checked trivial fun room => Bounded.fill_codes _ (by omega) inner out).mono ?_ fun _ holds => holds
  rw [not_lt]

theorem cb2cppArray_codes {count : Nat} (beyond : Fault) (initial : α) {convert : α → β → Except Fault β}
    {back : β → Except Fault α} {fits : α → Prop} (array : Vector α count)
    (inner : ∀ a, Codes Fault.isThrown convert back fits (fun _ => True) a) :
    Codes Fault.isThrown (fun (array : Vector α count) (out : Bounded capacity β) =>
        cpp2cbArray convert array.toList out)
      (cb2cppArray beyond initial back) (fun array => count ≤ capacity ∧ ∀ a ∈ array.toList, fits a)
      (fun _ => True) array := by
  -- A `std::array` fits exactly if all its entries do.
  intro out
  refine (cpp2cbArray_codes array.toList (fun a _ => inner a) out).mono (by simp) ?_
  intro written entries
  simp only [implies_true, iff_true] at entries
  simp only [cb2cppArray, entries, iff_true]
  refine bind_eq_ok.mpr ⟨_, rfl, ?_⟩
  rw [if_neg (by simp), pure_eq_ok]
  ext index inside
  simp

theorem cb2cppBytes_never (positive : 0 < capacity) (member : CbString capacity) (string : StdString) :
    cb2cppBytes member { bytes := [] } ≠ .ok string := by
  by_cases empty : 0 < member.length <;> simp [cb2cppBytes, StdString.length, positive, empty]

end Members

/-- An enumeration of the source, whose values are converted by casts. -/
class Enumeration (α : Type) where
  toInt : α → Int32
  enumerators : List α
  found : ∀ a, enumerators.find? (fun b => toInt b == toInt a) = some a

/-- `cb_convert_enum` to the generated enumeration -/
def cbEnum {α : Type} [Enumeration α] (value : α) : Int32 := Enumeration.toInt value

/-- `cb_convert_enum` from the generated enumeration -/
def cppEnum {α : Type} [Enumeration α] (number : Int32) : Except Fault α :=
  match Enumeration.enumerators.find? fun b => Enumeration.toInt b == number with
  | some value => .ok value
  | none => .error .unnamedEnumerator

@[simp] theorem cppEnum_cbEnum {α : Type} [Enumeration α] (value : α) :
    cppEnum (cbEnum value) = .ok value := by
  simp only [cppEnum, cbEnum, Enumeration.found]

@[simp] theorem cppEnum_read_write {α : Type} [Enumeration α] (value : Option α) (out : Used Int32) :
    (out.write (fun a _ => cbEnum a) value).readM cppEnum = .ok value :=
  Used.readM_write (fun a _ => cppEnum_cbEnum a) value out

instance : Enumeration ResponseCode where
  toInt code := Int32.ofNat code.toNat
  enumerators :=
    [.ok, .okCertificateExpiresSoon, .okNewSessionEstablished, .okOldSessionJoined, .okPowerToleranceConfirmed,
      .warningAuthorizationSelectionInvalid, .warningCertificateExpired, .warningCertificateNotYetValid,
      .warningCertificateRevoked, .warningCertificateValidationError, .warningChallengeInvalid,
      .warningEimAuthorizationFailure, .warningEmspUnknown, .warningEvPowerProfileViolation,
      .warningGeneralPncAuthorizationError, .warningNoCertificateAvailable,
      .warningNoContractMatchingPcidFound, .warningPowerToleranceNotConfirmed,
      .warningScheduleRenegotiationFailed, .warningStandbyNotAllowed, .warningWpt, .failed,
      .failedAssociationError, .failedContactorError, .failedEvPowerProfileInvalid,
      .failedEvPowerProfileViolation, .failedMeteringSignatureNotValid,
      .failedNoEnergyTransferServiceSelected, .failedNoServiceRenegotiationSupported, .failedPauseNotAllowed,
      .failedPowerDeliveryNotApplied, .failedPowerToleranceNotConfirmed, .failedScheduleRenegotiation,
      .failedScheduleSelectionInvalid, .failedSequenceError, .failedServiceIdInvalid,
      .failedServiceSelectionInvalid, .failedSignatureError, .failedUnknownSession,
      .failedWrongChargeParameter]
  found := by intro code; cases code <;> rfl

instance : Enumeration Processing where
  toInt
    | .finished => 0
    | .ongoing => 1
    | .ongoingWaitingForCustomerInteraction => 2
  enumerators := [.finished, .ongoing, .ongoingWaitingForCustomerInteraction]
  found := by intro value; cases value <;> rfl

instance : Enumeration EvseNotification where
  toInt
    | .pause => 0
    | .exitStandby => 1
    | .terminate => 2
    | .scheduleRenegotiation => 3
    | .serviceRenegotiation => 4
    | .meteringConfirmation => 5
  enumerators :=
    [.pause, .exitStandby, .terminate, .scheduleRenegotiation, .serviceRenegotiation, .meteringConfirmation]
  found := by intro value; cases value <;> rfl

instance : Enumeration DerPowerFactorExcitation where
  toInt
    | .overExcited => 0
    | .underExcited => 1
  enumerators := [.overExcited, .underExcited]
  found := by intro value; cases value <;> rfl

instance : Enumeration DerCurveDataUnit where
  toInt
    | .v => 0
    | .hz => 1
    | .w => 2
    | .s => 3
    | .var => 4
  enumerators := [.v, .hz, .w, .s, .var]
  found := by intro value; cases value <;> rfl

instance : Enumeration DerPowerReference where
  toInt
    | .maximumDischargePower => 0
    | .momentaryPower => 1
  enumerators := [.maximumDischargePower, .momentaryPower]
  found := by intro value; cases value <;> rfl

namespace Iso20

structure RationalNumberType where
  exponent : Int8
  value : Int16
  deriving Inhabited

structure SessionIdType where
  bytes : Vector UInt8 8
  bytesLen : Nat
  deriving Inhabited

structure MessageHeaderType where
  sessionId : SessionIdType
  timeStamp : UInt64
  deriving Inhabited

structure EvseStatusType where
  notificationMaxDelay : UInt16
  evseNotification : Int32
  deriving Inhabited

structure DisplayParametersType where
  presentSoc : Used UInt8
  minimumSoc : Used UInt8
  targetSoc : Used UInt8
  maximumSoc : Used UInt8
  remainingTimeToMinimumSoc : Used UInt32
  remainingTimeToTargetSoc : Used UInt32
  remainingTimeToMaximumSoc : Used UInt32
  chargingComplete : Used Int32
  batteryEnergyCapacity : Used RationalNumberType
  inletHot : Used Int32
  deriving Inhabited

end Iso20

def Datatypes.RationalNumber.convert (number : RationalNumber) : Iso20.RationalNumberType :=
  { exponent := number.exponent, value := number.value }

def Iso20.RationalNumberType.convert (number : Iso20.RationalNumberType) : RationalNumber :=
  { exponent := number.exponent, value := number.value }

@[simp] theorem Datatypes.RationalNumber.convert_convert (number : RationalNumber) :
    number.convert.convert = number := rfl

/-- `CPP2CB_CONVERT_IF_USED` of a number -/
def cpp2cbConvertIfUsed (value : Option RationalNumber) (out : Used Iso20.RationalNumberType) :
    Used Iso20.RationalNumberType :=
  out.write (fun a _ => a.convert) value

/-- `CB2CPP_CONVERT_IF_USED` of a number -/
def cb2cppConvertIfUsed (member : Used Iso20.RationalNumberType) : Option RationalNumber :=
  member.read (·.convert)

@[simp] theorem cb2cpp_convertIfUsed (value : Option RationalNumber) (out : Used Iso20.RationalNumberType) :
    cb2cppConvertIfUsed (cpp2cbConvertIfUsed value out) = value :=
  Used.read_write (fun _ _ => rfl) value out

@[simp] theorem cb2cppConvertIfUsed_unused (value : Iso20.RationalNumberType) :
    cb2cppConvertIfUsed { value, isUsed := false } = none := rfl

@[simp] theorem cb2cppConvertIfUsed_clear (out : Used Iso20.RationalNumberType) :
    cb2cppConvertIfUsed (out.clear id) = none := rfl

def Header.convert (header : Header) : Iso20.MessageHeaderType :=
  { timeStamp := header.timestamp
    sessionId := { bytes := header.sessionId, bytesLen := 8 } }

def Iso20.MessageHeaderType.convert (header : Iso20.MessageHeaderType) : Except Fault Header :=
  if 8 < header.sessionId.bytesLen then .error .outsideArray
  else return {
    sessionId := Vector.ofFn fun index =>
      if index.val < header.sessionId.bytesLen then header.sessionId.bytes[index] else 0
    timestamp := header.timeStamp }

@[simp] theorem Header.convert_convert (header : Header) : header.convert.convert = .ok header := by
  simp [Iso20.MessageHeaderType.convert, Header.convert, pure_eq_ok]

def Datatypes.EvseStatus.convert (status : EvseStatus) : Iso20.EvseStatusType :=
  { notificationMaxDelay := status.notificationMaxDelay
    evseNotification := cbEnum status.notification }

def Iso20.EvseStatusType.convert (status : Iso20.EvseStatusType) : Except Fault EvseStatus := do
  let notification ← cppEnum status.evseNotification
  return { notification, notificationMaxDelay := status.notificationMaxDelay }

@[simp] theorem Datatypes.EvseStatus.convert_convert (status : EvseStatus) : status.convert.convert = .ok status := by
  simp only [Iso20.EvseStatusType.convert, EvseStatus.convert, cppEnum_cbEnum]
  rfl

namespace Iso20.DisplayParametersType

/-- `init_iso20_ac_DisplayParametersType` and `init_iso20_dc_DisplayParametersType` -/
def init (out : DisplayParametersType) : DisplayParametersType :=
  { presentSoc := out.presentSoc.clear id
    minimumSoc := out.minimumSoc.clear id
    targetSoc := out.targetSoc.clear id
    maximumSoc := out.maximumSoc.clear id
    remainingTimeToMinimumSoc := out.remainingTimeToMinimumSoc.clear id
    remainingTimeToTargetSoc := out.remainingTimeToTargetSoc.clear id
    remainingTimeToMaximumSoc := out.remainingTimeToMaximumSoc.clear id
    chargingComplete := out.chargingComplete.clear id
    batteryEnergyCapacity := out.batteryEnergyCapacity.clear id
    inletHot := out.inletHot.clear id }

def convert (parameters : DisplayParametersType) : DisplayParameters :=
  { presentSoc := cb2cppAssignIfUsed parameters.presentSoc
    minSoc := cb2cppAssignIfUsed parameters.minimumSoc
    targetSoc := cb2cppAssignIfUsed parameters.targetSoc
    maxSoc := cb2cppAssignIfUsed parameters.maximumSoc
    remainingTimeToMinSoc := cb2cppAssignIfUsed parameters.remainingTimeToMinimumSoc
    remainingTimeToTargetSoc := cb2cppAssignIfUsed parameters.remainingTimeToTargetSoc
    remainingTimeToMaxSoc := cb2cppAssignIfUsed parameters.remainingTimeToMaximumSoc
    chargingComplete := cb2cppBoolIfUsed parameters.chargingComplete
    batteryEnergyCapacity := cb2cppConvertIfUsed parameters.batteryEnergyCapacity
    inletHot := cb2cppBoolIfUsed parameters.inletHot }

end Iso20.DisplayParametersType

def Datatypes.DisplayParameters.convert (parameters : DisplayParameters) (out : Iso20.DisplayParametersType) :
    Iso20.DisplayParametersType :=
  let out := out.init
  { presentSoc := cpp2cbAssignIfUsed parameters.presentSoc out.presentSoc
    minimumSoc := cpp2cbAssignIfUsed parameters.minSoc out.minimumSoc
    targetSoc := cpp2cbAssignIfUsed parameters.targetSoc out.targetSoc
    maximumSoc := cpp2cbAssignIfUsed parameters.maxSoc out.maximumSoc
    remainingTimeToMinimumSoc :=
      cpp2cbAssignIfUsed parameters.remainingTimeToMinSoc out.remainingTimeToMinimumSoc
    remainingTimeToTargetSoc :=
      cpp2cbAssignIfUsed parameters.remainingTimeToTargetSoc out.remainingTimeToTargetSoc
    remainingTimeToMaximumSoc :=
      cpp2cbAssignIfUsed parameters.remainingTimeToMaxSoc out.remainingTimeToMaximumSoc
    chargingComplete := cpp2cbBoolIfUsed parameters.chargingComplete out.chargingComplete
    batteryEnergyCapacity := cpp2cbConvertIfUsed parameters.batteryEnergyCapacity out.batteryEnergyCapacity
    inletHot := cpp2cbBoolIfUsed parameters.inletHot out.inletHot }

@[simp] theorem Datatypes.DisplayParameters.convert_convert (parameters : DisplayParameters)
    (out : Iso20.DisplayParametersType) : (parameters.convert out).convert = parameters := by
  simp [Iso20.DisplayParametersType.convert, Datatypes.DisplayParameters.convert]

@[simp] theorem Datatypes.DisplayParameters.read_write (parameters : Option DisplayParameters)
    (out : Used Iso20.DisplayParametersType) :
    (out.write Datatypes.DisplayParameters.convert parameters).read (·.convert) = parameters :=
  Used.read_write (fun parameters out => parameters.convert_convert out) parameters out

@[simp] theorem Datatypes.EvseStatus.read_write (status : Option EvseStatus) (out : Used Iso20.EvseStatusType) :
    (out.write (fun status _ => status.convert) status).readM (·.convert) = .ok status :=
  Used.readM_write (fun status _ => status.convert_convert) status out

end LibIso15118
