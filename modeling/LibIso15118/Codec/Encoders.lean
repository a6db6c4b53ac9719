import LibIso15118.Codec.AcChargeParameterDiscovery
import LibIso15118.Shared.ArrayWrites

set_option autoImplicit false

/-!
# What the encoders write to the generated arrays

The conversions to the generated records once more, with nothing but their accesses to arrays, in the order of
the source. The capacities are arbitrary, and so is the width of the members that count entries.
-/

namespace LibIso15118

open Datatypes ArrayWrites ArrayWrites.Writes

/-- `std::runtime_error` -/
def Fault.isRuntimeError : Fault → Prop
  | .runtimeError _ => True
  | .outOfRange | .outsideArray | .outsideTarget | .unnamedEnumerator | .assertion => False

section Primitives

variable {α : Type}

def writeList (array : ArrayType) (entry : Writes Fault → α → Writes Fault) (list : List α) : Writes Fault :=
  -- A list is copied without a look at the capacity.
  fill .outsideArray array id entry list

/-- The same, with an index of type `uint8_t`. -/
def writeListByte (array : ArrayType) (entry : Writes Fault → α → Writes Fault) (list : List α) : Writes Fault :=
  fill .outsideArray array (· % 2 ^ 8) entry list

def writeListChecked (array : ArrayType) (entry : Writes Fault → α → Writes Fault) (list : List α) :
    Writes Fault :=
  -- The number of entries is checked first.
  inOrder [
    require (.runtimeError "array is too large") (list.length ≤ array.capacity),
    writeList array entry list]

def plain (place : Writes Fault) (_ : α) : Writes Fault := place

def ifUsed (write : α → Writes Fault) : Option α → Writes Fault
  | some value => write value
  | none => inOrder []

/-- `CPP2CB_STRING` of a string in an entry of an array: the access to the entry comes after the check. -/
def writeStringAt (place : Writes Fault) (array : ArrayType) (string : StdString) : Writes Fault :=
  inOrder [
    require (.runtimeError "String too long") (string.length ≤ array.capacity),
    place,
    writeList array plain string.bytes]

/-- `CPP2CB_STRING` -/
def writeString (array : ArrayType) (string : StdString) : Writes Fault := writeStringAt (inOrder []) array string

/-- `CPP2CB_BYTES` -/
def writeBytes (array : ArrayType) (bytes : List α) : Writes Fault :=
  inOrder [
    require (.runtimeError "Byte vector too long") (bytes.length ≤ array.capacity),
    writeList array plain bytes]

end Primitives

def Header.writes (sessionId : ArrayType) (header : Header) : Writes Fault :=
  -- The session id is copied whole, and its length is always 8.
  writeList sessionId plain header.sessionId.toList

/-- The arrays, and `sizeof` of an element of the array of tax costs. -/
structure MeteringArrays where
  meterId : ArrayType
  meterSignature : ArrayType
  taxCosts : ArrayType
  detailedTaxSize : Nat

namespace Datatypes

def MeterInfo.writes (arrays : MeteringArrays) (info : MeterInfo) : Writes Fault :=
  inOrder [
    writeString arrays.meterId info.meterId,
    ifUsed (fun signature => writeBytes arrays.meterSignature signature.bytes) info.meterSignature]

def Receipt.writes (arrays : MeteringArrays) (receipt : Receipt) : Writes Fault :=
  -- The number of tax costs is compared with the number of bytes.
  inOrder [
    require (.runtimeError "tax costs array is too large")
      (receipt.taxCosts.length ≤ arrays.taxCosts.capacity * arrays.detailedTaxSize),
    writeList arrays.taxCosts plain receipt.taxCosts]

end Datatypes

structure PriceArrays where
  absoluteId : ArrayType
  absoluteDescription : ArrayType
  currency : ArrayType
  language : ArrayType
  priceAlgorithm : ArrayType
  taxRules : ArrayType
  taxRuleName : ArrayType
  priceRuleStacks : ArrayType
  priceRules : ArrayType
  overstayRules : ArrayType
  overstayRuleDescription : ArrayType
  additionalServices : ArrayType
  serviceName : ArrayType
  levelId : ArrayType
  levelDescription : ArrayType
  priceLevels : ArrayType

structure ScheduleArrays extends PriceArrays where
  evCurrency : ArrayType
  evPriceAlgorithm : ArrayType
  evPowerEntries : ArrayType
  evPriceRuleStacks : ArrayType
  evPriceRules : ArrayType
  powerEntries : ArrayType
  scheduleTuples : ArrayType

namespace Datatypes

def TaxRule.writes (arrays : PriceArrays) (rule : TaxRule) : Writes Fault :=
  ifUsed (writeString arrays.taxRuleName) rule.taxRuleName

def PriceRuleStack.writes (arrays : PriceArrays) (stack : PriceRuleStack) : Writes Fault :=
  writeListChecked arrays.priceRules plain stack.priceRule.toList

def OverstayRule.writes (arrays : PriceArrays) (rule : OverstayRule) : Writes Fault :=
  ifUsed (writeString arrays.overstayRuleDescription) rule.overstayRuleDescription

def AbsolutePriceSchedule.writes (arrays : PriceArrays) (schedule : AbsolutePriceSchedule) : Writes Fault :=
  inOrder [
    ifUsed (writeString arrays.absoluteId) schedule.id,
    ifUsed (writeString arrays.absoluteDescription) schedule.priceScheduleDescription,
    writeString arrays.currency schedule.currency,
    writeString arrays.language schedule.language,
    writeString arrays.priceAlgorithm schedule.priceAlgorithm,
    ifUsed
      (fun rules =>
        writeListChecked arrays.taxRules (placed (·.writes arrays)) rules.toList)
      schedule.taxRules,
    writeListChecked arrays.priceRuleStacks (placed (·.writes arrays))
      schedule.priceRuleStacks.toList,
    ifUsed
      (fun rules =>
        writeListChecked arrays.overstayRules (placed (·.writes arrays))
          rules.overstayRule)
      schedule.overstayRules,
    ifUsed
      (fun services =>
        writeListChecked arrays.additionalServices
          (fun place service => writeStringAt place arrays.serviceName service.serviceName) services.toList)
      schedule.additionalSelectedServices]

def PriceLevelSchedule.writes (arrays : PriceArrays) (schedule : PriceLevelSchedule) : Writes Fault :=
  inOrder [
    ifUsed (writeString arrays.levelId) schedule.id,
    ifUsed (writeString arrays.levelDescription) schedule.priceScheduleDescription,
    writeListChecked arrays.priceLevels plain schedule.priceLevelScheduleEntries]

def PriceSchedule.writes (arrays : PriceArrays) : PriceSchedule → Writes Fault
  | .none => inOrder []
  | .absolute schedule => schedule.writes arrays
  | .priceLevel schedule => schedule.writes arrays

def PowerSchedule.writes (arrays : ScheduleArrays) (schedule : PowerSchedule) : Writes Fault :=
  writeListChecked arrays.powerEntries plain schedule.entries

def ChargingSchedule.writes (arrays : ScheduleArrays) (schedule : ChargingSchedule) : Writes Fault :=
  inOrder [
    schedule.powerSchedule.writes arrays,
    schedule.priceSchedule.writes arrays.toPriceArrays]

def ScheduleTuple.writes (arrays : ScheduleArrays) (tuple : ScheduleTuple) : Writes Fault :=
  inOrder [
    tuple.chargingSchedule.writes arrays,
    ifUsed (·.writes arrays) tuple.dischargingSchedule]

def SeResControlMode.writes (arrays : ScheduleArrays) : SeResControlMode → Writes Fault
  | .dynamic mode => mode.priceSchedule.writes arrays.toPriceArrays
  | .scheduled mode =>
      writeListChecked arrays.scheduleTuples (placed (·.writes arrays))
        mode.scheduleTuple

def EvPriceRuleStack.writes (arrays : ScheduleArrays) (stack : EvPriceRuleStack) : Writes Fault :=
  writeListChecked arrays.evPriceRules plain stack.priceRules

def EvAbsolutePriceSchedule.writes (arrays : ScheduleArrays) (schedule : EvAbsolutePriceSchedule) :
    Writes Fault :=
  inOrder [
    writeString arrays.evCurrency schedule.currency,
    writeString arrays.evPriceAlgorithm schedule.priceAlgorithm,
    writeListChecked arrays.evPriceRuleStacks (placed (·.writes arrays))
      schedule.priceRuleStacks]

def EvEnergyOffer.writes (arrays : ScheduleArrays) (offer : EvEnergyOffer) : Writes Fault :=
  inOrder [
    writeListChecked arrays.evPowerEntries plain offer.powerSchedule.entries,
    offer.absolutePriceSchedule.writes arrays]

def SeReqControlMode.writes (arrays : ScheduleArrays) : SeReqControlMode → Writes Fault
  | .dynamic _ => inOrder []
  | .scheduled mode => ifUsed (·.writes arrays) mode.energyOffer

end Datatypes

structure ServiceArrays where
  supportedServiceIds : ArrayType
  energyServices : ArrayType
  vasServices : ArrayType
  selectedServices : ArrayType
  parameterSets : ArrayType
  parameters : ArrayType
  parameterName : ArrayType
  finiteString : ArrayType

namespace Datatypes

/-- `ParameterValueVisitor` -/
def ParameterValue.writes (arrays : ServiceArrays) : ParameterValue → Writes Fault
  | .name string => writeString arrays.finiteString string
  | .bool _ | .int8 _ | .int16 _ | .int32 _ | .rational _ => inOrder []

def Parameter.writes (arrays : ServiceArrays) (parameter : Parameter) : Writes Fault :=
  inOrder [
    writeString arrays.parameterName parameter.name,
    parameter.value.writes arrays]

def ParameterSet.writes (arrays : ServiceArrays) (set : ParameterSet) : Writes Fault :=
  writeListByte arrays.parameters (placed (·.writes arrays)) set.parameter

def DerCurve.writes (points : ArrayType) (curve : DerCurve) : Writes Fault :=
  -- The list is copied whole, at most as many points as there is room for.
  let pointCount := min curve.curveDataPoints.length points.capacity
  inOrder [
    entries .outsideArray points id plain (curve.curveDataPoints.take pointCount),
    leave points ((List.range pointCount).map id) (pointCount % 2 ^ 16)]

end Datatypes

structure GeneratedArrays where
  appProtocols : ArrayType
  protocolNamespace : ArrayType
  sessionId : ArrayType
  evccId : ArrayType
  evseId : ArrayType
  authorizationServices : ArrayType
  genChallenge : ArrayType
  services : ServiceArrays
  schedules : ScheduleArrays
  powerProfileEntries : ArrayType
  terminationCode : ArrayType
  terminationExplanation : ArrayType
  dcSessionId : ArrayType
  dcMetering : MeteringArrays
  acSessionId : ArrayType
  acMetering : MeteringArrays
  curvePoints : ArrayType

variable (arrays : GeneratedArrays)

def SupportedAppProtocolRequest.writes (req : SupportedAppProtocolRequest) : Writes Fault :=
  writeList arrays.appProtocols
    (fun place item => writeStringAt place arrays.protocolNamespace item.protocolNamespace) req.appProtocol

def SessionSetupRequest.writes (req : SessionSetupRequest) : Writes Fault :=
  inOrder [
    writeString arrays.evccId req.evccid,
    req.header.writes arrays.sessionId]

def SessionSetupResponse.writes (res : SessionSetupResponse) : Writes Fault :=
  inOrder [
    writeString arrays.evseId res.evseid,
    res.header.writes arrays.sessionId]

/-- `AuthorizationModeVisitor` -/
def Datatypes.AsResAuthorizationMode.writes : AsResAuthorizationMode → Writes Fault
  | .eim => inOrder []
  | .pnc challenge _ => writeBytes arrays.genChallenge challenge.toList

def AuthorizationSetupResponse.writes (res : AuthorizationSetupResponse) : Writes Fault :=
  inOrder [
    writeListByte arrays.authorizationServices plain res.authorizationServices,
    res.authorizationMode.writes arrays,
    res.header.writes arrays.sessionId]

def ServiceDiscoveryRequest.writes (req : ServiceDiscoveryRequest) : Writes Fault :=
  inOrder [
    ifUsed (writeList arrays.services.supportedServiceIds plain) req.supportedServiceIds,
    req.header.writes arrays.sessionId]

def ServiceDiscoveryResponse.writes (res : ServiceDiscoveryResponse) : Writes Fault :=
  inOrder [
    writeListByte arrays.services.energyServices plain res.energyTransferServiceList,
    ifUsed (writeListByte arrays.services.vasServices plain) res.vasList,
    res.header.writes arrays.sessionId]

def ServiceDetailResponse.writes (res : ServiceDetailResponse) : Writes Fault :=
  inOrder [
    res.header.writes arrays.sessionId,
    writeListByte arrays.services.parameterSets (placed (·.writes arrays.services))
      res.serviceParameterList]

def ServiceSelectionRequest.writes (req : ServiceSelectionRequest) : Writes Fault :=
  inOrder [
    ifUsed (writeList arrays.services.selectedServices plain) req.selectedVasList,
    req.header.writes arrays.sessionId]

def ScheduleExchangeRequest.writes (req : ScheduleExchangeRequest) : Writes Fault :=
  inOrder [
    req.controlMode.writes arrays.schedules,
    req.header.writes arrays.sessionId]

def ScheduleExchangeResponse.writes (res : ScheduleExchangeResponse) : Writes Fault :=
  inOrder [
    res.header.writes arrays.sessionId,
    res.controlMode.writes arrays.schedules]

/-- The length is converted to `uint32_t`. -/
def Datatypes.PowerProfile.writes (profile : PowerProfile) : Writes Fault :=
  inOrder [
    Writes.entries .outsideArray arrays.powerProfileEntries id plain profile.entries,
    leave arrays.powerProfileEntries ((List.range profile.entries.length).map id)
      (profile.entries.length % 2 ^ 32)]

def PowerDeliveryRequest.writes (req : PowerDeliveryRequest) : Writes Fault :=
  inOrder [
    ifUsed (·.writes arrays) req.powerProfile,
    req.header.writes arrays.sessionId]

def SessionStopRequest.writes (req : SessionStopRequest) : Writes Fault :=
  inOrder [
    ifUsed (writeString arrays.terminationCode) req.evTerminationCode,
    ifUsed (writeString arrays.terminationExplanation) req.evTerminationExplanation,
    req.header.writes arrays.sessionId]

def DcChargeLoopResponse.writes (res : DcChargeLoopResponse) : Writes Fault :=
  inOrder [
    res.header.writes arrays.dcSessionId,
    ifUsed (·.writes arrays.dcMetering) res.meterInfo,
    ifUsed (·.writes arrays.dcMetering) res.receipt]

def AcChargeLoopResponse.writes (res : AcChargeLoopResponse) : Writes Fault :=
  inOrder [
    res.header.writes arrays.acSessionId,
    ifUsed (·.writes arrays.acMetering) res.meterInfo,
    ifUsed (·.writes arrays.acMetering) res.receipt]

def AcChargeParameterDiscoveryResponse.writes (res : AcChargeParameterDiscoveryResponse) : Writes Fault :=
  inOrder [
    res.header.writes arrays.acSessionId,
    inOrder (res.transferMode.curves.map (·.writes arrays.curvePoints))]

def Request.writes : Request → Writes Fault
  | .supportedAppProtocol req => req.writes arrays
  | .sessionSetup req => req.writes arrays
  | .authorizationSetup req => req.header.writes arrays.sessionId
  | .authorization req => req.header.writes arrays.sessionId
  | .serviceDiscovery req => req.writes arrays
  | .serviceDetail req => req.header.writes arrays.sessionId
  | .serviceSelection req => req.writes arrays
  | .dcChargeParameterDiscovery req => req.header.writes arrays.dcSessionId
  | .scheduleExchange req => req.writes arrays
  | .dcCableCheck req => req.header.writes arrays.dcSessionId
  | .dcPreCharge req => req.header.writes arrays.dcSessionId
  | .powerDelivery req => req.writes arrays
  | .dcChargeLoop req => req.header.writes arrays.dcSessionId
  | .dcWeldingDetection req => req.header.writes arrays.dcSessionId
  | .sessionStop req => req.writes arrays
  | .acChargeParameterDiscovery req => req.header.writes arrays.acSessionId
  | .acChargeLoop req => req.header.writes arrays.acSessionId

def Response.writes : Response → Writes Fault
  | .supportedAppProtocol _ => inOrder []
  | .sessionSetup res => res.writes arrays
  | .authorizationSetup res => res.writes arrays
  | .authorization res => res.header.writes arrays.sessionId
  | .serviceDiscovery res => res.writes arrays
  | .serviceDetail res => res.writes arrays
  | .serviceSelection res => res.header.writes arrays.sessionId
  | .dcChargeParameterDiscovery res => res.header.writes arrays.dcSessionId
  | .scheduleExchange res => res.writes arrays
  | .dcCableCheck res => res.header.writes arrays.dcSessionId
  | .dcPreCharge res => res.header.writes arrays.dcSessionId
  | .powerDelivery res => res.header.writes arrays.sessionId
  | .dcChargeLoop res => res.writes arrays
  | .dcWeldingDetection res => res.header.writes arrays.dcSessionId
  | .sessionStop res => res.header.writes arrays.sessionId
  | .acChargeParameterDiscovery res => res.writes arrays
  | .acChargeLoop res => res.writes arrays

end LibIso15118
