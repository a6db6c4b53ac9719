import LibIso15118.Codec.Metering

set_option autoImplicit false

namespace LibIso15118

open Datatypes Codec

namespace Iso20.Dc

structure ScheduledDcClReqControlModeType where
  evTargetEnergyRequest : Used RationalNumberType
  evMaximumEnergyRequest : Used RationalNumberType
  evMinimumEnergyRequest : Used RationalNumberType
  evTargetCurrent : RationalNumberType
  evTargetVoltage : RationalNumberType
  evMaximumChargePower : Used RationalNumberType
  evMinimumChargePower : Used RationalNumberType
  evMaximumChargeCurrent : Used RationalNumberType
  evMaximumVoltage : Used RationalNumberType
  evMinimumVoltage : Used RationalNumberType
  deriving Inhabited

structure BptScheduledDcClReqControlModeType extends ScheduledDcClReqControlModeType where
  evMaximumDischargePower : Used RationalNumberType
  evMinimumDischargePower : Used RationalNumberType
  evMaximumDischargeCurrent : Used RationalNumberType
  deriving Inhabited

structure DynamicDcClReqControlModeType where
  departureTime : Used UInt32
  evTargetEnergyRequest : RationalNumberType
  evMaximumEnergyRequest : RationalNumberType
  evMinimumEnergyRequest : RationalNumberType
  evMaximumChargePower : RationalNumberType
  evMinimumChargePower : RationalNumberType
  evMaximumChargeCurrent : RationalNumberType
  evMaximumVoltage : RationalNumberType
  evMinimumVoltage : RationalNumberType
  deriving Inhabited

structure BptDynamicDcClReqControlModeType extends DynamicDcClReqControlModeType where
  evMaximumDischargePower : RationalNumberType
  evMinimumDischargePower : RationalNumberType
  evMaximumDischargeCurrent : RationalNumberType
  evMaximumV2xEnergyRequest : Used RationalNumberType
  evMinimumV2xEnergyRequest : Used RationalNumberType
  deriving Inhabited

structure DcChargeLoopReqType where
  header : MessageHeaderType
  displayParameters : Used DisplayParametersType
  meterInfoRequested : Int32
  evPresentVoltage : RationalNumberType
  scheduledDcClReqControlMode : Used ScheduledDcClReqControlModeType
  bptScheduledDcClReqControlMode : Used BptScheduledDcClReqControlModeType
  dynamicDcClReqControlMode : Used DynamicDcClReqControlModeType
  bptDynamicDcClReqControlMode : Used BptDynamicDcClReqControlModeType
  deriving Inhabited

structure ScheduledDcClResControlModeType where
  evseMaximumChargePower : Used RationalNumberType
  evseMinimumChargePower : Used RationalNumberType
  evseMaximumChargeCurrent : Used RationalNumberType
  evseMaximumVoltage : Used RationalNumberType
  deriving Inhabited

structure BptScheduledDcClResControlModeType extends ScheduledDcClResControlModeType where
  evseMaximumDischargePower : Used RationalNumberType
  evseMinimumDischargePower : Used RationalNumberType
  evseMaximumDischargeCurrent : Used RationalNumberType
  evseMinimumVoltage : Used RationalNumberType
  deriving Inhabited

structure DynamicDcClResControlModeType where
  departureTime : Used UInt32
  minimumSoc : Used UInt8
  targetSoc : Used UInt8
  ackMaxDelay : Used UInt16
  evseMaximumChargePower : RationalNumberType
  evseMinimumChargePower : RationalNumberType
  evseMaximumChargeCurrent : RationalNumberType
  evseMaximumVoltage : RationalNumberType
  deriving Inhabited

structure BptDynamicDcClResControlModeType extends DynamicDcClResControlModeType where
  evseMaximumDischargePower : RationalNumberType
  evseMinimumDischargePower : RationalNumberType
  evseMaximumDischargeCurrent : RationalNumberType
  evseMinimumVoltage : RationalNumberType
  deriving Inhabited

structure DcChargeLoopResType (capacities : MeteringCapacities) where
  header : MessageHeaderType
  responseCode : Int32
  evseStatus : Used EvseStatusType
  meterInfo : Used (MeterInfoType capacities)
  receipt : Used (ReceiptType capacities)
  evsePresentCurrent : RationalNumberType
  evsePresentVoltage : RationalNumberType
  evsePowerLimitAchieved : Int32
  evseCurrentLimitAchieved : Int32
  evseVoltageLimitAchieved : Int32
  scheduledDcClResControlMode : Used ScheduledDcClResControlModeType
  bptScheduledDcClResControlMode : Used BptScheduledDcClResControlModeType
  dynamicDcClResControlMode : Used DynamicDcClResControlModeType
  bptDynamicDcClResControlMode : Used BptDynamicDcClResControlModeType
  deriving Inhabited

-- The functions `init_iso20_dc_…`.
def ScheduledDcClReqControlModeType.init (out : ScheduledDcClReqControlModeType) :
    ScheduledDcClReqControlModeType :=
  { out with
    evTargetEnergyRequest := out.evTargetEnergyRequest.clear id
    evMaximumEnergyRequest := out.evMaximumEnergyRequest.clear id
    evMinimumEnergyRequest := out.evMinimumEnergyRequest.clear id
    evMaximumChargePower := out.evMaximumChargePower.clear id
    evMinimumChargePower := out.evMinimumChargePower.clear id
    evMaximumChargeCurrent := out.evMaximumChargeCurrent.clear id
    evMaximumVoltage := out.evMaximumVoltage.clear id
    evMinimumVoltage := out.evMinimumVoltage.clear id }

def BptScheduledDcClReqControlModeType.init (out : BptScheduledDcClReqControlModeType) :
    BptScheduledDcClReqControlModeType :=
  { toScheduledDcClReqControlModeType := out.toScheduledDcClReqControlModeType.init
    evMaximumDischargePower := out.evMaximumDischargePower.clear id
    evMinimumDischargePower := out.evMinimumDischargePower.clear id
    evMaximumDischargeCurrent := out.evMaximumDischargeCurrent.clear id }

def DynamicDcClReqControlModeType.init (out : DynamicDcClReqControlModeType) : DynamicDcClReqControlModeType :=
  { out with departureTime := out.departureTime.clear id }

def BptDynamicDcClReqControlModeType.init (out : BptDynamicDcClReqControlModeType) :
    BptDynamicDcClReqControlModeType :=
  { out with
    departureTime := out.departureTime.clear id
    evMaximumV2xEnergyRequest := out.evMaximumV2xEnergyRequest.clear id
    evMinimumV2xEnergyRequest := out.evMinimumV2xEnergyRequest.clear id }

def DcChargeLoopReqType.init (out : DcChargeLoopReqType) : DcChargeLoopReqType :=
  { out with
    displayParameters := out.displayParameters.clear (·.init)
    scheduledDcClReqControlMode := out.scheduledDcClReqControlMode.clear (·.init)
    bptScheduledDcClReqControlMode := out.bptScheduledDcClReqControlMode.clear (·.init)
    dynamicDcClReqControlMode := out.dynamicDcClReqControlMode.clear (·.init)
    bptDynamicDcClReqControlMode := out.bptDynamicDcClReqControlMode.clear (·.init) }

def ScheduledDcClResControlModeType.init (out : ScheduledDcClResControlModeType) :
    ScheduledDcClResControlModeType :=
  { evseMaximumChargePower := out.evseMaximumChargePower.clear id
    evseMinimumChargePower := out.evseMinimumChargePower.clear id
    evseMaximumChargeCurrent := out.evseMaximumChargeCurrent.clear id
    evseMaximumVoltage := out.evseMaximumVoltage.clear id }

def BptScheduledDcClResControlModeType.init (out : BptScheduledDcClResControlModeType) :
    BptScheduledDcClResControlModeType :=
  { toScheduledDcClResControlModeType := out.toScheduledDcClResControlModeType.init
    evseMaximumDischargePower := out.evseMaximumDischargePower.clear id
    evseMinimumDischargePower := out.evseMinimumDischargePower.clear id
    evseMaximumDischargeCurrent := out.evseMaximumDischargeCurrent.clear id
    evseMinimumVoltage := out.evseMinimumVoltage.clear id }

def DynamicDcClResControlModeType.init (out : DynamicDcClResControlModeType) : DynamicDcClResControlModeType :=
  { out with
    departureTime := out.departureTime.clear id
    minimumSoc := out.minimumSoc.clear id
    targetSoc := out.targetSoc.clear id
    ackMaxDelay := out.ackMaxDelay.clear id }

def BptDynamicDcClResControlModeType.init (out : BptDynamicDcClResControlModeType) :
    BptDynamicDcClResControlModeType :=
  { out with toDynamicDcClResControlModeType := out.toDynamicDcClResControlModeType.init }

def DcChargeLoopResType.init {capacities : MeteringCapacities} (out : DcChargeLoopResType capacities) :
    DcChargeLoopResType capacities :=
  { out with
    evseStatus := out.evseStatus.clear id
    meterInfo := out.meterInfo.clear (·.init)
    receipt := out.receipt.clear (·.init)
    scheduledDcClResControlMode := out.scheduledDcClResControlMode.clear (·.init)
    bptScheduledDcClResControlMode := out.bptScheduledDcClResControlMode.clear (·.init)
    dynamicDcClResControlMode := out.dynamicDcClResControlMode.clear (·.init)
    bptDynamicDcClResControlMode := out.bptDynamicDcClResControlMode.clear (·.init) }

-- From the generated records.
def ScheduledDcClReqControlModeType.convert (mode : ScheduledDcClReqControlModeType) :
    ScheduledDcClReqControlMode :=
  { targetEnergyRequest := cb2cppConvertIfUsed mode.evTargetEnergyRequest
    maxEnergyRequest := cb2cppConvertIfUsed mode.evMaximumEnergyRequest
    minEnergyRequest := cb2cppConvertIfUsed mode.evMinimumEnergyRequest
    targetCurrent := mode.evTargetCurrent.convert
    targetVoltage := mode.evTargetVoltage.convert
    maxChargePower := cb2cppConvertIfUsed mode.evMaximumChargePower
    minChargePower := cb2cppConvertIfUsed mode.evMinimumChargePower
    maxChargeCurrent := cb2cppConvertIfUsed mode.evMaximumChargeCurrent
    maxVoltage := cb2cppConvertIfUsed mode.evMaximumVoltage
    minVoltage := cb2cppConvertIfUsed mode.evMinimumVoltage }

def BptScheduledDcClReqControlModeType.convert (mode : BptScheduledDcClReqControlModeType) :
    BptScheduledDcClReqControlMode :=
  { toScheduledDcClReqControlMode := mode.toScheduledDcClReqControlModeType.convert
    maxDischargePower := cb2cppConvertIfUsed mode.evMaximumDischargePower
    minDischargePower := cb2cppConvertIfUsed mode.evMinimumDischargePower
    maxDischargeCurrent := cb2cppConvertIfUsed mode.evMaximumDischargeCurrent }

def DynamicDcClReqControlModeType.convert (mode : DynamicDcClReqControlModeType) : DynamicDcClReqControlMode :=
  { departureTime := cb2cppAssignIfUsed mode.departureTime
    targetEnergyRequest := mode.evTargetEnergyRequest.convert
    maxEnergyRequest := mode.evMaximumEnergyRequest.convert
    minEnergyRequest := mode.evMinimumEnergyRequest.convert
    maxChargePower := mode.evMaximumChargePower.convert
    minChargePower := mode.evMinimumChargePower.convert
    maxChargeCurrent := mode.evMaximumChargeCurrent.convert
    maxVoltage := mode.evMaximumVoltage.convert
    minVoltage := mode.evMinimumVoltage.convert }

def BptDynamicDcClReqControlModeType.convert (mode : BptDynamicDcClReqControlModeType) :
    BptDynamicDcClReqControlMode :=
  { toDynamicDcClReqControlMode := mode.toDynamicDcClReqControlModeType.convert
    maxDischargePower := mode.evMaximumDischargePower.convert
    minDischargePower := mode.evMinimumDischargePower.convert
    maxDischargeCurrent := mode.evMaximumDischargeCurrent.convert
    maxV2xEnergyRequest := cb2cppConvertIfUsed mode.evMaximumV2xEnergyRequest
    minV2xEnergyRequest := cb2cppConvertIfUsed mode.evMinimumV2xEnergyRequest }

def DcChargeLoopReqType.controlMode (req : DcChargeLoopReqType) : Except Fault DcClReqControlMode :=
  if req.scheduledDcClReqControlMode.isUsed then
    return .scheduled req.scheduledDcClReqControlMode.value.convert
  else if req.bptScheduledDcClReqControlMode.isUsed then
    return .bptScheduled req.bptScheduledDcClReqControlMode.value.convert
  else if req.dynamicDcClReqControlMode.isUsed then
    return .dynamic req.dynamicDcClReqControlMode.value.convert
  else if req.bptDynamicDcClReqControlMode.isUsed then
    return .bptDynamic req.bptDynamicDcClReqControlMode.value.convert
  else .error .assertion

def DcChargeLoopReqType.convert (req : DcChargeLoopReqType) : Except Fault DcChargeLoopRequest := do
  let header ← req.header.convert
  let controlMode ← req.controlMode
  return {
    header
    displayParameters := req.displayParameters.read (·.convert)
    meterInfoRequested := cppBool req.meterInfoRequested
    presentVoltage := req.evPresentVoltage.convert
    controlMode }

def ScheduledDcClResControlModeType.convert (mode : ScheduledDcClResControlModeType) :
    ScheduledDcClResControlMode :=
  { maxChargePower := cb2cppConvertIfUsed mode.evseMaximumChargePower
    minChargePower := cb2cppConvertIfUsed mode.evseMinimumChargePower
    maxChargeCurrent := cb2cppConvertIfUsed mode.evseMaximumChargeCurrent
    maxVoltage := cb2cppConvertIfUsed mode.evseMaximumVoltage }

def BptScheduledDcClResControlModeType.convert (mode : BptScheduledDcClResControlModeType) :
    BptScheduledDcClResControlMode :=
  { toScheduledDcClResControlMode := mode.toScheduledDcClResControlModeType.convert
    maxDischargePower := cb2cppConvertIfUsed mode.evseMaximumDischargePower
    minDischargePower := cb2cppConvertIfUsed mode.evseMinimumDischargePower
    maxDischargeCurrent := cb2cppConvertIfUsed mode.evseMaximumDischargeCurrent
    minVoltage := cb2cppConvertIfUsed mode.evseMinimumVoltage }

def DynamicDcClResControlModeType.convert (mode : DynamicDcClResControlModeType) : DynamicDcClResControlMode :=
  { departureTime := cb2cppAssignIfUsed mode.departureTime
    minimumSoc := cb2cppAssignIfUsed mode.minimumSoc
    targetSoc := cb2cppAssignIfUsed mode.targetSoc
    ackMaxDelay := cb2cppAssignIfUsed mode.ackMaxDelay
    maxChargePower := mode.evseMaximumChargePower.convert
    minChargePower := mode.evseMinimumChargePower.convert
    maxChargeCurrent := mode.evseMaximumChargeCurrent.convert
    maxVoltage := mode.evseMaximumVoltage.convert }

def BptDynamicDcClResControlModeType.convert (mode : BptDynamicDcClResControlModeType) :
    BptDynamicDcClResControlMode :=
  { toDynamicDcClResControlMode := mode.toDynamicDcClResControlModeType.convert
    maxDischargePower := mode.evseMaximumDischargePower.convert
    minDischargePower := mode.evseMinimumDischargePower.convert
    maxDischargeCurrent := mode.evseMaximumDischargeCurrent.convert
    minVoltage := mode.evseMinimumVoltage.convert }

variable {capacities : MeteringCapacities}

def DcChargeLoopResType.controlMode (res : DcChargeLoopResType capacities) : Except Fault DcClResControlMode :=
  if res.scheduledDcClResControlMode.isUsed then
    return .scheduled res.scheduledDcClResControlMode.value.convert
  else if res.bptScheduledDcClResControlMode.isUsed then
    return .bptScheduled res.bptScheduledDcClResControlMode.value.convert
  else if res.dynamicDcClResControlMode.isUsed then
    return .dynamic res.dynamicDcClResControlMode.value.convert
  else if res.bptDynamicDcClResControlMode.isUsed then
    return .bptDynamic res.bptDynamicDcClResControlMode.value.convert
  else .error .assertion

def DcChargeLoopResType.convert (res : DcChargeLoopResType capacities) : Except Fault DcChargeLoopResponse := do
  let responseCode ← cppEnum res.responseCode
  let status ← res.evseStatus.readM (·.convert)
  let meterInfo ← res.meterInfo.readM (·.convert)
  let receipt ← res.receipt.readM (·.convert)
  let header ← res.header.convert
  let controlMode ← res.controlMode
  return {
    header
    responseCode
    status
    meterInfo
    receipt
    presentCurrent := res.evsePresentCurrent.convert
    presentVoltage := res.evsePresentVoltage.convert
    powerLimitAchieved := cppBool res.evsePowerLimitAchieved
    currentLimitAchieved := cppBool res.evseCurrentLimitAchieved
    voltageLimitAchieved := cppBool res.evseVoltageLimitAchieved
    controlMode }

end Iso20.Dc

-- To the generated records.

namespace Datatypes

def ScheduledDcClReqControlMode.convert (mode : ScheduledDcClReqControlMode)
    (out : Iso20.Dc.ScheduledDcClReqControlModeType) : Iso20.Dc.ScheduledDcClReqControlModeType :=
  { evTargetEnergyRequest := cpp2cbConvertIfUsed mode.targetEnergyRequest out.evTargetEnergyRequest
    evMaximumEnergyRequest := cpp2cbConvertIfUsed mode.maxEnergyRequest out.evMaximumEnergyRequest
    evMinimumEnergyRequest := cpp2cbConvertIfUsed mode.minEnergyRequest out.evMinimumEnergyRequest
    evMaximumChargeCurrent := cpp2cbConvertIfUsed mode.maxChargeCurrent out.evMaximumChargeCurrent
    evMaximumChargePower := cpp2cbConvertIfUsed mode.maxChargePower out.evMaximumChargePower
    evMinimumChargePower := cpp2cbConvertIfUsed mode.minChargePower out.evMinimumChargePower
    evTargetCurrent := mode.targetCurrent.convert
    evTargetVoltage := mode.targetVoltage.convert
    evMaximumVoltage := cpp2cbConvertIfUsed mode.maxVoltage out.evMaximumVoltage
    evMinimumVoltage := cpp2cbConvertIfUsed mode.minVoltage out.evMinimumVoltage }

def BptScheduledDcClReqControlMode.convert (mode : BptScheduledDcClReqControlMode)
    (out : Iso20.Dc.BptScheduledDcClReqControlModeType) : Iso20.Dc.BptScheduledDcClReqControlModeType :=
  { toScheduledDcClReqControlModeType :=
      mode.toScheduledDcClReqControlMode.convert out.toScheduledDcClReqControlModeType
    evMaximumDischargePower := cpp2cbConvertIfUsed mode.maxDischargePower out.evMaximumDischargePower
    evMinimumDischargePower := cpp2cbConvertIfUsed mode.minDischargePower out.evMinimumDischargePower
    evMaximumDischargeCurrent := cpp2cbConvertIfUsed mode.maxDischargeCurrent out.evMaximumDischargeCurrent }

def DynamicDcClReqControlMode.convert (mode : DynamicDcClReqControlMode)
    (out : Iso20.Dc.DynamicDcClReqControlModeType) : Iso20.Dc.DynamicDcClReqControlModeType :=
  { evTargetEnergyRequest := mode.targetEnergyRequest.convert
    evMaximumEnergyRequest := mode.maxEnergyRequest.convert
    evMinimumEnergyRequest := mode.minEnergyRequest.convert
    departureTime := cpp2cbAssignIfUsed mode.departureTime out.departureTime
    evMaximumChargePower := mode.maxChargePower.convert
    evMinimumChargePower := mode.minChargePower.convert
    evMaximumChargeCurrent := mode.maxChargeCurrent.convert
    evMaximumVoltage := mode.maxVoltage.convert
    evMinimumVoltage := mode.minVoltage.convert }

def BptDynamicDcClReqControlMode.convert (mode : BptDynamicDcClReqControlMode)
    (out : Iso20.Dc.BptDynamicDcClReqControlModeType) : Iso20.Dc.BptDynamicDcClReqControlModeType :=
  { toDynamicDcClReqControlModeType :=
      mode.toDynamicDcClReqControlMode.convert out.toDynamicDcClReqControlModeType
    evMaximumDischargePower := mode.maxDischargePower.convert
    evMinimumDischargePower := mode.minDischargePower.convert
    evMaximumDischargeCurrent := mode.maxDischargeCurrent.convert
    evMaximumV2xEnergyRequest := cpp2cbConvertIfUsed mode.maxV2xEnergyRequest out.evMaximumV2xEnergyRequest
    evMinimumV2xEnergyRequest := cpp2cbConvertIfUsed mode.minV2xEnergyRequest out.evMinimumV2xEnergyRequest }

/-- `RequestControlModeVisitor` -/
def DcClReqControlMode.convert (mode : DcClReqControlMode) (req : Iso20.Dc.DcChargeLoopReqType) :
    Iso20.Dc.DcChargeLoopReqType :=
  match mode with
  | .scheduled mode =>
      { req with scheduledDcClReqControlMode := req.scheduledDcClReqControlMode.set (mode.convert ·.init) }
  | .bptScheduled mode =>
      { req with bptScheduledDcClReqControlMode := req.bptScheduledDcClReqControlMode.set (mode.convert ·.init) }
  | .dynamic mode =>
      { req with dynamicDcClReqControlMode := req.dynamicDcClReqControlMode.set (mode.convert ·.init) }
  | .bptDynamic mode =>
      { req with bptDynamicDcClReqControlMode := req.bptDynamicDcClReqControlMode.set (mode.convert ·.init) }

def ScheduledDcClResControlMode.convert (mode : ScheduledDcClResControlMode)
    (out : Iso20.Dc.ScheduledDcClResControlModeType) : Iso20.Dc.ScheduledDcClResControlModeType :=
  { evseMaximumChargePower := cpp2cbConvertIfUsed mode.maxChargePower out.evseMaximumChargePower
    evseMinimumChargePower := cpp2cbConvertIfUsed mode.minChargePower out.evseMinimumChargePower
    evseMaximumChargeCurrent := cpp2cbConvertIfUsed mode.maxChargeCurrent out.evseMaximumChargeCurrent
    evseMaximumVoltage := cpp2cbConvertIfUsed mode.maxVoltage out.evseMaximumVoltage }

def BptScheduledDcClResControlMode.convert (mode : BptScheduledDcClResControlMode)
    (out : Iso20.Dc.BptScheduledDcClResControlModeType) : Iso20.Dc.BptScheduledDcClResControlModeType :=
  -- The maximum current goes to the member of the maximum power, which was just written.
  let evseMaximumDischargePower := cpp2cbConvertIfUsed mode.maxDischargePower out.evseMaximumDischargePower
  { out with
    toScheduledDcClResControlModeType :=
      mode.toScheduledDcClResControlMode.convert out.toScheduledDcClResControlModeType
    evseMaximumDischargePower := cpp2cbConvertIfUsed mode.maxDischargeCurrent evseMaximumDischargePower
    evseMinimumDischargePower := cpp2cbConvertIfUsed mode.minDischargePower out.evseMinimumDischargePower
    evseMinimumVoltage := cpp2cbConvertIfUsed mode.minVoltage out.evseMinimumVoltage }

def DynamicDcClResControlMode.convert (mode : DynamicDcClResControlMode)
    (out : Iso20.Dc.DynamicDcClResControlModeType) : Iso20.Dc.DynamicDcClResControlModeType :=
  { departureTime := cpp2cbAssignIfUsed mode.departureTime out.departureTime
    minimumSoc := cpp2cbAssignIfUsed mode.minimumSoc out.minimumSoc
    targetSoc := cpp2cbAssignIfUsed mode.targetSoc out.targetSoc
    ackMaxDelay := cpp2cbAssignIfUsed mode.ackMaxDelay out.ackMaxDelay
    evseMaximumChargePower := mode.maxChargePower.convert
    evseMinimumChargePower := mode.minChargePower.convert
    evseMaximumChargeCurrent := mode.maxChargeCurrent.convert
    evseMaximumVoltage := mode.maxVoltage.convert }

def BptDynamicDcClResControlMode.convert (mode : BptDynamicDcClResControlMode)
    (out : Iso20.Dc.BptDynamicDcClResControlModeType) : Iso20.Dc.BptDynamicDcClResControlModeType :=
  { toDynamicDcClResControlModeType :=
      mode.toDynamicDcClResControlMode.convert out.toDynamicDcClResControlModeType
    evseMaximumDischargePower := mode.maxDischargePower.convert
    evseMinimumDischargePower := mode.minDischargePower.convert
    evseMaximumDischargeCurrent := mode.maxDischargeCurrent.convert
    evseMinimumVoltage := mode.minVoltage.convert }

/-- `ControlModeVisitor` -/
def DcClResControlMode.convert {capacities : MeteringCapacities} (mode : DcClResControlMode)
    (res : Iso20.Dc.DcChargeLoopResType capacities) : Iso20.Dc.DcChargeLoopResType capacities :=
  match mode with
  | .scheduled mode =>
      { res with scheduledDcClResControlMode := res.scheduledDcClResControlMode.set (mode.convert ·.init) }
  | .bptScheduled mode =>
      { res with bptScheduledDcClResControlMode := res.bptScheduledDcClResControlMode.set (mode.convert ·.init) }
  | .dynamic mode =>
      { res with dynamicDcClResControlMode := res.dynamicDcClResControlMode.set (mode.convert ·.init) }
  | .bptDynamic mode =>
      { res with bptDynamicDcClResControlMode := res.bptDynamicDcClResControlMode.set (mode.convert ·.init) }

end Datatypes

def DcChargeLoopRequest.convert (req : DcChargeLoopRequest) (out : Iso20.Dc.DcChargeLoopReqType) :
    Iso20.Dc.DcChargeLoopReqType :=
  let out := out.init
  req.controlMode.convert
    { out with
      meterInfoRequested := cbBool req.meterInfoRequested
      evPresentVoltage := req.presentVoltage.convert
      displayParameters := out.displayParameters.write DisplayParameters.convert req.displayParameters
      header := req.header.convert }

def DcChargeLoopResponse.convert {capacities : MeteringCapacities} (res : DcChargeLoopResponse)
    (out : Iso20.Dc.DcChargeLoopResType capacities) : Except Fault (Iso20.Dc.DcChargeLoopResType capacities) := do
  let out := out.init
  let meterInfo ← out.meterInfo.writeM MeterInfo.convert res.meterInfo
  let receipt ← out.receipt.writeM Receipt.convert res.receipt
  return res.controlMode.convert
    { out with
      header := res.header.convert
      responseCode := cbEnum res.responseCode
      evseStatus := out.evseStatus.write (fun status _ => status.convert) res.status
      meterInfo
      receipt
      evsePresentCurrent := res.presentCurrent.convert
      evsePresentVoltage := res.presentVoltage.convert
      evsePowerLimitAchieved := cbBool res.powerLimitAchieved
      evseCurrentLimitAchieved := cbBool res.currentLimitAchieved
      evseVoltageLimitAchieved := cbBool res.voltageLimitAchieved }

namespace Datatypes

@[simp] theorem ScheduledDcClReqControlMode.convert_convert (mode : ScheduledDcClReqControlMode)
    (out : Iso20.Dc.ScheduledDcClReqControlModeType) : (mode.convert out).convert = mode := by
  simp [ScheduledDcClReqControlMode.convert, Iso20.Dc.ScheduledDcClReqControlModeType.convert]

@[simp] theorem BptScheduledDcClReqControlMode.convert_convert (mode : BptScheduledDcClReqControlMode)
    (out : Iso20.Dc.BptScheduledDcClReqControlModeType) : (mode.convert out).convert = mode := by
  simp [BptScheduledDcClReqControlMode.convert, Iso20.Dc.BptScheduledDcClReqControlModeType.convert]

@[simp] theorem DynamicDcClReqControlMode.convert_convert (mode : DynamicDcClReqControlMode)
    (out : Iso20.Dc.DynamicDcClReqControlModeType) : (mode.convert out).convert = mode := by
  simp [DynamicDcClReqControlMode.convert, Iso20.Dc.DynamicDcClReqControlModeType.convert]

@[simp] theorem BptDynamicDcClReqControlMode.convert_convert (mode : BptDynamicDcClReqControlMode)
    (out : Iso20.Dc.BptDynamicDcClReqControlModeType) : (mode.convert out).convert = mode := by
  simp [BptDynamicDcClReqControlMode.convert, Iso20.Dc.BptDynamicDcClReqControlModeType.convert]

@[simp] theorem ScheduledDcClResControlMode.convert_convert (mode : ScheduledDcClResControlMode)
    (out : Iso20.Dc.ScheduledDcClResControlModeType) : (mode.convert out).convert = mode := by
  simp [ScheduledDcClResControlMode.convert, Iso20.Dc.ScheduledDcClResControlModeType.convert]

theorem BptScheduledDcClResControlMode.convert_convert_iff (mode : BptScheduledDcClResControlMode)
    (out : Iso20.Dc.BptScheduledDcClResControlModeType) :
    (mode.convert out.init).convert = mode ↔
      mode.maxDischargeCurrent = none ∧ mode.maxDischargePower = none := by
  -- The maximum power is read back as the current, and the current not at all.
  have same : (mode.convert out.init).convert =
      { mode with maxDischargePower := mode.maxDischargeCurrent, maxDischargeCurrent := none } := by
    simp [BptScheduledDcClResControlMode.convert, Iso20.Dc.BptScheduledDcClResControlModeType.convert,
      Iso20.Dc.BptScheduledDcClResControlModeType.init]
  rw [same]
  constructor
  · intro back
    have current := congrArg (·.maxDischargeCurrent) back
    have power := congrArg (·.maxDischargePower) back
    dsimp only at current power
    exact ⟨current.symm, power.symm.trans current.symm⟩
  · rintro ⟨current, power⟩
    cases mode
    cases current
    cases power
    rfl

@[simp] theorem DynamicDcClResControlMode.convert_convert (mode : DynamicDcClResControlMode)
    (out : Iso20.Dc.DynamicDcClResControlModeType) : (mode.convert out).convert = mode := by
  simp [DynamicDcClResControlMode.convert, Iso20.Dc.DynamicDcClResControlModeType.convert]

@[simp] theorem BptDynamicDcClResControlMode.convert_convert (mode : BptDynamicDcClResControlMode)
    (out : Iso20.Dc.BptDynamicDcClResControlModeType) : (mode.convert out).convert = mode := by
  simp [BptDynamicDcClResControlMode.convert, Iso20.Dc.BptDynamicDcClResControlModeType.convert]

end Datatypes

@[simp] theorem DcChargeLoopRequest.convert_convert (req : DcChargeLoopRequest)
    (out : Iso20.Dc.DcChargeLoopReqType) : (req.convert out).convert = .ok req := by
  obtain ⟨header, displayParameters, meterInfoRequested, presentVoltage, controlMode⟩ := req
  cases controlMode <;>
    simp [DcChargeLoopRequest.convert, Iso20.Dc.DcChargeLoopReqType.convert, DcClReqControlMode.convert,
      Iso20.Dc.DcChargeLoopReqType.controlMode, Iso20.Dc.DcChargeLoopReqType.init, Used.set]

theorem DcChargeLoopResponse.convert_convert_iff {capacities : MeteringCapacities} (res : DcChargeLoopResponse)
    (unmetered : res.meterInfo = none) (unbilled : res.receipt = none)
    (out : Iso20.Dc.DcChargeLoopResType capacities) :
    (res.convert out >>= (·.convert)) = .ok res ↔
      ∀ mode, res.controlMode = .bptScheduled mode →
        mode.maxDischargeCurrent = none ∧ mode.maxDischargePower = none := by
  obtain ⟨header, code, status, meterInfo, receipt, current, voltage, power, currentLimit, voltageLimit,
    controlMode⟩ := res
  cases unmetered
  cases unbilled
  cases controlMode <;>
    simp [DcChargeLoopResponse.convert, Iso20.Dc.DcChargeLoopResType.convert, DcClResControlMode.convert,
      Iso20.Dc.DcChargeLoopResType.controlMode, Iso20.Dc.DcChargeLoopResType.init, Used.set, Used.writeM,
      bind_eq_ok, BptScheduledDcClResControlMode.convert_convert_iff]

/-- A request comes back as it was sent, and so does a response without meter information and receipt, unless it
is of the bidirectional scheduled mode with a maximum discharge power or current. -/
theorem dc_charge_loop_round_trip_iff (capacities : MeteringCapacities) :
    (∀ (req : DcChargeLoopRequest) (out : Iso20.Dc.DcChargeLoopReqType), (req.convert out).convert = .ok req) ∧
      ∀ res : DcChargeLoopResponse, res.meterInfo = none → res.receipt = none →
        ∀ out : Iso20.Dc.DcChargeLoopResType capacities,
          (res.convert out >>= (·.convert)) = .ok res ↔
            ∀ mode, res.controlMode = .bptScheduled mode →
              mode.maxDischargeCurrent = none ∧ mode.maxDischargePower = none :=
  ⟨fun req out => req.convert_convert out,
    fun res unmetered unbilled out => res.convert_convert_iff unmetered unbilled out⟩

namespace Sample

def dischargeLimits : BptScheduledDcClResControlMode :=
  { maxDischargePower := some { value := 11, exponent := 3 }
    maxDischargeCurrent := some { value := 30, exponent := 0 } }

def dischargingResponse : DcChargeLoopResponse :=
  { controlMode := .bptScheduled dischargeLimits }

def chargingResponse : DcChargeLoopResponse :=
  { status := some { notificationMaxDelay := 30, notification := .pause }
    presentCurrent := { value := 80, exponent := 0 }
    presentVoltage := { value := 400, exponent := 0 }
    currentLimitAchieved := true
    controlMode := .bptScheduled
      { maxChargePower := some { value := 50, exponent := 3 }
        minChargePower := some { value := 1, exponent := 3 }
        maxChargeCurrent := some { value := 125, exponent := 0 }
        maxVoltage := some { value := 900, exponent := 0 }
        minDischargePower := some { value := 2, exponent := 3 }
        minVoltage := some { value := 200, exponent := 0 } } }

end Sample

theorem dc_charge_loop_round_trip_unlimited :
    (Sample.chargingResponse.convert (default : Iso20.Dc.DcChargeLoopResType Sample.meteringCapacities) >>=
      (·.convert)) = .ok Sample.chargingResponse :=
  ((dc_charge_loop_round_trip_iff Sample.meteringCapacities).2 Sample.chargingResponse rfl rfl default).mpr
    (by rintro mode ⟨⟩; exact ⟨rfl, rfl⟩)

/-- A limit of 11 kW and 30 A is read back as one of 30 W. -/
theorem dc_charge_loop_round_trip_swapped :
    (Sample.dischargingResponse.convert (default : Iso20.Dc.DcChargeLoopResType Sample.meteringCapacities) >>=
      (·.convert)) ≠ .ok Sample.dischargingResponse := by
  intro back
  have limits := (Sample.dischargingResponse.convert_convert_iff rfl rfl default).mp back _ rfl
  cases limits.1

end LibIso15118
