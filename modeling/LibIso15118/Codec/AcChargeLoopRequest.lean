import LibIso15118.Codec.Metering

set_option autoImplicit false

namespace LibIso15118

open Datatypes Codec

namespace Iso20.Ac

structure ScheduledAcClReqControlModeType where
  evTargetEnergyRequest : Used RationalNumberType
  evMaximumEnergyRequest : Used RationalNumberType
  evMinimumEnergyRequest : Used RationalNumberType
  evMaximumChargePower : Used RationalNumberType
  evMaximumChargePowerL2 : Used RationalNumberType
  evMaximumChargePowerL3 : Used RationalNumberType
  evMinimumChargePower : Used RationalNumberType
  evMinimumChargePowerL2 : Used RationalNumberType
  evMinimumChargePowerL3 : Used RationalNumberType
  evPresentActivePower : RationalNumberType
  evPresentActivePowerL2 : Used RationalNumberType
  evPresentActivePowerL3 : Used RationalNumberType
  evPresentReactivePower : Used RationalNumberType
  evPresentReactivePowerL2 : Used RationalNumberType
  evPresentReactivePowerL3 : Used RationalNumberType
  deriving Inhabited

structure BptScheduledAcClReqControlModeType extends ScheduledAcClReqControlModeType where
  evMaximumDischargePower : Used RationalNumberType
  evMaximumDischargePowerL2 : Used RationalNumberType
  evMaximumDischargePowerL3 : Used RationalNumberType
  evMinimumDischargePower : Used RationalNumberType
  evMinimumDischargePowerL2 : Used RationalNumberType
  evMinimumDischargePowerL3 : Used RationalNumberType
  deriving Inhabited

structure DerScheduledAcClReqControlModeType extends ScheduledAcClReqControlModeType where
  evMaximumDischargePower : RationalNumberType
  evMaximumDischargePowerL2 : Used RationalNumberType
  evMaximumDischargePowerL3 : Used RationalNumberType
  evMinimumDischargePower : RationalNumberType
  evMinimumDischargePowerL2 : Used RationalNumberType
  evMinimumDischargePowerL3 : Used RationalNumberType
  evMaximumChargeReactivePower : Used RationalNumberType
  evMaximumChargeReactivePowerL2 : Used RationalNumberType
  evMaximumChargeReactivePowerL3 : Used RationalNumberType
  evMaximumDischargeReactivePower : Used RationalNumberType
  evMaximumDischargeReactivePowerL2 : Used RationalNumberType
  evMaximumDischargeReactivePowerL3 : Used RationalNumberType
  gridEventCondition : UInt8
  deriving Inhabited

structure DynamicAcClReqControlModeType where
  departureTime : Used UInt32
  evTargetEnergyRequest : RationalNumberType
  evMaximumEnergyRequest : RationalNumberType
  evMinimumEnergyRequest : RationalNumberType
  evMaximumChargePower : RationalNumberType
  evMaximumChargePowerL2 : Used RationalNumberType
  evMaximumChargePowerL3 : Used RationalNumberType
  evMinimumChargePower : RationalNumberType
  evMinimumChargePowerL2 : Used RationalNumberType
  evMinimumChargePowerL3 : Used RationalNumberType
  evPresentActivePower : RationalNumberType
  evPresentActivePowerL2 : Used RationalNumberType
  evPresentActivePowerL3 : Used RationalNumberType
  evPresentReactivePower : RationalNumberType
  evPresentReactivePowerL2 : Used RationalNumberType
  evPresentReactivePowerL3 : Used RationalNumberType
  deriving Inhabited

structure BptDynamicAcClReqControlModeType extends DynamicAcClReqControlModeType where
  evMaximumDischargePower : RationalNumberType
  evMaximumDischargePowerL2 : Used RationalNumberType
  evMaximumDischargePowerL3 : Used RationalNumberType
  evMinimumDischargePower : RationalNumberType
  evMinimumDischargePowerL2 : Used RationalNumberType
  evMinimumDischargePowerL3 : Used RationalNumberType
  evMaximumV2xEnergyRequest : Used RationalNumberType
  evMinimumV2xEnergyRequest : Used RationalNumberType
  deriving Inhabited

structure DerDynamicAcClReqControlModeType extends DynamicAcClReqControlModeType where
  evMaximumDischargePower : RationalNumberType
  evMaximumDischargePowerL2 : Used RationalNumberType
  evMaximumDischargePowerL3 : Used RationalNumberType
  evMinimumDischargePower : RationalNumberType
  evMinimumDischargePowerL2 : Used RationalNumberType
  evMinimumDischargePowerL3 : Used RationalNumberType
  evMaximumV2xEnergyRequest : Used RationalNumberType
  evMinimumV2xEnergyRequest : Used RationalNumberType
  evMaximumChargeReactivePower : Used RationalNumberType
  evMaximumChargeReactivePowerL2 : Used RationalNumberType
  evMaximumChargeReactivePowerL3 : Used RationalNumberType
  evMaximumDischargeReactivePower : Used RationalNumberType
  evMaximumDischargeReactivePowerL2 : Used RationalNumberType
  evMaximumDischargeReactivePowerL3 : Used RationalNumberType
  gridEventCondition : UInt8
  evSessionTotalDischargeEnergyAvailable : Used RationalNumberType
  deriving Inhabited

structure AcChargeLoopReqType where
  header : MessageHeaderType
  displayParameters : Used DisplayParametersType
  meterInfoRequested : Int32
  scheduledAcClReqControlMode : Used ScheduledAcClReqControlModeType
  bptScheduledAcClReqControlMode : Used BptScheduledAcClReqControlModeType
  derScheduledAcClReqControlMode : Used DerScheduledAcClReqControlModeType
  dynamicAcClReqControlMode : Used DynamicAcClReqControlModeType
  bptDynamicAcClReqControlMode : Used BptDynamicAcClReqControlModeType
  derDynamicAcClReqControlMode : Used DerDynamicAcClReqControlModeType
  deriving Inhabited

-- The functions `init_iso20_ac_…`.
def ScheduledAcClReqControlModeType.init (out : ScheduledAcClReqControlModeType) :
    ScheduledAcClReqControlModeType :=
  { out with
    evTargetEnergyRequest := out.evTargetEnergyRequest.clear id
    evMaximumEnergyRequest := out.evMaximumEnergyRequest.clear id
    evMinimumEnergyRequest := out.evMinimumEnergyRequest.clear id
    evMaximumChargePower := out.evMaximumChargePower.clear id
    evMaximumChargePowerL2 := out.evMaximumChargePowerL2.clear id
    evMaximumChargePowerL3 := out.evMaximumChargePowerL3.clear id
    evMinimumChargePower := out.evMinimumChargePower.clear id
    evMinimumChargePowerL2 := out.evMinimumChargePowerL2.clear id
    evMinimumChargePowerL3 := out.evMinimumChargePowerL3.clear id
    evPresentActivePowerL2 := out.evPresentActivePowerL2.clear id
    evPresentActivePowerL3 := out.evPresentActivePowerL3.clear id
    evPresentReactivePower := out.evPresentReactivePower.clear id
    evPresentReactivePowerL2 := out.evPresentReactivePowerL2.clear id
    evPresentReactivePowerL3 := out.evPresentReactivePowerL3.clear id }

def BptScheduledAcClReqControlModeType.init (out : BptScheduledAcClReqControlModeType) :
    BptScheduledAcClReqControlModeType :=
  { out with
    toScheduledAcClReqControlModeType := out.toScheduledAcClReqControlModeType.init
    evMaximumDischargePower := out.evMaximumDischargePower.clear id
    evMaximumDischargePowerL2 := out.evMaximumDischargePowerL2.clear id
    evMaximumDischargePowerL3 := out.evMaximumDischargePowerL3.clear id
    evMinimumDischargePower := out.evMinimumDischargePower.clear id
    evMinimumDischargePowerL2 := out.evMinimumDischargePowerL2.clear id
    evMinimumDischargePowerL3 := out.evMinimumDischargePowerL3.clear id }

def DerScheduledAcClReqControlModeType.init (out : DerScheduledAcClReqControlModeType) :
    DerScheduledAcClReqControlModeType :=
  { out with
    toScheduledAcClReqControlModeType := out.toScheduledAcClReqControlModeType.init
    evMaximumDischargePowerL2 := out.evMaximumDischargePowerL2.clear id
    evMaximumDischargePowerL3 := out.evMaximumDischargePowerL3.clear id
    evMinimumDischargePowerL2 := out.evMinimumDischargePowerL2.clear id
    evMinimumDischargePowerL3 := out.evMinimumDischargePowerL3.clear id
    evMaximumChargeReactivePower := out.evMaximumChargeReactivePower.clear id
    evMaximumChargeReactivePowerL2 := out.evMaximumChargeReactivePowerL2.clear id
    evMaximumChargeReactivePowerL3 := out.evMaximumChargeReactivePowerL3.clear id
    evMaximumDischargeReactivePower := out.evMaximumDischargeReactivePower.clear id
    evMaximumDischargeReactivePowerL2 := out.evMaximumDischargeReactivePowerL2.clear id
    evMaximumDischargeReactivePowerL3 := out.evMaximumDischargeReactivePowerL3.clear id }

def DynamicAcClReqControlModeType.init (out : DynamicAcClReqControlModeType) :
    DynamicAcClReqControlModeType :=
  { out with
    departureTime := out.departureTime.clear id
    evMaximumChargePowerL2 := out.evMaximumChargePowerL2.clear id
    evMaximumChargePowerL3 := out.evMaximumChargePowerL3.clear id
    evMinimumChargePowerL2 := out.evMinimumChargePowerL2.clear id
    evMinimumChargePowerL3 := out.evMinimumChargePowerL3.clear id
    evPresentActivePowerL2 := out.evPresentActivePowerL2.clear id
    evPresentActivePowerL3 := out.evPresentActivePowerL3.clear id
    evPresentReactivePowerL2 := out.evPresentReactivePowerL2.clear id
    evPresentReactivePowerL3 := out.evPresentReactivePowerL3.clear id }

def BptDynamicAcClReqControlModeType.init (out : BptDynamicAcClReqControlModeType) :
    BptDynamicAcClReqControlModeType :=
  { out with
    toDynamicAcClReqControlModeType := out.toDynamicAcClReqControlModeType.init
    evMaximumDischargePowerL2 := out.evMaximumDischargePowerL2.clear id
    evMaximumDischargePowerL3 := out.evMaximumDischargePowerL3.clear id
    evMinimumDischargePowerL2 := out.evMinimumDischargePowerL2.clear id
    evMinimumDischargePowerL3 := out.evMinimumDischargePowerL3.clear id
    evMaximumV2xEnergyRequest := out.evMaximumV2xEnergyRequest.clear id
    evMinimumV2xEnergyRequest := out.evMinimumV2xEnergyRequest.clear id }

def DerDynamicAcClReqControlModeType.init (out : DerDynamicAcClReqControlModeType) :
    DerDynamicAcClReqControlModeType :=
  { out with
    toDynamicAcClReqControlModeType := out.toDynamicAcClReqControlModeType.init
    evMaximumDischargePowerL2 := out.evMaximumDischargePowerL2.clear id
    evMaximumDischargePowerL3 := out.evMaximumDischargePowerL3.clear id
    evMinimumDischargePowerL2 := out.evMinimumDischargePowerL2.clear id
    evMinimumDischargePowerL3 := out.evMinimumDischargePowerL3.clear id
    evMaximumV2xEnergyRequest := out.evMaximumV2xEnergyRequest.clear id
    evMinimumV2xEnergyRequest := out.evMinimumV2xEnergyRequest.clear id
    evMaximumChargeReactivePower := out.evMaximumChargeReactivePower.clear id
    evMaximumChargeReactivePowerL2 := out.evMaximumChargeReactivePowerL2.clear id
    evMaximumChargeReactivePowerL3 := out.evMaximumChargeReactivePowerL3.clear id
    evMaximumDischargeReactivePower := out.evMaximumDischargeReactivePower.clear id
    evMaximumDischargeReactivePowerL2 := out.evMaximumDischargeReactivePowerL2.clear id
    evMaximumDischargeReactivePowerL3 := out.evMaximumDischargeReactivePowerL3.clear id
    evSessionTotalDischargeEnergyAvailable := out.evSessionTotalDischargeEnergyAvailable.clear id }

def AcChargeLoopReqType.init (out : AcChargeLoopReqType) : AcChargeLoopReqType :=
  { out with
    displayParameters := out.displayParameters.clear (·.init)
    scheduledAcClReqControlMode := out.scheduledAcClReqControlMode.clear (·.init)
    bptScheduledAcClReqControlMode := out.bptScheduledAcClReqControlMode.clear (·.init)
    derScheduledAcClReqControlMode := out.derScheduledAcClReqControlMode.clear (·.init)
    dynamicAcClReqControlMode := out.dynamicAcClReqControlMode.clear (·.init)
    bptDynamicAcClReqControlMode := out.bptDynamicAcClReqControlMode.clear (·.init)
    derDynamicAcClReqControlMode := out.derDynamicAcClReqControlMode.clear (·.init) }

-- From the generated records.
def ScheduledAcClReqControlModeType.convert (mode : ScheduledAcClReqControlModeType) :
    ScheduledAcClReqControlMode :=
  { targetEnergyRequest := cb2cppConvertIfUsed mode.evTargetEnergyRequest
    maxEnergyRequest := cb2cppConvertIfUsed mode.evMaximumEnergyRequest
    minEnergyRequest := cb2cppConvertIfUsed mode.evMinimumEnergyRequest
    maxChargePower := cb2cppConvertIfUsed mode.evMaximumChargePower
    maxChargePowerL2 := cb2cppConvertIfUsed mode.evMaximumChargePowerL2
    maxChargePowerL3 := cb2cppConvertIfUsed mode.evMaximumChargePowerL3
    minChargePower := cb2cppConvertIfUsed mode.evMinimumChargePower
    minChargePowerL2 := cb2cppConvertIfUsed mode.evMinimumChargePowerL2
    minChargePowerL3 := cb2cppConvertIfUsed mode.evMinimumChargePowerL3
    presentActivePower := mode.evPresentActivePower.convert
    presentActivePowerL2 := cb2cppConvertIfUsed mode.evPresentActivePowerL2
    presentActivePowerL3 := cb2cppConvertIfUsed mode.evPresentActivePowerL3
    presentReactivePower := cb2cppConvertIfUsed mode.evPresentReactivePower
    presentReactivePowerL2 := cb2cppConvertIfUsed mode.evPresentReactivePowerL2
    presentReactivePowerL3 := cb2cppConvertIfUsed mode.evPresentReactivePowerL3 }

def BptScheduledAcClReqControlModeType.convert (mode : BptScheduledAcClReqControlModeType) :
    BptScheduledAcClReqControlMode :=
  { toScheduledAcClReqControlMode := mode.toScheduledAcClReqControlModeType.convert
    maxDischargePower := cb2cppConvertIfUsed mode.evMaximumDischargePower
    maxDischargePowerL2 := cb2cppConvertIfUsed mode.evMaximumDischargePowerL2
    maxDischargePowerL3 := cb2cppConvertIfUsed mode.evMaximumDischargePowerL3
    minDischargePower := cb2cppConvertIfUsed mode.evMinimumDischargePower
    minDischargePowerL2 := cb2cppConvertIfUsed mode.evMinimumDischargePowerL2
    minDischargePowerL3 := cb2cppConvertIfUsed mode.evMinimumDischargePowerL3 }

def DerScheduledAcClReqControlModeType.convert (mode : DerScheduledAcClReqControlModeType) :
    DerScheduledAcClReqControlMode :=
  { toScheduledAcClReqControlMode := mode.toScheduledAcClReqControlModeType.convert
    maxDischargePower := some mode.evMaximumDischargePower.convert
    maxDischargePowerL2 := cb2cppConvertIfUsed mode.evMaximumDischargePowerL2
    maxDischargePowerL3 := cb2cppConvertIfUsed mode.evMaximumDischargePowerL3
    minDischargePower := some mode.evMinimumDischargePower.convert
    minDischargePowerL2 := cb2cppConvertIfUsed mode.evMinimumDischargePowerL2
    minDischargePowerL3 := cb2cppConvertIfUsed mode.evMinimumDischargePowerL3
    maxChargeReactivePower := cb2cppConvertIfUsed mode.evMaximumChargeReactivePower
    maxChargeReactivePowerL2 := cb2cppConvertIfUsed mode.evMaximumChargeReactivePowerL2
    maxChargeReactivePowerL3 := cb2cppConvertIfUsed mode.evMaximumChargeReactivePowerL3
    maxDischargeReactivePower := cb2cppConvertIfUsed mode.evMaximumDischargeReactivePower
    maxDischargeReactivePowerL2 := cb2cppConvertIfUsed mode.evMaximumDischargeReactivePowerL2
    maxDischargeReactivePowerL3 := cb2cppConvertIfUsed mode.evMaximumDischargeReactivePowerL3
    gridEventCondition := mode.gridEventCondition }

def DynamicAcClReqControlModeType.convert (mode : DynamicAcClReqControlModeType) :
    DynamicAcClReqControlMode :=
  { departureTime := cb2cppAssignIfUsed mode.departureTime
    targetEnergyRequest := mode.evTargetEnergyRequest.convert
    maxEnergyRequest := mode.evMaximumEnergyRequest.convert
    minEnergyRequest := mode.evMinimumEnergyRequest.convert
    maxChargePower := mode.evMaximumChargePower.convert
    maxChargePowerL2 := cb2cppConvertIfUsed mode.evMaximumChargePowerL2
    maxChargePowerL3 := cb2cppConvertIfUsed mode.evMaximumChargePowerL3
    minChargePower := mode.evMinimumChargePower.convert
    minChargePowerL2 := cb2cppConvertIfUsed mode.evMinimumChargePowerL2
    minChargePowerL3 := cb2cppConvertIfUsed mode.evMinimumChargePowerL3
    presentActivePower := mode.evPresentActivePower.convert
    presentActivePowerL2 := cb2cppConvertIfUsed mode.evPresentActivePowerL2
    presentActivePowerL3 := cb2cppConvertIfUsed mode.evPresentActivePowerL3
    presentReactivePower := mode.evPresentReactivePower.convert
    presentReactivePowerL2 := cb2cppConvertIfUsed mode.evPresentReactivePowerL2
    presentReactivePowerL3 := cb2cppConvertIfUsed mode.evPresentReactivePowerL3 }

def BptDynamicAcClReqControlModeType.convert (mode : BptDynamicAcClReqControlModeType) :
    BptDynamicAcClReqControlMode :=
  { toDynamicAcClReqControlMode := mode.toDynamicAcClReqControlModeType.convert
    maxDischargePower := mode.evMaximumDischargePower.convert
    maxDischargePowerL2 := cb2cppConvertIfUsed mode.evMaximumDischargePowerL2
    maxDischargePowerL3 := cb2cppConvertIfUsed mode.evMaximumDischargePowerL3
    minDischargePower := mode.evMinimumDischargePower.convert
    minDischargePowerL2 := cb2cppConvertIfUsed mode.evMinimumDischargePowerL2
    minDischargePowerL3 := cb2cppConvertIfUsed mode.evMinimumDischargePowerL3
    maxV2xEnergyRequest := cb2cppConvertIfUsed mode.evMaximumV2xEnergyRequest
    minV2xEnergyRequest := cb2cppConvertIfUsed mode.evMinimumV2xEnergyRequest }

def DerDynamicAcClReqControlModeType.convert (mode : DerDynamicAcClReqControlModeType) :
    DerDynamicAcClReqControlMode :=
  { toDynamicAcClReqControlMode := mode.toDynamicAcClReqControlModeType.convert
    maxDischargePower := mode.evMaximumDischargePower.convert
    maxDischargePowerL2 := cb2cppConvertIfUsed mode.evMaximumDischargePowerL2
    maxDischargePowerL3 := cb2cppConvertIfUsed mode.evMaximumDischargePowerL3
    minDischargePower := mode.evMinimumDischargePower.convert
    minDischargePowerL2 := cb2cppConvertIfUsed mode.evMinimumDischargePowerL2
    minDischargePowerL3 := cb2cppConvertIfUsed mode.evMinimumDischargePowerL3
    maxV2xEnergyRequest := cb2cppConvertIfUsed mode.evMaximumV2xEnergyRequest
    minV2xEnergyRequest := cb2cppConvertIfUsed mode.evMinimumV2xEnergyRequest
    maxChargeReactivePower := cb2cppConvertIfUsed mode.evMaximumChargeReactivePower
    maxChargeReactivePowerL2 := cb2cppConvertIfUsed mode.evMaximumChargeReactivePowerL2
    maxChargeReactivePowerL3 := cb2cppConvertIfUsed mode.evMaximumChargeReactivePowerL3
    maxDischargeReactivePower := cb2cppConvertIfUsed mode.evMaximumDischargeReactivePower
    maxDischargeReactivePowerL2 := cb2cppConvertIfUsed mode.evMaximumDischargeReactivePowerL2
    maxDischargeReactivePowerL3 := cb2cppConvertIfUsed mode.evMaximumDischargeReactivePowerL3
    gridEventCondition := mode.gridEventCondition
    sessionTotalDischargeEnergyAvailable := cb2cppConvertIfUsed mode.evSessionTotalDischargeEnergyAvailable }

def AcChargeLoopReqType.controlMode (req : AcChargeLoopReqType) : Except Fault AcClReqControlMode :=
  if req.scheduledAcClReqControlMode.isUsed then
    return .scheduled req.scheduledAcClReqControlMode.value.convert
  else if req.bptScheduledAcClReqControlMode.isUsed then
    return .bptScheduled req.bptScheduledAcClReqControlMode.value.convert
  else if req.derScheduledAcClReqControlMode.isUsed then
    return .derScheduled req.derScheduledAcClReqControlMode.value.convert
  else if req.dynamicAcClReqControlMode.isUsed then
    return .dynamic req.dynamicAcClReqControlMode.value.convert
  else if req.bptDynamicAcClReqControlMode.isUsed then
    return .bptDynamic req.bptDynamicAcClReqControlMode.value.convert
  else if req.derDynamicAcClReqControlMode.isUsed then
    return .derDynamic req.derDynamicAcClReqControlMode.value.convert
  else .error .assertion

def AcChargeLoopReqType.convert (req : AcChargeLoopReqType) : Except Fault AcChargeLoopRequest := do
  let header ← req.header.convert
  let controlMode ← req.controlMode
  return {
    header
    displayParameters := req.displayParameters.read (·.convert)
    meterInfoRequested := cppBool req.meterInfoRequested
    controlMode }

end Iso20.Ac

-- To the generated records.

/-- A number that may be missing, in a member without flag, or in one whose flag is not set with it -/
def convertIfPresent (value : Option RationalNumber) (out : Iso20.RationalNumberType) :
    Iso20.RationalNumberType :=
  match value with
  | some value => value.convert
  | none => out

namespace Datatypes

/-- `convert_scheduled_common` -/
def ScheduledAcClReqControlMode.convert (mode : ScheduledAcClReqControlMode)
    (out : Iso20.Ac.ScheduledAcClReqControlModeType) : Iso20.Ac.ScheduledAcClReqControlModeType :=
  { evTargetEnergyRequest := cpp2cbConvertIfUsed mode.targetEnergyRequest out.evTargetEnergyRequest
    evMaximumEnergyRequest := cpp2cbConvertIfUsed mode.maxEnergyRequest out.evMaximumEnergyRequest
    evMinimumEnergyRequest := cpp2cbConvertIfUsed mode.minEnergyRequest out.evMinimumEnergyRequest
    evMaximumChargePower := cpp2cbConvertIfUsed mode.maxChargePower out.evMaximumChargePower
    evMaximumChargePowerL2 := cpp2cbConvertIfUsed mode.maxChargePowerL2 out.evMaximumChargePowerL2
    evMaximumChargePowerL3 := cpp2cbConvertIfUsed mode.maxChargePowerL3 out.evMaximumChargePowerL3
    evMinimumChargePower := cpp2cbConvertIfUsed mode.minChargePower out.evMinimumChargePower
    evMinimumChargePowerL2 := cpp2cbConvertIfUsed mode.minChargePowerL2 out.evMinimumChargePowerL2
    evMinimumChargePowerL3 := cpp2cbConvertIfUsed mode.minChargePowerL3 out.evMinimumChargePowerL3
    evPresentActivePower := mode.presentActivePower.convert
    evPresentActivePowerL2 := cpp2cbConvertIfUsed mode.presentActivePowerL2 out.evPresentActivePowerL2
    evPresentActivePowerL3 := cpp2cbConvertIfUsed mode.presentActivePowerL3 out.evPresentActivePowerL3
    evPresentReactivePower := cpp2cbConvertIfUsed mode.presentReactivePower out.evPresentReactivePower
    evPresentReactivePowerL2 :=
      cpp2cbConvertIfUsed mode.presentReactivePowerL2 out.evPresentReactivePowerL2
    evPresentReactivePowerL3 :=
      cpp2cbConvertIfUsed mode.presentReactivePowerL3 out.evPresentReactivePowerL3 }

def BptScheduledAcClReqControlMode.convert (mode : BptScheduledAcClReqControlMode)
    (out : Iso20.Ac.BptScheduledAcClReqControlModeType) : Iso20.Ac.BptScheduledAcClReqControlModeType :=
  -- The flags of the two powers stay as they are.
  { toScheduledAcClReqControlModeType :=
      mode.toScheduledAcClReqControlMode.convert out.toScheduledAcClReqControlModeType
    evMaximumDischargePower :=
      { out.evMaximumDischargePower with
        value := convertIfPresent mode.maxDischargePower out.evMaximumDischargePower.value }
    evMaximumDischargePowerL2 :=
      cpp2cbConvertIfUsed mode.maxDischargePowerL2 out.evMaximumDischargePowerL2
    evMaximumDischargePowerL3 :=
      cpp2cbConvertIfUsed mode.maxDischargePowerL3 out.evMaximumDischargePowerL3
    evMinimumDischargePower :=
      { out.evMinimumDischargePower with
        value := convertIfPresent mode.minDischargePower out.evMinimumDischargePower.value }
    evMinimumDischargePowerL2 :=
      cpp2cbConvertIfUsed mode.minDischargePowerL2 out.evMinimumDischargePowerL2
    evMinimumDischargePowerL3 :=
      cpp2cbConvertIfUsed mode.minDischargePowerL3 out.evMinimumDischargePowerL3 }

def DerScheduledAcClReqControlMode.convert (mode : DerScheduledAcClReqControlMode)
    (out : Iso20.Ac.DerScheduledAcClReqControlModeType) : Iso20.Ac.DerScheduledAcClReqControlModeType :=
  { toScheduledAcClReqControlModeType :=
      mode.toScheduledAcClReqControlMode.convert out.toScheduledAcClReqControlModeType
    evMaximumDischargePower := convertIfPresent mode.maxDischargePower out.evMaximumDischargePower
    evMaximumDischargePowerL2 :=
      cpp2cbConvertIfUsed mode.maxDischargePowerL2 out.evMaximumDischargePowerL2
    evMaximumDischargePowerL3 :=
      cpp2cbConvertIfUsed mode.maxDischargePowerL3 out.evMaximumDischargePowerL3
    evMinimumDischargePower := convertIfPresent mode.minDischargePower out.evMinimumDischargePower
    evMinimumDischargePowerL2 :=
      cpp2cbConvertIfUsed mode.minDischargePowerL2 out.evMinimumDischargePowerL2
    evMinimumDischargePowerL3 :=
      cpp2cbConvertIfUsed mode.minDischargePowerL3 out.evMinimumDischargePowerL3
    evMaximumChargeReactivePower :=
      cpp2cbConvertIfUsed mode.maxChargeReactivePower out.evMaximumChargeReactivePower
    evMaximumChargeReactivePowerL2 :=
      cpp2cbConvertIfUsed mode.maxChargeReactivePowerL2 out.evMaximumChargeReactivePowerL2
    evMaximumChargeReactivePowerL3 :=
      cpp2cbConvertIfUsed mode.maxChargeReactivePowerL3 out.evMaximumChargeReactivePowerL3
    evMaximumDischargeReactivePower :=
      cpp2cbConvertIfUsed mode.maxDischargeReactivePower out.evMaximumDischargeReactivePower
    evMaximumDischargeReactivePowerL2 :=
      cpp2cbConvertIfUsed mode.maxDischargeReactivePowerL2 out.evMaximumDischargeReactivePowerL2
    evMaximumDischargeReactivePowerL3 :=
      cpp2cbConvertIfUsed mode.maxDischargeReactivePowerL3 out.evMaximumDischargeReactivePowerL3
    gridEventCondition := mode.gridEventCondition }

/-- `convert_dynamic_common` -/
def DynamicAcClReqControlMode.convert (mode : DynamicAcClReqControlMode)
    (out : Iso20.Ac.DynamicAcClReqControlModeType) : Iso20.Ac.DynamicAcClReqControlModeType :=
  { departureTime := cpp2cbAssignIfUsed mode.departureTime out.departureTime
    evTargetEnergyRequest := mode.targetEnergyRequest.convert
    evMaximumEnergyRequest := mode.maxEnergyRequest.convert
    evMinimumEnergyRequest := mode.minEnergyRequest.convert
    evMaximumChargePower := mode.maxChargePower.convert
    evMaximumChargePowerL2 := cpp2cbConvertIfUsed mode.maxChargePowerL2 out.evMaximumChargePowerL2
    evMaximumChargePowerL3 := cpp2cbConvertIfUsed mode.maxChargePowerL3 out.evMaximumChargePowerL3
    evMinimumChargePower := mode.minChargePower.convert
    evMinimumChargePowerL2 := cpp2cbConvertIfUsed mode.minChargePowerL2 out.evMinimumChargePowerL2
    evMinimumChargePowerL3 := cpp2cbConvertIfUsed mode.minChargePowerL3 out.evMinimumChargePowerL3
    evPresentActivePower := mode.presentActivePower.convert
    evPresentActivePowerL2 := cpp2cbConvertIfUsed mode.presentActivePowerL2 out.evPresentActivePowerL2
    evPresentActivePowerL3 := cpp2cbConvertIfUsed mode.presentActivePowerL3 out.evPresentActivePowerL3
    evPresentReactivePower := mode.presentReactivePower.convert
    evPresentReactivePowerL2 :=
      cpp2cbConvertIfUsed mode.presentReactivePowerL2 out.evPresentReactivePowerL2
    evPresentReactivePowerL3 :=
      cpp2cbConvertIfUsed mode.presentReactivePowerL3 out.evPresentReactivePowerL3 }

def BptDynamicAcClReqControlMode.convert (mode : BptDynamicAcClReqControlMode)
    (out : Iso20.Ac.BptDynamicAcClReqControlModeType) : Iso20.Ac.BptDynamicAcClReqControlModeType :=
  { toDynamicAcClReqControlModeType :=
      mode.toDynamicAcClReqControlMode.convert out.toDynamicAcClReqControlModeType
    evMaximumDischargePower := mode.maxDischargePower.convert
    evMaximumDischargePowerL2 :=
      cpp2cbConvertIfUsed mode.maxDischargePowerL2 out.evMaximumDischargePowerL2
    evMaximumDischargePowerL3 :=
      cpp2cbConvertIfUsed mode.maxDischargePowerL3 out.evMaximumDischargePowerL3
    evMinimumDischargePower := mode.minDischargePower.convert
    evMinimumDischargePowerL2 :=
      cpp2cbConvertIfUsed mode.minDischargePowerL2 out.evMinimumDischargePowerL2
    evMinimumDischargePowerL3 :=
      cpp2cbConvertIfUsed mode.minDischargePowerL3 out.evMinimumDischargePowerL3
    evMaximumV2xEnergyRequest :=
      cpp2cbConvertIfUsed mode.maxV2xEnergyRequest out.evMaximumV2xEnergyRequest
    evMinimumV2xEnergyRequest :=
      cpp2cbConvertIfUsed mode.minV2xEnergyRequest out.evMinimumV2xEnergyRequest }

def DerDynamicAcClReqControlMode.convert (mode : DerDynamicAcClReqControlMode)
    (out : Iso20.Ac.DerDynamicAcClReqControlModeType) : Iso20.Ac.DerDynamicAcClReqControlModeType :=
  { toDynamicAcClReqControlModeType :=
      mode.toDynamicAcClReqControlMode.convert out.toDynamicAcClReqControlModeType
    evMaximumDischargePower := mode.maxDischargePower.convert
    evMaximumDischargePowerL2 :=
      cpp2cbConvertIfUsed mode.maxDischargePowerL2 out.evMaximumDischargePowerL2
    evMaximumDischargePowerL3 :=
      cpp2cbConvertIfUsed mode.maxDischargePowerL3 out.evMaximumDischargePowerL3
    evMinimumDischargePower := mode.minDischargePower.convert
    evMinimumDischargePowerL2 :=
      cpp2cbConvertIfUsed mode.minDischargePowerL2 out.evMinimumDischargePowerL2
    evMinimumDischargePowerL3 :=
      cpp2cbConvertIfUsed mode.minDischargePowerL3 out.evMinimumDischargePowerL3
    evMaximumV2xEnergyRequest :=
      cpp2cbConvertIfUsed mode.maxV2xEnergyRequest out.evMaximumV2xEnergyRequest
    evMinimumV2xEnergyRequest :=
      cpp2cbConvertIfUsed mode.minV2xEnergyRequest out.evMinimumV2xEnergyRequest
    evMaximumChargeReactivePower :=
      cpp2cbConvertIfUsed mode.maxChargeReactivePower out.evMaximumChargeReactivePower
    evMaximumChargeReactivePowerL2 :=
      cpp2cbConvertIfUsed mode.maxChargeReactivePowerL2 out.evMaximumChargeReactivePowerL2
    evMaximumChargeReactivePowerL3 :=
      cpp2cbConvertIfUsed mode.maxChargeReactivePowerL3 out.evMaximumChargeReactivePowerL3
    evMaximumDischargeReactivePower :=
      cpp2cbConvertIfUsed mode.maxDischargeReactivePower out.evMaximumDischargeReactivePower
    evMaximumDischargeReactivePowerL2 :=
      cpp2cbConvertIfUsed mode.maxDischargeReactivePowerL2 out.evMaximumDischargeReactivePowerL2
    evMaximumDischargeReactivePowerL3 :=
      cpp2cbConvertIfUsed mode.maxDischargeReactivePowerL3 out.evMaximumDischargeReactivePowerL3
    gridEventCondition := mode.gridEventCondition
    evSessionTotalDischargeEnergyAvailable :=
      cpp2cbConvertIfUsed mode.sessionTotalDischargeEnergyAvailable out.evSessionTotalDischargeEnergyAvailable }

/-- `ModeRequestVisitor` -/
def AcClReqControlMode.convert (mode : AcClReqControlMode) (req : Iso20.Ac.AcChargeLoopReqType) :
    Iso20.Ac.AcChargeLoopReqType :=
  match mode with
  | .scheduled mode =>
      { req with scheduledAcClReqControlMode := req.scheduledAcClReqControlMode.set (mode.convert ·.init) }
  | .bptScheduled mode =>
      { req with bptScheduledAcClReqControlMode := req.bptScheduledAcClReqControlMode.set (mode.convert ·.init) }
  | .derScheduled mode =>
      { req with derScheduledAcClReqControlMode := req.derScheduledAcClReqControlMode.set (mode.convert ·.init) }
  | .dynamic mode =>
      { req with dynamicAcClReqControlMode := req.dynamicAcClReqControlMode.set (mode.convert ·.init) }
  | .bptDynamic mode =>
      { req with bptDynamicAcClReqControlMode := req.bptDynamicAcClReqControlMode.set (mode.convert ·.init) }
  | .derDynamic mode =>
      { req with derDynamicAcClReqControlMode := req.derDynamicAcClReqControlMode.set (mode.convert ·.init) }

end Datatypes

def AcChargeLoopRequest.convert (req : AcChargeLoopRequest) (out : Iso20.Ac.AcChargeLoopReqType) :
    Iso20.Ac.AcChargeLoopReqType :=
  let out := out.init
  req.controlMode.convert
    { out with
      header := req.header.convert
      displayParameters := out.displayParameters.write DisplayParameters.convert req.displayParameters
      meterInfoRequested := cbBool req.meterInfoRequested }

theorem convertIfPresent_convert {value : Option RationalNumber} (present : value.isSome)
    (out : Iso20.RationalNumberType) : some (convertIfPresent value out).convert = value := by
  cases value with
  | none => cases present
  | some value => rfl

namespace Datatypes

@[simp] theorem ScheduledAcClReqControlMode.convert_convert (mode : ScheduledAcClReqControlMode)
    (out : Iso20.Ac.ScheduledAcClReqControlModeType) : (mode.convert out).convert = mode := by
  simp [ScheduledAcClReqControlMode.convert, Iso20.Ac.ScheduledAcClReqControlModeType.convert]

@[simp] theorem DynamicAcClReqControlMode.convert_convert (mode : DynamicAcClReqControlMode)
    (out : Iso20.Ac.DynamicAcClReqControlModeType) : (mode.convert out).convert = mode := by
  simp [DynamicAcClReqControlMode.convert, Iso20.Ac.DynamicAcClReqControlModeType.convert]

@[simp] theorem BptDynamicAcClReqControlMode.convert_convert (mode : BptDynamicAcClReqControlMode)
    (out : Iso20.Ac.BptDynamicAcClReqControlModeType) : (mode.convert out).convert = mode := by
  simp [BptDynamicAcClReqControlMode.convert, Iso20.Ac.BptDynamicAcClReqControlModeType.convert]

@[simp] theorem DerDynamicAcClReqControlMode.convert_convert (mode : DerDynamicAcClReqControlMode)
    (out : Iso20.Ac.DerDynamicAcClReqControlModeType) : (mode.convert out).convert = mode := by
  simp [DerDynamicAcClReqControlMode.convert, Iso20.Ac.DerDynamicAcClReqControlModeType.convert]

theorem BptScheduledAcClReqControlMode.convert_convert_iff (mode : BptScheduledAcClReqControlMode)
    (out : Iso20.Ac.BptScheduledAcClReqControlModeType) :
    (mode.convert out.init).convert = mode ↔ mode.maxDischargePower = none ∧ mode.minDischargePower = none := by
  -- The two powers without a flag are not read back.
  have same : (mode.convert out.init).convert =
      { mode with maxDischargePower := none, minDischargePower := none } := by
    simp [BptScheduledAcClReqControlMode.convert, Iso20.Ac.BptScheduledAcClReqControlModeType.convert,
      Iso20.Ac.BptScheduledAcClReqControlModeType.init]
  rw [same]
  constructor
  · intro back
    exact ⟨(congrArg (·.maxDischargePower) back).symm, (congrArg (·.minDischargePower) back).symm⟩
  · rintro ⟨maximum, minimum⟩
    cases mode
    cases maximum
    cases minimum
    rfl

theorem DerScheduledAcClReqControlMode.convert_convert (mode : DerScheduledAcClReqControlMode)
    (maximum : mode.maxDischargePower.isSome) (minimum : mode.minDischargePower.isSome)
    (out : Iso20.Ac.DerScheduledAcClReqControlModeType) : (mode.convert out).convert = mode := by
  have same : (mode.convert out).convert =
      { mode with
        maxDischargePower := some (convertIfPresent mode.maxDischargePower out.evMaximumDischargePower).convert
        minDischargePower :=
          some (convertIfPresent mode.minDischargePower out.evMinimumDischargePower).convert } := by
    simp [DerScheduledAcClReqControlMode.convert, Iso20.Ac.DerScheduledAcClReqControlModeType.convert]
  rw [same, convertIfPresent_convert maximum, convertIfPresent_convert minimum]

end Datatypes

/-- A request comes back as it was sent, unless it is of the bidirectional scheduled mode with a maximum or a
minimum discharge power. The two powers that the schema demands of `DER_Scheduled` are there. -/
theorem ac_charge_loop_request_round_trip_iff (req : AcChargeLoopRequest)
    (demanded : ∀ mode, req.controlMode = .derScheduled mode →
      mode.maxDischargePower.isSome ∧ mode.minDischargePower.isSome)
    (out : Iso20.Ac.AcChargeLoopReqType) :
    (req.convert out).convert = .ok req ↔
      ∀ mode, req.controlMode = .bptScheduled mode →
        mode.maxDischargePower = none ∧ mode.minDischargePower = none := by
  obtain ⟨header, displayParameters, meterInfoRequested, controlMode⟩ := req
  cases controlMode
  case derScheduled mode =>
    obtain ⟨maximum, minimum⟩ := demanded mode rfl
    simp [AcChargeLoopRequest.convert, Iso20.Ac.AcChargeLoopReqType.convert, AcClReqControlMode.convert,
      Iso20.Ac.AcChargeLoopReqType.controlMode, Iso20.Ac.AcChargeLoopReqType.init, Used.set,
      mode.convert_convert maximum minimum]
  all_goals
    simp [AcChargeLoopRequest.convert, Iso20.Ac.AcChargeLoopReqType.convert, AcClReqControlMode.convert,
      Iso20.Ac.AcChargeLoopReqType.controlMode, Iso20.Ac.AcChargeLoopReqType.init, Used.set,
      BptScheduledAcClReqControlMode.convert_convert_iff]

namespace Sample

def chargeLoopRequest (controlMode : AcClReqControlMode) : AcChargeLoopRequest :=
  { header := {}, displayParameters := none, meterInfoRequested := false, controlMode }

def dischargePower : BptScheduledAcClReqControlMode :=
  { maxDischargePower := some { value := 11, exponent := 3 } }

def derPowers : DerScheduledAcClReqControlMode :=
  { targetEnergyRequest := some { value := 25, exponent := 3 }
    maxChargePower := some { value := 22, exponent := 3 }
    maxChargePowerL2 := some { value := 7, exponent := 3 }
    presentActivePower := { value := 5, exponent := 3 }
    presentReactivePower := some { value := -2, exponent := 2 }
    maxDischargePower := some { value := 11, exponent := 3 }
    minDischargePower := some { value := 1, exponent := 3 }
    maxDischargePowerL3 := some { value := 4, exponent := 3 }
    maxChargeReactivePower := some { value := 3, exponent := 3 }
    gridEventCondition := 2 }

end Sample

theorem ac_charge_loop_request_round_trip_scheduled :
    ((Sample.chargeLoopRequest (.derScheduled Sample.derPowers)).convert default).convert =
      .ok (Sample.chargeLoopRequest (.derScheduled Sample.derPowers)) :=
  (ac_charge_loop_request_round_trip_iff (Sample.chargeLoopRequest (.derScheduled Sample.derPowers))
    (by rintro mode ⟨⟩; exact ⟨rfl, rfl⟩) default).mpr (by intro mode same; cases same)

/-- A maximum discharge power of 11 kW is not read back. -/
theorem ac_charge_loop_request_round_trip_lost :
    ((Sample.chargeLoopRequest (.bptScheduled Sample.dischargePower)).convert default).convert ≠
      .ok (Sample.chargeLoopRequest (.bptScheduled Sample.dischargePower)) := by
  intro back
  simp only [Sample.chargeLoopRequest, AcChargeLoopRequest.convert, Iso20.Ac.AcChargeLoopReqType.convert,
    AcClReqControlMode.convert, Iso20.Ac.AcChargeLoopReqType.controlMode, bind_eq_ok, pure_eq_ok] at back
  obtain ⟨_, _, _, same, back⟩ := back
  cases back
  cases ((Sample.dischargePower.convert_convert_iff _).mp
    (AcClReqControlMode.bptScheduled.inj (pure_eq_ok.mp same))).1

end LibIso15118
