import LibIso15118.Codec.Metering

set_option autoImplicit false

namespace LibIso15118

open Datatypes Codec

namespace Iso20.Ac

structure ScheduledAcClResControlModeType where
  evseTargetActivePower : Used RationalNumberType
  evseTargetActivePowerL2 : Used RationalNumberType
  evseTargetActivePowerL3 : Used RationalNumberType
  evseTargetReactivePower : Used RationalNumberType
  evseTargetReactivePowerL2 : Used RationalNumberType
  evseTargetReactivePowerL3 : Used RationalNumberType
  evsePresentActivePower : Used RationalNumberType
  evsePresentActivePowerL2 : Used RationalNumberType
  evsePresentActivePowerL3 : Used RationalNumberType
  deriving Inhabited

structure DynamicAcClResControlModeType where
  departureTime : Used UInt32
  minimumSoc : Used UInt8
  targetSoc : Used UInt8
  ackMaxDelay : Used UInt16
  evseTargetActivePower : RationalNumberType
  evseTargetActivePowerL2 : Used RationalNumberType
  evseTargetActivePowerL3 : Used RationalNumberType
  evseTargetReactivePower : Used RationalNumberType
  evseTargetReactivePowerL2 : Used RationalNumberType
  evseTargetReactivePowerL3 : Used RationalNumberType
  evsePresentActivePower : Used RationalNumberType
  evsePresentActivePowerL2 : Used RationalNumberType
  evsePresentActivePowerL3 : Used RationalNumberType
  deriving Inhabited

structure DsoQSetpointType where
  dsoQSetpointValue : RationalNumberType
  dsoQSetpointValueL2 : Used RationalNumberType
  dsoQSetpointValueL3 : Used RationalNumberType
  pt1ResponseReactivePower : Int32
  stepResponseTimeConstantReactivePower : RationalNumberType
  deriving Inhabited

structure DsoCosPhiSetpointType where
  dsoCosPhiSetpointValue : RationalNumberType
  dsoCosPhiSetpointValueL2 : Used RationalNumberType
  dsoCosPhiSetpointValueL3 : Used RationalNumberType
  excitation : Int32
  pt1ResponseReactivePower : Int32
  stepResponseTimeConstantReactivePower : RationalNumberType
  deriving Inhabited

-- The members that `iso20_ac_DER_Scheduled_AC_CLResControlModeType` and
-- `iso20_ac_DER_Dynamic_AC_CLResControlModeType` both add to those of their base.
structure DerClResLimitsType where
  evseMaximumChargePower : RationalNumberType
  evseMaximumChargePowerL2 : Used RationalNumberType
  evseMaximumChargePowerL3 : Used RationalNumberType
  evseMaximumDischargePower : RationalNumberType
  evseMaximumDischargePowerL2 : Used RationalNumberType
  evseMaximumDischargePowerL3 : Used RationalNumberType
  dsoMaximumDischargePower : Used RationalNumberType
  dsoMaximumDischargePowerL2 : Used RationalNumberType
  dsoMaximumDischargePowerL3 : Used RationalNumberType
  dsoQSetpoint : Used DsoQSetpointType
  dsoCosPhiSetpoint : Used DsoCosPhiSetpointType
  deriving Inhabited

structure DerScheduledAcClResControlModeType extends ScheduledAcClResControlModeType, DerClResLimitsType
  deriving Inhabited

structure DerDynamicAcClResControlModeType extends DynamicAcClResControlModeType, DerClResLimitsType
  deriving Inhabited

-- `iso20_ac_BPT_Scheduled_AC_CLResControlModeType` and `iso20_ac_BPT_Dynamic_AC_CLResControlModeType` have the
-- members of their base.
structure AcChargeLoopResType (capacities : MeteringCapacities) where
  header : MessageHeaderType
  responseCode : Int32
  evseStatus : Used EvseStatusType
  meterInfo : Used (MeterInfoType capacities)
  receipt : Used (ReceiptType capacities)
  evseTargetFrequency : Used RationalNumberType
  scheduledAcClResControlMode : Used ScheduledAcClResControlModeType
  bptScheduledAcClResControlMode : Used ScheduledAcClResControlModeType
  derScheduledAcClResControlMode : Used DerScheduledAcClResControlModeType
  dynamicAcClResControlMode : Used DynamicAcClResControlModeType
  bptDynamicAcClResControlMode : Used DynamicAcClResControlModeType
  derDynamicAcClResControlMode : Used DerDynamicAcClResControlModeType
  deriving Inhabited

-- The functions `init_iso20_ac_…`.
def ScheduledAcClResControlModeType.init (out : ScheduledAcClResControlModeType) :
    ScheduledAcClResControlModeType :=
  { evseTargetActivePower := out.evseTargetActivePower.clear id
    evseTargetActivePowerL2 := out.evseTargetActivePowerL2.clear id
    evseTargetActivePowerL3 := out.evseTargetActivePowerL3.clear id
    evseTargetReactivePower := out.evseTargetReactivePower.clear id
    evseTargetReactivePowerL2 := out.evseTargetReactivePowerL2.clear id
    evseTargetReactivePowerL3 := out.evseTargetReactivePowerL3.clear id
    evsePresentActivePower := out.evsePresentActivePower.clear id
    evsePresentActivePowerL2 := out.evsePresentActivePowerL2.clear id
    evsePresentActivePowerL3 := out.evsePresentActivePowerL3.clear id }

def DynamicAcClResControlModeType.init (out : DynamicAcClResControlModeType) :
    DynamicAcClResControlModeType :=
  { out with
    departureTime := out.departureTime.clear id
    minimumSoc := out.minimumSoc.clear id
    targetSoc := out.targetSoc.clear id
    ackMaxDelay := out.ackMaxDelay.clear id
    evseTargetActivePowerL2 := out.evseTargetActivePowerL2.clear id
    evseTargetActivePowerL3 := out.evseTargetActivePowerL3.clear id
    evseTargetReactivePower := out.evseTargetReactivePower.clear id
    evseTargetReactivePowerL2 := out.evseTargetReactivePowerL2.clear id
    evseTargetReactivePowerL3 := out.evseTargetReactivePowerL3.clear id
    evsePresentActivePower := out.evsePresentActivePower.clear id
    evsePresentActivePowerL2 := out.evsePresentActivePowerL2.clear id
    evsePresentActivePowerL3 := out.evsePresentActivePowerL3.clear id }

def DsoQSetpointType.init (out : DsoQSetpointType) : DsoQSetpointType :=
  { out with
    dsoQSetpointValueL2 := out.dsoQSetpointValueL2.clear id
    dsoQSetpointValueL3 := out.dsoQSetpointValueL3.clear id }

def DsoCosPhiSetpointType.init (out : DsoCosPhiSetpointType) : DsoCosPhiSetpointType :=
  { out with
    dsoCosPhiSetpointValueL2 := out.dsoCosPhiSetpointValueL2.clear id
    dsoCosPhiSetpointValueL3 := out.dsoCosPhiSetpointValueL3.clear id }

def DerClResLimitsType.init (out : DerClResLimitsType) : DerClResLimitsType :=
  { out with
    evseMaximumChargePowerL2 := out.evseMaximumChargePowerL2.clear id
    evseMaximumChargePowerL3 := out.evseMaximumChargePowerL3.clear id
    evseMaximumDischargePowerL2 := out.evseMaximumDischargePowerL2.clear id
    evseMaximumDischargePowerL3 := out.evseMaximumDischargePowerL3.clear id
    dsoMaximumDischargePower := out.dsoMaximumDischargePower.clear id
    dsoMaximumDischargePowerL2 := out.dsoMaximumDischargePowerL2.clear id
    dsoMaximumDischargePowerL3 := out.dsoMaximumDischargePowerL3.clear id
    dsoQSetpoint := out.dsoQSetpoint.clear (·.init)
    dsoCosPhiSetpoint := out.dsoCosPhiSetpoint.clear (·.init) }

def DerScheduledAcClResControlModeType.init (out : DerScheduledAcClResControlModeType) :
    DerScheduledAcClResControlModeType :=
  { toScheduledAcClResControlModeType := out.toScheduledAcClResControlModeType.init
    toDerClResLimitsType := out.toDerClResLimitsType.init }

def DerDynamicAcClResControlModeType.init (out : DerDynamicAcClResControlModeType) :
    DerDynamicAcClResControlModeType :=
  { toDynamicAcClResControlModeType := out.toDynamicAcClResControlModeType.init
    toDerClResLimitsType := out.toDerClResLimitsType.init }

variable {capacities : MeteringCapacities}

def AcChargeLoopResType.init (out : AcChargeLoopResType capacities) : AcChargeLoopResType capacities :=
  { out with
    evseStatus := out.evseStatus.clear id
    meterInfo := out.meterInfo.clear (·.init)
    receipt := out.receipt.clear (·.init)
    evseTargetFrequency := out.evseTargetFrequency.clear id
    scheduledAcClResControlMode := out.scheduledAcClResControlMode.clear (·.init)
    bptScheduledAcClResControlMode := out.bptScheduledAcClResControlMode.clear (·.init)
    derScheduledAcClResControlMode := out.derScheduledAcClResControlMode.clear (·.init)
    dynamicAcClResControlMode := out.dynamicAcClResControlMode.clear (·.init)
    bptDynamicAcClResControlMode := out.bptDynamicAcClResControlMode.clear (·.init)
    derDynamicAcClResControlMode := out.derDynamicAcClResControlMode.clear (·.init) }

-- From the generated records.
def ScheduledAcClResControlModeType.convert (mode : ScheduledAcClResControlModeType) :
    ScheduledAcClResControlMode :=
  { targetActivePower := cb2cppConvertIfUsed mode.evseTargetActivePower
    targetActivePowerL2 := cb2cppConvertIfUsed mode.evseTargetActivePowerL2
    targetActivePowerL3 := cb2cppConvertIfUsed mode.evseTargetActivePowerL3
    targetReactivePower := cb2cppConvertIfUsed mode.evseTargetReactivePower
    targetReactivePowerL2 := cb2cppConvertIfUsed mode.evseTargetReactivePowerL2
    targetReactivePowerL3 := cb2cppConvertIfUsed mode.evseTargetReactivePowerL3
    presentActivePower := cb2cppConvertIfUsed mode.evsePresentActivePower
    presentActivePowerL2 := cb2cppConvertIfUsed mode.evsePresentActivePowerL2
    presentActivePowerL3 := cb2cppConvertIfUsed mode.evsePresentActivePowerL3 }

def DynamicAcClResControlModeType.convert (mode : DynamicAcClResControlModeType) :
    DynamicAcClResControlMode :=
  { departureTime := cb2cppAssignIfUsed mode.departureTime
    minimumSoc := cb2cppAssignIfUsed mode.minimumSoc
    targetSoc := cb2cppAssignIfUsed mode.targetSoc
    ackMaxDelay := cb2cppAssignIfUsed mode.ackMaxDelay
    targetActivePower := mode.evseTargetActivePower.convert
    targetActivePowerL2 := cb2cppConvertIfUsed mode.evseTargetActivePowerL2
    targetActivePowerL3 := cb2cppConvertIfUsed mode.evseTargetActivePowerL3
    targetReactivePower := cb2cppConvertIfUsed mode.evseTargetReactivePower
    targetReactivePowerL2 := cb2cppConvertIfUsed mode.evseTargetReactivePowerL2
    targetReactivePowerL3 := cb2cppConvertIfUsed mode.evseTargetReactivePowerL3
    presentActivePower := cb2cppConvertIfUsed mode.evsePresentActivePower
    presentActivePowerL2 := cb2cppConvertIfUsed mode.evsePresentActivePowerL2
    presentActivePowerL3 := cb2cppConvertIfUsed mode.evsePresentActivePowerL3 }

def DsoQSetpointType.convert (setpoint : DsoQSetpointType) : DsoQSetpoint :=
  { value := setpoint.dsoQSetpointValue.convert
    valueL2 := cb2cppConvertIfUsed setpoint.dsoQSetpointValueL2
    valueL3 := cb2cppConvertIfUsed setpoint.dsoQSetpointValueL3
    pt1ResponseReactivePower := cppBool setpoint.pt1ResponseReactivePower
    stepResponseTimeConstantReactivePower := setpoint.stepResponseTimeConstantReactivePower.convert }

def DsoCosPhiSetpointType.convert (setpoint : DsoCosPhiSetpointType) :
    Except Fault DsoCosPhiSetpoint := do
  let excitation ← cppEnum setpoint.excitation
  return {
    value := setpoint.dsoCosPhiSetpointValue.convert
    valueL2 := cb2cppConvertIfUsed setpoint.dsoCosPhiSetpointValueL2
    valueL3 := cb2cppConvertIfUsed setpoint.dsoCosPhiSetpointValueL3
    excitation
    pt1ResponseReactivePower := cppBool setpoint.pt1ResponseReactivePower
    stepResponseTimeConstantReactivePower := setpoint.stepResponseTimeConstantReactivePower.convert }

def DerClResLimitsType.convert (limits : DerClResLimitsType) : Except Fault DerClResLimits := do
  let dsoCosPhiSetpoint ← limits.dsoCosPhiSetpoint.readM (·.convert)
  return {
    maxChargePower := limits.evseMaximumChargePower.convert
    maxChargePowerL2 := cb2cppConvertIfUsed limits.evseMaximumChargePowerL2
    maxChargePowerL3 := cb2cppConvertIfUsed limits.evseMaximumChargePowerL3
    maxDischargePower := limits.evseMaximumDischargePower.convert
    maxDischargePowerL2 := cb2cppConvertIfUsed limits.evseMaximumDischargePowerL2
    maxDischargePowerL3 := cb2cppConvertIfUsed limits.evseMaximumDischargePowerL3
    dsoMaxDischargePower := cb2cppConvertIfUsed limits.dsoMaximumDischargePower
    dsoMaxDischargePowerL2 := cb2cppConvertIfUsed limits.dsoMaximumDischargePowerL2
    dsoMaxDischargePowerL3 := cb2cppConvertIfUsed limits.dsoMaximumDischargePowerL3
    dsoQSetpoint := limits.dsoQSetpoint.read (·.convert)
    dsoCosPhiSetpoint }

def DerScheduledAcClResControlModeType.convert (mode : DerScheduledAcClResControlModeType) :
    Except Fault DerScheduledAcClResControlMode := do
  let limits ← mode.toDerClResLimitsType.convert
  return {
    toScheduledAcClResControlMode := mode.toScheduledAcClResControlModeType.convert
    toDerClResLimits := limits }

def DerDynamicAcClResControlModeType.convert (mode : DerDynamicAcClResControlModeType) :
    Except Fault DerDynamicAcClResControlMode := do
  let limits ← mode.toDerClResLimitsType.convert
  return {
    toDynamicAcClResControlMode := mode.toDynamicAcClResControlModeType.convert
    toDerClResLimits := limits }

def AcChargeLoopResType.controlMode (res : AcChargeLoopResType capacities) :
    Except Fault AcClResControlMode :=
  if res.scheduledAcClResControlMode.isUsed then
    return .scheduled res.scheduledAcClResControlMode.value.convert
  else if res.bptScheduledAcClResControlMode.isUsed then
    return .bptScheduled res.bptScheduledAcClResControlMode.value.convert
  else if res.derScheduledAcClResControlMode.isUsed then do
    let mode ← res.derScheduledAcClResControlMode.value.convert
    return .derScheduled mode
  else if res.dynamicAcClResControlMode.isUsed then
    return .dynamic res.dynamicAcClResControlMode.value.convert
  else if res.bptDynamicAcClResControlMode.isUsed then
    return .bptDynamic res.bptDynamicAcClResControlMode.value.convert
  else if res.derDynamicAcClResControlMode.isUsed then do
    let mode ← res.derDynamicAcClResControlMode.value.convert
    return .derDynamic mode
  else .error .assertion

def AcChargeLoopResType.convert (res : AcChargeLoopResType capacities) :
    Except Fault AcChargeLoopResponse := do
  let header ← res.header.convert
  let responseCode ← cppEnum res.responseCode
  let meterInfo ← res.meterInfo.readM (·.convert)
  let receipt ← res.receipt.readM (·.convert)
  let status ← res.evseStatus.readM (·.convert)
  let controlMode ← res.controlMode
  return {
    header
    responseCode
    meterInfo
    receipt
    status
    targetFrequency := cb2cppConvertIfUsed res.evseTargetFrequency
    controlMode }

end Iso20.Ac

-- To the generated records.

namespace Datatypes

def ScheduledAcClResControlMode.convert (mode : ScheduledAcClResControlMode)
    (out : Iso20.Ac.ScheduledAcClResControlModeType) :
    Iso20.Ac.ScheduledAcClResControlModeType :=
  { evseTargetActivePower := cpp2cbConvertIfUsed mode.targetActivePower out.evseTargetActivePower
    evseTargetActivePowerL2 := cpp2cbConvertIfUsed mode.targetActivePowerL2 out.evseTargetActivePowerL2
    evseTargetActivePowerL3 := cpp2cbConvertIfUsed mode.targetActivePowerL3 out.evseTargetActivePowerL3
    evseTargetReactivePower := cpp2cbConvertIfUsed mode.targetReactivePower out.evseTargetReactivePower
    evseTargetReactivePowerL2 := cpp2cbConvertIfUsed mode.targetReactivePowerL2 out.evseTargetReactivePowerL2
    evseTargetReactivePowerL3 := cpp2cbConvertIfUsed mode.targetReactivePowerL3 out.evseTargetReactivePowerL3
    evsePresentActivePower := cpp2cbConvertIfUsed mode.presentActivePower out.evsePresentActivePower
    evsePresentActivePowerL2 := cpp2cbConvertIfUsed mode.presentActivePowerL2 out.evsePresentActivePowerL2
    evsePresentActivePowerL3 := cpp2cbConvertIfUsed mode.presentActivePowerL3 out.evsePresentActivePowerL3 }

def DynamicAcClResControlMode.convert (mode : DynamicAcClResControlMode)
    (out : Iso20.Ac.DynamicAcClResControlModeType) :
    Iso20.Ac.DynamicAcClResControlModeType :=
  { departureTime := cpp2cbAssignIfUsed mode.departureTime out.departureTime
    minimumSoc := cpp2cbAssignIfUsed mode.minimumSoc out.minimumSoc
    targetSoc := cpp2cbAssignIfUsed mode.targetSoc out.targetSoc
    ackMaxDelay := cpp2cbAssignIfUsed mode.ackMaxDelay out.ackMaxDelay
    evseTargetActivePower := mode.targetActivePower.convert
    evseTargetActivePowerL2 := cpp2cbConvertIfUsed mode.targetActivePowerL2 out.evseTargetActivePowerL2
    evseTargetActivePowerL3 := cpp2cbConvertIfUsed mode.targetActivePowerL3 out.evseTargetActivePowerL3
    evseTargetReactivePower := cpp2cbConvertIfUsed mode.targetReactivePower out.evseTargetReactivePower
    evseTargetReactivePowerL2 := cpp2cbConvertIfUsed mode.targetReactivePowerL2 out.evseTargetReactivePowerL2
    evseTargetReactivePowerL3 := cpp2cbConvertIfUsed mode.targetReactivePowerL3 out.evseTargetReactivePowerL3
    evsePresentActivePower := cpp2cbConvertIfUsed mode.presentActivePower out.evsePresentActivePower
    evsePresentActivePowerL2 := cpp2cbConvertIfUsed mode.presentActivePowerL2 out.evsePresentActivePowerL2
    evsePresentActivePowerL3 := cpp2cbConvertIfUsed mode.presentActivePowerL3 out.evsePresentActivePowerL3 }

def DsoQSetpoint.convert (setpoint : DsoQSetpoint) (out : Iso20.Ac.DsoQSetpointType) :
    Iso20.Ac.DsoQSetpointType :=
  let out := out.init
  { dsoQSetpointValue := setpoint.value.convert
    dsoQSetpointValueL2 := cpp2cbConvertIfUsed setpoint.valueL2 out.dsoQSetpointValueL2
    dsoQSetpointValueL3 := cpp2cbConvertIfUsed setpoint.valueL3 out.dsoQSetpointValueL3
    pt1ResponseReactivePower := cbBool setpoint.pt1ResponseReactivePower
    stepResponseTimeConstantReactivePower := setpoint.stepResponseTimeConstantReactivePower.convert }

def DsoCosPhiSetpoint.convert (setpoint : DsoCosPhiSetpoint) (out : Iso20.Ac.DsoCosPhiSetpointType) :
    Iso20.Ac.DsoCosPhiSetpointType :=
  let out := out.init
  { dsoCosPhiSetpointValue := setpoint.value.convert
    dsoCosPhiSetpointValueL2 := cpp2cbConvertIfUsed setpoint.valueL2 out.dsoCosPhiSetpointValueL2
    dsoCosPhiSetpointValueL3 := cpp2cbConvertIfUsed setpoint.valueL3 out.dsoCosPhiSetpointValueL3
    excitation := cbEnum setpoint.excitation
    pt1ResponseReactivePower := cbBool setpoint.pt1ResponseReactivePower
    stepResponseTimeConstantReactivePower := setpoint.stepResponseTimeConstantReactivePower.convert }

def DerClResLimits.convert (limits : DerClResLimits) (out : Iso20.Ac.DerClResLimitsType) :
    Iso20.Ac.DerClResLimitsType :=
  { evseMaximumChargePower := limits.maxChargePower.convert
    evseMaximumChargePowerL2 := cpp2cbConvertIfUsed limits.maxChargePowerL2 out.evseMaximumChargePowerL2
    evseMaximumChargePowerL3 := cpp2cbConvertIfUsed limits.maxChargePowerL3 out.evseMaximumChargePowerL3
    evseMaximumDischargePower := limits.maxDischargePower.convert
    evseMaximumDischargePowerL2 := cpp2cbConvertIfUsed limits.maxDischargePowerL2 out.evseMaximumDischargePowerL2
    evseMaximumDischargePowerL3 := cpp2cbConvertIfUsed limits.maxDischargePowerL3 out.evseMaximumDischargePowerL3
    dsoMaximumDischargePower := cpp2cbConvertIfUsed limits.dsoMaxDischargePower out.dsoMaximumDischargePower
    dsoMaximumDischargePowerL2 := cpp2cbConvertIfUsed limits.dsoMaxDischargePowerL2 out.dsoMaximumDischargePowerL2
    dsoMaximumDischargePowerL3 := cpp2cbConvertIfUsed limits.dsoMaxDischargePowerL3 out.dsoMaximumDischargePowerL3
    dsoQSetpoint := out.dsoQSetpoint.write DsoQSetpoint.convert limits.dsoQSetpoint
    dsoCosPhiSetpoint := out.dsoCosPhiSetpoint.write DsoCosPhiSetpoint.convert limits.dsoCosPhiSetpoint }

def DerScheduledAcClResControlMode.convert (mode : DerScheduledAcClResControlMode)
    (out : Iso20.Ac.DerScheduledAcClResControlModeType) : Iso20.Ac.DerScheduledAcClResControlModeType :=
  { toScheduledAcClResControlModeType :=
    mode.toScheduledAcClResControlMode.convert out.toScheduledAcClResControlModeType
    toDerClResLimitsType := mode.toDerClResLimits.convert out.toDerClResLimitsType }

def DerDynamicAcClResControlMode.convert (mode : DerDynamicAcClResControlMode)
    (out : Iso20.Ac.DerDynamicAcClResControlModeType) : Iso20.Ac.DerDynamicAcClResControlModeType :=
  { toDynamicAcClResControlModeType := mode.toDynamicAcClResControlMode.convert out.toDynamicAcClResControlModeType
    toDerClResLimitsType := mode.toDerClResLimits.convert out.toDerClResLimitsType }

/-- `ControlModeVisitor` -/
def AcClResControlMode.convert {capacities : MeteringCapacities} (mode : AcClResControlMode)
    (res : Iso20.Ac.AcChargeLoopResType capacities) : Iso20.Ac.AcChargeLoopResType capacities :=
  match mode with
  | .scheduled mode =>
      { res with scheduledAcClResControlMode := res.scheduledAcClResControlMode.set (mode.convert ·.init) }
  | .bptScheduled mode =>
      { res with bptScheduledAcClResControlMode := res.bptScheduledAcClResControlMode.set (mode.convert ·.init) }
  | .derScheduled mode =>
      { res with derScheduledAcClResControlMode := res.derScheduledAcClResControlMode.set (mode.convert ·.init) }
  | .dynamic mode =>
      { res with dynamicAcClResControlMode := res.dynamicAcClResControlMode.set (mode.convert ·.init) }
  | .bptDynamic mode =>
      { res with bptDynamicAcClResControlMode := res.bptDynamicAcClResControlMode.set (mode.convert ·.init) }
  | .derDynamic mode =>
      { res with derDynamicAcClResControlMode := res.derDynamicAcClResControlMode.set (mode.convert ·.init) }

end Datatypes

def AcChargeLoopResponse.convert {capacities : MeteringCapacities} (res : AcChargeLoopResponse)
    (out : Iso20.Ac.AcChargeLoopResType capacities) : Except Fault (Iso20.Ac.AcChargeLoopResType capacities) := do
  let out := out.init
  let meterInfo ← out.meterInfo.writeM MeterInfo.convert res.meterInfo
  let receipt ← out.receipt.writeM Receipt.convert res.receipt
  return res.controlMode.convert
    { out with
      header := res.header.convert
      responseCode := cbEnum res.responseCode
      evseStatus := out.evseStatus.write (fun status _ => status.convert) res.status
      meterInfo
      receipt
      evseTargetFrequency := cpp2cbConvertIfUsed res.targetFrequency out.evseTargetFrequency }

namespace Datatypes

@[simp] theorem ScheduledAcClResControlMode.convert_convert (mode : ScheduledAcClResControlMode)
    (out : Iso20.Ac.ScheduledAcClResControlModeType) : (mode.convert out).convert = mode := by
  simp [ScheduledAcClResControlMode.convert, Iso20.Ac.ScheduledAcClResControlModeType.convert]

@[simp] theorem DynamicAcClResControlMode.convert_convert (mode : DynamicAcClResControlMode)
    (out : Iso20.Ac.DynamicAcClResControlModeType) : (mode.convert out).convert = mode := by
  simp [DynamicAcClResControlMode.convert, Iso20.Ac.DynamicAcClResControlModeType.convert]

@[simp] theorem DsoQSetpoint.convert_convert (setpoint : DsoQSetpoint)
    (out : Iso20.Ac.DsoQSetpointType) : (setpoint.convert out).convert = setpoint := by
  simp [DsoQSetpoint.convert, Iso20.Ac.DsoQSetpointType.convert]

@[simp] theorem DsoCosPhiSetpoint.convert_convert (setpoint : DsoCosPhiSetpoint)
    (out : Iso20.Ac.DsoCosPhiSetpointType) : (setpoint.convert out).convert = .ok setpoint := by
  simp [DsoCosPhiSetpoint.convert, Iso20.Ac.DsoCosPhiSetpointType.convert]

@[simp] theorem DsoQSetpoint.read_write (setpoint : Option DsoQSetpoint) (out : Used Iso20.Ac.DsoQSetpointType) :
    (out.write DsoQSetpoint.convert setpoint).read (·.convert) = setpoint :=
  Used.read_write (fun setpoint out => setpoint.convert_convert out) setpoint out

@[simp] theorem DsoCosPhiSetpoint.read_write (setpoint : Option DsoCosPhiSetpoint)
    (out : Used Iso20.Ac.DsoCosPhiSetpointType) :
    (out.write DsoCosPhiSetpoint.convert setpoint).readM (·.convert) = .ok setpoint :=
  Used.readM_write (fun setpoint out => setpoint.convert_convert out) setpoint out

@[simp] theorem DerClResLimits.convert_convert (limits : DerClResLimits)
    (out : Iso20.Ac.DerClResLimitsType) : (limits.convert out).convert = .ok limits := by
  simp [DerClResLimits.convert, Iso20.Ac.DerClResLimitsType.convert]

@[simp] theorem DerScheduledAcClResControlMode.convert_convert (mode : DerScheduledAcClResControlMode)
    (out : Iso20.Ac.DerScheduledAcClResControlModeType) : (mode.convert out).convert = .ok mode := by
  simp [DerScheduledAcClResControlMode.convert, Iso20.Ac.DerScheduledAcClResControlModeType.convert]

@[simp] theorem DerDynamicAcClResControlMode.convert_convert (mode : DerDynamicAcClResControlMode)
    (out : Iso20.Ac.DerDynamicAcClResControlModeType) : (mode.convert out).convert = .ok mode := by
  simp [DerDynamicAcClResControlMode.convert, Iso20.Ac.DerDynamicAcClResControlModeType.convert]

end Datatypes

/-- A response without meter information and receipt comes back as it was sent. -/
theorem ac_charge_loop_response_round_trip (capacities : MeteringCapacities) (res : AcChargeLoopResponse)
    (unmetered : res.meterInfo = none) (unbilled : res.receipt = none)
    (out : Iso20.Ac.AcChargeLoopResType capacities) : (res.convert out >>= (·.convert)) = .ok res := by
  obtain ⟨header, code, status, meterInfo, receipt, frequency, controlMode⟩ := res
  cases unmetered
  cases unbilled
  cases controlMode <;>
    simp [AcChargeLoopResponse.convert, Iso20.Ac.AcChargeLoopResType.convert, AcClResControlMode.convert,
      Iso20.Ac.AcChargeLoopResType.controlMode, Iso20.Ac.AcChargeLoopResType.init, Used.set, Used.writeM,
      bind_eq_ok]

namespace Sample

def gridSetpoints : DerDynamicAcClResControlMode :=
  { targetActivePower := { value := 11, exponent := 3 }
    dsoMaxDischargePower := some { value := 5, exponent := 3 }
    dsoQSetpoint := some { value := { value := 2, exponent := 3 } }
    dsoCosPhiSetpoint := some { value := { value := 95, exponent := -2 }, excitation := .underExcited } }

end Sample

theorem ac_charge_loop_response_round_trip_der :
    (AcChargeLoopResponse.convert { controlMode := .derDynamic Sample.gridSetpoints }
        (default : Iso20.Ac.AcChargeLoopResType Sample.meteringCapacities) >>= (·.convert)) =
      .ok { controlMode := .derDynamic Sample.gridSetpoints } :=
  ac_charge_loop_response_round_trip Sample.meteringCapacities _ rfl rfl default

end LibIso15118
