import LibIso15118.Codec.CommonTypes

set_option autoImplicit false

/-!
# Conversion of the DER control

The control functions that a station asks a vehicle to run, a tree of optional parts with curves at the
leaves. The capacity is that of the generated array of curve points.
-/

namespace LibIso15118

open Datatypes Codec

namespace Iso20.Ac

structure SetpointExcitationType where
  setpointValue : RationalNumberType
  excitation : Used Int32
  deriving Inhabited

structure DataTupleType where
  xValue : RationalNumberType
  yValue : SetpointExcitationType
  deriving Inhabited

structure DerCurveType (capacity : Nat) where
  xUnit : Int32
  yUnit : Int32
  curveDataPoints : Bounded capacity DataTupleType
  minCosPhi : Used RationalNumberType
  lockValueUnit : Used Int32
  lockInValue : Used RationalNumberType
  lockOutValue : Used RationalNumberType
  pt1ResponseReactivePower : Int32
  stepResponseTimeConstantReactivePower : RationalNumberType
  intentionalDelay : Used RationalNumberType
  deriving Inhabited

structure FrequencyWattType where
  fStart : RationalNumberType
  fStop : RationalNumberType
  intentionalDelayFStop : Used UInt16
  slope : RationalNumberType
  deactivationTime : Used UInt16
  intentionalDelayPowerControl : Used UInt16
  powerReference : Int32
  hysteresisControl : Int32
  powerUpRamp : Used UInt16
  pt1ResponseActivePower : Int32
  stepResponseTimeConstantActivePower : RationalNumberType
  deriving Inhabited

structure VoltWattType where
  powerReference : Int32
  uStart : RationalNumberType
  uStop : RationalNumberType
  pt1ResponseActivePower : Int32
  stepResponseTimeConstantActivePower : RationalNumberType
  intentionalDelayPowerControl : Used UInt32
  deriving Inhabited

structure FaultRideThroughType where
  voltageLimitStartFrt : RationalNumberType
  voltageLimitStopFrt : Used RationalNumberType
  voltageRecoveryLimit : Used RationalNumberType
  voltageRideThroughPositiveCurveKFactor : Used RationalNumberType
  voltageRideThroughNegativeCurveKFactor : Used RationalNumberType
  pt1ResponseActivePower : Int32
  stepResponseTimeConstantActivePower : RationalNumberType
  pt1ResponseReactivePower : Int32
  stepResponseTimeConstantReactivePower : RationalNumberType
  deriving Inhabited

structure ZeroCurrentType where
  overVoltageLimit : Used RationalNumberType
  underVoltageLimit : Used RationalNumberType
  overVoltageRecoveryLimit : Used RationalNumberType
  underVoltageRecoveryLimit : Used RationalNumberType
  pt1ResponseActivePower : Int32
  stepResponseTimeConstantActivePower : RationalNumberType
  pt1ResponseReactivePower : Int32
  stepResponseTimeConstantReactivePower : RationalNumberType
  deriving Inhabited

structure ReactivePowerSupportType (capacity : Nat) where
  voltVar : Used (DerCurveType capacity)
  wattVar : Used (DerCurveType capacity)
  wattCosPhi : Used (DerCurveType capacity)
  deriving Inhabited

structure ActivePowerSupportType where
  underFrequencyWatt : Used FrequencyWattType
  overFrequencyWatt : Used FrequencyWattType
  voltWatt : Used VoltWattType
  deriving Inhabited

structure DerControlType (capacity : Nat) where
  overvoltageFaultRideThrough : Used FaultRideThroughType
  undervoltageFaultRideThrough : Used FaultRideThroughType
  zeroCurrent : Used ZeroCurrentType
  reactivePowerSupport : Used (ReactivePowerSupportType capacity)
  activePowerSupport : Used ActivePowerSupportType
  maximumLevelDcInjection : Used RationalNumberType
  deriving Inhabited

-- The functions `init_iso20_ac_…`.
def SetpointExcitationType.init (out : SetpointExcitationType) : SetpointExcitationType :=
  { out with excitation := out.excitation.clear id }

def DataTupleType.init (out : DataTupleType) : DataTupleType :=
  { out with yValue := out.yValue.init }

variable {capacity : Nat}

def DerCurveType.init (out : DerCurveType capacity) : DerCurveType capacity :=
  { out with
    curveDataPoints := out.curveDataPoints.clear
    minCosPhi := out.minCosPhi.clear id
    lockValueUnit := out.lockValueUnit.clear id
    lockInValue := out.lockInValue.clear id
    lockOutValue := out.lockOutValue.clear id
    intentionalDelay := out.intentionalDelay.clear id }

def FrequencyWattType.init (out : FrequencyWattType) : FrequencyWattType :=
  { out with
    intentionalDelayFStop := out.intentionalDelayFStop.clear id
    deactivationTime := out.deactivationTime.clear id
    intentionalDelayPowerControl := out.intentionalDelayPowerControl.clear id
    powerUpRamp := out.powerUpRamp.clear id }

def VoltWattType.init (out : VoltWattType) : VoltWattType :=
  { out with intentionalDelayPowerControl := out.intentionalDelayPowerControl.clear id }

def FaultRideThroughType.init (out : FaultRideThroughType) : FaultRideThroughType :=
  { out with
    voltageLimitStopFrt := out.voltageLimitStopFrt.clear id
    voltageRecoveryLimit := out.voltageRecoveryLimit.clear id
    voltageRideThroughPositiveCurveKFactor := out.voltageRideThroughPositiveCurveKFactor.clear id
    voltageRideThroughNegativeCurveKFactor := out.voltageRideThroughNegativeCurveKFactor.clear id }

def ZeroCurrentType.init (out : ZeroCurrentType) : ZeroCurrentType :=
  { out with
    overVoltageLimit := out.overVoltageLimit.clear id
    underVoltageLimit := out.underVoltageLimit.clear id
    overVoltageRecoveryLimit := out.overVoltageRecoveryLimit.clear id
    underVoltageRecoveryLimit := out.underVoltageRecoveryLimit.clear id }

def ReactivePowerSupportType.init (out : ReactivePowerSupportType capacity) : ReactivePowerSupportType capacity :=
  { voltVar := out.voltVar.clear (·.init)
    wattVar := out.wattVar.clear (·.init)
    wattCosPhi := out.wattCosPhi.clear (·.init) }

def ActivePowerSupportType.init (out : ActivePowerSupportType) : ActivePowerSupportType :=
  { underFrequencyWatt := out.underFrequencyWatt.clear (·.init)
    overFrequencyWatt := out.overFrequencyWatt.clear (·.init)
    voltWatt := out.voltWatt.clear (·.init) }

def DerControlType.init (out : DerControlType capacity) : DerControlType capacity :=
  { overvoltageFaultRideThrough := out.overvoltageFaultRideThrough.clear (·.init)
    undervoltageFaultRideThrough := out.undervoltageFaultRideThrough.clear (·.init)
    zeroCurrent := out.zeroCurrent.clear (·.init)
    reactivePowerSupport := out.reactivePowerSupport.clear (·.init)
    activePowerSupport := out.activePowerSupport.clear (·.init)
    maximumLevelDcInjection := out.maximumLevelDcInjection.clear id }

-- From the generated records.
def SetpointExcitationType.convert (setpoint : SetpointExcitationType) : Except Fault DerSetpointExcitation := do
  let excitation ← setpoint.excitation.readM cppEnum
  return { setpointValue := setpoint.setpointValue.convert, excitation }

def DataTupleType.convert (point : DataTupleType) : Except Fault DerCurveDataPoint := do
  let yValue ← point.yValue.convert
  return { xValue := point.xValue.convert, yValue }

def DerCurveType.convert (curve : DerCurveType capacity) : Except Fault DerCurve := do
  let xUnit ← cppEnum curve.xUnit
  let yUnit ← cppEnum curve.yUnit
  let curveDataPoints ← curve.curveDataPoints.entries .outsideArray (·.convert)
  let lockValueUnit ← curve.lockValueUnit.readM cppEnum
  return {
    xUnit
    yUnit
    curveDataPoints
    minCosPhi := cb2cppConvertIfUsed curve.minCosPhi
    lockValueUnit
    lockInValue := cb2cppConvertIfUsed curve.lockInValue
    lockOutValue := cb2cppConvertIfUsed curve.lockOutValue
    pt1ResponseReactivePower := cppBool curve.pt1ResponseReactivePower
    stepResponseTimeConstantReactivePower := curve.stepResponseTimeConstantReactivePower.convert
    intentionalDelay := cb2cppConvertIfUsed curve.intentionalDelay }

def FrequencyWattType.convert (control : FrequencyWattType) : Except Fault FrequencyWatt := do
  let powerReference ← cppEnum control.powerReference
  return {
    fStart := control.fStart.convert
    fStop := control.fStop.convert
    intentionalDelayFStop := cb2cppAssignIfUsed control.intentionalDelayFStop
    slope := control.slope.convert
    deactivationTime := cb2cppAssignIfUsed control.deactivationTime
    intentionalDelayPowerControl := cb2cppAssignIfUsed control.intentionalDelayPowerControl
    powerReference
    hysteresisControl := cppBool control.hysteresisControl
    powerUpRamp := cb2cppAssignIfUsed control.powerUpRamp
    pt1ResponseActivePower := cppBool control.pt1ResponseActivePower
    stepResponseTimeConstantActivePower := control.stepResponseTimeConstantActivePower.convert }

def VoltWattType.convert (control : VoltWattType) : Except Fault VoltWatt := do
  let powerReference ← cppEnum control.powerReference
  return {
    powerReference
    uStart := control.uStart.convert
    uStop := control.uStop.convert
    pt1ResponseActivePower := cppBool control.pt1ResponseActivePower
    stepResponseTimeConstantActivePower := control.stepResponseTimeConstantActivePower.convert
    intentionalDelayPowerControl := cb2cppAssignIfUsed control.intentionalDelayPowerControl }

def FaultRideThroughType.convert (limits : FaultRideThroughType) : FaultRideThrough :=
  { voltageLimitStartFrt := limits.voltageLimitStartFrt.convert
    voltageLimitStopFrt := cb2cppConvertIfUsed limits.voltageLimitStopFrt
    voltageRecoveryLimit := cb2cppConvertIfUsed limits.voltageRecoveryLimit
    voltageRideThroughPositiveCurveKFactor := cb2cppConvertIfUsed limits.voltageRideThroughPositiveCurveKFactor
    voltageRideThroughNegativeCurveKFactor := cb2cppConvertIfUsed limits.voltageRideThroughNegativeCurveKFactor
    pt1ResponseActivePower := cppBool limits.pt1ResponseActivePower
    stepResponseTimeConstantActivePower := limits.stepResponseTimeConstantActivePower.convert
    pt1ResponseReactivePower := cppBool limits.pt1ResponseReactivePower
    stepResponseTimeConstantReactivePower := limits.stepResponseTimeConstantReactivePower.convert }

def ZeroCurrentType.convert (limits : ZeroCurrentType) : ZeroCurrent :=
  { overVoltageLimit := cb2cppConvertIfUsed limits.overVoltageLimit
    underVoltageLimit := cb2cppConvertIfUsed limits.underVoltageLimit
    overVoltageRecoveryLimit := cb2cppConvertIfUsed limits.overVoltageRecoveryLimit
    underVoltageRecoveryLimit := cb2cppConvertIfUsed limits.underVoltageRecoveryLimit
    pt1ResponseActivePower := cppBool limits.pt1ResponseActivePower
    stepResponseTimeConstantActivePower := limits.stepResponseTimeConstantActivePower.convert
    pt1ResponseReactivePower := cppBool limits.pt1ResponseReactivePower
    stepResponseTimeConstantReactivePower := limits.stepResponseTimeConstantReactivePower.convert }

def ReactivePowerSupportType.convert (support : ReactivePowerSupportType capacity) :
    Except Fault ReactivePowerSupport := do
  let voltVar ← support.voltVar.readM (·.convert)
  let wattVar ← support.wattVar.readM (·.convert)
  let wattCosPhi ← support.wattCosPhi.readM (·.convert)
  return { voltVar, wattVar, wattCosPhi }

def ActivePowerSupportType.convert (support : ActivePowerSupportType) : Except Fault ActivePowerSupport := do
  let underFrequencyWatt ← support.underFrequencyWatt.readM (·.convert)
  let overFrequencyWatt ← support.overFrequencyWatt.readM (·.convert)
  let voltWatt ← support.voltWatt.readM (·.convert)
  return { underFrequencyWatt, overFrequencyWatt, voltWatt }

def DerControlType.convert (control : DerControlType capacity) : Except Fault DerControl := do
  let reactivePowerSupport ← control.reactivePowerSupport.readM (·.convert)
  let activePowerSupport ← control.activePowerSupport.readM (·.convert)
  return {
    overvoltageFaultRideThrough := control.overvoltageFaultRideThrough.read (·.convert)
    undervoltageFaultRideThrough := control.undervoltageFaultRideThrough.read (·.convert)
    zeroCurrent := control.zeroCurrent.read (·.convert)
    reactivePowerSupport
    activePowerSupport
    maximumLevelDcInjection := cb2cppConvertIfUsed control.maximumLevelDcInjection }

end Iso20.Ac

-- To the generated records.

namespace Datatypes

variable {capacity : Nat}

def DerSetpointExcitation.convert (setpoint : DerSetpointExcitation) (out : Iso20.Ac.SetpointExcitationType) :
    Iso20.Ac.SetpointExcitationType :=
  let out := out.init
  { setpointValue := setpoint.setpointValue.convert
    excitation := out.excitation.write (fun excitation _ => cbEnum excitation) setpoint.excitation }

def DerCurveDataPoint.convert (point : DerCurveDataPoint) (out : Iso20.Ac.DataTupleType) :
    Iso20.Ac.DataTupleType :=
  let out := out.init
  { xValue := point.xValue.convert
    yValue := point.yValue.convert out.yValue }

def DerCurve.convert (curve : DerCurve) (out : Iso20.Ac.DerCurveType capacity) :
    Except Fault (Iso20.Ac.DerCurveType capacity) := do
  -- The points that the array has no room for are left out.
  let out := out.init
  let pointCount := min curve.curveDataPoints.length capacity
  let array ← Bounded.store .outsideArray (fun point out => .ok (DerCurveDataPoint.convert point out))
    (curve.curveDataPoints.take pointCount) 0 out.curveDataPoints.array
  return {
    xUnit := cbEnum curve.xUnit
    yUnit := cbEnum curve.yUnit
    -- `static_cast<uint16_t>(point_count)`
    curveDataPoints := { array, length := pointCount % 2 ^ 16 }
    minCosPhi := cpp2cbConvertIfUsed curve.minCosPhi out.minCosPhi
    lockValueUnit := out.lockValueUnit.write (fun unit _ => cbEnum unit) curve.lockValueUnit
    lockInValue := cpp2cbConvertIfUsed curve.lockInValue out.lockInValue
    lockOutValue := cpp2cbConvertIfUsed curve.lockOutValue out.lockOutValue
    pt1ResponseReactivePower := cbBool curve.pt1ResponseReactivePower
    stepResponseTimeConstantReactivePower := curve.stepResponseTimeConstantReactivePower.convert
    intentionalDelay := cpp2cbConvertIfUsed curve.intentionalDelay out.intentionalDelay }

def FrequencyWatt.convert (control : FrequencyWatt) (out : Iso20.Ac.FrequencyWattType) :
    Iso20.Ac.FrequencyWattType :=
  let out := out.init
  { fStart := control.fStart.convert
    fStop := control.fStop.convert
    intentionalDelayFStop := cpp2cbAssignIfUsed control.intentionalDelayFStop out.intentionalDelayFStop
    slope := control.slope.convert
    deactivationTime := cpp2cbAssignIfUsed control.deactivationTime out.deactivationTime
    intentionalDelayPowerControl :=
      cpp2cbAssignIfUsed control.intentionalDelayPowerControl out.intentionalDelayPowerControl
    powerReference := cbEnum control.powerReference
    hysteresisControl := cbBool control.hysteresisControl
    powerUpRamp := cpp2cbAssignIfUsed control.powerUpRamp out.powerUpRamp
    pt1ResponseActivePower := cbBool control.pt1ResponseActivePower
    stepResponseTimeConstantActivePower := control.stepResponseTimeConstantActivePower.convert }

def VoltWatt.convert (control : VoltWatt) (out : Iso20.Ac.VoltWattType) :
    Iso20.Ac.VoltWattType :=
  let out := out.init
  { powerReference := cbEnum control.powerReference
    uStart := control.uStart.convert
    uStop := control.uStop.convert
    pt1ResponseActivePower := cbBool control.pt1ResponseActivePower
    stepResponseTimeConstantActivePower := control.stepResponseTimeConstantActivePower.convert
    intentionalDelayPowerControl :=
      cpp2cbAssignIfUsed control.intentionalDelayPowerControl out.intentionalDelayPowerControl }

def FaultRideThrough.convert (limits : FaultRideThrough) (out : Iso20.Ac.FaultRideThroughType) :
    Iso20.Ac.FaultRideThroughType :=
  let out := out.init
  { voltageLimitStartFrt := limits.voltageLimitStartFrt.convert
    voltageLimitStopFrt := cpp2cbConvertIfUsed limits.voltageLimitStopFrt out.voltageLimitStopFrt
    voltageRecoveryLimit := cpp2cbConvertIfUsed limits.voltageRecoveryLimit out.voltageRecoveryLimit
    voltageRideThroughPositiveCurveKFactor :=
      cpp2cbConvertIfUsed limits.voltageRideThroughPositiveCurveKFactor out.voltageRideThroughPositiveCurveKFactor
    voltageRideThroughNegativeCurveKFactor :=
      cpp2cbConvertIfUsed limits.voltageRideThroughNegativeCurveKFactor out.voltageRideThroughNegativeCurveKFactor
    pt1ResponseActivePower := cbBool limits.pt1ResponseActivePower
    stepResponseTimeConstantActivePower := limits.stepResponseTimeConstantActivePower.convert
    pt1ResponseReactivePower := cbBool limits.pt1ResponseReactivePower
    stepResponseTimeConstantReactivePower := limits.stepResponseTimeConstantReactivePower.convert }

def ZeroCurrent.convert (limits : ZeroCurrent) (out : Iso20.Ac.ZeroCurrentType) :
    Iso20.Ac.ZeroCurrentType :=
  let out := out.init
  { overVoltageLimit := cpp2cbConvertIfUsed limits.overVoltageLimit out.overVoltageLimit
    underVoltageLimit := cpp2cbConvertIfUsed limits.underVoltageLimit out.underVoltageLimit
    overVoltageRecoveryLimit :=
      cpp2cbConvertIfUsed limits.overVoltageRecoveryLimit out.overVoltageRecoveryLimit
    underVoltageRecoveryLimit :=
      cpp2cbConvertIfUsed limits.underVoltageRecoveryLimit out.underVoltageRecoveryLimit
    pt1ResponseActivePower := cbBool limits.pt1ResponseActivePower
    stepResponseTimeConstantActivePower := limits.stepResponseTimeConstantActivePower.convert
    pt1ResponseReactivePower := cbBool limits.pt1ResponseReactivePower
    stepResponseTimeConstantReactivePower := limits.stepResponseTimeConstantReactivePower.convert }

def ReactivePowerSupport.convert (support : ReactivePowerSupport) (out : Iso20.Ac.ReactivePowerSupportType capacity) :
    Except Fault (Iso20.Ac.ReactivePowerSupportType capacity) := do
  let out := out.init
  let voltVar ← out.voltVar.writeM DerCurve.convert support.voltVar
  let wattVar ← out.wattVar.writeM DerCurve.convert support.wattVar
  let wattCosPhi ← out.wattCosPhi.writeM DerCurve.convert support.wattCosPhi
  return { voltVar, wattVar, wattCosPhi }

def ActivePowerSupport.convert (support : ActivePowerSupport) (out : Iso20.Ac.ActivePowerSupportType) :
    Iso20.Ac.ActivePowerSupportType :=
  let out := out.init
  { underFrequencyWatt := out.underFrequencyWatt.write FrequencyWatt.convert support.underFrequencyWatt
    overFrequencyWatt := out.overFrequencyWatt.write FrequencyWatt.convert support.overFrequencyWatt
    voltWatt := out.voltWatt.write VoltWatt.convert support.voltWatt }

def DerControl.convert (control : DerControl) (out : Iso20.Ac.DerControlType capacity) :
    Except Fault (Iso20.Ac.DerControlType capacity) := do
  let out := out.init
  let reactivePowerSupport ←
    out.reactivePowerSupport.writeM ReactivePowerSupport.convert control.reactivePowerSupport
  return {
    overvoltageFaultRideThrough :=
      out.overvoltageFaultRideThrough.write FaultRideThrough.convert control.overvoltageFaultRideThrough
    undervoltageFaultRideThrough :=
      out.undervoltageFaultRideThrough.write FaultRideThrough.convert control.undervoltageFaultRideThrough
    zeroCurrent := out.zeroCurrent.write ZeroCurrent.convert control.zeroCurrent
    reactivePowerSupport
    activePowerSupport := out.activePowerSupport.write ActivePowerSupport.convert control.activePowerSupport
    maximumLevelDcInjection := cpp2cbConvertIfUsed control.maximumLevelDcInjection out.maximumLevelDcInjection }

@[simp] theorem DerSetpointExcitation.convert_convert (setpoint : DerSetpointExcitation)
    (out : Iso20.Ac.SetpointExcitationType) : (setpoint.convert out).convert = .ok setpoint := by
  simp [DerSetpointExcitation.convert, Iso20.Ac.SetpointExcitationType.convert]

@[simp] theorem DerCurveDataPoint.convert_convert (point : DerCurveDataPoint) (out : Iso20.Ac.DataTupleType) :
    (point.convert out).convert = .ok point := by
  simp [DerCurveDataPoint.convert, Iso20.Ac.DataTupleType.convert]

@[simp] theorem FrequencyWatt.convert_convert (control : FrequencyWatt) (out : Iso20.Ac.FrequencyWattType) :
    (control.convert out).convert = .ok control := by
  simp [FrequencyWatt.convert, Iso20.Ac.FrequencyWattType.convert]

@[simp] theorem VoltWatt.convert_convert (control : VoltWatt) (out : Iso20.Ac.VoltWattType) :
    (control.convert out).convert = .ok control := by
  simp [VoltWatt.convert, Iso20.Ac.VoltWattType.convert]

@[simp] theorem FaultRideThrough.convert_convert (limits : FaultRideThrough)
    (out : Iso20.Ac.FaultRideThroughType) : (limits.convert out).convert = limits := by
  simp [FaultRideThrough.convert, Iso20.Ac.FaultRideThroughType.convert]

@[simp] theorem ZeroCurrent.convert_convert (limits : ZeroCurrent) (out : Iso20.Ac.ZeroCurrentType) :
    (limits.convert out).convert = limits := by
  simp [ZeroCurrent.convert, Iso20.Ac.ZeroCurrentType.convert]

@[simp] theorem ActivePowerSupport.convert_convert (support : ActivePowerSupport)
    (out : Iso20.Ac.ActivePowerSupportType) : (support.convert out).convert = .ok support := by
  simp [ActivePowerSupport.convert, Iso20.Ac.ActivePowerSupportType.convert, Used.readM_write, bind_eq_ok]

/-- The curve has no more points than the generated array, and no more than its length can say. -/
def DerCurve.Fits (capacity : Nat) (curve : DerCurve) : Prop :=
  curve.curveDataPoints.length ≤ capacity ∧ curve.curveDataPoints.length < 2 ^ 16

theorem DerCurve.points_iff (curve : DerCurve) (array : Vector Iso20.Ac.DataTupleType capacity)
    (loaded : Bounded.load Fault.outsideArray (·.convert) array 0
      (curve.curveDataPoints.take (min curve.curveDataPoints.length capacity)).length =
        .ok (curve.curveDataPoints.take (min curve.curveDataPoints.length capacity))) :
    Bounded.load Fault.outsideArray (·.convert) array 0 (min curve.curveDataPoints.length capacity % 2 ^ 16) =
      .ok curve.curveDataPoints ↔ curve.Fits capacity := by
  constructor
  · intro back
    have count := Bounded.load_length back
    unfold Fits
    omega
  · rintro ⟨room, counted⟩
    rw [min_eq_left room] at loaded ⊢
    rw [List.take_length] at loaded
    rwa [Nat.mod_eq_of_lt counted]

theorem DerCurve.convert_codes (curve : DerCurve) :
    Codes Fault.isThrown (fun curve (out : Iso20.Ac.DerCurveType capacity) => curve.convert out) (·.convert)
      (fun _ => True) (DerCurve.Fits capacity) curve := by
  intro out
  have inner : ∀ point ∈ curve.curveDataPoints.take (min curve.curveDataPoints.length capacity),
      Codes Fault.isThrown (fun point out => .ok (DerCurveDataPoint.convert point out)) (·.convert)
        (fun _ => True) (fun _ => True) point := by
    intro point _ out
    simp [Outcome]
  have stored := Bounded.store_load Fault.outsideArray _ inner 0 out.init.curveDataPoints.array
    (by rw [List.length_take]; omega)
  refine (stored.andThen fun array loaded => ?_).mono (by simp) fun _ holds => holds
  simp only [implies_true, iff_true] at loaded
  rw [Outcome.pure_iff, ← curve.points_iff array loaded.2]
  cases curve
  simp [Iso20.Ac.DerCurveType.convert, Bounded.entries, bind_eq_ok]

def ReactivePowerSupport.curves (support : ReactivePowerSupport) : List DerCurve :=
  support.voltVar.toList ++ support.wattVar.toList ++ support.wattCosPhi.toList

theorem curves_outcome (curve : Option DerCurve) (out : Used (Iso20.Ac.DerCurveType capacity)) :
    Outcome Fault.isThrown True
      (fun written => written.readM (·.convert) = .ok curve ↔ ∀ c ∈ curve, c.Fits capacity)
      (out.writeM DerCurve.convert curve) :=
  (Used.codes (fun c _ => c.convert_codes) out).mono (by simp) fun _ holds => holds

theorem ReactivePowerSupport.convert_codes (support : ReactivePowerSupport) :
    Codes Fault.isThrown (fun support (out : Iso20.Ac.ReactivePowerSupportType capacity) => support.convert out)
      (·.convert) (fun _ => True) (fun support => ∀ curve ∈ support.curves, curve.Fits capacity) support := by
  intro out
  obtain ⟨voltVar, wattVar, wattCosPhi⟩ := support
  refine ((curves_outcome voltVar _).bind fun _ first =>
    (curves_outcome wattVar _).bind fun _ second =>
      (curves_outcome wattCosPhi _).bind fun _ third =>
        Outcome.of_ok trivial ?_).mono (by simp) fun _ holds => holds
  simp only [Iso20.Ac.ReactivePowerSupportType.convert, curves, bind_eq_ok, pure_eq_ok,
    ReactivePowerSupport.mk.injEq, List.mem_append, Option.mem_toList, or_imp, forall_and]
  constructor
  · rintro ⟨_, one, _, two, _, three, rfl, rfl, rfl⟩
    exact ⟨⟨first.mp one, second.mp two⟩, third.mp three⟩
  · rintro ⟨⟨one, two⟩, three⟩
    exact ⟨_, first.mpr one, _, second.mpr two, _, third.mpr three, rfl, rfl, rfl⟩

def DerControl.curves (control : DerControl) : List DerCurve :=
  control.reactivePowerSupport.toList.flatMap (·.curves)

theorem DerControl.convert_codes (control : DerControl) :
    Codes Fault.isThrown (fun control (out : Iso20.Ac.DerControlType capacity) => control.convert out)
      (·.convert) (fun _ => True) (fun control => ∀ curve ∈ control.curves, curve.Fits capacity) control := by
  intro out
  obtain ⟨overvoltage, undervoltage, zeroCurrent, reactive, active, injection⟩ := control
  have support := Used.codes (a := reactive) (fun support _ => support.convert_codes)
    out.init.reactivePowerSupport
  refine (support.bind fun _ back => Outcome.of_ok trivial ?_).mono (by simp) fun _ holds => holds
  simp only [Iso20.Ac.DerControlType.convert, curves, bind_eq_ok, pure_eq_ok, Used.readM_write, Used.read_write,
    ActivePowerSupport.convert_convert, FaultRideThrough.convert_convert, ZeroCurrent.convert_convert,
    cb2cpp_convertIfUsed, implies_true, DerControl.mk.injEq, List.mem_flatMap, Option.mem_toList]
  constructor
  · rintro ⟨_, same, _, _, _, _, _, rfl, _⟩ curve ⟨support, present, member⟩
    exact back.mp same support present curve member
  · intro fits
    have same := back.mpr fun support present curve member => fits curve ⟨support, present, member⟩
    exact ⟨_, same, _, rfl, by simp⟩

end Datatypes

end LibIso15118
