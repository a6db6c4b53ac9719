import LibIso15118.Message.Messages

set_option autoImplicit false

/-!
# AC DER control

The checks compare exact numbers where the source compares `float`. With values of 16 bits the two differ only for
exponents beyond the range of `float`: {1, -50} is positive here and 0 there, {1, 40} and {2, 40} are equal there.
-/

namespace LibIso15118

open Datatypes

structure AcDerControlConfig where
  cpdControl : DerControl := {}
  dsoQSetpoint : DsoQSetpoint := {}
  dsoCosPhiSetpoint : DsoCosPhiSetpoint := {}

inductive AcDerControlFailureReason where
  | none
  | unknown
  | nonAcDerServiceSelected
  | unsupportedControlMode
  | unsupportedMobilityNeedsMode
  | missingSelectedControlFunctions
  | acDerDisabled
  | staleGridPolicy
  | staleDsoControl
  | invalidGridPolicy
  | invalidDsoControl
  | invalidEvseCapability
  | missingSelectedMandatoryControlFunctions
  | missingSupportedMandatoryControlFunctions
  | unsupportedSelectedControlFunctions
  deriving DecidableEq

structure AcDerControlResult where
  config : Option AcDerControlConfig := none
  failureReason : AcDerControlFailureReason := .none

structure AcDerControlContext where
  selectedEnergyService : ServiceCategory
  selectedControlMode : ControlMode
  selectedMobilityNeedsMode : MobilityNeedsMode
  selectedDerControlFunctions : Option DerControlFunctions

-- `IAcDerControlProvider` is an interface with one relevant operation,
-- `get_ac_der_control_result`; an implementation is a function from context to result.
abbrev AcDerControlProvider := AcDerControlContext → AcDerControlResult

/-- `StaticAcDerControlProvider::get_ac_der_control_result` -/
def staticAcDerControlProvider (config : AcDerControlConfig) : AcDerControlProvider := fun context =>
  if context.selectedEnergyService ≠ .acDer then
    { failureReason := .nonAcDerServiceSelected }
  else { config := some config }

def makeDerCurve (xUnit yUnit : DerCurveDataUnit) : DerCurve :=
  { xUnit
    yUnit
    curveDataPoints :=
      [⟨⟨0, 0⟩, { setpointValue := ⟨0, 0⟩ }⟩, ⟨⟨1, 0⟩, { setpointValue := ⟨1, 0⟩ }⟩] }

def makeFrequencyWatt (startFrequency stopFrequency : RationalNumber) : FrequencyWatt :=
  { fStart := startFrequency
    fStop := stopFrequency
    slope := ⟨1, 0⟩
    powerReference := .maximumDischargePower }

def makeVoltWatt : VoltWatt :=
  { powerReference := .maximumDischargePower
    uStart := fromFloat 230
    uStop := fromFloat 253 }

def makeFaultRideThrough : FaultRideThrough :=
  { voltageLimitStartFrt := fromFloat 253 }

def makeZeroCurrent : ZeroCurrent :=
  { overVoltageLimit := some (fromFloat 253) }

def hasRequiredAcDerControlFunctions (controls : DerControlFunctions) : Bool :=
  controls.voltWatt && controls.dsoQSetpointProvision && controls.dsoCosPhiSetpointProvision &&
    controls.dcInjectionRestriction && controls.underFrequencyWatt && controls.overFrequencyWatt &&
    controls.voltVar && controls.wattVar && controls.wattCosPhi &&
    controls.overVoltageFaultRideThrough && controls.underVoltageFaultRideThrough &&
    controls.zeroCurrent

def isNonNegative (value : RationalNumber) : Bool := decide (0 ≤ fromRationalNumber value)

def isPositive (value : RationalNumber) : Bool := decide (0 < fromRationalNumber value)

def isPowerFactor (value : RationalNumber) : Bool :=
  decide (0 ≤ fromRationalNumber value) && decide (fromRationalNumber value ≤ 1)

def optionalIsPositive (value : Option RationalNumber) : Bool := value.all isPositive

def optionalIsPowerFactor (value : Option RationalNumber) : Bool := value.all isPowerFactor

def validateFrequencyWatt (frequencyWatt : FrequencyWatt) (underFrequencyMode : Bool) : Bool :=
  let fStart := fromRationalNumber frequencyWatt.fStart
  let fStop := fromRationalNumber frequencyWatt.fStop
  isPositive frequencyWatt.fStart && isPositive frequencyWatt.fStop &&
    ((underFrequencyMode && decide (fStop < fStart)) ||
      (!underFrequencyMode && decide (fStart < fStop))) &&
    isNonNegative frequencyWatt.slope &&
    isNonNegative frequencyWatt.stepResponseTimeConstantActivePower

def validateVoltWatt (voltWatt : VoltWatt) : Bool :=
  isPositive voltWatt.uStart && isPositive voltWatt.uStop &&
    decide (fromRationalNumber voltWatt.uStart < fromRationalNumber voltWatt.uStop) &&
    isNonNegative voltWatt.stepResponseTimeConstantActivePower

/-- The loop of `validate_der_curve` over the points after the first. -/
def strictlyIncreasingFrom (previousX : ℚ) : List DerCurveDataPoint → Bool
  | [] => true
  | point :: rest =>
      let currentX := fromRationalNumber point.xValue
      if currentX ≤ previousX then false else strictlyIncreasingFrom currentX rest

def validateDerCurve (curve : DerCurve) : Bool :=
  if curve.curveDataPoints.length < 2 ∨
      isNonNegative curve.stepResponseTimeConstantReactivePower = false then false
  else
    match curve.curveDataPoints with
    | [] => true
    | first :: rest => strictlyIncreasingFrom (fromRationalNumber first.xValue) rest

def validateFaultRideThrough (frt : FaultRideThrough) : Bool :=
  isPositive frt.voltageLimitStartFrt && optionalIsPositive frt.voltageLimitStopFrt &&
    optionalIsPositive frt.voltageRecoveryLimit &&
    isNonNegative frt.stepResponseTimeConstantActivePower &&
    isNonNegative frt.stepResponseTimeConstantReactivePower

def validateZeroCurrent (zeroCurrent : ZeroCurrent) : Bool :=
  (zeroCurrent.overVoltageLimit.isSome || zeroCurrent.underVoltageLimit.isSome) &&
    optionalIsPositive zeroCurrent.overVoltageLimit &&
    optionalIsPositive zeroCurrent.underVoltageLimit &&
    optionalIsPositive zeroCurrent.overVoltageRecoveryLimit &&
    optionalIsPositive zeroCurrent.underVoltageRecoveryLimit &&
    isNonNegative zeroCurrent.stepResponseTimeConstantActivePower &&
    isNonNegative zeroCurrent.stepResponseTimeConstantReactivePower

def validateDsoQSetpoint (setpoint : DsoQSetpoint) : Bool :=
  isNonNegative setpoint.stepResponseTimeConstantReactivePower

def validateDsoCosPhiSetpoint (setpoint : DsoCosPhiSetpoint) : Bool :=
  isPowerFactor setpoint.value && optionalIsPowerFactor setpoint.valueL2 &&
    optionalIsPowerFactor setpoint.valueL3 &&
    isNonNegative setpoint.stepResponseTimeConstantReactivePower

def validateAcDerControlConfig (config : AcDerControlConfig) (controls : DerControlFunctions) : Bool :=
  let derControl := config.cpdControl
  let active {α : Type} (part : ActivePowerSupport → Option α) : Option α :=
    derControl.activePowerSupport.bind part
  let reactive {α : Type} (part : ReactivePowerSupport → Option α) : Option α :=
    derControl.reactivePowerSupport.bind part
  (!controls.voltWatt || (active (·.voltWatt)).any validateVoltWatt) &&
  (!controls.underFrequencyWatt ||
    (active (·.underFrequencyWatt)).any (validateFrequencyWatt · true)) &&
  (!controls.overFrequencyWatt ||
    (active (·.overFrequencyWatt)).any (validateFrequencyWatt · false)) &&
  (!controls.voltVar || (reactive (·.voltVar)).any validateDerCurve) &&
  (!controls.wattVar || (reactive (·.wattVar)).any validateDerCurve) &&
  (!controls.wattCosPhi || (reactive (·.wattCosPhi)).any validateDerCurve) &&
  (!controls.overVoltageFaultRideThrough ||
    derControl.overvoltageFaultRideThrough.any validateFaultRideThrough) &&
  (!controls.underVoltageFaultRideThrough ||
    derControl.undervoltageFaultRideThrough.any validateFaultRideThrough) &&
  (!controls.zeroCurrent || derControl.zeroCurrent.any validateZeroCurrent) &&
  (!controls.dcInjectionRestriction || derControl.maximumLevelDcInjection.any isNonNegative) &&
  (!controls.dsoQSetpointProvision || validateDsoQSetpoint config.dsoQSetpoint) &&
  (!controls.dsoCosPhiSetpointProvision || validateDsoCosPhiSetpoint config.dsoCosPhiSetpoint)

def makeDefaultAcDerControlConfig : AcDerControlConfig :=
  { cpdControl :=
      { overvoltageFaultRideThrough := some makeFaultRideThrough
        undervoltageFaultRideThrough := some makeFaultRideThrough
        zeroCurrent := some makeZeroCurrent
        reactivePowerSupport := some
          { voltVar := some (makeDerCurve .v .var)
            wattVar := some (makeDerCurve .w .var)
            wattCosPhi := some
              { makeDerCurve .w .var with
                curveDataPoints :=
                  [⟨⟨0, 0⟩, { setpointValue := ⟨0, 0⟩, excitation := some .overExcited }⟩,
                    ⟨⟨1, 0⟩, { setpointValue := ⟨1, 0⟩, excitation := some .underExcited }⟩] } }
        activePowerSupport := some
          -- `49.8f` and `50.2f` are the nearest numbers of 24 bits: the first is below 49.8.
          { underFrequencyWatt := some (makeFrequencyWatt (fromFloat (13054771 / 2 ^ 18)) (fromFloat (495 / 10)))
            overFrequencyWatt := some (makeFrequencyWatt (fromFloat (13159629 / 2 ^ 18)) (fromFloat (505 / 10)))
            voltWatt := some makeVoltWatt }
        maximumLevelDcInjection := some ⟨0, 0⟩ }
    dsoQSetpoint := { value := ⟨0, 0⟩ }
    dsoCosPhiSetpoint := { value := ⟨1, 0⟩, excitation := .overExcited } }

example : (makeDefaultAcDerControlConfig.cpdControl.activePowerSupport.bind (·.underFrequencyWatt)).map (·.fStart) =
    some ⟨4979, -2⟩ := by
  decide +kernel

/-- `IAcDerControlProvider::get_ac_der_control_result`, which an implementation may leave as it is. -/
def defaultAcDerControlResult (getAcDerControlConfig : AcDerControlContext → Option AcDerControlConfig) :
    AcDerControlProvider := fun context =>
  match getAcDerControlConfig context with
  | some config => { config := some config }
  | none => { failureReason := .unknown }

structure AcDerGridPolicySnapshot where
  voltWattStartVoltage : RationalNumber := {}
  voltWattStopVoltage : RationalNumber := {}
  underFrequencyWattStartHz : RationalNumber := {}
  underFrequencyWattStopHz : RationalNumber := {}
  overFrequencyWattStartHz : RationalNumber := {}
  overFrequencyWattStopHz : RationalNumber := {}
  maximumDcInjection : RationalNumber := {}
  valid : Bool := false

structure AcDerDsoControlSnapshot where
  qSetpoint : DsoQSetpoint := {}
  cosPhiSetpoint : DsoCosPhiSetpoint := {}
  valid : Bool := false

structure AcDerEvseCapabilitySnapshot where
  supportedControlFunctions : DerControlFunctions := {}
  valid : Bool := false

structure AcDerRuntimeStateSnapshot where
  acDerEnabled : Bool := false
  gridPolicyFresh : Bool := false
  dsoControlFresh : Bool := false

structure AcDerSeccControlSnapshots where
  gridPolicy : AcDerGridPolicySnapshot := {}
  dsoControl : AcDerDsoControlSnapshot := {}
  evseCapability : AcDerEvseCapabilitySnapshot := {}
  runtimeState : AcDerRuntimeStateSnapshot := {}

def supportsSelectedControls (selected supported : DerControlFunctions) : Bool :=
  (!selected.voltWatt || supported.voltWatt) &&
  (!selected.dsoQSetpointProvision || supported.dsoQSetpointProvision) &&
  (!selected.dsoCosPhiSetpointProvision || supported.dsoCosPhiSetpointProvision) &&
  (!selected.dcInjectionRestriction || supported.dcInjectionRestriction) &&
  (!selected.underFrequencyWatt || supported.underFrequencyWatt) &&
  (!selected.overFrequencyWatt || supported.overFrequencyWatt) &&
  (!selected.voltVar || supported.voltVar) && (!selected.wattVar || supported.wattVar) &&
  (!selected.wattCosPhi || supported.wattCosPhi) &&
  (!selected.overVoltageFaultRideThrough || supported.overVoltageFaultRideThrough) &&
  (!selected.underVoltageFaultRideThrough || supported.underVoltageFaultRideThrough) &&
  (!selected.zeroCurrent || supported.zeroCurrent)

def validateAcDerGridPolicySnapshot (gridPolicy : AcDerGridPolicySnapshot) : Bool :=
  decide (fromRationalNumber gridPolicy.voltWattStartVoltage <
      fromRationalNumber gridPolicy.voltWattStopVoltage) &&
  isPositive gridPolicy.voltWattStartVoltage && isPositive gridPolicy.voltWattStopVoltage &&
  decide (fromRationalNumber gridPolicy.underFrequencyWattStopHz <
      fromRationalNumber gridPolicy.underFrequencyWattStartHz) &&
  isPositive gridPolicy.underFrequencyWattStartHz && isPositive gridPolicy.underFrequencyWattStopHz &&
  decide (fromRationalNumber gridPolicy.overFrequencyWattStartHz <
      fromRationalNumber gridPolicy.overFrequencyWattStopHz) &&
  isPositive gridPolicy.overFrequencyWattStartHz && isPositive gridPolicy.overFrequencyWattStopHz &&
  isNonNegative gridPolicy.maximumDcInjection

def validateAcDerDsoControlSnapshot (dsoControl : AcDerDsoControlSnapshot) : Bool :=
  validateDsoQSetpoint dsoControl.qSetpoint && validateDsoCosPhiSetpoint dsoControl.cosPhiSetpoint

def validateAcDerSeccControlSnapshots (snapshots : AcDerSeccControlSnapshots) :
    AcDerControlFailureReason :=
  if snapshots.runtimeState.acDerEnabled = false then .acDerDisabled
  else if snapshots.runtimeState.gridPolicyFresh = false then .staleGridPolicy
  else if snapshots.runtimeState.dsoControlFresh = false then .staleDsoControl
  else if snapshots.gridPolicy.valid = false ∨
      validateAcDerGridPolicySnapshot snapshots.gridPolicy = false then .invalidGridPolicy
  else if snapshots.dsoControl.valid = false ∨
      validateAcDerDsoControlSnapshot snapshots.dsoControl = false then .invalidDsoControl
  else if snapshots.evseCapability.valid = false then .invalidEvseCapability
  else if hasRequiredAcDerControlFunctions snapshots.evseCapability.supportedControlFunctions = false then
    .missingSupportedMandatoryControlFunctions
  else .none

/-- The configuration that `SeccAcDerControlProvider` builds from its snapshots. -/
def seccAcDerControlConfig (snapshots : AcDerSeccControlSnapshots) : AcDerControlConfig :=
  let config := makeDefaultAcDerControlConfig
  let gridPolicy := snapshots.gridPolicy
  { cpdControl :=
      { config.cpdControl with
        maximumLevelDcInjection := some gridPolicy.maximumDcInjection
        activePowerSupport := some
          { voltWatt := some
              { makeVoltWatt with
                uStart := gridPolicy.voltWattStartVoltage
                uStop := gridPolicy.voltWattStopVoltage }
            underFrequencyWatt := some
              (makeFrequencyWatt gridPolicy.underFrequencyWattStartHz gridPolicy.underFrequencyWattStopHz)
            overFrequencyWatt := some
              (makeFrequencyWatt gridPolicy.overFrequencyWattStartHz gridPolicy.overFrequencyWattStopHz) } }
    dsoQSetpoint := snapshots.dsoControl.qSetpoint
    dsoCosPhiSetpoint := snapshots.dsoControl.cosPhiSetpoint }

/-- `SeccAcDerControlProvider::get_ac_der_control_result` -/
def seccAcDerControlProvider (snapshots : AcDerSeccControlSnapshots) : AcDerControlProvider := fun context =>
  if context.selectedEnergyService ≠ .acDer then
    { failureReason := .nonAcDerServiceSelected }
  else if context.selectedControlMode ≠ .dynamic then
    { failureReason := .unsupportedControlMode }
  else if context.selectedMobilityNeedsMode ≠ .providedByEvcc then
    { failureReason := .unsupportedMobilityNeedsMode }
  else
    match context.selectedDerControlFunctions with
    | none => { failureReason := .missingSelectedControlFunctions }
    | some controls =>
        let snapshotFailureReason := validateAcDerSeccControlSnapshots snapshots
        if snapshotFailureReason ≠ .none then
          { failureReason := snapshotFailureReason }
        else if supportsSelectedControls controls snapshots.evseCapability.supportedControlFunctions =
            false then
          { failureReason := .unsupportedSelectedControlFunctions }
        else if hasRequiredAcDerControlFunctions controls = false then
          { failureReason := .missingSelectedMandatoryControlFunctions }
        else
          let config := seccAcDerControlConfig snapshots
          if validateAcDerControlConfig config controls = false then
            { failureReason := .invalidGridPolicy }
          else { config := some config }

def makeRequiredAcDerControlFunctions : DerControlFunctions :=
  { voltWatt := true
    dsoQSetpointProvision := true
    dsoCosPhiSetpointProvision := true
    dcInjectionRestriction := true
    underFrequencyWatt := true
    overFrequencyWatt := true
    voltVar := true
    wattVar := true
    wattCosPhi := true
    overVoltageFaultRideThrough := true
    underVoltageFaultRideThrough := true
    zeroCurrent := true
    standardBitmap := 0x3f
    extendedBitmap := 0x3f }

def makeDefaultAcDerSeccControlSnapshots : AcDerSeccControlSnapshots :=
  { gridPolicy :=
      { voltWattStartVoltage := ⟨230, 0⟩
        voltWattStopVoltage := ⟨253, 0⟩
        underFrequencyWattStartHz := ⟨498, -1⟩
        underFrequencyWattStopHz := ⟨495, -1⟩
        overFrequencyWattStartHz := ⟨502, -1⟩
        overFrequencyWattStopHz := ⟨505, -1⟩
        maximumDcInjection := ⟨0, 0⟩
        valid := true }
    dsoControl :=
      { qSetpoint := { value := ⟨0, 0⟩ }
        cosPhiSetpoint := { value := ⟨1, 0⟩, excitation := .overExcited }
        valid := true }
    evseCapability := { supportedControlFunctions := makeRequiredAcDerControlFunctions, valid := true }
    runtimeState := { acDerEnabled := true, gridPolicyFresh := true, dsoControlFresh := true } }

def makeAcDerIecDynamicEimProfileSnapshots : AcDerSeccControlSnapshots :=
  let snapshots := makeDefaultAcDerSeccControlSnapshots
  { snapshots with
    gridPolicy :=
      { snapshots.gridPolicy with
        voltWattStartVoltage := ⟨241, 0⟩
        voltWattStopVoltage := ⟨253, 0⟩
        maximumDcInjection := ⟨5, -1⟩ }
    dsoControl :=
      { snapshots.dsoControl with
        qSetpoint := { value := ⟨7, 2⟩ }
        cosPhiSetpoint := { value := ⟨95, -2⟩, excitation := .underExcited } } }

end LibIso15118
