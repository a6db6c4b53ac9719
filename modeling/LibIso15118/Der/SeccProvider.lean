import LibIso15118.D20.AcDerControl

set_option autoImplicit false

namespace LibIso15118

open Datatypes

structure AcDerSeccControlSnapshots.Ready (snapshots : AcDerSeccControlSnapshots) : Prop where
  enabled : snapshots.runtimeState.acDerEnabled = true
  policyFresh : snapshots.runtimeState.gridPolicyFresh = true
  dsoFresh : snapshots.runtimeState.dsoControlFresh = true
  policyValid : snapshots.gridPolicy.valid = true
  policy : validateAcDerGridPolicySnapshot snapshots.gridPolicy = true
  dsoValid : snapshots.dsoControl.valid = true
  dso : validateAcDerDsoControlSnapshot snapshots.dsoControl = true
  capabilityValid : snapshots.evseCapability.valid = true
  capable : hasRequiredAcDerControlFunctions snapshots.evseCapability.supportedControlFunctions = true

theorem validateAcDerSeccControlSnapshots_iff (snapshots : AcDerSeccControlSnapshots) :
    validateAcDerSeccControlSnapshots snapshots = .none ↔ snapshots.Ready := by
  constructor
  · intro passes
    simp only [validateAcDerSeccControlSnapshots] at passes
    split_ifs at passes with disabled stalePolicy staleDso policy dso capability required
    simp only [not_or, Bool.not_eq_false] at disabled stalePolicy staleDso policy dso capability required
    exact ⟨disabled, stalePolicy, staleDso, policy.1, policy.2, dso.1, dso.2, capability, required⟩
  · intro ready
    simp [validateAcDerSeccControlSnapshots, ready.enabled, ready.policyFresh, ready.dsoFresh,
      ready.policyValid, ready.policy, ready.dsoValid, ready.dso, ready.capabilityValid, ready.capable]

section FinalCheck

variable {gridPolicy : AcDerGridPolicySnapshot} (valid : validateAcDerGridPolicySnapshot gridPolicy = true)
include valid

theorem validateVoltWatt_of_policy :
    validateVoltWatt
      { makeVoltWatt with
        uStart := gridPolicy.voltWattStartVoltage
        uStop := gridPolicy.voltWattStopVoltage } = true := by
  simp only [validateAcDerGridPolicySnapshot, Bool.and_eq_true, decide_eq_true_eq] at valid
  have settled : isNonNegative makeVoltWatt.stepResponseTimeConstantActivePower = true := by
    decide +kernel
  simp [validateVoltWatt, valid, settled]

theorem validateFrequencyWatt_of_policy :
    validateFrequencyWatt (makeFrequencyWatt gridPolicy.underFrequencyWattStartHz
        gridPolicy.underFrequencyWattStopHz) true = true ∧
      validateFrequencyWatt (makeFrequencyWatt gridPolicy.overFrequencyWattStartHz
        gridPolicy.overFrequencyWattStopHz) false = true := by
  simp only [validateAcDerGridPolicySnapshot, Bool.and_eq_true, decide_eq_true_eq] at valid
  have slope : isNonNegative ⟨1, 0⟩ = true := by decide +kernel
  have settled : isNonNegative {} = true := by decide +kernel
  constructor <;> simp [validateFrequencyWatt, makeFrequencyWatt, valid, slope, settled]

end FinalCheck

theorem validateAcDerControlConfig_of_ready {snapshots : AcDerSeccControlSnapshots}
    (ready : snapshots.Ready) (controls : DerControlFunctions) :
    validateAcDerControlConfig (seccAcDerControlConfig snapshots) controls = true := by
  -- The final check of the provider never fails on snapshots that have passed the preflight.
  have voltWatt := validateVoltWatt_of_policy ready.policy
  obtain ⟨under, overFrequency⟩ := validateFrequencyWatt_of_policy ready.policy
  have injection : isNonNegative snapshots.gridPolicy.maximumDcInjection = true := by
    have policy := ready.policy
    simp only [validateAcDerGridPolicySnapshot, Bool.and_eq_true] at policy
    exact policy.2
  obtain ⟨q, cosPhi⟩ : validateDsoQSetpoint snapshots.dsoControl.qSetpoint = true ∧
      validateDsoCosPhiSetpoint snapshots.dsoControl.cosPhiSetpoint = true := by
    simpa [validateAcDerDsoControlSnapshot] using ready.dso
  -- the rest of the configuration is the default one
  have frt : validateFaultRideThrough makeFaultRideThrough = true := by decide +kernel
  have zero : validateZeroCurrent makeZeroCurrent = true := by decide +kernel
  have voltVar : validateDerCurve (makeDerCurve .v .var) = true := by decide +kernel
  have wattVar : validateDerCurve (makeDerCurve .w .var) = true := by decide +kernel
  have wattCosPhi : (makeDefaultAcDerControlConfig.cpdControl.reactivePowerSupport.bind
      (·.wattCosPhi)).any validateDerCurve = true := by decide +kernel
  simp only [makeDefaultAcDerControlConfig, Option.bind_some, Option.any_some] at wattCosPhi
  simp [validateAcDerControlConfig, seccAcDerControlConfig, makeDefaultAcDerControlConfig, voltWatt, under,
    overFrequency, injection, q, cosPhi, frt, zero, voltVar, wattVar, wattCosPhi]

structure AcDerControlContext.Selects (context : AcDerControlContext)
    (snapshots : AcDerSeccControlSnapshots) (controls : DerControlFunctions) : Prop where
  service : context.selectedEnergyService = .acDer
  control : context.selectedControlMode = .dynamic
  mobility : context.selectedMobilityNeedsMode = .providedByEvcc
  selected : context.selectedDerControlFunctions = some controls
  required : hasRequiredAcDerControlFunctions controls = true
  supported : supportsSelectedControls controls snapshots.evseCapability.supportedControlFunctions = true

variable {snapshots : AcDerSeccControlSnapshots} {context : AcDerControlContext}

def SeccAccepts (snapshots : AcDerSeccControlSnapshots) (context : AcDerControlContext) : Prop :=
  (∃ controls, context.Selects snapshots controls) ∧ validateAcDerSeccControlSnapshots snapshots = .none

theorem seccAcDerControlProvider_accepts (accepts : SeccAccepts snapshots context) :
    seccAcDerControlProvider snapshots context = { config := some (seccAcDerControlConfig snapshots) } := by
  obtain ⟨⟨controls, selects⟩, passes⟩ := accepts
  have ready := (validateAcDerSeccControlSnapshots_iff snapshots).mp passes
  simp [seccAcDerControlProvider, selects.service, selects.control, selects.mobility, selects.selected,
    selects.required, selects.supported, passes, validateAcDerControlConfig_of_ready ready]

theorem seccAcDerControlProvider_refuses (refuses : ¬SeccAccepts snapshots context) :
    ∃ reason, reason ≠ .none ∧ seccAcDerControlProvider snapshots context = { failureReason := reason } := by
  unfold seccAcDerControlProvider
  split_ifs with service control mobility
  · exact ⟨_, by decide, rfl⟩
  · exact ⟨_, by decide, rfl⟩
  · exact ⟨_, by decide, rfl⟩
  · split
    · exact ⟨_, by decide, rfl⟩
    · rename_i controls selected
      dsimp only
      split_ifs with failure supported required invalid
      · exact ⟨_, failure, rfl⟩
      · exact ⟨_, by decide, rfl⟩
      · exact ⟨_, by decide, rfl⟩
      · exact ⟨_, by decide, rfl⟩
      · rw [ne_eq, not_not] at service control mobility failure
        rw [Bool.not_eq_false] at supported required
        exact absurd ⟨⟨controls, service, control, mobility, selected, required, supported⟩, failure⟩ refuses

def AcDerSeccControlSnapshots.overlay (snapshots : AcDerSeccControlSnapshots)
    (config : AcDerControlConfig) : AcDerControlConfig :=
  let gridPolicy := snapshots.gridPolicy
  { config with
    dsoQSetpoint := snapshots.dsoControl.qSetpoint
    dsoCosPhiSetpoint := snapshots.dsoControl.cosPhiSetpoint
    cpdControl :=
      { config.cpdControl with
        maximumLevelDcInjection := some gridPolicy.maximumDcInjection
        activePowerSupport := config.cpdControl.activePowerSupport.map fun support =>
          { support with
            voltWatt := support.voltWatt.map fun voltWatt =>
              { voltWatt with
                uStart := gridPolicy.voltWattStartVoltage
                uStop := gridPolicy.voltWattStopVoltage }
            underFrequencyWatt := support.underFrequencyWatt.map fun frequencyWatt =>
              { frequencyWatt with
                fStart := gridPolicy.underFrequencyWattStartHz
                fStop := gridPolicy.underFrequencyWattStopHz }
            overFrequencyWatt := support.overFrequencyWatt.map fun frequencyWatt =>
              { frequencyWatt with
                fStart := gridPolicy.overFrequencyWattStartHz
                fStop := gridPolicy.overFrequencyWattStopHz } } } }

/-- The configuration carries the values of the snapshots. -/
structure AcDerSeccControlSnapshots.CarriedBy (snapshots : AcDerSeccControlSnapshots)
    (config : AcDerControlConfig) : Prop where
  support : ∃ voltWatt under overFrequency,
    config.cpdControl.activePowerSupport =
      some
        { voltWatt := some voltWatt
          underFrequencyWatt := some under
          overFrequencyWatt := some overFrequency } ∧
    (voltWatt.uStart = snapshots.gridPolicy.voltWattStartVoltage ∧
      voltWatt.uStop = snapshots.gridPolicy.voltWattStopVoltage) ∧
    (under.fStart = snapshots.gridPolicy.underFrequencyWattStartHz ∧
      under.fStop = snapshots.gridPolicy.underFrequencyWattStopHz) ∧
    overFrequency.fStart = snapshots.gridPolicy.overFrequencyWattStartHz ∧
      overFrequency.fStop = snapshots.gridPolicy.overFrequencyWattStopHz
  injection : config.cpdControl.maximumLevelDcInjection = some snapshots.gridPolicy.maximumDcInjection
  qSetpoint : config.dsoQSetpoint = snapshots.dsoControl.qSetpoint
  cosPhiSetpoint : config.dsoCosPhiSetpoint = snapshots.dsoControl.cosPhiSetpoint

theorem seccAcDerControlConfig_eq (snapshots : AcDerSeccControlSnapshots) :
    seccAcDerControlConfig snapshots = snapshots.overlay makeDefaultAcDerControlConfig := rfl

theorem seccAcDerControlConfig_carries (snapshots : AcDerSeccControlSnapshots) :
    snapshots.CarriedBy (seccAcDerControlConfig snapshots) :=
  ⟨⟨_, _, _, rfl, ⟨rfl, rfl⟩, ⟨rfl, rfl⟩, rfl, rfl⟩, rfl, rfl, rfl⟩

/-- The provider has a configuration exactly for the contexts that its snapshots support, and the
configuration is the default one with the values of the snapshots. -/
theorem secc_preflight (snapshots : AcDerSeccControlSnapshots) (context : AcDerControlContext) :
    ((seccAcDerControlProvider snapshots context).config.isSome = true ↔ SeccAccepts snapshots context) ∧
    ((seccAcDerControlProvider snapshots context).failureReason = .none ↔
      (seccAcDerControlProvider snapshots context).config.isSome = true) ∧
    (∀ config, (seccAcDerControlProvider snapshots context).config = some config →
      (∃ controls, context.selectedDerControlFunctions = some controls ∧
        validateAcDerControlConfig config controls = true) ∧
      snapshots.CarriedBy config ∧ config = snapshots.overlay makeDefaultAcDerControlConfig) ∧
    (validateAcDerSeccControlSnapshots snapshots = .none → ∀ controls,
      validateAcDerControlConfig (seccAcDerControlConfig snapshots) controls = true) := by
  have final (passes : validateAcDerSeccControlSnapshots snapshots = .none) :=
    validateAcDerControlConfig_of_ready ((validateAcDerSeccControlSnapshots_iff snapshots).mp passes)
  by_cases accepts : SeccAccepts snapshots context
  · rw [seccAcDerControlProvider_accepts accepts]
    refine ⟨by simp [accepts], by simp, ?_, final⟩
    rintro config ⟨⟩
    obtain ⟨controls, selects⟩ := accepts.1
    exact ⟨⟨controls, selects.selected, final accepts.2 controls⟩, seccAcDerControlConfig_carries snapshots,
      seccAcDerControlConfig_eq snapshots⟩
  · obtain ⟨reason, named, refused⟩ := seccAcDerControlProvider_refuses accepts
    rw [refused]
    exact ⟨by simp [accepts], by simp [named], by simp, final⟩

end LibIso15118
