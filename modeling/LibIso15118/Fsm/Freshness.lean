import LibIso15118.Fsm.Events
import LibIso15118.Fsm.Exchange

set_option autoImplicit false

namespace LibIso15118

open Datatypes Shared

namespace Datatypes

def AcCpdResTransferMode.base : AcCpdResTransferMode → AcCpdResEnergyTransferMode
  | .ac mode => mode
  | .bpt mode => mode.toAcCpdResEnergyTransferMode
  | .der mode => mode.toAcCpdResEnergyTransferMode

def AcClResControlMode.base : AcClResControlMode → ScheduledAcClResControlMode ⊕ DynamicAcClResControlMode
  | .scheduled mode | .bptScheduled mode => .inl mode
  | .derScheduled mode => .inl mode.toScheduledAcClResControlMode
  | .dynamic mode | .bptDynamic mode => .inr mode
  | .derDynamic mode => .inr mode.toDynamicAcClResControlMode

def DcClResControlMode.dynamic? : DcClResControlMode → Option DynamicClResControlMode
  | .dynamic mode => some mode.toDynamicClResControlMode
  | .bptDynamic mode => some mode.toDynamicClResControlMode
  | _ => none

end Datatypes

namespace Stored

def dynamicParameters (stored : Stored) : UpdateDynamicModeParameters :=
  stored.dynamicModeParameters.getD {}

def targetPowers (stored : Stored) : AcTargetPower := stored.acTargetPower.getD {}

def presentPowers (stored : Stored) : AcPresentPower := stored.acPresentPower.getD {}

def targetFrequency (stored : Stored) : RationalNumber := stored.targetPowers.targetFrequency.getD ⟨0, 0⟩

end Stored

/-- The fields that control events feed are computed from the stored values. -/
def Response.Fresh (selected : SelectedServiceParameters) (stored : Stored) : Response → Prop
  | .acChargeParameterDiscovery res =>
      res.transferMode.base.presentActivePower = stored.presentPowers.presentActivePower ∧
      res.transferMode.base.presentActivePowerL2 = stored.presentPowers.presentActivePowerL2 ∧
      res.transferMode.base.presentActivePowerL3 = stored.presentPowers.presentActivePowerL3
  | .scheduleExchange res =>
      selected.selectedMobilityNeedsMode = .providedBySecc → ∀ mode, res.controlMode = .dynamic mode →
        mode = dynamicSeRes stored.dynamicParameters res.header.timestamp
  | .acChargeLoop res =>
      res.targetFrequency = some stored.targetFrequency ∧
      match res.controlMode.base with
      | .inl mode => mode = scheduledAcClRes stored.targetPowers stored.presentPowers
      | .inr mode =>
          mode = dynamicAcClRes stored.targetPowers stored.presentPowers
            (selectedDynamicClRes selected stored.dynamicParameters res.header.timestamp)
  | .dcChargeLoop res =>
      selected.selectedMobilityNeedsMode = .providedBySecc → ∀ mode, res.controlMode.dynamic? = some mode →
        mode = dynamicClRes stored.dynamicParameters res.header.timestamp
  | _ => True

section Handlers

variable (env : Env) {session : Session} (stored : Stored)

theorem handleAcChargeParameterDiscovery_fresh {req : AcChargeParameterDiscoveryRequest}
    {limits : AcTransferLimits} {provider : AcDerControlProvider}
    {res : AcChargeParameterDiscoveryResponse}
    (answer : (handleAcChargeParameterDiscovery env req session limits stored.presentPowers
      provider).response = res)
    (ok : res.responseCode = .ok) :
    Response.Fresh session.selectedServices stored (.acChargeParameterDiscovery res) := by
  subst answer
  revert ok
  simp only [handleAcChargeParameterDiscovery]
  repeat' split
  all_goals
    intro ok
    first
      | cases ok; done
      | exact ⟨rfl, rfl, rfl⟩

theorem handleScheduleExchange_fresh_iff {req : ScheduleExchangeRequest} {power : RationalNumber}
    {parameters : UpdateDynamicModeParameters} {reached : Bool} {res : ScheduleExchangeResponse}
    (answer : handleScheduleExchange env req session power parameters reached = res)
    (ok : res.responseCode = .ok) :
    Response.Fresh session.selectedServices stored (.scheduleExchange res) ↔
      (session.selectedServices.selectedControlMode = .dynamic →
        session.selectedServices.selectedMobilityNeedsMode = .providedBySecc →
          dynamicSeRes parameters env.time = dynamicSeRes stored.dynamicParameters env.time) := by
  subst answer
  revert ok
  simp only [handleScheduleExchange]
  split
  · intro ok
    cases ok
  split
  · intro ok
    cases ok
  split
  · rename_i control _
    intro _
    simp [Response.Fresh, control]
  · rename_i control _
    intro _
    by_cases secc : session.selectedServices.selectedMobilityNeedsMode = .providedBySecc
    · simp [Response.Fresh, control, secc, setupHeader]
    · simp [Response.Fresh, secc]
  · intro ok
    cases ok

theorem acClResControlMode_base {mode : AcClReqControlMode} {selected : SelectedServiceParameters}
    {limits : AcTransferLimits} {self : State.AcChargeLoop} {dynamic : DynamicClResControlMode}
    {provider : AcDerControlProvider} {out : AcClResControlMode}
    (answer : acClResControlMode mode selected limits self dynamic provider = .ok out) :
    out.base = .inl (scheduledAcClRes self.targetPowers self.presentPowers) ∨
      out.base = .inr (dynamicAcClRes self.targetPowers self.presentPowers dynamic) := by
  cases mode <;> simp only [acClResControlMode] at answer <;> split_ifs at answer with other
  all_goals
    first
      | cases answer
      | split at answer <;> cases answer
    simp [AcClResControlMode.base]

theorem handleAcChargeLoop_fresh_iff {req : AcChargeLoopRequest} {self : State.AcChargeLoop}
    {limits : AcTransferLimits} {provider : AcDerControlProvider} {res : AcChargeLoopResponse}
    (targets : self.targetPowers = stored.targetPowers) (present : self.presentPowers = stored.presentPowers)
    (parameters : self.dynamicParameters = stored.dynamicParameters) (frequency : self.targetFrequency = 0)
    (answer : (handleAcChargeLoop env req session self limits provider).response = res)
    (ok : res.responseCode = .ok) :
    Response.Fresh session.selectedServices stored (.acChargeLoop res) ↔
      stored.targetFrequency = ⟨0, 0⟩ := by
  subst answer
  revert ok
  simp only [handleAcChargeLoop]
  split
  · intro ok
    cases ok
  split
  · intro ok
    cases ok
  · rename_i controlMode mode
    intro _
    have zero : fromFloat self.targetFrequency = ⟨0, 0⟩ := by rw [frequency]; rfl
    rcases acClResControlMode_base mode with base | base <;>
      simp [Response.Fresh, zero, base, targets, present, parameters, eq_comm]

theorem dcClResControlMode_dynamic {mode : DcClReqControlMode} {selected : SelectedServiceParameters}
    {limits : DcTransferLimits} {dynamic : DynamicClResControlMode} {out : DcClResControlMode}
    (answer : dcClResControlMode mode selected limits dynamic = some out) :
    ∀ base, out.dynamic? = some base → base = dynamic := by
  cases mode <;> simp only [dcClResControlMode] at answer <;> split_ifs at answer with other
  all_goals
    first
      | obtain rfl := Option.some.inj answer
      | obtain ⟨discharge, -, rfl⟩ := Option.map_eq_some_iff.mp answer
    rintro base ⟨⟩ <;> rfl

theorem handleDcChargeLoop_fresh {req : DcChargeLoopRequest} {self : State.DcChargeLoop}
    {limits : DcTransferLimits} {res : DcChargeLoopResponse}
    (parameters : self.dynamicParameters = stored.dynamicParameters)
    (answer : handleDcChargeLoop env req session self limits = res) (ok : res.responseCode = .ok) :
    Response.Fresh session.selectedServices stored (.dcChargeLoop res) := by
  subst answer
  revert ok
  simp only [handleDcChargeLoop]
  split
  · intro ok
    cases ok
  split
  · intro ok
    cases ok
  · rename_i controlMode mode
    intro _ secc base dynamic
    rw [dcClResControlMode_dynamic mode base dynamic]
    simp [selectedDynamicClRes, secc, parameters]

end Handlers

namespace Fsm

variable (platform : Platform)

/-- `ScheduleExchange` has received what a dynamic response carries, and the last target frequency is the
one that the charge loop sends. -/
def Heeds (fsm : Fsm) (stored : Stored) (stayed : Option UpdateDynamicModeParameters) : Input → Prop
  | .message env (.request (.scheduleExchange _)) =>
      fsm.ctx.session.selectedServices.selectedControlMode = .dynamic →
      fsm.ctx.session.selectedServices.selectedMobilityNeedsMode = .providedBySecc →
        dynamicSeRes (stayed.getD {}) env.time = dynamicSeRes stored.dynamicParameters env.time
  | .message _ (.request (.acChargeLoop _)) => stored.targetFrequency = ⟨0, 0⟩
  | _ => True

theorem okAnswer_fresh_iff {fsm : Fsm} {stored : Stored} {stayed : Option UpdateDynamicModeParameters}
    (held : fsm.state.held = fsm.state.id.holds stored stayed) {input : Input} {out : Response}
    (answer : OkAnswer fsm input out) (ok : out.code? = some .ok) :
    out.Fresh fsm.ctx.session.selectedServices stored ↔ fsm.Heeds stored stayed input := by
  cases answer with
  | resumed env event res => exact iff_of_true trivial trivial
  | message env req _ accepts answer =>
      cases req
      case acChargeParameterDiscovery req =>
        obtain ⟨self, state, rfl⟩ := answer
        rw [state] at held
        have present : self.presentPowers = stored.presentPowers :=
          Option.some.inj (congrArg Held.presentPowers held)
        rw [present] at ok ⊢
        exact iff_of_true (handleAcChargeParameterDiscovery_fresh env stored rfl (Option.some.inj ok)) trivial
      case scheduleExchange req =>
        obtain ⟨self, state, rfl⟩ := answer
        rw [state] at held
        have parameters : self.dynamicParameters = stayed.getD {} :=
          Option.some.inj (congrArg Held.dynamicParameters held)
        rw [parameters] at ok ⊢
        exact handleScheduleExchange_fresh_iff env stored rfl (Option.some.inj ok)
      case acChargeLoop req =>
        obtain ⟨self, state, rfl⟩ := answer
        rw [state] at held
        exact handleAcChargeLoop_fresh_iff env stored (Option.some.inj (congrArg Held.targetPowers held))
          (Option.some.inj (congrArg Held.presentPowers held))
          (Option.some.inj (congrArg Held.dynamicParameters held))
          (Option.some.inj (congrArg Held.targetFrequency held)) rfl (Option.some.inj ok)
      case dcChargeLoop req =>
        obtain ⟨self, state, rfl⟩ := answer
        rw [state] at held
        exact iff_of_true (handleDcChargeLoop_fresh env stored
          (Option.some.inj (congrArg Held.dynamicParameters held)) rfl (Option.some.inj ok)) trivial
      case sessionSetup | authorization | serviceDetail =>
        obtain ⟨_, _, rfl⟩ := answer
        exact iff_of_true trivial trivial
      case dcCableCheck | dcPreCharge | dcWeldingDetection =>
        obtain ⟨_, rfl⟩ := answer
        exact iff_of_true trivial trivial
      all_goals
        obtain rfl := answer
        exact iff_of_true trivial trivial

/-- An answer with code OK is computed from the last control events, exactly when `ScheduleExchange` has not
missed the parameters it sends and the target frequency is 0. -/
theorem events_fresh_iff (config : SessionConfig) (pauseCtx : Option PauseContext) (id : SessionId)
    (inputs : List Input) {past future : List FsmStep} {record : FsmStep}
    (split : run platform config pauseCtx id inputs = past ++ record :: future) {out : Response}
    (sent : out ∈ responses record.outputs) (ok : out.code? = some .ok) :
    out.Fresh record.before.ctx.session.selectedServices (delivered config past) ↔
      record.before.Heeds (delivered config past) (stayed past) record.input := by
  obtain ⟨before, input, after, -, rfl, rfl⟩ := Machine.split_of_steps _ split
  have inv := eventInvariant_reached platform config pauseCtx id before
  exact okAnswer_fresh_iff inv.held (step_okAnswer platform inv.idle input out sent ok) ok

end Fsm

namespace Sample

def dynamicConfig : SessionConfig := .ofSetup
  { evseId := "DE*PNX*E12345*1"
    supportedEnergyServices := [.ac, .dc]
    authorizationServices := [.eim]
    supportedVasServices := []
    enableCertificateInstallService := false
    dcLimits
    acLimits := { chargePower := limit, nominalFrequency := ⟨50, 0⟩ }
    controlMobilityModes := [⟨.dynamic, .providedBySecc⟩]
    powersupplyLimits := dcLimits }

def targetSoc : Input := .control {} (.updateDynamicModeParameters { targetSoc := some 80 })

def scheduling : List Input :=
  selectService (sessionId 1) .dc ++
    [targetSoc, receive (sessionId 1) (.dcChargeParameterDiscovery ⟨{ sessionId := sessionId 1 }, .dc {}⟩)]

def dynamicSchedule : Input :=
  receive (sessionId 1) (.scheduleExchange ⟨{ sessionId := sessionId 1 }, 12, .dynamic {}⟩)

def Aims (target : Option UInt8) : Response → Bool
  | .scheduleExchange ⟨_, .ok, _, _, .dynamic mode⟩ => mode.targetSoc = target
  | _ => false

theorem aims_ok {target : Option UInt8} {out : Response} (aims : Aims target out = true) :
    out.code? = some .ok := by
  unfold Aims at aims
  split at aims
  · rfl
  · cases aims

end Sample

namespace Fsm

open Sample

theorem events_fresh_received :
    ∃ out ∈ responses (Machine.stepOf (step platform)
        (reached platform dynamicConfig none (sessionId 9) (scheduling ++ [targetSoc])) dynamicSchedule).outputs,
      Aims (some 80) out = true ∧
        (out.Fresh (reached platform dynamicConfig none (sessionId 9)
              (scheduling ++ [targetSoc])).ctx.session.selectedServices
            (delivered dynamicConfig (run platform dynamicConfig none (sessionId 9) (scheduling ++ [targetSoc]))) ↔
          (reached platform dynamicConfig none (sessionId 9) (scheduling ++ [targetSoc])).Heeds
            (delivered dynamicConfig (run platform dynamicConfig none (sessionId 9) (scheduling ++ [targetSoc])))
            (stayed (run platform dynamicConfig none (sessionId 9) (scheduling ++ [targetSoc])))
            dynamicSchedule) := by
  obtain ⟨out, sent, aims⟩ := List.any_eq_true.mp (show (responses (Machine.stepOf (step platform)
    (reached platform dynamicConfig none (sessionId 9) (scheduling ++ [targetSoc]))
      dynamicSchedule).outputs).any (Aims (some 80)) = true by decide +kernel)
  have split := run_concat platform dynamicConfig none (sessionId 9) (scheduling ++ [targetSoc]) dynamicSchedule
  have fresh := events_fresh_iff platform dynamicConfig none (sessionId 9) _ split sent (aims_ok aims)
  rw [Machine.stepOf_before, Machine.stepOf_input] at fresh
  exact ⟨out, sent, aims, fresh⟩

/-- The target has been delivered, and the answer carries none. -/
theorem events_fresh_stale :
    ¬∀ (platform : Platform) (config : SessionConfig) (pauseCtx : Option PauseContext) (id : SessionId)
      (inputs : List Input) (past future : List FsmStep) (record : FsmStep),
      run platform config pauseCtx id inputs = past ++ record :: future →
      ∀ out ∈ responses record.outputs, out.code? = some .ok →
        out.Fresh record.before.ctx.session.selectedServices (delivered config past) := by
  intro fresh
  obtain ⟨out, sent, aims⟩ := List.any_eq_true.mp (show (responses (Machine.stepOf (step platform)
    (reached platform dynamicConfig none (sessionId 9) scheduling) dynamicSchedule).outputs).any
      (Aims none) = true by decide +kernel)
  have split := run_concat platform dynamicConfig none (sessionId 9) scheduling dynamicSchedule
  have computed := fresh platform dynamicConfig none (sessionId 9) _ _ [] _ split out sent (aims_ok aims)
  rw [Machine.stepOf_before] at computed
  have secc : (reached platform dynamicConfig none (sessionId 9)
      scheduling).ctx.session.selectedServices.selectedMobilityNeedsMode = .providedBySecc := by
    decide +kernel
  have target : (delivered dynamicConfig
      (run platform dynamicConfig none (sessionId 9) scheduling)).dynamicParameters.targetSoc = some 80 := by
    decide +kernel
  unfold Aims at aims
  split at aims
  · have mode := computed secc _ rfl
    rw [mode, dynamicSeRes, target] at aims
    cases aims
  · cases aims

end Fsm

end LibIso15118
