import LibIso15118.D20.State.ChargeParameterDiscovery
import LibIso15118.D20.State.PowerPath

set_option autoImplicit false

namespace LibIso15118

open Datatypes Shared

/-- The status that both charge loops report; a stop wins over a pause. -/
def chargeLoopStatus (stop pause : Bool) (controlMode : ControlMode) : Option EvseStatus :=
  if stop then some ⟨0, .terminate⟩
  else if pause then some ⟨if controlMode = .dynamic then 60 else 0, .pause⟩
  else none

/-- `set_dynamic_parameters_in_res`, which both charge loops have a copy of. -/
def dynamicClRes (parameters : UpdateDynamicModeParameters) (timestamp : UInt64) :
    DynamicClResControlMode :=
  { departureTime := remainingDepartureTime parameters timestamp
    targetSoc := parameters.targetSoc
    minimumSoc := parameters.minSoc
    ackMaxDelay := some 30 }

/-- The dynamic parameters are sent only when the SECC provides the mobility needs. -/
def selectedDynamicClRes (selected : SelectedServiceParameters)
    (parameters : UpdateDynamicModeParameters) (timestamp : UInt64) : DynamicClResControlMode :=
  if selected.selectedMobilityNeedsMode = .providedBySecc then dynamicClRes parameters timestamp
  else {}

def scheduledDcClRes (limits : DcTransferLimits) : ScheduledDcClResControlMode :=
  { maxChargePower := some limits.chargeLimits.power.max
    minChargePower := some limits.chargeLimits.power.min
    maxChargeCurrent := some limits.chargeLimits.current.max
    maxVoltage := some limits.voltage.max }

def bptScheduledDcClRes (limits : DcTransferLimits) (discharge : Limits) :
    BptScheduledDcClResControlMode :=
  { scheduledDcClRes limits with
    minVoltage := some limits.voltage.min
    maxDischargePower := some discharge.power.max
    minDischargePower := some discharge.power.min
    maxDischargeCurrent := some discharge.current.max }

def dynamicDcClRes (limits : DcTransferLimits) (base : DynamicClResControlMode) :
    DynamicDcClResControlMode :=
  { base with
    maxChargePower := limits.chargeLimits.power.max
    minChargePower := limits.chargeLimits.power.min
    maxChargeCurrent := limits.chargeLimits.current.max
    maxVoltage := limits.voltage.max }

def bptDynamicDcClRes (limits : DcTransferLimits) (discharge : Limits)
    (base : DynamicClResControlMode) : BptDynamicDcClResControlMode :=
  { dynamicDcClRes limits base with
    minVoltage := limits.voltage.min
    maxDischargePower := discharge.power.max
    minDischargePower := discharge.power.min
    maxDischargeCurrent := discharge.current.max }

/-- The control mode of a DC charge loop response; `none` when the request does not fit the selected
service and control mode, or discharge limits are missing. -/
def dcClResControlMode (mode : DcClReqControlMode) (selected : SelectedServiceParameters)
    (limits : DcTransferLimits) (dynamic : DynamicClResControlMode) : Option DcClResControlMode :=
  let service := selected.selectedEnergyService
  match mode with
  | .scheduled _ =>
      if selected.selectedControlMode ≠ .scheduled ∨ ¬(service = .dc ∨ service = .mcs) then none
      else some (.scheduled (scheduledDcClRes limits))
  | .bptScheduled _ =>
      if selected.selectedControlMode ≠ .scheduled ∨ ¬(service = .dcBpt ∨ service = .mcsBpt) then none
      else limits.dischargeLimits.map fun discharge =>
        .bptScheduled (bptScheduledDcClRes limits discharge)
  | .dynamic _ =>
      if selected.selectedControlMode ≠ .dynamic ∨ ¬(service = .dc ∨ service = .mcs) then none
      else some (.dynamic (dynamicDcClRes limits dynamic))
  | .bptDynamic _ =>
      if selected.selectedControlMode ≠ .dynamic ∨ ¬(service = .dcBpt ∨ service = .mcsBpt) then none
      else limits.dischargeLimits.map fun discharge =>
        .bptDynamic (bptDynamicDcClRes limits discharge dynamic)

def handleDcChargeLoop (env : Env) (req : DcChargeLoopRequest) (session : Session)
    (self : State.DcChargeLoop) (limits : DcTransferLimits) : DcChargeLoopResponse :=
  let header := setupHeader env session
  let selected := session.selectedServices
  if validateHeader session req.header.sessionId = false then
    { header, responseCode := .failedUnknownSession }
  else
    match dcClResControlMode req.controlMode selected limits
        (selectedDynamicClRes selected self.dynamicParameters header.timestamp) with
    | none => { header, responseCode := .failed }
    | some controlMode =>
        { header
          controlMode
          presentVoltage := fromFloat self.presentVoltage
          presentCurrent := fromFloat self.presentCurrent
          status := chargeLoopStatus self.stop self.pause selected.selectedControlMode
          responseCode := .ok }

namespace State.DcChargeLoop

def feedControl (self : DcChargeLoop) : ControlEvent → DcChargeLoop
  | .presentVoltageCurrent voltage current =>
      { self with presentVoltage := voltage, presentCurrent := current }
  | .stopCharging stop => { self with stop }
  | .pauseCharging pause => { self with pause }
  | .updateDynamicModeParameters parameters => { self with dynamicParameters := parameters }
  | _ => self

def feed (platform : Platform) (env : Env) (self : DcChargeLoop) (ev : Event) :
    Feed (DcChargeLoop × Result) := do
  match ev with
  | .controlMessage => do
      let ctx ← Act.get
      return ((ctx.currentControlEvent.map self.feedControl).getD self, {})
  | .v2gtpMessage => do
      match ← Feed.pullRequest with
      | .request (.powerDelivery req) => do
          let ctx ← Act.get
          let res := handlePowerDelivery env req ctx.session false
          Feed.respond platform (.powerDelivery res)
          if res.responseCode.isFailed then
            Feed.stopSession
            return (self, {})
          let self := { self with firstEntryInChargeLoop := true }
          if req.chargeProgress = .stop then
            Feed.signal .chargeLoopFinished
            Feed.signal .dcOpenContactor
            return (self, .createState (.dcWeldingDetection {}))
          return (self, {})
      | .request (.dcChargeLoop req) => do
          if self.firstEntryInChargeLoop then Feed.signal .chargeLoopStarted
          let self := { self with firstEntryInChargeLoop := false }
          let ctx ← Act.get
          let res := handleDcChargeLoop env req ctx.session self ctx.sessionConfig.dcLimits
          Feed.respond platform (.dcChargeLoop res)
          if res.responseCode.isFailed then
            Feed.stopSession
            return (self, {})
          Feed.feedback (.dcChargeLoopReq (.controlMode req.controlMode))
          Feed.feedback (.dcChargeLoopReq (.presentVoltage req.presentVoltage))
          Feed.feedback (.dcChargeLoopReq (.meterInfoRequested req.meterInfoRequested))
          Feed.feedbackIfSome
            (req.displayParameters.map fun parameters => .dcChargeLoopReq (.displayParameters parameters))
          return (self, {})
      | variant => return (self, ← stopOnSequenceError platform env variant)
  | _ => return (self, {})

end State.DcChargeLoop

def scheduledAcClRes (targets : AcTargetPower) (present : AcPresentPower) :
    ScheduledAcClResControlMode :=
  { targetActivePower := targets.targetActivePower
    targetActivePowerL2 := targets.targetActivePowerL2
    targetActivePowerL3 := targets.targetActivePowerL3
    targetReactivePower := targets.targetReactivePower
    targetReactivePowerL2 := targets.targetReactivePowerL2
    targetReactivePowerL3 := targets.targetReactivePowerL3
    presentActivePower := present.presentActivePower
    presentActivePowerL2 := present.presentActivePowerL2
    presentActivePowerL3 := present.presentActivePowerL3 }

def dynamicAcClRes (targets : AcTargetPower) (present : AcPresentPower)
    (base : DynamicClResControlMode) : DynamicAcClResControlMode :=
  { base with
    targetActivePower := targets.targetActivePower.getD ⟨0, 0⟩
    targetActivePowerL2 := targets.targetActivePowerL2
    targetActivePowerL3 := targets.targetActivePowerL3
    targetReactivePower := targets.targetReactivePower
    targetReactivePowerL2 := targets.targetReactivePowerL2
    targetReactivePowerL3 := targets.targetReactivePowerL3
    presentActivePower := present.presentActivePower
    presentActivePowerL2 := present.presentActivePowerL2
    presentActivePowerL3 := present.presentActivePowerL3 }

/-- `fill_der_power_limits` and `fill_der_control_setpoints`. -/
def derClResLimits (limits : AcTransferLimits) (config : AcDerControlConfig)
    (controls : DerControlFunctions) : DerClResLimits :=
  { maxChargePower := limits.chargePower.max
    maxDischargePower := (limits.dischargePower.map (·.max)).getD ⟨0, 0⟩
    maxChargePowerL2 := limits.chargePowerL2.map (·.max)
    maxChargePowerL3 := limits.chargePowerL3.map (·.max)
    maxDischargePowerL2 := limits.dischargePowerL2.map (·.max)
    maxDischargePowerL3 := limits.dischargePowerL3.map (·.max)
    dsoQSetpoint := if controls.dsoQSetpointProvision then some config.dsoQSetpoint else none
    dsoCosPhiSetpoint :=
      if controls.dsoCosPhiSetpointProvision then some config.dsoCosPhiSetpoint else none }

/-- The control mode of an AC charge loop response, or the reason that goes with code FAILED. -/
def acClResControlMode (mode : AcClReqControlMode) (selected : SelectedServiceParameters)
    (limits : AcTransferLimits) (self : State.AcChargeLoop) (dynamic : DynamicClResControlMode)
    (provider : AcDerControlProvider) : Except AcDerControlFailureReason AcClResControlMode :=
  let service := selected.selectedEnergyService
  let scheduled := scheduledAcClRes self.targetPowers self.presentPowers
  let dynamic := dynamicAcClRes self.targetPowers self.presentPowers dynamic
  match mode with
  | .scheduled _ =>
      if selected.selectedControlMode ≠ .scheduled ∨ service ≠ .ac then .error .none
      else .ok (.scheduled scheduled)
  | .bptScheduled _ =>
      if selected.selectedControlMode ≠ .scheduled ∨ service ≠ .acBpt then .error .none
      else .ok (.bptScheduled scheduled)
  | .derScheduled _ =>
      if selected.selectedControlMode ≠ .scheduled ∨ service ≠ .acDer then
        .error .nonAcDerServiceSelected
      else
        match checkedAcDerControl provider selected with
        | .error reason => .error reason
        | .ok (config, controls) =>
            .ok (.derScheduled { scheduled, derClResLimits limits config controls with })
  | .dynamic _ =>
      if selected.selectedControlMode ≠ .dynamic ∨ service ≠ .ac then .error .none
      else .ok (.dynamic dynamic)
  | .bptDynamic _ =>
      if selected.selectedControlMode ≠ .dynamic ∨ service ≠ .acBpt then .error .none
      else .ok (.bptDynamic dynamic)
  | .derDynamic _ =>
      if selected.selectedControlMode ≠ .dynamic ∨ service ≠ .acDer then
        .error .nonAcDerServiceSelected
      else
        match checkedAcDerControl provider selected with
        | .error reason => .error reason
        | .ok (config, controls) =>
            .ok (.derDynamic { dynamic, derClResLimits limits config controls with })

structure AcChargeLoopResult where
  response : AcChargeLoopResponse
  acDerFailureReason : AcDerControlFailureReason := .none

/-- `handle_request_with_diagnostics` of `AC_ChargeLoop`. -/
def handleAcChargeLoop (env : Env) (req : AcChargeLoopRequest) (session : Session)
    (self : State.AcChargeLoop) (limits : AcTransferLimits) (provider : AcDerControlProvider) :
    AcChargeLoopResult :=
  let header := setupHeader env session
  let selected := session.selectedServices
  if validateHeader session req.header.sessionId = false then
    { response := { header, responseCode := .failedUnknownSession } }
  else
    match acClResControlMode req.controlMode selected limits self
        (selectedDynamicClRes selected self.dynamicParameters header.timestamp) provider with
    | .error reason =>
        { response := { header, responseCode := .failed }, acDerFailureReason := reason }
    | .ok controlMode =>
        { response :=
            { header
              controlMode
              targetFrequency := some (fromFloat self.targetFrequency)
              status := chargeLoopStatus self.stop self.pause selected.selectedControlMode
              responseCode := .ok } }

namespace State.AcChargeLoop

def feedControl (self : AcChargeLoop) : ControlEvent → AcChargeLoop
  | .stopCharging stop => { self with stop }
  | .pauseCharging pause => { self with pause }
  | .updateDynamicModeParameters parameters => { self with dynamicParameters := parameters }
  | .acTargetPower power => { self with targetPowers := power }
  | .acPresentPower power => { self with presentPowers := power }
  | _ => self

def feed (platform : Platform) (env : Env) (self : AcChargeLoop) (ev : Event) :
    Feed (AcChargeLoop × Result) := do
  match ev with
  | .controlMessage => do
      let ctx ← Act.get
      return ((ctx.currentControlEvent.map self.feedControl).getD self, {})
  | .v2gtpMessage => do
      match ← Feed.pullRequest with
      | .request (.powerDelivery req) => do
          let ctx ← Act.get
          let res := handlePowerDelivery env req ctx.session false
          Feed.respond platform (.powerDelivery res)
          if res.responseCode.isFailed then
            Feed.stopSession
            return (self, {})
          if req.chargeProgress = .stop then
            Feed.signal .chargeLoopFinished
            Feed.signal .acOpenContactor
            return (self, .createState .sessionStop)
          return (self, {})
      | .request (.acChargeLoop req) => do
          if self.firstEntryInChargeLoop then Feed.signal .chargeLoopStarted
          let self := { self with firstEntryInChargeLoop := false }
          let ctx ← Act.get
          let result := handleAcChargeLoop env req ctx.session self ctx.sessionConfig.acLimits
            ctx.sessionConfig.acDerControlProvider
          let res := result.response
          Feed.respond platform (.acChargeLoop res)
          if res.responseCode.isFailed then
            if result.acDerFailureReason ≠ .none then
              Feed.feedback (.acDerControlDiagnostic
                ⟨.acChargeLoopReq, res.responseCode, result.acDerFailureReason⟩)
            Feed.stopSession
            return (self, {})
          Feed.feedback (.acChargeLoopReq (.controlMode req.controlMode))
          Feed.feedback (.acChargeLoopReq (.meterInfoRequested req.meterInfoRequested))
          Feed.feedbackIfSome
            (req.displayParameters.map fun parameters => .acChargeLoopReq (.displayParameters parameters))
          return (self, {})
      | variant => return (self, ← stopOnSequenceError platform env variant)
  | _ => return (self, {})

end State.AcChargeLoop

end LibIso15118
