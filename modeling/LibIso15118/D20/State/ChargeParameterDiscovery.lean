import LibIso15118.D20.States

set_option autoImplicit false

namespace LibIso15118

open Datatypes Shared

/-- `convert` into `AC_CPDResEnergyTransferMode`. -/
def acCpdRes (limits : AcTransferLimits) (present : AcPresentPower) : AcCpdResEnergyTransferMode :=
  { minChargePower := limits.chargePower.min
    maxChargePower := limits.chargePower.max
    minChargePowerL2 := limits.chargePowerL2.map (·.min)
    maxChargePowerL2 := limits.chargePowerL2.map (·.max)
    minChargePowerL3 := limits.chargePowerL3.map (·.min)
    maxChargePowerL3 := limits.chargePowerL3.map (·.max)
    nominalFrequency := limits.nominalFrequency
    maxPowerAsymmetry := limits.maxPowerAsymmetry
    powerRampLimitation := limits.powerRampLimitation
    presentActivePower := present.presentActivePower
    presentActivePowerL2 := present.presentActivePowerL2
    presentActivePowerL3 := present.presentActivePowerL3 }

/-- `convert` into `BPT_AC_CPDResEnergyTransferMode`. -/
def bptAcCpdRes (limits : AcTransferLimits) (present : AcPresentPower) :
    BptAcCpdResEnergyTransferMode :=
  { acCpdRes limits present with
    minDischargePower := (limits.dischargePower.map (·.min)).getD {}
    maxDischargePower := (limits.dischargePower.map (·.max)).getD {}
    minDischargePowerL2 := limits.dischargePowerL2.map (·.min)
    maxDischargePowerL2 := limits.dischargePowerL2.map (·.max)
    minDischargePowerL3 := limits.dischargePowerL3.map (·.min)
    maxDischargePowerL3 := limits.dischargePowerL3.map (·.max) }

/-- `convert` into `DER_AC_CPDResEnergyTransferMode`. -/
def derAcCpdRes (limits : AcTransferLimits) (present : AcPresentPower) (derControl : DerControl) :
    DerAcCpdResEnergyTransferMode :=
  { acCpdRes limits present with
    nominalChargePower := limits.chargePower.max
    nominalChargePowerL2 := limits.chargePowerL2.map (·.max)
    nominalChargePowerL3 := limits.chargePowerL3.map (·.max)
    nominalDischargePower := (limits.dischargePower.map (·.max)).getD ⟨0, 0⟩
    maxDischargePower := (limits.dischargePower.map (·.max)).getD ⟨0, 0⟩
    nominalDischargePowerL2 := limits.dischargePowerL2.map (·.max)
    maxDischargePowerL2 := limits.dischargePowerL2.map (·.max)
    nominalDischargePowerL3 := limits.dischargePowerL3.map (·.max)
    maxDischargePowerL3 := limits.dischargePowerL3.map (·.max)
    operatingMode := .gridFollowing
    gridConnectionMode := .gridConnected
    derControl }

def acDerControlContext (selected : SelectedServiceParameters) : AcDerControlContext :=
  { selectedEnergyService := selected.selectedEnergyService
    selectedControlMode := selected.selectedControlMode
    selectedMobilityNeedsMode := selected.selectedMobilityNeedsMode
    selectedDerControlFunctions := selected.selectedDerControlFunctions }

/-- The checks that CPD and charge loop make on the DER alternative once the service fits: the
selected functions, the provider's answer and its validation. -/
def checkedAcDerControl (provider : AcDerControlProvider) (selected : SelectedServiceParameters) :
    Except AcDerControlFailureReason (AcDerControlConfig × DerControlFunctions) :=
  match selected.selectedDerControlFunctions with
  | none => .error .missingSelectedControlFunctions
  | some controls =>
      if hasRequiredAcDerControlFunctions controls = false then
        .error .missingSelectedMandatoryControlFunctions
      else
        let result := provider (acDerControlContext selected)
        match result.config with
        | none => .error result.failureReason
        | some config =>
            if validateAcDerControlConfig config controls = false then .error .invalidDsoControl
            else .ok (config, controls)

structure AcChargeParameterDiscoveryResult where
  response : AcChargeParameterDiscoveryResponse
  acDerFailureReason : AcDerControlFailureReason := .none

/-- `handle_request_with_diagnostics` of `AC_ChargeParameterDiscovery`. -/
def handleAcChargeParameterDiscovery (env : Env) (req : AcChargeParameterDiscoveryRequest)
    (session : Session) (limits : AcTransferLimits) (powers : AcPresentPower)
    (provider : AcDerControlProvider) : AcChargeParameterDiscoveryResult :=
  let header := setupHeader env session
  let selected := session.selectedServices
  if validateHeader session req.header.sessionId = false then
    { response := { header, responseCode := .failedUnknownSession } }
  else
    match req.transferMode with
    | .ac _ =>
        if selected.selectedEnergyService ≠ .ac then
          { response := { header, responseCode := .failedWrongChargeParameter } }
        else { response := { header, transferMode := .ac (acCpdRes limits powers), responseCode := .ok } }
    | .bpt _ =>
        if selected.selectedEnergyService ≠ .acBpt then
          { response := { header, responseCode := .failedWrongChargeParameter } }
        else
          { response := { header, transferMode := .bpt (bptAcCpdRes limits powers), responseCode := .ok } }
    | .der _ =>
        if selected.selectedEnergyService ≠ .acDer then
          { response := { header, responseCode := .failedWrongChargeParameter }
            acDerFailureReason := .nonAcDerServiceSelected }
        else
          match checkedAcDerControl provider selected with
          | .error reason =>
              { response := { header, responseCode := .failedWrongChargeParameter }
                acDerFailureReason := reason }
          | .ok (config, _) =>
              { response :=
                  { header
                    transferMode := .der (derAcCpdRes limits powers config.cpdControl)
                    responseCode := .ok } }

namespace State

def AcChargeParameterDiscovery.feed (platform : Platform) (env : Env)
    (self : AcChargeParameterDiscovery) (ev : Event) : Feed (AcChargeParameterDiscovery × Result) := do
  match ev with
  | .controlMessage => do
      let ctx ← Act.get
      match ctx.currentControlEvent with
      | some (.acPresentPower power) => return ({ self with presentPowers := power }, {})
      | _ => return (self, {})
  | .v2gtpMessage => do
      match ← Feed.pullRequest with
      | .request (.acChargeParameterDiscovery req) => do
          Act.modify fun ctx =>
            { ctx with
              sessionEvInfo := { ctx.sessionEvInfo with evTransferLimits := .ac req.transferMode } }
          let ctx ← Act.get
          let result := handleAcChargeParameterDiscovery env req ctx.session
            ctx.sessionConfig.acLimits self.presentPowers ctx.sessionConfig.acDerControlProvider
          let res := result.response
          Feed.respond platform (.acChargeParameterDiscovery res)
          if res.responseCode.isFailed then
            if result.acDerFailureReason ≠ .none then
              Feed.feedback (.acDerControlDiagnostic
                ⟨.acChargeParameterDiscoveryReq, res.responseCode, result.acDerFailureReason⟩)
            Feed.stopSession
            return (self, {})
          Feed.feedback (.acLimits req.transferMode)
          return (self, .createState (.scheduleExchange {}))
      | .request (.sessionStop req) => return (self, ← stopOnRequest platform env req)
      | variant => return (self, ← stopOnSequenceError platform env variant)
  | _ => return (self, {})

end State

/-- `convert` into `DC_CPDResEnergyTransferMode`. -/
def dcCpdRes (limits : DcTransferLimits) : DcCpdResEnergyTransferMode :=
  { maxChargePower := limits.chargeLimits.power.max
    minChargePower := limits.chargeLimits.power.min
    maxChargeCurrent := limits.chargeLimits.current.max
    minChargeCurrent := limits.chargeLimits.current.min
    maxVoltage := limits.voltage.max
    minVoltage := limits.voltage.min
    powerRampLimit := limits.powerRampLimit }

/-- `convert` into `BPT_DC_CPDResEnergyTransferMode`, called with discharge limits only. -/
def bptDcCpdRes (limits : DcTransferLimits) (discharge : Limits) : BptDcCpdResEnergyTransferMode :=
  { dcCpdRes limits with
    maxDischargePower := discharge.power.max
    minDischargePower := discharge.power.min
    maxDischargeCurrent := discharge.current.max
    minDischargeCurrent := discharge.current.min }

def handleDcChargeParameterDiscovery (env : Env) (req : DcChargeParameterDiscoveryRequest)
    (session : Session) (limits : DcTransferLimits) : DcChargeParameterDiscoveryResponse :=
  let header := setupHeader env session
  let service := session.selectedServices.selectedEnergyService
  if validateHeader session req.header.sessionId = false then
    { header, responseCode := .failedUnknownSession }
  else
    match req.transferMode with
    | .dc _ =>
        if ¬(service = .dc ∨ service = .mcs) then
          { header, responseCode := .failedWrongChargeParameter }
        else { header, transferMode := .dc (dcCpdRes limits), responseCode := .ok }
    | .bpt _ =>
        if ¬(service = .dcBpt ∨ service = .mcsBpt) then
          { header, responseCode := .failedWrongChargeParameter }
        else
          match limits.dischargeLimits with
          | none => { header, responseCode := .failed }
          | some discharge =>
              { header, transferMode := .bpt (bptDcCpdRes limits discharge), responseCode := .ok }

def dcMaximumLimits (mode : DcCpdReqTransferMode) : DcMaximumLimits :=
  let base := match mode with
    | .dc mode => mode
    | .bpt mode => mode.toDcCpdReqEnergyTransferMode
  { voltage := some (fromRationalNumber base.maxVoltage)
    current := some (fromRationalNumber base.maxChargeCurrent)
    power := some (fromRationalNumber base.maxChargePower) }

namespace State

def DcChargeParameterDiscovery.feed (platform : Platform) (env : Env) (ev : Event) : Feed Result := do
  if ev ≠ .v2gtpMessage then return {}
  match ← Feed.pullRequest with
  | .request (.dcChargeParameterDiscovery req) => do
      Act.modify fun ctx =>
        { ctx with
          sessionEvInfo := { ctx.sessionEvInfo with evTransferLimits := .dc req.transferMode } }
      let ctx ← Act.get
      let res := handleDcChargeParameterDiscovery env req ctx.session
        ctx.sessionConfig.powersupplyLimits
      Feed.respond platform (.dcChargeParameterDiscovery res)
      Feed.feedback (.dcMaxLimits (dcMaximumLimits req.transferMode))
      if res.responseCode.isFailed then
        Feed.stopSession
        return {}
      return .createState (.scheduleExchange {})
  | .request (.sessionStop req) => stopOnRequest platform env req
  | variant => stopOnSequenceError platform env variant

end State

end LibIso15118
