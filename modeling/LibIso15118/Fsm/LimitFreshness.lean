import LibIso15118.Fsm.Freshness

set_option autoImplicit false

namespace LibIso15118

open Datatypes Shared

namespace Datatypes

/-- The limits that all alternatives of an `AC_ChargeParameterDiscoveryRes` carry. -/
structure AcCpdResEnergyTransferMode.Carries (mode : AcCpdResEnergyTransferMode)
    (limits : AcTransferLimits) : Prop where
  maxChargePower : mode.maxChargePower = limits.chargePower.max
  maxChargePowerL2 : mode.maxChargePowerL2 = limits.chargePowerL2.map (·.max)
  maxChargePowerL3 : mode.maxChargePowerL3 = limits.chargePowerL3.map (·.max)
  minChargePower : mode.minChargePower = limits.chargePower.min
  minChargePowerL2 : mode.minChargePowerL2 = limits.chargePowerL2.map (·.min)
  minChargePowerL3 : mode.minChargePowerL3 = limits.chargePowerL3.map (·.min)
  nominalFrequency : mode.nominalFrequency = limits.nominalFrequency
  maxPowerAsymmetry : mode.maxPowerAsymmetry = limits.maxPowerAsymmetry
  powerRampLimitation : mode.powerRampLimitation = limits.powerRampLimitation

structure BptAcCpdResEnergyTransferMode.Carries (mode : BptAcCpdResEnergyTransferMode)
    (limits : AcTransferLimits) : Prop where
  charge : mode.toAcCpdResEnergyTransferMode.Carries limits
  maxDischargePower : mode.maxDischargePower = (limits.dischargePower.map (·.max)).getD ⟨0, 0⟩
  maxDischargePowerL2 : mode.maxDischargePowerL2 = limits.dischargePowerL2.map (·.max)
  maxDischargePowerL3 : mode.maxDischargePowerL3 = limits.dischargePowerL3.map (·.max)
  minDischargePower : mode.minDischargePower = (limits.dischargePower.map (·.min)).getD ⟨0, 0⟩
  minDischargePowerL2 : mode.minDischargePowerL2 = limits.dischargePowerL2.map (·.min)
  minDischargePowerL3 : mode.minDischargePowerL3 = limits.dischargePowerL3.map (·.min)

structure DerAcCpdResEnergyTransferMode.Carries (mode : DerAcCpdResEnergyTransferMode)
    (limits : AcTransferLimits) : Prop where
  charge : mode.toAcCpdResEnergyTransferMode.Carries limits
  nominalChargePower : mode.nominalChargePower = limits.chargePower.max
  nominalChargePowerL2 : mode.nominalChargePowerL2 = limits.chargePowerL2.map (·.max)
  nominalChargePowerL3 : mode.nominalChargePowerL3 = limits.chargePowerL3.map (·.max)
  nominalDischargePower : mode.nominalDischargePower = (limits.dischargePower.map (·.max)).getD ⟨0, 0⟩
  nominalDischargePowerL2 : mode.nominalDischargePowerL2 = limits.dischargePowerL2.map (·.max)
  nominalDischargePowerL3 : mode.nominalDischargePowerL3 = limits.dischargePowerL3.map (·.max)
  maxDischargePower : mode.maxDischargePower = (limits.dischargePower.map (·.max)).getD ⟨0, 0⟩
  maxDischargePowerL2 : mode.maxDischargePowerL2 = limits.dischargePowerL2.map (·.max)
  maxDischargePowerL3 : mode.maxDischargePowerL3 = limits.dischargePowerL3.map (·.max)

def AcCpdResTransferMode.Carries (limits : AcTransferLimits) : AcCpdResTransferMode → Prop
  | .ac mode => mode.Carries limits
  | .bpt mode => mode.Carries limits
  | .der mode => mode.Carries limits

/-- The limits that both DER alternatives of an `AC_ChargeLoopRes` carry. -/
structure DerClResLimits.Carries (mode : DerClResLimits) (limits : AcTransferLimits) : Prop where
  maxChargePower : mode.maxChargePower = limits.chargePower.max
  maxChargePowerL2 : mode.maxChargePowerL2 = limits.chargePowerL2.map (·.max)
  maxChargePowerL3 : mode.maxChargePowerL3 = limits.chargePowerL3.map (·.max)
  maxDischargePower : mode.maxDischargePower = (limits.dischargePower.map (·.max)).getD ⟨0, 0⟩
  maxDischargePowerL2 : mode.maxDischargePowerL2 = limits.dischargePowerL2.map (·.max)
  maxDischargePowerL3 : mode.maxDischargePowerL3 = limits.dischargePowerL3.map (·.max)

def AcClResControlMode.Carries (limits : AcTransferLimits) : AcClResControlMode → Prop
  | .derScheduled mode => mode.toDerClResLimits.Carries limits
  | .derDynamic mode => mode.toDerClResLimits.Carries limits
  | _ => True

structure ScheduledDcClResControlMode.Carries (mode : ScheduledDcClResControlMode)
    (limits : DcTransferLimits) : Prop where
  maxChargePower : mode.maxChargePower = some limits.chargeLimits.power.max
  minChargePower : mode.minChargePower = some limits.chargeLimits.power.min
  maxChargeCurrent : mode.maxChargeCurrent = some limits.chargeLimits.current.max
  maxVoltage : mode.maxVoltage = some limits.voltage.max

structure BptScheduledDcClResControlMode.Carries (mode : BptScheduledDcClResControlMode)
    (limits : DcTransferLimits) (discharge : Limits) : Prop where
  charge : mode.toScheduledDcClResControlMode.Carries limits
  maxDischargePower : mode.maxDischargePower = some discharge.power.max
  minDischargePower : mode.minDischargePower = some discharge.power.min
  maxDischargeCurrent : mode.maxDischargeCurrent = some discharge.current.max
  minVoltage : mode.minVoltage = some limits.voltage.min

structure DynamicDcClResControlMode.Carries (mode : DynamicDcClResControlMode)
    (limits : DcTransferLimits) : Prop where
  maxChargePower : mode.maxChargePower = limits.chargeLimits.power.max
  minChargePower : mode.minChargePower = limits.chargeLimits.power.min
  maxChargeCurrent : mode.maxChargeCurrent = limits.chargeLimits.current.max
  maxVoltage : mode.maxVoltage = limits.voltage.max

structure BptDynamicDcClResControlMode.Carries (mode : BptDynamicDcClResControlMode)
    (limits : DcTransferLimits) (discharge : Limits) : Prop where
  charge : mode.toDynamicDcClResControlMode.Carries limits
  maxDischargePower : mode.maxDischargePower = discharge.power.max
  minDischargePower : mode.minDischargePower = discharge.power.min
  maxDischargeCurrent : mode.maxDischargeCurrent = discharge.current.max
  minVoltage : mode.minVoltage = limits.voltage.min

def DcClResControlMode.Carries (limits : DcTransferLimits) : DcClResControlMode → Prop
  | .scheduled mode => mode.Carries limits
  | .bptScheduled mode => ∃ discharge, limits.dischargeLimits = some discharge ∧ mode.Carries limits discharge
  | .dynamic mode => mode.Carries limits
  | .bptDynamic mode => ∃ discharge, limits.dischargeLimits = some discharge ∧ mode.Carries limits discharge

def DcClReqControlMode.bidirectional : DcClReqControlMode → Bool
  | .bptScheduled _ | .bptDynamic _ => true
  | _ => false

def ScheduledSeResControlMode.powers (mode : ScheduledSeResControlMode) : List RationalNumber :=
  mode.scheduleTuple.flatMap fun tuple => tuple.chargingSchedule.powerSchedule.entries.map (·.power)

end Datatypes

def Response.Carries (session : Session) (stored : Stored) : Response → Prop
  | .acChargeParameterDiscovery res => res.transferMode.Carries stored.acLimits
  | .scheduleExchange res => ∀ mode, res.controlMode = .scheduled mode →
      (session.isAcCharger = true → mode.powers = [stored.acLimits.chargePower.max]) ∧
      (session.isDcCharger = true → mode.powers = [stored.dcLimits.chargeLimits.power.max])
  | .acChargeLoop res => res.controlMode.Carries stored.acLimits
  | .dcChargeLoop res => res.controlMode.Carries stored.dcLimits
  | _ => True

section Handlers

variable (env : Env) {session : Session}

theorem acCpdRes_carries (limits : AcTransferLimits) (present : AcPresentPower) :
    (acCpdRes limits present).Carries limits := by
  constructor <;> rfl

theorem handleAcChargeParameterDiscovery_carries {req : AcChargeParameterDiscoveryRequest}
    {limits : AcTransferLimits} {powers : AcPresentPower} {provider : AcDerControlProvider}
    {res : AcChargeParameterDiscoveryResponse}
    (answer : (handleAcChargeParameterDiscovery env req session limits powers provider).response = res)
    (ok : res.responseCode = .ok) : res.transferMode.Carries limits := by
  subst answer
  revert ok
  simp only [handleAcChargeParameterDiscovery]
  repeat' split
  all_goals
    intro ok
    first
      | cases ok; done
      | exact acCpdRes_carries limits powers
      | constructor <;> first | exact acCpdRes_carries limits powers | rfl

theorem handleScheduleExchange_carries {req : ScheduleExchangeRequest} {power : RationalNumber}
    {parameters : UpdateDynamicModeParameters} {reached : Bool} {res : ScheduleExchangeResponse}
    (answer : handleScheduleExchange env req session power parameters reached = res)
    (ok : res.responseCode = .ok) :
    (session.selectedServices.selectedControlMode = .scheduled ↔ ∃ mode, res.controlMode = .scheduled mode) ∧
      ∀ mode, res.controlMode = .scheduled mode → mode.powers = [power] := by
  subst answer
  revert ok
  simp only [handleScheduleExchange]
  repeat' split
  all_goals
    intro ok
    first
      | cases ok; done
      | simp_all [ScheduledSeResControlMode.powers, createDefaultScheduledControlMode]

theorem acClResControlMode_carries {mode : AcClReqControlMode} {selected : SelectedServiceParameters}
    {limits : AcTransferLimits} {self : State.AcChargeLoop} {dynamic : DynamicClResControlMode}
    {provider : AcDerControlProvider} {out : AcClResControlMode}
    (answer : acClResControlMode mode selected limits self dynamic provider = .ok out) :
    out.Carries limits := by
  cases mode <;> simp only [acClResControlMode] at answer <;> split_ifs at answer with other
  all_goals
    first
      | cases answer; trivial
      | split at answer <;> cases answer
        constructor <;> rfl

theorem handleAcChargeLoop_carries {req : AcChargeLoopRequest} {self : State.AcChargeLoop}
    {limits : AcTransferLimits} {provider : AcDerControlProvider} {res : AcChargeLoopResponse}
    (answer : (handleAcChargeLoop env req session self limits provider).response = res)
    (ok : res.responseCode = .ok) : res.controlMode.Carries limits := by
  subst answer
  revert ok
  simp only [handleAcChargeLoop]
  split
  · intro ok
    cases ok
  split
  · intro ok
    cases ok
  · rename_i controlMode mode
    intro _
    exact acClResControlMode_carries mode

theorem dcClResControlMode_carries {mode : DcClReqControlMode} {selected : SelectedServiceParameters}
    {limits : DcTransferLimits} {dynamic : DynamicClResControlMode} {out : DcClResControlMode}
    (answer : dcClResControlMode mode selected limits dynamic = some out) :
    out.Carries limits ∧ (mode.bidirectional = true → limits.dischargeLimits.isSome = true) := by
  have charge : (scheduledDcClRes limits).Carries limits := by constructor <;> rfl
  have charge' : (dynamicDcClRes limits dynamic).Carries limits := by constructor <;> rfl
  cases mode with
  | scheduled mode =>
      simp only [dcClResControlMode] at answer
      split_ifs at answer
      obtain rfl := Option.some.inj answer
      exact ⟨charge, by simp [DcClReqControlMode.bidirectional]⟩
  | bptScheduled mode =>
      simp only [dcClResControlMode] at answer
      split_ifs at answer
      obtain ⟨discharge, some, rfl⟩ := Option.map_eq_some_iff.mp answer
      exact ⟨⟨discharge, some, charge, rfl, rfl, rfl, rfl⟩, fun _ => by simp [some]⟩
  | dynamic mode =>
      simp only [dcClResControlMode] at answer
      split_ifs at answer
      obtain rfl := Option.some.inj answer
      exact ⟨charge', by simp [DcClReqControlMode.bidirectional]⟩
  | bptDynamic mode =>
      simp only [dcClResControlMode] at answer
      split_ifs at answer
      obtain ⟨discharge, some, rfl⟩ := Option.map_eq_some_iff.mp answer
      exact ⟨⟨discharge, some, charge', rfl, rfl, rfl, rfl⟩, fun _ => by simp [some]⟩

theorem handleDcChargeLoop_carries {req : DcChargeLoopRequest} {self : State.DcChargeLoop}
    {limits : DcTransferLimits} {res : DcChargeLoopResponse}
    (answer : handleDcChargeLoop env req session self limits = res) (ok : res.responseCode = .ok) :
    res.controlMode.Carries limits ∧
      (req.controlMode.bidirectional = true → limits.dischargeLimits.isSome = true) := by
  subst answer
  revert ok
  simp only [handleDcChargeLoop]
  split
  · intro ok
    cases ok
  split
  · intro ok
    cases ok
  · rename_i controlMode mode
    intro _
    exact dcClResControlMode_carries mode

end Handlers

namespace Fsm

variable (platform : Platform)

/-- A bidirectional `DC_ChargeLoopReq` comes when there are discharge limits. -/
def Discharges (stored : Stored) : Input → Prop
  | .message _ (.request (.dcChargeLoop req)) =>
      req.controlMode.bidirectional = true → stored.dcLimits.dischargeLimits.isSome = true
  | _ => True

/-- No schedule is asked for in an AC session, unless the limit is 0. -/
def OffersPower (fsm : Fsm) (stored : Stored) : Input → Prop
  | .message _ (.request (.scheduleExchange _)) =>
      fsm.ctx.session.isAcCharger = true → fsm.ctx.session.selectedServices.selectedControlMode = .scheduled →
        stored.acLimits.chargePower.max = ⟨0, 0⟩
  | _ => True

theorem scheduleExchange_carries_iff (ctx : Context) {env : Env} {req : ScheduleExchangeRequest}
    {parameters : UpdateDynamicModeParameters} {reached : Bool} {res : ScheduleExchangeResponse}
    (answer : handleScheduleExchange env req ctx.session (State.ScheduleExchange.maxChargePower ctx)
      parameters reached = res) (ok : res.responseCode = .ok) :
    Response.Carries ctx.session ctx.stored (.scheduleExchange res) ↔
      (ctx.session.isAcCharger = true → ctx.session.selectedServices.selectedControlMode = .scheduled →
        ctx.stored.acLimits.chargePower.max = ⟨0, 0⟩) := by
  obtain ⟨scheduled, powers⟩ := handleScheduleExchange_carries env answer ok
  have power (ac : ctx.session.isAcCharger = true) : State.ScheduleExchange.maxChargePower ctx = ⟨0, 0⟩ := by
    simp [State.ScheduleExchange.maxChargePower, Session.not_dc_of_ac ac]
  constructor
  · intro carries ac control
    obtain ⟨mode, same⟩ := scheduled.mp control
    have offered := (carries mode same).1 ac
    rw [powers mode same, power ac] at offered
    exact (List.cons.inj offered).1.symm
  · intro unpowered mode same
    refine ⟨fun ac => ?_, fun dc => ?_⟩
    · rw [powers mode same, power ac, unpowered ac (scheduled.mpr ⟨mode, same⟩)]
    · rw [powers mode same, State.ScheduleExchange.maxChargePower, if_pos dc]
      rfl

theorem okAnswer_carries_iff {fsm : Fsm} {input : Input} {out : Response} (answer : OkAnswer fsm input out)
    (ok : out.code? = some .ok) :
    out.Carries fsm.ctx.session fsm.ctx.stored ∧ Discharges fsm.ctx.stored input ↔
      fsm.OffersPower fsm.ctx.stored input := by
  cases answer with
  | resumed env event res => exact iff_of_true ⟨trivial, trivial⟩ trivial
  | message env req _ accepts answer =>
      cases req
      case acChargeParameterDiscovery req =>
        obtain ⟨self, -, rfl⟩ := answer
        exact iff_of_true ⟨handleAcChargeParameterDiscovery_carries env rfl (Option.some.inj ok), trivial⟩
          trivial
      case scheduleExchange req =>
        obtain ⟨self, -, rfl⟩ := answer
        exact (and_iff_left trivial).trans
          (scheduleExchange_carries_iff (messageContext fsm.ctx _) rfl (Option.some.inj ok))
      case acChargeLoop req =>
        obtain ⟨self, -, rfl⟩ := answer
        exact iff_of_true ⟨handleAcChargeLoop_carries env rfl (Option.some.inj ok), trivial⟩ trivial
      case dcChargeLoop req =>
        obtain ⟨self, -, rfl⟩ := answer
        exact iff_of_true (handleDcChargeLoop_carries env rfl (Option.some.inj ok)) trivial
      case sessionSetup | authorization | serviceDetail =>
        obtain ⟨_, _, rfl⟩ := answer
        exact iff_of_true ⟨trivial, trivial⟩ trivial
      case dcCableCheck | dcPreCharge | dcWeldingDetection =>
        obtain ⟨_, rfl⟩ := answer
        exact iff_of_true ⟨trivial, trivial⟩ trivial
      all_goals
        obtain rfl := answer
        exact iff_of_true ⟨trivial, trivial⟩ trivial

/-- An answer with code OK carries the last limits, exactly when it is not the schedule of an AC session
whose limit is other than 0. -/
theorem limits_fresh_iff (config : SessionConfig) (pauseCtx : Option PauseContext) (id : SessionId)
    (inputs : List Input) {past future : List FsmStep} {record : FsmStep}
    (split : run platform config pauseCtx id inputs = past ++ record :: future) {out : Response}
    (sent : out ∈ responses record.outputs) (ok : out.code? = some .ok) :
    out.Carries record.before.ctx.session (delivered config past) ∧
        Discharges (delivered config past) record.input ↔
      record.before.OffersPower (delivered config past) record.input := by
  obtain ⟨before, input, after, -, rfl, rfl⟩ := Machine.split_of_steps _ split
  have inv := eventInvariant_reached platform config pauseCtx id before
  have carries := okAnswer_carries_iff (step_okAnswer platform inv.idle input out sent ok) ok
  rw [inv.stored] at carries
  exact carries

end Fsm

namespace Sample

def acScheduling : List Input := (reachPowerDelivery (sessionId 1)).dropLast

def acSchedule : Input :=
  receive (sessionId 1) (.scheduleExchange ⟨{ sessionId := sessionId 1 }, 12, .scheduled {}⟩)

def Offers (powers : List RationalNumber) : Response → Bool
  | .scheduleExchange ⟨_, .ok, _, _, .scheduled mode⟩ => mode.powers = powers
  | _ => false

theorem offers_ok {powers : List RationalNumber} {out : Response} (offers : Offers powers out = true) :
    out.code? = some .ok := by
  unfold Offers at offers
  split at offers
  · rfl
  · cases offers

end Sample

namespace Fsm

open Sample

theorem limits_fresh_ac :
    ∃ out ∈ responses (Machine.stepOf (step platform)
        (reached platform config none (sessionId 9) acScheduling) acSchedule).outputs,
      Offers [⟨0, 0⟩] out = true ∧
        (out.Carries (reached platform config none (sessionId 9) acScheduling).ctx.session
              (delivered config (run platform config none (sessionId 9) acScheduling)) ∧
            Discharges (delivered config (run platform config none (sessionId 9) acScheduling)) acSchedule ↔
          (reached platform config none (sessionId 9) acScheduling).OffersPower
            (delivered config (run platform config none (sessionId 9) acScheduling)) acSchedule) := by
  obtain ⟨out, sent, offers⟩ := List.any_eq_true.mp (show (responses (Machine.stepOf (step platform)
    (reached platform config none (sessionId 9) acScheduling) acSchedule).outputs).any
      (Offers [⟨0, 0⟩]) = true by decide +kernel)
  have split := run_concat platform config none (sessionId 9) acScheduling acSchedule
  have fresh := limits_fresh_iff platform config none (sessionId 9) _ split sent (offers_ok offers)
  rw [Machine.stepOf_before, Machine.stepOf_input] at fresh
  exact ⟨out, sent, offers, fresh⟩

/-- The configured limit is 100 W, and the schedule offers 0 W. -/
theorem limits_fresh_unpowered :
    ¬∀ (platform : Platform) (config : SessionConfig) (pauseCtx : Option PauseContext) (id : SessionId)
      (inputs : List Input) (past future : List FsmStep) (record : FsmStep),
      run platform config pauseCtx id inputs = past ++ record :: future →
      ∀ out ∈ responses record.outputs, out.code? = some .ok →
        out.Carries record.before.ctx.session (delivered config past) := by
  intro fresh
  obtain ⟨out, sent, offers⟩ := List.any_eq_true.mp (show (responses (Machine.stepOf (step platform)
    (reached platform config none (sessionId 9) acScheduling) acSchedule).outputs).any
      (Offers [⟨0, 0⟩]) = true by decide +kernel)
  have split := run_concat platform config none (sessionId 9) acScheduling acSchedule
  have carries := fresh platform config none (sessionId 9) _ _ [] _ split out sent (offers_ok offers)
  rw [Machine.stepOf_before] at carries
  have ac : (reached platform config none (sessionId 9) acScheduling).ctx.session.isAcCharger = true := by
    decide +kernel
  have max : (delivered config (run platform config none (sessionId 9)
      acScheduling)).acLimits.chargePower.max = ⟨100, 0⟩ := by
    decide +kernel
  unfold Offers at offers
  split at offers
  · have power := (carries _ rfl).1 ac
    rw [power, max] at offers
    cases offers
  · cases offers

end Fsm

end LibIso15118
