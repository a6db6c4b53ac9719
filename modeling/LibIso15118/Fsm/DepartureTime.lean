import LibIso15118.Fsm.Freshness

set_option autoImplicit false

namespace LibIso15118

open Datatypes Shared

def remainingSeconds (departure : Int64) (timestamp : UInt64) : Int := departure.toInt - timestamp.toNat

/-- The field is there when the time lies ahead and fits 32 bits, and then says how far. -/
structure DepartsExactly (departure : Int64) (timestamp : UInt64) (field : Option UInt32) : Prop where
  present : field.isSome = true ↔
    0 < remainingSeconds departure timestamp ∧ remainingSeconds departure timestamp < 2 ^ 32
  exact : ∀ seconds, field = some seconds → (seconds.toNat : Int) = remainingSeconds departure timestamp

/-- The casts keep this departure time: it is less than 2^32 seconds ahead; if it is negative, the timestamp is
not below the number that its bits stand for without sign. -/
def CastsKeep (departure : Int64) (timestamp : UInt64) : Prop :=
  if departure.toInt < 0 then departure.toInt + 2 ^ 64 ≤ timestamp.toNat
  else remainingSeconds departure timestamp < 2 ^ 32

theorem toNat_toUInt64 (departure : Int64) :
    (departure.toUInt64.toNat : Int) =
      if departure.toInt < 0 then departure.toInt + 2 ^ 64 else departure.toInt := by
  have wraps : departure.toInt = (departure.toUInt64.toNat : Int).bmod (2 ^ 64) :=
    BitVec.toInt_eq_toNat_bmod departure.toBitVec
  have small := departure.toUInt64.toNat_lt
  rw [wraps, Int.bmod]
  omega

theorem remainingDepartureTime_exact_iff {parameters : UpdateDynamicModeParameters} {departure : Int64}
    (given : parameters.departureTime = some departure) (timestamp : UInt64) :
    DepartsExactly departure timestamp (remainingDepartureTime parameters timestamp) ↔
      CastsKeep departure timestamp := by
  have unsigned := toNat_toUInt64 departure
  have small := departure.toUInt64.toNat_lt
  have low := departure.toInt_lt
  have high := departure.le_toInt
  simp only [remainingDepartureTime, given, UInt64.lt_iff_toNat_lt]
  generalize cast : departure.toUInt64 = number at *
  by_cases ahead : timestamp.toNat < number.toNat
  · have difference : (number - timestamp).toUInt32.toNat = (number.toNat - timestamp.toNat) % 2 ^ 32 := by
      rw [UInt64.toNat_toUInt32, UInt64.toNat_sub_of_le _ _ (UInt64.le_iff_toNat_le.mpr (by omega))]
    rw [if_pos ahead, CastsKeep]
    constructor
    · intro departs
      have inside := departs.present.mp rfl
      unfold remainingSeconds at *
      split at unsigned <;> split <;> omega
    · intro keeps
      unfold remainingSeconds at *
      refine ⟨?_, ?_⟩
      · simp only [Option.isSome_some, true_iff, remainingSeconds]
        split at unsigned <;> split at keeps <;> omega
      · rintro _ ⟨⟩
        rw [difference, remainingSeconds]
        split at unsigned <;> split at keeps <;> omega
  · rw [if_neg ahead, CastsKeep]
    constructor
    · intro departs
      have outside := mt departs.present.mpr (by simp)
      unfold remainingSeconds at *
      split at unsigned <;> split <;> omega
    · intro keeps
      refine ⟨?_, fun _ sent => by cases sent⟩
      simp only [Option.isSome_none, Bool.false_eq_true, false_iff, remainingSeconds]
      split at unsigned <;> omega

def Response.departureTime? : Response → Option (Option UInt32)
  | .scheduleExchange res =>
      match res.controlMode with
      | .dynamic mode => some mode.departureTime
      | _ => none
  | .acChargeLoop res => res.controlMode.base.getRight?.map (·.departureTime)
  | .dcChargeLoop res => res.controlMode.dynamic?.map (·.departureTime)
  | _ => none

/-- The responses that the three builders make of these parameters when the SECC provides the mobility needs. -/
inductive BuiltFrom (parameters : UpdateDynamicModeParameters) (timestamp : UInt64) : Response → Prop
  | scheduleExchange (env : Env) (req : ScheduleExchangeRequest) (session : Session) (maxPower : RationalNumber)
      (timeoutReached : Bool) (time : env.time = timestamp)
      (secc : session.selectedServices.selectedMobilityNeedsMode = .providedBySecc) :
      BuiltFrom parameters timestamp
        (.scheduleExchange (handleScheduleExchange env req session maxPower parameters timeoutReached))
  | acChargeLoop (env : Env) (req : AcChargeLoopRequest) (session : Session) (self : State.AcChargeLoop)
      (limits : AcTransferLimits) (provider : AcDerControlProvider) (time : env.time = timestamp)
      (held : self.dynamicParameters = parameters)
      (secc : session.selectedServices.selectedMobilityNeedsMode = .providedBySecc) :
      BuiltFrom parameters timestamp
        (.acChargeLoop (handleAcChargeLoop env req session self limits provider).response)
  | dcChargeLoop (env : Env) (req : DcChargeLoopRequest) (session : Session) (self : State.DcChargeLoop)
      (limits : DcTransferLimits) (time : env.time = timestamp) (held : self.dynamicParameters = parameters)
      (secc : session.selectedServices.selectedMobilityNeedsMode = .providedBySecc) :
      BuiltFrom parameters timestamp (.dcChargeLoop (handleDcChargeLoop env req session self limits))

section Builders

variable (env : Env) {session : Session} {parameters : UpdateDynamicModeParameters} {field : Option UInt32}
  (secc : session.selectedServices.selectedMobilityNeedsMode = .providedBySecc)
include secc

theorem handleScheduleExchange_departs {req : ScheduleExchangeRequest} {maxPower : RationalNumber}
    {timeoutReached : Bool}
    (ok : (handleScheduleExchange env req session maxPower parameters timeoutReached).responseCode = .ok)
    (dynamic : (Response.scheduleExchange
      (handleScheduleExchange env req session maxPower parameters timeoutReached)).departureTime? = some field) :
    field = remainingDepartureTime parameters env.time := by
  revert ok dynamic
  simp only [handleScheduleExchange, secc, if_true]
  repeat' split
  all_goals
    intro ok dynamic
    first
      | cases ok; done
      | cases dynamic; done
      | exact (Option.some.inj dynamic).symm

theorem handleAcChargeLoop_departs {req : AcChargeLoopRequest} {self : State.AcChargeLoop}
    {limits : AcTransferLimits} {provider : AcDerControlProvider}
    (ok : (handleAcChargeLoop env req session self limits provider).response.responseCode = .ok)
    (dynamic : (Response.acChargeLoop
      (handleAcChargeLoop env req session self limits provider).response).departureTime? = some field) :
    field = remainingDepartureTime self.dynamicParameters env.time := by
  revert ok dynamic
  simp only [handleAcChargeLoop]
  split
  · intro ok
    cases ok
  split
  · intro ok
    cases ok
  · rename_i controlMode mode
    intro _ dynamic
    rcases acClResControlMode_base mode with base | base
    · simp [Response.departureTime?, base] at dynamic
    · simp [Response.departureTime?, base, dynamicAcClRes, selectedDynamicClRes, secc, dynamicClRes,
        setupHeader] at dynamic
      exact dynamic.symm

theorem handleDcChargeLoop_departs {req : DcChargeLoopRequest} {self : State.DcChargeLoop}
    {limits : DcTransferLimits} (ok : (handleDcChargeLoop env req session self limits).responseCode = .ok)
    (dynamic : (Response.dcChargeLoop
      (handleDcChargeLoop env req session self limits)).departureTime? = some field) :
    field = remainingDepartureTime self.dynamicParameters env.time := by
  revert ok dynamic
  simp only [handleDcChargeLoop]
  split
  · intro ok
    cases ok
  split
  · intro ok
    cases ok
  · rename_i controlMode mode
    intro _ dynamic
    obtain ⟨base, alternative, rfl⟩ := Option.map_eq_some_iff.mp dynamic
    rw [dcClResControlMode_dynamic mode base alternative, selectedDynamicClRes, if_pos secc]
    rfl

end Builders

theorem builtFrom_departs {parameters : UpdateDynamicModeParameters} {timestamp : UInt64} {out : Response}
    (built : BuiltFrom parameters timestamp out) (ok : out.code? = some .ok) {field : Option UInt32}
    (dynamic : out.departureTime? = some field) : field = remainingDepartureTime parameters timestamp := by
  cases built with
  | scheduleExchange env req session maxPower timeoutReached time secc =>
      subst time
      exact handleScheduleExchange_departs env secc (Option.some.inj ok) dynamic
  | acChargeLoop env req session self limits provider time held secc =>
      subst time held
      exact handleAcChargeLoop_departs env secc (Option.some.inj ok) dynamic
  | dcChargeLoop env req session self limits time held secc =>
      subst time held
      exact handleDcChargeLoop_departs env secc (Option.some.inj ok) dynamic

/-- A response tells the exact time that remains, as long as the casts keep it. -/
theorem departure_time_iff {parameters : UpdateDynamicModeParameters} {departure : Int64}
    (given : parameters.departureTime = some departure) {timestamp : UInt64} {out : Response}
    (built : BuiltFrom parameters timestamp out) (ok : out.code? = some .ok) {field : Option UInt32}
    (dynamic : out.departureTime? = some field) :
    DepartsExactly departure timestamp field ↔ CastsKeep departure timestamp := by
  rw [builtFrom_departs built ok dynamic]
  exact remainingDepartureTime_exact_iff given timestamp

namespace Sample

def departing (departure : Int64) : UpdateDynamicModeParameters := { departureTime := some departure }

def dynamicSession : Session :=
  { id := sessionId 1
    selectedServices :=
      { selectedEnergyService := .dc
        selectedConnector := .dc .extended
        selectedControlMode := .dynamic
        selectedMobilityNeedsMode := .providedBySecc } }

def dynamicExchange : ScheduleExchangeRequest := ⟨{ sessionId := sessionId 1 }, 12, .dynamic {}⟩

def departureAnswer (departure : Int64) (time : UInt64) : Response :=
  .scheduleExchange
    (handleScheduleExchange { time } dynamicExchange dynamicSession ⟨0, 0⟩ (departing departure) false)

theorem departureAnswer_built (departure : Int64) (time : UInt64) :
    BuiltFrom (departing departure) time (departureAnswer departure time) :=
  .scheduleExchange { time } dynamicExchange dynamicSession ⟨0, 0⟩ false rfl rfl

end Sample

open Sample

theorem departure_time_ahead :
    (departureAnswer 1060 1000).departureTime? = some (some 60) ∧
      (DepartsExactly 1060 1000 (some 60) ↔ CastsKeep 1060 1000) :=
  ⟨by decide, departure_time_iff rfl (departureAnswer_built 1060 1000) (by decide) (by decide)⟩

/-- A departure before the epoch is answered with a time ahead. -/
theorem departure_time_negative :
    ¬∀ (parameters : UpdateDynamicModeParameters) (departure : Int64) (timestamp : UInt64) (out : Response)
      (field : Option UInt32), parameters.departureTime = some departure →
      BuiltFrom parameters timestamp out → out.code? = some .ok → out.departureTime? = some field →
        DepartsExactly departure timestamp field := by
  intro exact
  have departs := exact _ (-1) 1000 _ (some 4294966295) rfl (departureAnswer_built (-1) 1000) (by decide)
    (by decide)
  exact absurd (departs.present.mp rfl).1 (by decide)

end LibIso15118
