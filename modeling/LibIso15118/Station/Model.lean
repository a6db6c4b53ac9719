import LibIso15118.Fsm.SessionSteps
import Mathlib.Data.List.Dedup

set_option autoImplicit false

/-!
# One charging station and the connections it serves

`TbdController` has at most one `Session` at a time, and all of them share its `pause_ctx`. A connection
ends when the controller destroys the `Session`, for whatever reason, or when `poll` throws.
-/

namespace LibIso15118

open Datatypes Shared

structure Connection where
  number : Nat
  vehicle : Option Sha512Hash
  fsm : Fsm

structure Station where
  count : Nat := 0
  pauseCtx : Option PauseContext := none
  current : Option Connection := none

inductive StationInput where
  | connect (vehicle : Option Sha512Hash) (config : SessionConfig) (id : SessionId)
  | feed (input : Input)
  | disconnect

abbrev StationStep := Step Station StationInput Output

namespace Station

/-- `get_vehicle_cert_hash` tells the hash of the connection's own certificate. -/
def reports (conn : Connection) : Input → Bool
  | .certHash hash => conn.vehicle = some hash
  | _ => true

/-- The station once the machine of `conn` has made a step; the context holds a reference to the
`pause_ctx` of the controller. -/
def fed (station : Station) (conn : Connection) (outcome : Outcome Fsm Output Exn Unit) : Station :=
  { station with
    pauseCtx := outcome.state.ctx.pauseCtx
    current :=
      match outcome.result with
      | .ok _ => some { conn with fsm := outcome.state }
      | .error _ => none }

def act (platform : Platform) (input : StationInput) : Act Station Output Exn Unit := fun station =>
  match input, station.current with
  | .connect vehicle config id, none =>
      ⟨.ok (),
        { station with
          count := station.count + 1
          current := some ⟨station.count + 1, vehicle, .new config station.pauseCtx id⟩ },
        [.generatedId id]⟩
  | .feed input, some conn =>
      if reports conn input then
        ⟨.ok (), station.fed conn (Fsm.step platform input conn.fsm),
          (Fsm.step platform input conn.fsm).log⟩
      else ⟨.ok (), station, []⟩
  | .disconnect, some _ => ⟨.ok (), { station with current := none }, []⟩
  | _, _ => ⟨.ok (), station, []⟩

def run (platform : Platform) (inputs : List StationInput) : List StationStep :=
  Machine.steps (act platform) {} inputs

def reached (platform : Platform) (inputs : List StationInput) : Station :=
  Machine.final (act platform) {} inputs

theorem run_concat (platform : Platform) (inputs : List StationInput) (input : StationInput) :
    run platform (inputs ++ [input]) =
      run platform inputs ++ [Machine.stepOf (act platform) (reached platform inputs) input] :=
  Machine.steps_append _ _ _ _

inductive Effect (platform : Platform) (station : Station) (input : StationInput) :
    Station → List Output → Prop
  | skip (unfed : ∀ conn event, station.current = some conn → input = .feed event →
        reports conn event = false) : Effect platform station input station []
  | connect (vehicle : Option Sha512Hash) (config : SessionConfig) (id : SessionId)
      (asked : input = .connect vehicle config id) (free : station.current = none) :
      Effect platform station input
        { station with
          count := station.count + 1
          current := some ⟨station.count + 1, vehicle, .new config station.pauseCtx id⟩ }
        [.generatedId id]
  | feed (conn : Connection) (event : Input) (asked : input = .feed event)
      (current : station.current = some conn) (reported : reports conn event = true) :
      Effect platform station input (station.fed conn (Fsm.step platform event conn.fsm))
        (Fsm.step platform event conn.fsm).log
  | disconnect (conn : Connection) (asked : input = .disconnect) (current : station.current = some conn) :
      Effect platform station input { station with current := none } []

theorem act_effect (platform : Platform) (station : Station) (input : StationInput) :
    Effect platform station input (act platform input station).state (act platform input station).log := by
  unfold act
  split
  · rename_i vehicle config id free
    exact .connect vehicle config id rfl free
  · rename_i event conn current
    by_cases reported : reports conn event = true
    · simpa only [reported, if_true] using .feed conn event rfl current reported
    · simp only [reported]
      refine .skip fun conn' event' current' fed => ?_
      obtain rfl : conn = conn' := by simpa [current] using current'
      cases fed
      simpa using reported
  · rename_i conn current
    exact .disconnect conn rfl current
  · rename_i unfed _
    refine .skip fun conn event current fed => ?_
    exact absurd current (unfed event conn fed)

theorem Effect.count_le {platform : Platform} {station station' : Station} {input : StationInput}
    {log : List Output} (effect : Effect platform station input station' log) :
    station.count ≤ station'.count := by
  cases effect <;> simp [fed]

section Fed

variable {station : Station} {conn conn' : Connection} {outcome : Outcome Fsm Output Exn Unit}

@[simp] theorem fed_count : (station.fed conn outcome).count = station.count := rfl

@[simp] theorem fed_pauseCtx : (station.fed conn outcome).pauseCtx = outcome.state.ctx.pauseCtx := rfl

theorem fed_current (still : (station.fed conn outcome).current = some conn') :
    outcome.result = .ok () ∧ conn' = { conn with fsm := outcome.state } := by
  unfold fed at still
  cases result : outcome.result with
  | ok => simp_all
  | error e => simp [result] at still

end Fed

end Station

def outputs (past : List StationStep) : List Output := past.flatMap (·.outputs)

@[simp] theorem outputs_concat (past : List StationStep) (record : StationStep) :
    outputs (past ++ [record]) = outputs past ++ record.outputs := by
  simp [outputs]

/-- What the station relies on: `generate_session_id` draws every id once and never zero, and the
digest works and has no collision among the inputs it is asked for. -/
structure Assumptions (platform : Platform) (past : List StationStep) : Prop where
  distinct : (generatedIds (outputs past)).Nodup
  nonzero : ∀ id ∈ generatedIds (outputs past), sessionIsZero id = false
  digests : ∀ input ∈ digests (outputs past), (platform.evpDigest input).isSome = true
  collisionFree : ∀ a ∈ LibIso15118.digests (outputs past), ∀ b ∈ LibIso15118.digests (outputs past),
    platform.evpDigest a = platform.evpDigest b → a = b

namespace Assumptions

variable {platform : Platform} {past : List StationStep} {record : StationStep}

theorem shorter (past : List StationStep) (record : StationStep)
    (sound : Assumptions platform (past ++ [record])) : Assumptions platform past where
  distinct := by
    have distinct := sound.distinct
    rw [outputs_concat, generatedIds_append] at distinct
    exact (List.nodup_append.mp distinct).1
  nonzero id member := sound.nonzero id (by simp [member])
  digests input member := sound.digests input (by simp [member])
  collisionFree a memberA b memberB :=
    sound.collisionFree a (by simp [memberA]) b (by simp [memberB])

theorem fresh (sound : Assumptions platform (past ++ [record])) {id : SessionId}
    (drawn : generatedIds record.outputs = [id]) : id ∉ generatedIds (outputs past) := by
  have distinct := sound.distinct
  rw [outputs_concat, generatedIds_append, drawn] at distinct
  intro before
  exact (List.nodup_append.mp distinct).2.2 id before id (List.mem_singleton_self id) rfl

theorem concatenatedSessionIdVehicle_inj {hash hash' : Sha512Hash} {id id' : SessionId}
    (same : concatenatedSessionIdVehicle hash id = concatenatedSessionIdVehicle hash' id') :
    hash = hash' ∧ id = id' := by
  have same : id ++ hash = id' ++ hash' := same
  exact (Vector.append_inj same).symm

theorem calculate_inj (sound : Assumptions platform past) {hash hash' : Sha512Hash} {id id' : SessionId}
    (asked : concatenatedSessionIdVehicle hash id ∈ LibIso15118.digests (outputs past))
    (asked' : concatenatedSessionIdVehicle hash' id' ∈ LibIso15118.digests (outputs past))
    (same : calculateNewCertSessionIdHash platform hash id =
      calculateNewCertSessionIdHash platform hash' id') : hash = hash' ∧ id = id' := by
  apply concatenatedSessionIdVehicle_inj
  obtain ⟨digest, works⟩ := Option.isSome_iff_exists.mp (sound.digests _ asked)
  obtain ⟨digest', works'⟩ := Option.isSome_iff_exists.mp (sound.digests _ asked')
  refine sound.collisionFree _ asked _ asked' ?_
  rw [calculateNewCertSessionIdHash, calculateNewCertSessionIdHash, works, works'] at same
  rw [works, works']
  exact congrArg some same

end Assumptions

namespace Sample

def certHash (byte : UInt8) : Sha512Hash := Vector.replicate 64 byte

def visit (vehicle : Option Sha512Hash) (id : SessionId) (inputs : List Input) : List StationInput :=
  .connect vehicle config id ::
    (vehicle.toList.map Input.certHash ++ inputs).map .feed

def pauseAc (id : SessionId) : List Input :=
  reachPowerDelivery id ++
    [.control {} (.closedContactor true), deliver id .start, deliver id .stop,
      receive id (.sessionStop { header := { sessionId := id }, chargingSession := .pause })]

def pauseDc (id : SessionId) : List Input :=
  reachDcPowerDelivery id ++
    [deliver id .start, deliver id .stop,
      receive id (.sessionStop { header := { sessionId := id }, chargingSession := .pause })]

def join (id : SessionId) : StationInput :=
  .feed (receive (sessionId 0) (.sessionSetup ⟨{ sessionId := id }, "EVCC"⟩))

def returning : List StationInput :=
  visit (some (certHash 5)) (sessionId 9) (pauseAc (sessionId 1)) ++
    .disconnect :: visit (some (certHash 5)) (sessionId 8) [negotiate (sessionId 0)]

def overwritten : List StationInput :=
  visit (some (certHash 5)) (sessionId 9) (pauseDc (sessionId 1)) ++
    .disconnect :: visit none (sessionId 8) (pauseAc (sessionId 2)) ++
    .disconnect :: visit (some (certHash 5)) (sessionId 7) [negotiate (sessionId 0)]

def aborted : List StationInput :=
  visit (some (certHash 5)) (sessionId 9) ((selectService (sessionId 1) .ac).take 2) ++
    .disconnect :: visit (some (certHash 5)) (sessionId 7) [negotiate (sessionId 0)]

def bypassed : List StationInput :=
  visit (some (certHash 5)) (sessionId 9) ((selectService (sessionId 1) .ac).take 2) ++
    .disconnect :: visit none (sessionId 8) (pauseAc (sessionId 2)) ++
    .disconnect :: visit (some (certHash 5)) (sessionId 7) [negotiate (sessionId 0)]

theorem sound_of_outputs {past : List StationStep} (ids : List SessionId) (asked : List (Vector UInt8 72))
    (outputs_eq : (generatedIds (outputs past), digests (outputs past)) = (ids, asked))
    (distinct : ids.Nodup) (nonzero : (ids.all fun id => !sessionIsZero id) = true)
    (collisionFree : (asked.dedup.map platform.evpDigest).Nodup) : Assumptions platform past := by
  obtain ⟨rfl, rfl⟩ := Prod.mk.inj outputs_eq
  refine ⟨distinct, by simpa using nonzero, fun _ _ => rfl, fun a memberA b memberB same => ?_⟩
  exact List.inj_on_of_nodup_map collisionFree (List.mem_dedup.mpr memberA) (List.mem_dedup.mpr memberB) same

theorem returning_sound :
    Assumptions platform (Station.run platform (returning ++ [join (sessionId 1)])) :=
  sound_of_outputs [sessionId 9, sessionId 1, sessionId 8]
    (List.replicate 2 (concatenatedSessionIdVehicle (certHash 5) (sessionId 1)))
    (by decide +kernel) (by decide +kernel) (by decide +kernel) (by decide +kernel)

theorem overwritten_sound :
    Assumptions platform (Station.run platform (overwritten ++ [join (sessionId 1)])) :=
  sound_of_outputs [sessionId 9, sessionId 1, sessionId 8, sessionId 2, sessionId 7]
    (List.replicate 2 (concatenatedSessionIdVehicle (certHash 5) (sessionId 1)))
    (by decide +kernel) (by decide +kernel) (by decide +kernel) (by decide +kernel)

theorem aborted_sound :
    Assumptions platform (Station.run platform (aborted ++ [join (sessionId 1)])) :=
  sound_of_outputs [sessionId 9, sessionId 1, sessionId 7]
    (List.replicate 2 (concatenatedSessionIdVehicle (certHash 5) (sessionId 1)))
    (by decide +kernel) (by decide +kernel) (by decide +kernel) (by decide +kernel)

theorem bypassed_sound :
    Assumptions platform (Station.run platform (bypassed ++ [join (sessionId 1)])) :=
  sound_of_outputs [sessionId 9, sessionId 1, sessionId 8, sessionId 2, sessionId 7]
    (List.replicate 2 (concatenatedSessionIdVehicle (certHash 5) (sessionId 1)))
    (by decide +kernel) (by decide +kernel) (by decide +kernel) (by decide +kernel)

end Sample

end LibIso15118
