import LibIso15118.Station.Model

set_option autoImplicit false

namespace LibIso15118

open Datatypes Shared

def PauseContext.Binds (platform : Platform) (past : List StationStep) (pauseCtx : PauseContext)
    (hash : Sha512Hash) : Prop :=
  pauseCtx.vehicleCertSessionIdHash =
      calculateNewCertSessionIdHash platform hash pauseCtx.oldSessionId ∧
    concatenatedSessionIdVehicle hash pauseCtx.oldSessionId ∈ digests (outputs past)

namespace PauseContext

variable {platform : Platform} {past : List StationStep} {record : StationStep}
  {pauseCtx old : PauseContext} {hash hash' : Sha512Hash}

theorem Binds.concat (binds : pauseCtx.Binds platform past hash) :
    pauseCtx.Binds platform (past ++ [record]) hash :=
  ⟨binds.1, by simp [binds.2]⟩

theorem Binds.congr (binds : old.Binds platform past hash)
    (id : pauseCtx.oldSessionId = old.oldSessionId)
    (same : pauseCtx.vehicleCertSessionIdHash = old.vehicleCertSessionIdHash) :
    pauseCtx.Binds platform past hash := by
  unfold Binds at *
  rwa [id, same]

theorem Binds.unique (sound : Assumptions platform past) (binds : pauseCtx.Binds platform past hash)
    (binds' : pauseCtx.Binds platform past hash') : hash = hash' :=
  (sound.calculate_inj binds.2 binds'.2 (binds.1.symm.trans binds'.1)).1

end PauseContext

namespace Station

/-- What holds of the pause context and the connections in every history that meets the assumptions:
the context names a generated session of some vehicle, and a connection that has passed `SessionSetup`
with that session is this vehicle's. -/
structure Ownership (platform : Platform) (past : List StationStep) (station : Station) : Prop where
  idle : ∀ conn, station.current = some conn → conn.fsm.ctx.request = none
  shared : ∀ conn, station.current = some conn → conn.fsm.ctx.pauseCtx = station.pauseCtx
  number : ∀ conn, station.current = some conn → conn.number = station.count
  cert : ∀ conn hash, station.current = some conn → conn.fsm.ctx.vehicleCertHash = some hash →
    conn.vehicle = some hash
  generated : ∀ pauseCtx, station.pauseCtx = some pauseCtx →
    pauseCtx.oldSessionId ∈ generatedIds (outputs past)
  bound : ∀ pauseCtx, station.pauseCtx = some pauseCtx → ∃ hash, pauseCtx.Binds platform past hash
  owner : ∀ conn pauseCtx, station.current = some conn → 2 ≤ conn.fsm.state.id.rank →
    station.pauseCtx = some pauseCtx → pauseCtx.oldSessionId = conn.fsm.ctx.session.id →
    ∃ hash, conn.vehicle = some hash ∧ pauseCtx.Binds platform past hash
  counted : ∀ record ∈ past, ∀ conn, record.before.current = some conn → conn.number ≤ station.count
  ordered : ∀ record ∈ past, ∀ conn conn', record.before.current = some conn →
    station.current = some conn' → conn.number = conn'.number →
    conn.fsm.state.id.rank ≤ conn'.fsm.state.id.rank

theorem ownership_initial (platform : Platform) : Ownership platform [] {} := by
  constructor <;> simp

section Step

variable {platform : Platform} {past : List StationStep} {station : Station} {input : Input}
  {conn : Connection}

theorem Ownership.joined_binds {record : StationStep} (own : Ownership platform past station)
    (sound : Assumptions platform (past ++ [record])) (current : station.current = some conn)
    {hash : Sha512Hash} {old : PauseContext} {sessionId : SessionId}
    (cert : conn.fsm.ctx.vehicleCertHash = some hash)
    (joins : joinedPauseContext platform conn.fsm.ctx.vehicleCertHash conn.fsm.ctx.pauseCtx sessionId =
      some old)
    (digested : concatenatedSessionIdVehicle hash sessionId ∈ digests record.outputs) :
    station.pauseCtx = some old ∧ old.Binds platform past hash ∧ conn.vehicle = some hash := by
  obtain ⟨hash', cert', saved, -, same⟩ := (joinedPauseContext_eq_some platform).mp joins
  obtain rfl : hash = hash' := by simpa [cert] using cert'
  rw [own.shared conn current] at saved
  obtain ⟨bound, binds⟩ := own.bound old saved
  obtain ⟨rfl, rfl⟩ := sound.calculate_inj (by simp [binds.2]) (by simp [digested])
    (binds.1.symm.trans same)
  exact ⟨saved, binds, own.cert conn _ current cert⟩

theorem Ownership.pauseCtx_cases (own : Ownership platform past station)
    (current : station.current = some conn) {pauseCtx : PauseContext}
    (saved : (Fsm.step platform input conn.fsm).state.ctx.pauseCtx = some pauseCtx) :
    (∃ old, station.pauseCtx = some old ∧ pauseCtx.oldSessionId = old.oldSessionId ∧
      pauseCtx.vehicleCertSessionIdHash = old.vehicleCertSessionIdHash) ∨
    ∃ hash id, pauseCtx = { vehicleCertSessionIdHash := calculateNewCertSessionIdHash platform hash id
                            oldSessionId := id } ∧
      generatedIds (Fsm.step platform input conn.fsm).log = [id] ∧
      concatenatedSessionIdVehicle hash id ∈ digests (Fsm.step platform input conn.fsm).log := by
  -- Where the pause context comes from after a step.
  have idle := own.idle conn current
  have shared := own.shared conn current
  by_cases setup : conn.fsm.state.id = .sessionSetup
  · cases Fsm.sessionSetup_step platform (State.eq_sessionSetup setup) idle input with
    | other unasked state session kept => exact .inl ⟨pauseCtx, by rw [← shared, ← kept, saved], rfl, rfl⟩
    | joined env req hash old message cert joins session kept =>
        exact .inl ⟨pauseCtx, by rw [← shared, ← kept, saved], rfl, rfl⟩
    | fresh env req message session emplaced ids digested =>
        cases cert : conn.fsm.ctx.vehicleCertHash with
        | none =>
            refine .inl ⟨pauseCtx, ?_, rfl, rfl⟩
            rw [← shared, ← saved, emplaced, cert, freshPauseContext]
        | some hash =>
            rw [emplaced, cert, freshPauseContext, Option.some.injEq] at saved
            exact .inr ⟨hash, env.newSessionId, saved.symm, ids, digested hash cert⟩
  · obtain ⟨old, before, id, same, -⟩ := Fsm.pauseCtx_origin platform idle setup saved
    exact .inl ⟨old, shared ▸ before, id, same⟩

section Fed

variable {record : StationStep} (own : Ownership platform past station)
  (sound : Assumptions platform (past ++ [record]))
  (logged : record.outputs = (Fsm.step platform input conn.fsm).log)
  (current : station.current = some conn)
include own logged current

theorem Ownership.generated_fed {pauseCtx : PauseContext}
    (saved : (Fsm.step platform input conn.fsm).state.ctx.pauseCtx = some pauseCtx) :
    pauseCtx.oldSessionId ∈ generatedIds (outputs (past ++ [record])) := by
  rw [outputs_concat, generatedIds_append, List.mem_append, logged]
  rcases own.pauseCtx_cases current saved with ⟨old, before, id, -⟩ | ⟨hash, id, rfl, drawn, -⟩
  · exact .inl (id ▸ own.generated old before)
  · exact .inr (by simp [drawn])

theorem Ownership.bound_fed {pauseCtx : PauseContext}
    (saved : (Fsm.step platform input conn.fsm).state.ctx.pauseCtx = some pauseCtx) :
    ∃ hash, pauseCtx.Binds platform (past ++ [record]) hash := by
  rcases own.pauseCtx_cases current saved with ⟨old, before, id, same⟩ | ⟨hash, id, rfl, -, digested⟩
  · obtain ⟨hash, binds⟩ := own.bound old before
    exact ⟨hash, binds.concat.congr id same⟩
  · exact ⟨hash, rfl, by simp [logged, digested]⟩

include sound in
theorem Ownership.owner_fed {pauseCtx : PauseContext}
    (later : 2 ≤ (Fsm.step platform input conn.fsm).state.state.id.rank)
    (saved : (Fsm.step platform input conn.fsm).state.ctx.pauseCtx = some pauseCtx)
    (same : pauseCtx.oldSessionId = (Fsm.step platform input conn.fsm).state.ctx.session.id) :
    ∃ hash, conn.vehicle = some hash ∧ pauseCtx.Binds platform (past ++ [record]) hash := by
  have idle := own.idle conn current
  have shared := own.shared conn current
  by_cases setup : conn.fsm.state.id = .sessionSetup
  · cases Fsm.sessionSetup_step platform (State.eq_sessionSetup setup) idle input with
    | other unasked state => simp [state, StateId.rank] at later
    | fresh env req message session emplaced ids digested =>
        cases cert : conn.fsm.ctx.vehicleCertHash with
        | none =>
            rw [emplaced, cert, freshPauseContext, shared] at saved
            rw [session, Session.new_id] at same
            exact absurd (same ▸ own.generated pauseCtx saved) (sound.fresh (logged ▸ ids))
        | some hash =>
            rw [emplaced, cert, freshPauseContext, Option.some.injEq] at saved
            subst saved
            exact ⟨hash, own.cert conn hash current cert, rfl, by simp [logged, digested hash cert]⟩
    | joined env req hash old message cert joins session kept digested =>
        obtain ⟨before, binds, vehicle⟩ :=
          own.joined_binds sound current cert joins (logged ▸ digested)
        rw [kept, shared, before, Option.some.injEq] at saved
        exact ⟨hash, vehicle, saved ▸ binds.concat⟩
  · have frame := Fsm.step_frame platform conn.fsm input idle
    obtain ⟨old, before, id, hashes, -⟩ := Fsm.pauseCtx_origin platform idle setup saved
    rw [frame.sessionId setup, id] at same
    obtain ⟨hash, vehicle, binds⟩ :=
      own.owner conn old current (frame.rank_before setup later) (shared ▸ before) same
    exact ⟨hash, vehicle, binds.concat.congr id hashes⟩

include sound in
theorem Ownership.fed (before : record.before = station) (reported : reports conn input = true) :
    Ownership platform (past ++ [record]) (station.fed conn (Fsm.step platform input conn.fsm)) := by
  have idle := own.idle conn current
  have frame := Fsm.step_frame platform conn.fsm input idle
  constructor
  · intro conn' still
    obtain ⟨-, rfl⟩ := fed_current still
    exact frame.idle
  · intro conn' still
    obtain ⟨-, rfl⟩ := fed_current still
    rfl
  · intro conn' still
    obtain ⟨-, rfl⟩ := fed_current still
    exact own.number conn current
  · intro conn' hash still cert
    obtain ⟨-, rfl⟩ := fed_current still
    by_cases opened : ∃ own, input = .certHash own
    · obtain ⟨hash', rfl⟩ := opened
      obtain rfl : hash' = hash := by simpa [Fsm.step, Fsm.modifyCtx] using cert
      simpa [reports] using reported
    · rw [frame.certHash (fun own eq => opened ⟨own, eq⟩)] at cert
      exact own.cert conn hash current cert
  · intro pauseCtx saved
    exact own.generated_fed logged current saved
  · intro pauseCtx saved
    exact own.bound_fed logged current saved
  · intro conn' pauseCtx still later saved same
    obtain ⟨-, rfl⟩ := fed_current still
    exact own.owner_fed sound logged current later saved same
  · intro other member conn' here
    rcases List.mem_append.mp member with earlier | last
    · exact own.counted other earlier conn' here
    · rw [List.mem_singleton.mp last, before, current, Option.some.injEq] at here
      exact here ▸ Nat.le_of_eq (own.number conn current)
  · intro other member conn₁ conn₂ here still same
    obtain ⟨-, rfl⟩ := fed_current still
    rcases List.mem_append.mp member with earlier | last
    · exact Nat.le_trans (own.ordered other earlier conn₁ conn here current same) frame.rank_le
    · rw [List.mem_singleton.mp last, before, current, Option.some.injEq] at here
      exact here ▸ frame.rank_le

end Fed

theorem Ownership.concat {record : StationStep} (own : Ownership platform past station)
    (before : record.before = station) : Ownership platform (past ++ [record]) station where
  idle := own.idle
  shared := own.shared
  number := own.number
  cert := own.cert
  generated pauseCtx saved := by simp [own.generated pauseCtx saved]
  bound pauseCtx saved := (own.bound pauseCtx saved).imp fun _ binds => binds.concat
  owner conn pauseCtx current later saved same :=
    (own.owner conn pauseCtx current later saved same).imp fun _ => And.imp_right fun binds => binds.concat
  counted other member conn here := by
    rcases List.mem_append.mp member with earlier | last
    · exact own.counted other earlier conn here
    · rw [List.mem_singleton.mp last, before] at here
      exact Nat.le_of_eq (own.number conn here)
  ordered other member conn conn' here current same := by
    rcases List.mem_append.mp member with earlier | last
    · exact own.ordered other earlier conn conn' here current same
    · rw [List.mem_singleton.mp last, before, current, Option.some.injEq] at here
      exact here ▸ Nat.le_refl _

theorem Ownership.left (own : Ownership platform past station) :
    Ownership platform past { station with current := none } where
  idle := by simp
  shared := by simp
  number := by simp
  cert := by simp
  generated := own.generated
  bound := own.bound
  owner := by simp
  counted := own.counted
  ordered := by simp

theorem Ownership.connected (own : Ownership platform past station) (vehicle : Option Sha512Hash)
    (config : SessionConfig) (id : SessionId) :
    Ownership platform past
      { station with
        count := station.count + 1
        current := some ⟨station.count + 1, vehicle, .new config station.pauseCtx id⟩ } where
  idle := by
    rintro conn ⟨⟩
    rfl
  shared := by
    rintro conn ⟨⟩
    rfl
  number := by
    rintro conn ⟨⟩
    rfl
  cert := by
    rintro conn hash ⟨⟩ cert
    cases cert
  generated := own.generated
  bound := own.bound
  owner := by
    rintro conn pauseCtx ⟨⟩ later
    simp [State.id, StateId.rank] at later
  counted other member conn here := Nat.le_succ_of_le (own.counted other member conn here)
  ordered := by
    rintro other member conn conn' here ⟨⟩ same
    exact absurd same (Nat.ne_of_lt (Nat.lt_succ_of_le (own.counted other member conn here)))

theorem ownership_step {record : StationStep} (own : Ownership platform past record.before)
    (sound : Assumptions platform (past ++ [record]))
    (effect : Effect platform record.before record.input record.after record.outputs) :
    Ownership platform (past ++ [record]) record.after := by
  obtain ⟨before, input, outputs, after⟩ := record
  simp only at own effect ⊢
  cases effect with
  | skip => exact own.concat rfl
  | connect vehicle config id asked free => exact (own.concat rfl).connected vehicle config id
  | feed conn event asked current reported => exact own.fed sound rfl current rfl reported
  | disconnect conn asked current => exact (own.concat rfl).left

end Step

/-- `SessionSetup` answers OK_OldSessionJoined. -/
def JoinsOld (record : StationStep) (conn conn' : Connection) : Prop :=
  record.before.current = some conn ∧ record.after.current = some conn' ∧
    conn.fsm.state.id = .sessionSetup ∧
    ∃ res ∈ responses record.outputs, res.code? = some .okOldSessionJoined

theorem exists_joinsOld (record : StationStep)
    (setup : record.before.current.any (·.fsm.state.id = .sessionSetup) = true)
    (still : record.after.current.isSome = true)
    (answered : (responses record.outputs).any (·.code? = some .okOldSessionJoined) = true) :
    ∃ conn conn', JoinsOld record conn conn' := by
  obtain ⟨conn, current, setup⟩ := Option.any_eq_true _ _ |>.mp setup
  obtain ⟨conn', still⟩ := Option.isSome_iff_exists.mp still
  obtain ⟨res, member, code⟩ := List.any_eq_true.mp answered
  exact ⟨conn, conn', current, still, by simpa using setup, res, member, by simpa using code⟩

theorem JoinsOld.joined {platform : Platform} {past : List StationStep} {record : StationStep}
    {conn conn' : Connection} (joins : JoinsOld record conn conn')
    (own : Ownership platform past record.before) (sound : Assumptions platform (past ++ [record]))
    (effect : Effect platform record.before record.input record.after record.outputs) :
    ∃ hash old, conn.vehicle = some hash ∧ record.before.pauseCtx = some old ∧
      old.Binds platform past hash ∧ conn'.fsm.ctx.session = .ofPauseContext old := by
  -- The session that a connection joins is the one that the pause context holds for its vehicle.
  obtain ⟨before, input, outputs, after⟩ := record
  obtain ⟨current, still, setup, res, answered, code⟩ := joins
  simp only at current still answered own effect ⊢
  cases effect with
  | skip => cases answered
  | connect => simp [responses, Output.response?] at answered
  | disconnect => cases answered
  | feed conn₀ event asked current₀ =>
      obtain rfl : conn = conn₀ := by simpa [current] using current₀
      obtain ⟨-, rfl⟩ := fed_current still
      cases Fsm.sessionSetup_step platform (State.eq_sessionSetup setup) (own.idle conn current) event with
      | other _ _ _ _ unjoined => exact absurd code (unjoined res answered)
      | fresh _ _ _ _ _ _ _ unjoined => exact absurd code (unjoined res answered)
      | joined env req hash old message cert joins session kept digested =>
          obtain ⟨saved, binds, vehicle⟩ := own.joined_binds sound current cert joins digested
          exact ⟨hash, old, vehicle, saved, binds, session⟩

/-- The connection that this step pauses. -/
def pausing? (record : StationStep) : Option Connection :=
  match record.before.current, record.input with
  | some conn, .feed event => if conn.fsm.pauses event then some conn else none
  | _, _ => none

/-- A step that does not let a session pause with the pause context of another one. -/
def pauseOwned (record : StationStep) : Bool :=
  (pausing? record).all fun conn =>
    conn.fsm.ctx.pauseCtx.all fun pauseCtx => pauseCtx.oldSessionId = conn.fsm.ctx.session.id

theorem pausing_unfed {record : StationStep}
    (unfed : ∀ conn event, record.before.current = some conn → record.input = .feed event →
      reports conn event = false) : pausing? record = none := by
  unfold pausing?
  split
  · rename_i conn event current asked
    have unreported := unfed conn event current asked
    cases event <;> simp_all [reports, Fsm.pauses, Input.stopRequest?]
  · rfl

section Pausing

variable {record : StationStep} {conn : Connection} {event : Input}
  (current : record.before.current = some conn) (asked : record.input = .feed event)
include current asked

theorem pausing_fed : pausing? record = if conn.fsm.pauses event then some conn else none := by
  simp [pausing?, current, asked]

theorem pauseOwned_fed (pauses : conn.fsm.pauses event = true) (owned : pauseOwned record = true)
    {old : PauseContext} (saved : conn.fsm.ctx.pauseCtx = some old) :
    old.oldSessionId = conn.fsm.ctx.session.id := by
  simpa [pauseOwned, pausing_fed current asked, pauses, saved] using owned

end Pausing

end Station

end LibIso15118
