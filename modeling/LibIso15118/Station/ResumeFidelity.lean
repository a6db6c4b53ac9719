import LibIso15118.Station.PauseContext

set_option autoImplicit false

namespace LibIso15118

open Datatypes Shared

namespace Station

/-- The connection of this vehicle and session that was paused last, as it was at that moment. -/
def latestPause (past : List StationStep) (hash : Sha512Hash) (id : SessionId) : Option Connection :=
  ((past.filterMap pausing?).filter fun conn =>
    conn.vehicle = some hash ∧ conn.fsm.ctx.session.id = id).getLast?

theorem latestPause_concat (past : List StationStep) (record : StationStep) (hash : Sha512Hash)
    (id : SessionId) :
    latestPause (past ++ [record]) hash id =
      ((pausing? record).filter fun conn => conn.vehicle = some hash ∧ conn.fsm.ctx.session.id = id).or
        (latestPause past hash id) := by
  cases paused : pausing? record with
  | none => simp [latestPause, List.filterMap_append, paused]
  | some conn =>
      by_cases same : conn.vehicle = some hash ∧ conn.fsm.ctx.session.id = id <;>
        simp [latestPause, List.filterMap_append, paused, same, Option.filter]

def Faithful (platform : Platform) (past : List StationStep) (pauseCtx : PauseContext) : Prop :=
  ∃ hash conn, pauseCtx.Binds platform past hash ∧
    latestPause past hash pauseCtx.oldSessionId = some conn ∧
    pauseCtx.selectedServiceParameters = conn.fsm.ctx.session.selectedServices

structure FidelityInvariant (platform : Platform) (past : List StationStep) (station : Station) :
    Prop extends Ownership platform past station where
  faithful : ∀ pauseCtx, station.pauseCtx = some pauseCtx → pauseCtx.charges = true →
    Faithful platform past pauseCtx

section Step

variable {platform : Platform} {past : List StationStep} {station : Station} {record : StationStep}

theorem Faithful.concat {pauseCtx : PauseContext} (faithful : Faithful platform past pauseCtx)
    (quiet : pausing? record = none) : Faithful platform (past ++ [record]) pauseCtx := by
  obtain ⟨hash, conn, binds, latest, services⟩ := faithful
  exact ⟨hash, conn, binds.concat, by simp [latestPause_concat, quiet, latest], services⟩

theorem FidelityInvariant.fed {conn : Connection} {event : Input}
    (inv : FidelityInvariant platform past station) (before : record.before = station)
    (asked : record.input = .feed event) (current : station.current = some conn)
    (owned : pauseOwned record = true) {pauseCtx : PauseContext}
    (saved : (Fsm.step platform event conn.fsm).state.ctx.pauseCtx = some pauseCtx)
    (service : pauseCtx.charges = true) : Faithful platform (past ++ [record]) pauseCtx := by
  have idle := inv.idle conn current
  have shared := inv.shared conn current
  have here : record.before.current = some conn := by rw [before, current]
  have earlier (quiet : conn.fsm.pauses event = false) (kept : conn.fsm.ctx.pauseCtx = some pauseCtx) :
      Faithful platform (past ++ [record]) pauseCtx :=
    (inv.faithful pauseCtx (shared ▸ kept) service).concat (by simp [pausing_fed here asked, quiet])
  by_cases setup : conn.fsm.state.id = .sessionSetup
  · have quiet : conn.fsm.pauses event = false := by simp [Fsm.pauses, setup, StateId.ends]
    cases Fsm.sessionSetup_step platform (State.eq_sessionSetup setup) idle event with
    | other unasked state session kept => exact earlier quiet (kept ▸ saved)
    | joined env req hash old message cert joins session kept => exact earlier quiet (kept ▸ saved)
    | fresh env req message session emplaced =>
        cases cert : conn.fsm.ctx.vehicleCertHash with
        | none => exact earlier quiet (by rw [← saved, emplaced, cert, freshPauseContext])
        | some hash =>
            rw [emplaced, cert, freshPauseContext, Option.some.injEq] at saved
            subst saved
            cases service
  · obtain ⟨old, kept, id, hashes, services⟩ := Fsm.pauseCtx_origin platform idle setup saved
    cases pauses : conn.fsm.pauses event with
    | true =>
        -- the session that pauses is the one the context was made for, so it is its vehicle that pauses
        have own := pauseOwned_fed here asked pauses owned kept
        obtain ⟨hash, vehicle, binds⟩ := inv.owner conn old current
          (Nat.le_trans (by decide) (Fsm.pauses_rank pauses)) (shared ▸ kept) own
        refine ⟨hash, conn, binds.concat.congr id hashes, ?_, by simpa [pauses] using services⟩
        simp [latestPause_concat, pausing_fed here asked, pauses, Option.filter, vehicle, id, own]
    | false =>
        refine earlier pauses ?_
        rw [kept]
        cases pauseCtx
        cases old
        simp_all

theorem fidelityInvariant_step (inv : FidelityInvariant platform past record.before)
    (sound : Assumptions platform (past ++ [record])) (owned : pauseOwned record = true)
    (effect : Effect platform record.before record.input record.after record.outputs) :
    FidelityInvariant platform (past ++ [record]) record.after := by
  refine ⟨ownership_step inv.toOwnership sound effect, ?_⟩
  obtain ⟨before, input, outputs, after⟩ := record
  simp only at inv effect ⊢
  intro pauseCtx saved service
  cases effect with
  | skip unfed => exact (inv.faithful pauseCtx saved service).concat (pausing_unfed unfed)
  | connect vehicle config id asked free =>
      exact (inv.faithful pauseCtx saved service).concat (by simp [pausing?, free])
  | feed conn event asked current => exact inv.fed rfl asked current owned saved service
  | disconnect conn asked current =>
      exact (inv.faithful pauseCtx saved service).concat (by simp [pausing?, asked, current])

/-- In a run where no session pauses with the pause context of another one, a session that is joined
with an energy service goes on with the services that its vehicle had when it paused it. -/
theorem resume_fidelity (platform : Platform) (inputs : List StationInput)
    (sound : Assumptions platform (run platform inputs))
    (owned : ∀ record ∈ run platform inputs, pauseOwned record = true)
    (past future : List StationStep) (record : StationStep)
    (split : run platform inputs = past ++ record :: future) (conn conn' : Connection)
    (joins : JoinsOld record conn conn') (service : record.before.pauseCtx.all PauseContext.charges = true) :
    ∃ hash paused, conn.vehicle = some hash ∧
      latestPause past hash conn'.fsm.ctx.session.id = some paused ∧
      conn'.fsm.ctx.session.selectedServices = paused.fsm.ctx.session.selectedServices := by
  refine Machine.run_always (act platform) {} (FidelityInvariant platform)
    (fun past => Assumptions platform past ∧ Machine.All (pauseOwned · = true) past)
    (fun past record => ∀ conn conn', JoinsOld record conn conn' →
      record.before.pauseCtx.all PauseContext.charges = true → ∃ hash paused, conn.vehicle = some hash ∧
        latestPause past hash conn'.fsm.ctx.session.id = some paused ∧
        conn'.fsm.ctx.session.selectedServices = paused.fsm.ctx.session.selectedServices)
    ?_ ⟨ownership_initial platform, by simp⟩ ?_ ?_ inputs ⟨sound, owned⟩ split conn conn' joins service
  · exact fun past record ok => ⟨ok.1.shorter _ _, ok.2.shorter _ _⟩
  · intro past station input ok inv
    exact fidelityInvariant_step inv ok.1
      ok.2.last (act_effect platform station input)
  · intro past station input ok inv conn conn' joins service
    obtain ⟨hash, old, vehicle, saved, binds, session⟩ :=
      joins.joined inv.toOwnership ok.1 (act_effect platform station input)
    rw [saved] at service
    obtain ⟨hash', paused, binds', latest, services⟩ := inv.faithful old saved service
    obtain rfl := binds.unique (ok.1.shorter _ _) binds'
    refine ⟨hash, paused, vehicle, ?_, ?_⟩
    · rw [session]
      exact latest
    · rw [session]
      exact services

end Step

open Sample in
/-- A vehicle pauses an AC session and goes on with it. -/
theorem resume_fidelity_ac :
    ∃ conn conn' hash paused, conn.vehicle = some hash ∧
      JoinsOld (Machine.stepOf (act platform) (reached platform returning) (join (sessionId 1)))
        conn conn' ∧
      latestPause (run platform returning) hash conn'.fsm.ctx.session.id = some paused ∧
      conn'.fsm.ctx.session.selectedServices = paused.fsm.ctx.session.selectedServices := by
  obtain ⟨conn, conn', joins⟩ := exists_joinsOld
    (Machine.stepOf (act platform) (reached platform returning) (join (sessionId 1)))
    (by decide +kernel) (by decide +kernel) (by decide +kernel)
  obtain ⟨hash, paused, vehicle, latest, services⟩ :=
    resume_fidelity platform (returning ++ [join (sessionId 1)]) returning_sound (by decide +kernel) _ [] _
      (run_concat _ _ _) conn conn' joins (by decide +kernel)
  exact ⟨conn, conn', hash, paused, vehicle, joins, latest, services⟩

open Sample in
/-- The pause of another vehicle without certificate has replaced the services of the DC vehicle. -/
theorem resume_fidelity_overwritten :
    ¬∀ (platform : Platform) (inputs : List StationInput), Assumptions platform (run platform inputs) →
      ∀ (past future : List StationStep) (record : StationStep),
      run platform inputs = past ++ record :: future → ∀ conn conn', JoinsOld record conn conn' →
      ∃ hash paused, conn.vehicle = some hash ∧
        latestPause past hash conn'.fsm.ctx.session.id = some paused ∧
        conn'.fsm.ctx.session.selectedServices = paused.fsm.ctx.session.selectedServices := by
  intro faithful
  obtain ⟨conn, conn', joins⟩ := exists_joinsOld
    (Machine.stepOf (act platform) (reached platform overwritten) (join (sessionId 1)))
    (by decide +kernel) (by decide +kernel) (by decide +kernel)
  have installed : (act platform (join (sessionId 1)) (reached platform overwritten)).state.current.all
      fun conn => conn.fsm.ctx.session.isAcCharger = true ∧ conn.fsm.ctx.session.id = sessionId 1 := by
    decide +kernel
  have vehicle : (reached platform overwritten).current.all (·.vehicle = some (certHash 5)) := by
    decide +kernel
  have selected : (latestPause (run platform overwritten) (certHash 5) (sessionId 1)).all
      (·.fsm.ctx.session.isAcCharger = false) := by
    decide +kernel
  obtain ⟨hash, paused, own, latest, services⟩ := faithful platform _ overwritten_sound _ [] _
    (run_concat _ _ _) conn conn' joins
  obtain ⟨here, still, -⟩ := joins
  rw [Machine.stepOf_before] at here
  rw [Machine.stepOf_after] at still
  rw [here] at vehicle
  rw [still] at installed
  simp only [Option.all_some, decide_eq_true_eq] at vehicle installed
  obtain rfl : hash = certHash 5 := by simpa [own] using vehicle
  rw [installed.2] at latest
  rw [latest, Option.all_some, decide_eq_true_eq, ← Session.isAcCharger_congr services,
    installed.1] at selected
  cases selected

end Station

end LibIso15118
