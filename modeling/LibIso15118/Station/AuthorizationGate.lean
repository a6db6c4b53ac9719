import LibIso15118.Station.PauseContext

set_option autoImplicit false

namespace LibIso15118

open Datatypes Shared

namespace Station

/-- The connection whose `Authorization` state consumes an `AuthorizationResponse(true)` in this step. -/
def authorizing? (record : StationStep) : Option Connection :=
  match record.before.current, record.input with
  | some conn, .feed (.control _ (.authorizationResponse true)) =>
      if conn.fsm.state.id = .authorization then some conn else none
  | _, _ => none

/-- A connection of this vehicle has been authorised for a session. -/
def Authorized (past : List StationStep) (number : Nat) (vehicle : Option Sha512Hash)
    (id : SessionId) : Prop :=
  ∃ conn ∈ past.filterMap authorizing?, conn.number = number ∧ conn.vehicle = vehicle ∧
    conn.fsm.ctx.session.id = id

theorem authorizing_of_response {record : StationStep} {conn : Connection} {env : Env}
    (current : record.before.current = some conn)
    (asked : record.input = .feed (.control env (.authorizationResponse true)))
    (state : conn.fsm.state.id = .authorization) : authorizing? record = some conn := by
  simp [authorizing?, current, asked, state]

theorem authorizing_current {record : StationStep} {conn : Connection}
    (authorizing : authorizing? record = some conn) :
    record.before.current = some conn ∧ conn.fsm.state.id = .authorization := by
  unfold authorizing? at authorizing
  split at authorizing
  · rename_i here asked
    split at authorizing
    · obtain rfl := Option.some.inj authorizing
      exact ⟨here, ‹_›⟩
    · cases authorizing
  · cases authorizing

def Joined (past : List StationStep) (number : Nat) (id : SessionId) : Prop :=
  ∃ record ∈ past, ∃ conn conn', JoinsOld record conn conn' ∧ conn.number = number ∧
    conn'.fsm.ctx.session.id = id

/-- The connection has been authorised, or it has joined a session for which an earlier connection of
the same vehicle has been. -/
def Cleared (past : List StationStep) (conn : Connection) : Prop :=
  Authorized past conn.number conn.vehicle conn.fsm.ctx.session.id ∨
    Joined past conn.number conn.fsm.ctx.session.id ∧
      ∃ hash number, conn.vehicle = some hash ∧ number < conn.number ∧
        Authorized past number (some hash) conn.fsm.ctx.session.id

theorem rank_of_outside {id : StateId}
    (outside : id ∉ [StateId.supportedAppProtocol, .sessionSetup, .authorizationSetup, .authorization]) :
    4 ≤ id.rank := by
  -- The states behind `Authorization` have a higher rank than it.
  cases id <;> simp_all [StateId.rank]

structure AuthorizationInvariant (platform : Platform) (past : List StationStep) (station : Station) :
    Prop extends Ownership platform past station where
  accepted : ∀ conn self, station.current = some conn → conn.fsm.state = .authorization self →
    self.authorizationStatus = .accepted →
    Authorized past conn.number conn.vehicle conn.fsm.ctx.session.id
  cleared : ∀ conn, station.current = some conn → 4 ≤ conn.fsm.state.id.rank → Cleared past conn
  saved : ∀ pauseCtx, station.pauseCtx = some pauseCtx →
    pauseCtx.charges = true →
    ∃ hash number, pauseCtx.Binds platform past hash ∧
      Authorized past number (some hash) pauseCtx.oldSessionId

section Concat

variable {past : List StationStep} {record : StationStep} {number : Nat} {vehicle : Option Sha512Hash}
  {id : SessionId}

theorem Authorized.concat (authorized : Authorized past number vehicle id) :
    Authorized (past ++ [record]) number vehicle id := by
  obtain ⟨conn, member, facts⟩ := authorized
  exact ⟨conn, by simpa using .inl (List.mem_filterMap.mp member), facts⟩

theorem Cleared.concat {conn conn' : Connection} (cleared : Cleared past conn)
    (number : conn'.number = conn.number) (vehicle : conn'.vehicle = conn.vehicle)
    (session : conn'.fsm.ctx.session.id = conn.fsm.ctx.session.id) :
    Cleared (past ++ [record]) conn' := by
  unfold Cleared at *
  rw [number, vehicle, session]
  rcases cleared with authorized | ⟨⟨other, member, joined⟩, hash, earlier, own, before, authorized⟩
  · exact .inl authorized.concat
  · exact .inr ⟨⟨other, List.mem_append_left _ member, joined⟩, hash, earlier, own, before,
      authorized.concat⟩

end Concat

section Fed

variable {platform : Platform} {past : List StationStep} {station : Station} {event : Input}
  {conn : Connection} {record : StationStep} (inv : AuthorizationInvariant platform past station)
  (before : record.before = station) (asked : record.input = .feed event)
  (current : station.current = some conn)
include inv before asked current

theorem AuthorizationInvariant.accepted_fed {self' : State.Authorization}
    (now : (Fsm.step platform event conn.fsm).state.state = .authorization self')
    (accepted : self'.authorizationStatus = .accepted) :
    Authorized (past ++ [record]) conn.number conn.vehicle
      (Fsm.step platform event conn.fsm).state.ctx.session.id := by
  have idle := inv.idle conn current
  have frame := Fsm.step_frame platform conn.fsm event idle
  rcases frame.next with same | ⟨next, -, created⟩
  · obtain ⟨self, state⟩ : ∃ self, conn.fsm.state = .authorization self := by
      rw [now] at same
      cases eq : conn.fsm.state <;> simp_all [State.id]
    rw [frame.sessionId (by simp [state, State.id])]
    have earlier (accepted : self.authorizationStatus = .accepted) :
        Authorized (past ++ [record]) conn.number conn.vehicle conn.fsm.ctx.session.id :=
      (inv.accepted conn self current state accepted).concat
    cases Fsm.authorization_step platform state idle event with
    | stay self'' after kept =>
        obtain rfl : self' = self'' := by simpa [now] using after
        rcases kept accepted with was | ⟨env, rfl⟩
        · exact earlier was
        · have authorizing : authorizing? record = some conn :=
            authorizing_of_response (by rw [before, current]) asked (congrArg State.id state)
          exact ⟨conn, by simp [List.filterMap_append, authorizing], rfl, rfl, rfl⟩
    | leave was => exact earlier was
  · rw [created] at now
    obtain rfl : self' = {} := by
      cases next <;> simp [StateId.create, State.enter] at now
      exact now.symm
    cases accepted

omit asked in
theorem AuthorizationInvariant.cleared_joined (sound : Assumptions platform (past ++ [record]))
    (logged : record.outputs = (Fsm.step platform event conn.fsm).log)
    {conn' : Connection} (still : record.after.current = some conn')
    (moved : conn' = { conn with fsm := (Fsm.step platform event conn.fsm).state })
    (setup : conn.fsm.state.id = .sessionSetup) {hash : Sha512Hash} {old : PauseContext}
    {sessionId : SessionId} (cert : conn.fsm.ctx.vehicleCertHash = some hash)
    (joins : joinedPauseContext platform conn.fsm.ctx.vehicleCertHash conn.fsm.ctx.pauseCtx sessionId =
      some old)
    (session : (Fsm.step platform event conn.fsm).state.ctx.session = .ofPauseContext old)
    (digested : concatenatedSessionIdVehicle hash sessionId ∈ digests record.outputs)
    (answer : ∃ res ∈ responses (Fsm.step platform event conn.fsm).log,
      res.code? = some .okOldSessionJoined)
    (charger : old.charges = true) : Cleared (past ++ [record]) conn' := by
  obtain ⟨saved, binds, vehicle⟩ := inv.joined_binds sound current cert joins digested
  obtain ⟨hash', number, binds', authorized⟩ := inv.saved old saved charger
  obtain rfl := binds.unique (sound.shorter _ _) binds'
  have id : conn'.fsm.ctx.session.id = old.oldSessionId := by
    rw [moved]
    exact congrArg Session.id session
  refine .inr ⟨⟨record, List.mem_append_right _ (List.mem_singleton_self _), conn, conn',
    ⟨by rw [before, current], still, setup, logged ▸ answer⟩, by rw [moved], rfl⟩, hash, number,
    by rw [moved, vehicle], ?_, by rw [id]; exact authorized.concat⟩
  -- the connection that was authorised got past `SessionSetup`, where this one still is
  obtain ⟨conn₀, member, rfl, -⟩ := authorized
  obtain ⟨other, member, authorizing⟩ := List.mem_filterMap.mp member
  obtain ⟨here, state⟩ := authorizing_current authorizing
  rw [moved]
  refine Nat.lt_of_le_of_ne ?_ fun same => ?_
  · rw [inv.number conn current]
    exact inv.counted other member conn₀ here
  · have later := inv.ordered other member conn₀ conn here current same
    rw [state, setup] at later
    exact absurd later (by decide)

omit asked in
theorem AuthorizationInvariant.cleared_fed (sound : Assumptions platform (past ++ [record]))
    (logged : record.outputs = (Fsm.step platform event conn.fsm).log)
    (after : record.after = station.fed conn (Fsm.step platform event conn.fsm))
    {conn' : Connection} (still : record.after.current = some conn')
    (outside : 4 ≤ conn'.fsm.state.id.rank) : Cleared (past ++ [record]) conn' := by
  have idle := inv.idle conn current
  have frame := Fsm.step_frame platform conn.fsm event idle
  obtain ⟨result, moved⟩ := fed_current (after ▸ still)
  have outside : 4 ≤ (Fsm.step platform event conn.fsm).state.state.id.rank := by
    simpa [moved] using outside
  by_cases passed : 4 ≤ conn.fsm.state.id.rank
  · refine (inv.cleared conn current passed).concat (by rw [moved]) (by rw [moved]) ?_
    rw [moved]
    refine frame.sessionId fun setup => ?_
    simp [setup, StateId.rank] at passed
  by_cases setup : conn.fsm.state.id = .sessionSetup
  · cases Fsm.sessionSetup_step platform (State.eq_sessionSetup setup) idle event with
    | other unasked state => simp [state, StateId.rank] at outside
    | fresh env req message session emplaced ids digested unjoined next =>
        simp [next result, StateId.rank] at outside
    | joined env req hash old message cert joins session kept digested answer next =>
        rcases next result with state | ⟨-, charger⟩
        · simp [state, StateId.rank] at outside
        · exact inv.cleared_joined before current sound logged still moved setup cert joins session
            (logged ▸ digested) (answer result) charger
  · -- the only other way out of the first four states leads through `Authorization`
    obtain ⟨self, state⟩ : ∃ self, conn.fsm.state = .authorization self := by
      rcases frame.next with same | ⟨next, successor, created⟩
      · rw [same] at outside
        exact absurd outside passed
      · rw [created, State.enter_id, StateId.create_id] at outside
        cases state : conn.fsm.state <;> simp_all [State.id, StateId.successors, StateId.rank]
    cases Fsm.authorization_step platform state idle event with
    | stay self' stays => simp [stays, State.id, StateId.rank] at outside
    | leave accepted =>
        refine .inl ?_
        rw [moved]
        simp only
        rw [frame.sessionId setup]
        exact (inv.accepted conn self current state accepted).concat

theorem AuthorizationInvariant.saved_fed (owned : pauseOwned record = true) {pauseCtx : PauseContext}
    (saved : (Fsm.step platform event conn.fsm).state.ctx.pauseCtx = some pauseCtx)
    (charger : pauseCtx.charges = true) :
    ∃ hash number, pauseCtx.Binds platform (past ++ [record]) hash ∧
      Authorized (past ++ [record]) number (some hash) pauseCtx.oldSessionId := by
  have idle := inv.idle conn current
  have shared := inv.shared conn current
  have earlier (kept : station.pauseCtx = some pauseCtx) :
      ∃ hash number, pauseCtx.Binds platform (past ++ [record]) hash ∧
        Authorized (past ++ [record]) number (some hash) pauseCtx.oldSessionId := by
    obtain ⟨hash, number, binds, authorized⟩ := inv.saved pauseCtx kept charger
    exact ⟨hash, number, binds.concat, authorized.concat⟩
  by_cases setup : conn.fsm.state.id = .sessionSetup
  · cases Fsm.sessionSetup_step platform (State.eq_sessionSetup setup) idle event with
    | other unasked state session kept => exact earlier (by rw [← shared, ← kept, saved])
    | joined env req hash old message cert joins session kept =>
        exact earlier (by rw [← shared, ← kept, saved])
    | fresh env req message session emplaced =>
        cases cert : conn.fsm.ctx.vehicleCertHash with
        | none => exact earlier (by rw [← shared, ← saved, emplaced, cert, freshPauseContext])
        | some hash =>
            -- a new pause context holds no services
            rw [emplaced, cert, freshPauseContext, Option.some.injEq] at saved
            subst saved
            cases charger
  · obtain ⟨old, kept, id, hashes, services⟩ := Fsm.pauseCtx_origin platform idle setup saved
    by_cases pauses : conn.fsm.pauses event = true
    · have own := pauseOwned_fed (by rw [before, current]) asked pauses owned kept
      have passed := Fsm.pauses_rank pauses
      obtain ⟨hash, vehicle, binds⟩ :=
        inv.owner conn old current (Nat.le_trans (by decide) passed) (shared ▸ kept) own
      refine (?_ : ∃ number, Authorized past number (some hash) pauseCtx.oldSessionId).elim
        fun number authorized =>
          ⟨hash, number, binds.concat.congr id hashes, authorized.concat⟩
      rw [id, own, ← vehicle]
      rcases inv.cleared conn current (Nat.le_trans (by decide) passed) with
        authorized | ⟨-, hash', number, vehicle', -, authorized⟩
      · exact ⟨_, authorized⟩
      · exact ⟨number, vehicle' ▸ authorized⟩
    · refine earlier ?_
      rw [← shared, kept]
      cases pauseCtx
      cases old
      simp_all

end Fed

section Step

variable {platform : Platform} {past : List StationStep} {record : StationStep}

theorem AuthorizationInvariant.concat {station : Station}
    (inv : AuthorizationInvariant platform past station) (before : record.before = station) :
    AuthorizationInvariant platform (past ++ [record]) station where
  toOwnership := inv.toOwnership.concat before
  accepted conn self current state accepted := (inv.accepted conn self current state accepted).concat
  cleared conn current outside := (inv.cleared conn current outside).concat rfl rfl rfl
  saved pauseCtx saved charger := by
    obtain ⟨hash, number, binds, authorized⟩ := inv.saved pauseCtx saved charger
    exact ⟨hash, number, binds.concat, authorized.concat⟩

theorem authorizationInvariant_step (inv : AuthorizationInvariant platform past record.before)
    (sound : Assumptions platform (past ++ [record])) (owned : pauseOwned record = true)
    (effect : Effect platform record.before record.input record.after record.outputs) :
    AuthorizationInvariant platform (past ++ [record]) record.after := by
  have own := ownership_step inv.toOwnership sound effect
  have kept := @AuthorizationInvariant.concat platform past record _ inv rfl
  obtain ⟨before, input, outputs, after⟩ := record
  simp only at inv effect own kept ⊢
  cases effect with
  | skip => exact kept
  | connect vehicle config id =>
      refine ⟨own, ?_, ?_, kept.saved⟩
      · rintro conn self ⟨⟩ state
        cases state
      · rintro conn ⟨⟩ outside
        simp [State.id, StateId.rank] at outside
  | feed conn event asked current =>
      refine ⟨own, ?_, ?_, ?_⟩
      · intro conn' self' still state accepted
        obtain ⟨-, rfl⟩ := fed_current still
        exact inv.accepted_fed rfl asked current state accepted
      · intro conn' still outside
        exact inv.cleared_fed rfl current sound rfl rfl still outside
      · intro pauseCtx saved charger
        exact inv.saved_fed rfl asked current owned saved charger
  | disconnect => exact ⟨own, by simp, by simp, kept.saved⟩

/-- In a run where no session pauses with the pause context of another one, a machine gets behind
`Authorization` only when its connection is cleared. -/
theorem authorization_gate (platform : Platform) (inputs : List StationInput)
    (sound : Assumptions platform (run platform inputs))
    (owned : ∀ record ∈ run platform inputs, pauseOwned record = true) (conn : Connection)
    (current : (reached platform inputs).current = some conn)
    (outside : conn.fsm.state.id ∉
      [StateId.supportedAppProtocol, .sessionSetup, .authorizationSetup, .authorization]) :
    Cleared (run platform inputs) conn := by
  refine (Machine.run_invariant (act platform) {} (AuthorizationInvariant platform)
    (fun past => Assumptions platform past ∧ Machine.All (pauseOwned · = true) past) ?_ ?_ ?_
    inputs ⟨sound, owned⟩).cleared conn current (rank_of_outside outside)
  · exact fun past record ok => ⟨ok.1.shorter _ _, ok.2.shorter _ _⟩
  · exact ⟨ownership_initial platform, by simp, by simp, by simp⟩
  · intro past station input ok inv
    exact authorizationInvariant_step inv ok.1
      ok.2.last (act_effect platform station input)

end Step

open Sample in
/-- A vehicle is authorised, pauses and comes back. -/
theorem authorization_gate_joined :
    ∃ conn, (reached platform (returning ++ [join (sessionId 1)])).current = some conn ∧
      conn.fsm.state.id = .acChargeParameterDiscovery ∧
      Cleared (run platform (returning ++ [join (sessionId 1)])) conn := by
  have there : (reached platform (returning ++ [join (sessionId 1)])).current.map (·.fsm.state.id) =
      some .acChargeParameterDiscovery := by decide +kernel
  obtain ⟨conn, current, state⟩ := Option.map_eq_some_iff.mp there
  refine ⟨conn, current, state, authorization_gate platform _ returning_sound ?_ conn current ?_⟩
  · decide +kernel
  · simp [state]

open Sample in
/-- A vehicle with a certificate leaves after `SessionSetup`, another one without certificate pauses,
and the first one joins the session that it was never authorised for. -/
theorem authorization_gate_bypassed :
    ¬∀ (platform : Platform) (inputs : List StationInput),
      Assumptions platform (run platform inputs) → ∀ conn,
      (reached platform inputs).current = some conn →
      conn.fsm.state.id ∉
        [StateId.supportedAppProtocol, .sessionSetup, .authorizationSetup, .authorization] →
      Cleared (run platform inputs) conn := by
  intro gate
  have there : (reached platform (bypassed ++ [join (sessionId 1)])).current.map
      (fun conn => (conn.fsm.state.id, conn.vehicle)) =
        some (.acChargeParameterDiscovery, some (certHash 5)) := by decide +kernel
  obtain ⟨conn, current, state⟩ := Option.map_eq_some_iff.mp there
  obtain ⟨state, vehicle⟩ := Prod.mk.inj state
  have nobody : ∀ other ∈ (run platform (bypassed ++ [join (sessionId 1)])).filterMap authorizing?,
      other.vehicle = none := by
    decide +kernel
  rcases gate platform _ bypassed_sound conn current (by simp [state]) with
    ⟨other, member, -, same, -⟩ | ⟨-, hash, number, -, -, other, member, -, same, -⟩
  · simp [nobody other member, vehicle] at same
  · simp [nobody other member] at same

end Station

end LibIso15118
