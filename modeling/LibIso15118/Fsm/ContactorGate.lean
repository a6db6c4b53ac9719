import LibIso15118.Fsm.Run

set_option autoImplicit false

namespace LibIso15118

open Datatypes Shared

def Input.contactor? : Input → Option Bool
  | .control _ (.closedContactor closed) => some closed
  | _ => none

/-- What the most recent `ClosedContactor` event of these steps said. -/
def latestContactor (steps : List FsmStep) : Option Bool :=
  (steps.filterMap fun record => record.input.contactor?).getLast?

namespace Fsm

/-- The gate in front of `AC_ChargeLoop`, at one step of an AC session and the steps before it. -/
structure ContactorGate (past : List FsmStep) (record : FsmStep) : Prop where
  entry : record.before.state.id ≠ .acChargeLoop → record.after.state.id = .acChargeLoop →
    latestContactor (stay .powerDelivery (past ++ [record])) = some true
  opened : record.input.contactor? = some false →
    record.after.state.id = record.before.state.id ∧
      record.after.ctx.timeouts.deadline .contactor = record.before.ctx.timeouts.deadline .contactor
  start : ∀ env req res, record.before.state.id = .powerDelivery →
    record.input = .message env (.request (.powerDelivery req)) → req.chargeProgress = .start →
    .powerDelivery res ∈ responses record.outputs → res.responseCode.isFailed = false →
    latestContactor (stay .powerDelivery past) = some true

/-- A step of an AC session that `PowerDelivery` treats as the gate wants: no event says that the
contactor is open, and no own request with another progress than `Start` comes before the closed
one. -/
def contactorSound (record : FsmStep) : Bool :=
  match record.before.state, record.input with
  | .powerDelivery _, .control _ (.closedContactor closed) => closed
  | .powerDelivery self, .message _ (.request (.powerDelivery req)) =>
      decide (record.before.ctx.session.id ≠ req.header.sessionId) ||
        decide (req.chargeProgress = .start) || self.acConnectorClosed
  | _, _ => true

section Invariant

variable (platform : Platform)

structure ContactorInvariant (past : List FsmStep) (fsm : Fsm) : Prop where
  idle : fsm.ctx.request = none
  closed : ∀ self, fsm.state = .powerDelivery self → fsm.ctx.session.isAcCharger = true →
    self.acConnectorClosed = true → latestContactor (stay .powerDelivery past) = some true

theorem latestContactor_concat (steps : List FsmStep) (record : FsmStep) :
    latestContactor (steps ++ [record]) = record.input.contactor?.or (latestContactor steps) := by
  cases reported : record.input.contactor? <;>
    simp [latestContactor, List.filterMap_append, reported]

theorem contactorSound_closed {record : FsmStep} (sound : contactorSound record = true)
    (delivery : record.before.state.id = .powerDelivery) : record.input.contactor? ≠ some false := by
  obtain ⟨self, state⟩ := State.eq_powerDelivery delivery
  intro reported
  rw [contactorSound, state] at sound
  unfold Input.contactor? at reported
  split at reported <;> simp_all

variable {past : List FsmStep} {fsm : Fsm} {input : Input}

theorem contactorInvariant_step (inv : ContactorInvariant past fsm)
    (sound : fsm.ctx.session.isAcCharger = true →
      contactorSound (Machine.stepOf (step platform) fsm input) = true) :
    ContactorInvariant (past ++ [Machine.stepOf (step platform) fsm input])
      (step platform input fsm).state := by
  have frame := step_frame platform fsm input inv.idle
  refine ⟨frame.idle, ?_⟩
  intro self' now ac closed
  rcases frame.next with same | ⟨next, -, entered⟩
  · obtain ⟨self, delivery⟩ := @State.eq_powerDelivery fsm.state (by rw [← same, now]; rfl)
    have ac' : fsm.ctx.session.isAcCharger = true := by
      rw [← ac]
      exact (Session.isAcCharger_congr (frame.selected (by simp [delivery, State.id])
        (by simp [delivery, State.id]))).symm
    rw [stay_concat, if_pos (by simp [delivery, State.id]), latestContactor_concat]
    have reported : input.contactor? ≠ some false :=
      contactorSound_closed (sound ac') (by simp [delivery, State.id])
    cases powerDelivery_step platform delivery inv.idle input with
    | stay self'' state hyp =>
        obtain rfl : self' = self'' := by simpa [now] using state
        rcases hyp closed with before | ⟨env, closed, rfl⟩
        · cases told : input.contactor? with
          | none => simpa [told] using inv.closed self delivery ac' before
          | some closed => cases closed <;> simp_all
        · cases closed <;> simp_all [Input.contactor?]
    | answered env req message own ready answer kind state => simp [now, State.id, ac'] at state
    | resumed env closed req event saved own answer state => simp [now, State.id] at state
  · rw [entered] at now
    obtain rfl : self' = {} := State.created_powerDelivery now
    exact absurd closed (by simp)

theorem contactorGate_step (inv : ContactorInvariant past fsm)
    (sound : fsm.ctx.session.isAcCharger = true →
      contactorSound (Machine.stepOf (step platform) fsm input) = true)
    (ac : fsm.ctx.session.isAcCharger = true) :
    ContactorGate past (Machine.stepOf (step platform) fsm input) := by
  have frame := step_frame platform fsm input inv.idle
  specialize sound ac
  refine ⟨?_, ?_, ?_⟩
  · intro outside inside
    have delivery : fsm.state.id = .powerDelivery :=
      StateId.before_acChargeLoop (frame.entered outside inside)
    obtain ⟨self, state⟩ := State.eq_powerDelivery delivery
    rw [stay_concat, if_pos (by simpa using delivery), latestContactor_concat]
    cases powerDelivery_step platform state inv.idle input with
    | stay self' after => simp [after, State.id] at inside
    | answered env req message own ready =>
        obtain rfl := message
        suffices closed : self.acConnectorClosed = true by
          simpa [Input.contactor?] using inv.closed self state ac closed
        by_contra opened
        rw [Bool.not_eq_true] at opened
        simp [contactorSound, state, own, opened, ready ac opened] at sound
    | resumed env closed req event saved own =>
        obtain rfl := event
        have reported := contactorSound_closed sound delivery
        cases closed <;> simp_all [Input.contactor?]
  · intro reported
    have elsewhere : fsm.state.id ≠ .powerDelivery := fun delivery =>
      contactorSound_closed sound delivery reported
    cases input with
    | control env event =>
        refine wp_step_control_quiet platform env event fsm ?_ (fun _ fsm' _ =>
          fsm'.state.id = fsm.state.id ∧
            fsm'.ctx.timeouts.deadline .contactor = fsm.ctx.timeouts.deadline .contactor) ?_
        · rintro ⟨self, req, closed, state, -⟩
          exact elsewhere (by simp [state, State.id])
        · rintro timeouts (rfl | ⟨delivery, -⟩)
          · simp
          · exact absurd delivery elsewhere
    | _ => simp [Input.contactor?] at reported
  · intro env req res delivery message start answered accepted
    obtain ⟨self, state⟩ := State.eq_powerDelivery delivery
    obtain rfl : input = _ := message
    cases powerDelivery_step platform state inv.idle
        (.message env (.request (.powerDelivery req))) with
    | stay self' _ _ _ refused => exact absurd (refused ac res answered) (by simp [accepted])
    | answered env' req' message own ready =>
        cases message
        refine inv.closed self state ac ?_
        by_contra opened
        exact ready ac (by simpa using opened) start
    | resumed env' closed req' event => cases event

end Invariant

/-- In a run where every step in an AC session is sound, every step in an AC session keeps the gate. -/
theorem contactor_gate (platform : Platform) (config : SessionConfig) (pauseCtx : Option PauseContext)
    (id : SessionId) (inputs : List Input)
    (sound : ∀ record ∈ run platform config pauseCtx id inputs,
      record.before.ctx.session.isAcCharger = true → contactorSound record = true)
    (past future : List FsmStep) (record : FsmStep)
    (split : run platform config pauseCtx id inputs = past ++ record :: future)
    (ac : record.before.ctx.session.isAcCharger = true) : ContactorGate past record := by
  refine Machine.run_always (step platform) (Fsm.new config pauseCtx id) ContactorInvariant
    (Machine.All fun record =>
      record.before.ctx.session.isAcCharger = true → contactorSound record = true)
    (fun past record => record.before.ctx.session.isAcCharger = true → ContactorGate past record)
    Machine.All.shorter ⟨rfl, by simp⟩ ?_ ?_ inputs sound split ac
  · intro past fsm input sound inv
    exact contactorInvariant_step platform inv sound.last
  · intro past fsm input sound inv ac
    exact contactorGate_step platform inv sound.last ac

open Sample in
theorem contactor_gate_closed :
    ContactorGate (run platform config none (sessionId 9)
        (reachPowerDelivery (sessionId 1) ++ [deliver (sessionId 1) .start]))
      (Machine.stepOf (step platform) (reached platform config none (sessionId 9)
        (reachPowerDelivery (sessionId 1) ++ [deliver (sessionId 1) .start]))
        (.control {} (.closedContactor true))) :=
  contactor_gate platform config none (sessionId 9)
    (reachPowerDelivery (sessionId 1) ++ [deliver (sessionId 1) .start] ++
      [.control {} (.closedContactor true)])
    (by decide +kernel) _ [] _ (run_concat _ _ _ _ _ _) (by decide +kernel)

open Sample in
/-- The contactor reports that it is open, and the deferred request is answered all the same. -/
theorem contactor_gate_opened :
    ¬∀ (platform : Platform) (config : SessionConfig) (pauseCtx : Option PauseContext) (id : SessionId)
      (inputs : List Input) (past future : List FsmStep) (record : FsmStep),
      run platform config pauseCtx id inputs = past ++ record :: future →
      record.before.ctx.session.isAcCharger = true → ContactorGate past record := by
  intro gate
  have opened := gate platform config none (sessionId 9)
    (reachPowerDelivery (sessionId 1) ++ [deliver (sessionId 1) .start] ++
      [.control {} (.closedContactor false)]) _ [] _ (run_concat _ _ _ _ _ _) (by decide +kernel)
  have entered := opened.entry (by decide +kernel) (by decide +kernel)
  rw [← run_concat] at entered
  exact absurd entered (by decide +kernel)

end Fsm

end LibIso15118
