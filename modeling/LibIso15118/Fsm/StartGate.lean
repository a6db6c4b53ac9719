import LibIso15118.Fsm.Run

set_option autoImplicit false

namespace LibIso15118

open Datatypes Shared

theorem StateId.before_chargeLoop {id loop : StateId} (next : loop ∈ id.successors)
    (isLoop : loop.isChargeLoop = true) : id = .powerDelivery := by
  cases loop <;> simp [StateId.isChargeLoop] at isLoop
  · exact StateId.before_acChargeLoop next
  · exact StateId.before_dcChargeLoop next

namespace Fsm

def Carries (record : FsmStep) (req : PowerDeliveryRequest) : Prop :=
  ∃ env, record.input = .message env (.request (.powerDelivery req))

/-- The gate in front of both charge loops, at one step and the steps before it. -/
structure StartGate (past : List FsmStep) (record : FsmStep) : Prop where
  entry : record.before.state.id.isChargeLoop = false → record.after.state.id.isChargeLoop = true →
    ∃ req res, (∃ request ∈ stay .powerDelivery (past ++ [record]), Carries request req) ∧
      req.chargeProgress = .start ∧ req.header.sessionId = record.before.ctx.session.id ∧
      responses record.outputs = [.powerDelivery res] ∧ res.responseCode = .ok
  other : ∀ req, record.before.state.id = .powerDelivery → Carries record req →
    req.chargeProgress ≠ .start → record.after.state.id.isChargeLoop = false
  warned : ∀ res, record.before.state.id = .powerDelivery →
    .powerDelivery res ∈ responses record.outputs → res.responseCode ≠ .ok →
    record.after.state.id.isChargeLoop = false

/-- A step that does not ask `PowerDelivery` for another progress than `Start`. -/
def startSound (record : FsmStep) : Bool :=
  match record.before.state, record.input with
  | .powerDelivery _, .message _ (.request (.powerDelivery req)) =>
      decide (record.before.ctx.session.id ≠ req.header.sessionId) ||
        decide (req.chargeProgress = .start)
  | _, _ => true

section Invariant

variable (platform : Platform) {past : List FsmStep} {fsm : Fsm} {input : Input}

/-- A saved request asked for `Start` and came in during this stay. -/
structure StartInvariant (past : List FsmStep) (fsm : Fsm) : Prop where
  idle : fsm.ctx.request = none
  saved : ∀ self req, fsm.state = .powerDelivery self → self.previousReq = some req →
    req.chargeProgress = .start ∧ ∃ request ∈ stay .powerDelivery past, Carries request req

theorem startInvariant_step (inv : StartInvariant past fsm) :
    StartInvariant (past ++ [Machine.stepOf (step platform) fsm input])
      (step platform input fsm).state := by
  have frame := step_frame platform fsm input inv.idle
  refine ⟨frame.idle, ?_⟩
  intro self' req now previous
  rcases frame.next with same | ⟨next, -, entered⟩
  · obtain ⟨self, delivery⟩ := @State.eq_powerDelivery fsm.state (by rw [← same, now]; rfl)
    rw [stay_concat, if_pos (by simp [delivery, State.id])]
    cases powerDelivery_step platform delivery inv.idle input with
    | stay self'' state _ saved =>
        obtain rfl : self' = self'' := by simpa [now] using state
        rcases saved req previous with before | ⟨message, start, -⟩
        · obtain ⟨start, request, member, carries⟩ := inv.saved self req delivery before
          exact ⟨start, request, List.mem_append_left _ member, carries⟩
        · exact ⟨start, _, List.mem_append_right _ (List.mem_singleton_self _), message⟩
    | answered env req message own ready answer kind state =>
        cases ac : fsm.ctx.session.isAcCharger <;> simp [now, State.id, ac] at state
    | resumed env closed req event saved own answer state => simp [now, State.id] at state
  · rw [entered] at now
    obtain rfl : self' = {} := State.created_powerDelivery now
    exact absurd previous (by simp)

theorem startGate_step (inv : StartInvariant past fsm)
    (sound : startSound (Machine.stepOf (step platform) fsm input) = true) :
    StartGate past (Machine.stepOf (step platform) fsm input) := by
  have frame := step_frame platform fsm input inv.idle
  have entry : fsm.state.id.isChargeLoop = false →
      (step platform input fsm).state.state.id.isChargeLoop = true →
      ∃ req res, (∃ request ∈ stay .powerDelivery (past ++ [Machine.stepOf (step platform) fsm input]),
          Carries request req) ∧
        req.chargeProgress = .start ∧ req.header.sessionId = fsm.ctx.session.id ∧
        responses (step platform input fsm).log = [.powerDelivery res] ∧ res.responseCode = .ok := by
    intro outside inside
    have delivery : fsm.state.id = .powerDelivery := by
      refine StateId.before_chargeLoop (frame.entered ?_ rfl) inside
      intro same
      simp_all
    obtain ⟨self, state⟩ := @State.eq_powerDelivery fsm.state delivery
    rw [stay_concat, if_pos (by simpa using delivery)]
    cases powerDelivery_step platform state inv.idle input with
    | stay self' after => simp [after, State.id, StateId.isChargeLoop] at inside
    | answered env req message own ready answer =>
        obtain rfl := message
        have start : req.chargeProgress = .start := by simpa [startSound, state, own] using sound
        exact ⟨req, _, ⟨_, List.mem_append_right _ (List.mem_singleton_self _), env, rfl⟩, start,
          own.symm, answer, handlePowerDelivery_ok own start⟩
    | resumed env closed req event saved own answer =>
        obtain ⟨start, request, member, carries⟩ := inv.saved self req state saved
        exact ⟨req, _, ⟨request, List.mem_append_left _ member, carries⟩, start, own.symm, answer,
          handlePowerDelivery_ok own start⟩
  refine ⟨entry, ?_, ?_⟩
  · rintro req delivery ⟨env, message⟩ other
    obtain ⟨self, state⟩ := @State.eq_powerDelivery fsm.state delivery
    obtain rfl : input = _ := message
    cases powerDelivery_step platform state inv.idle
        (.message env (.request (.powerDelivery req))) with
    | stay self' after => rw [Machine.stepOf_after, after]; rfl
    | answered env' req' message own =>
        cases message
        simp [startSound, state, own, other] at sound
    | resumed env' closed req' event => cases event
  · intro res delivery answered warned
    by_contra inside
    obtain ⟨_, res', -, -, -, answer, ok⟩ :=
      entry (by simp_all [StateId.isChargeLoop]) (by simpa using inside)
    obtain rfl : res = res' := by simpa [answer] using answered
    exact warned ok

end Invariant

/-- In a run that asks `PowerDelivery` for nothing but `Start`, every step keeps the gate. -/
theorem start_gate (platform : Platform) (config : SessionConfig) (pauseCtx : Option PauseContext)
    (id : SessionId) (inputs : List Input)
    (sound : ∀ record ∈ run platform config pauseCtx id inputs, startSound record = true)
    (past future : List FsmStep) (record : FsmStep)
    (split : run platform config pauseCtx id inputs = past ++ record :: future) :
    StartGate past record := by
  refine Machine.run_always (step platform) (Fsm.new config pauseCtx id) StartInvariant
    (Machine.All fun record => startSound record = true) StartGate Machine.All.shorter ⟨rfl, by simp⟩ ?_ ?_
    inputs sound split
  · intro past fsm input _ inv
    exact startInvariant_step platform inv
  · intro past fsm input sound inv
    exact startGate_step platform inv sound.last

open Sample in
theorem start_gate_deferred :
    StartGate (run platform config none (sessionId 9)
        (reachPowerDelivery (sessionId 1) ++ [deliver (sessionId 1) .start]))
      (Machine.stepOf (step platform) (reached platform config none (sessionId 9)
        (reachPowerDelivery (sessionId 1) ++ [deliver (sessionId 1) .start]))
        (.control {} (.closedContactor true))) :=
  start_gate platform config none (sessionId 9)
    (reachPowerDelivery (sessionId 1) ++ [deliver (sessionId 1) .start] ++
      [.control {} (.closedContactor true)])
    (by decide +kernel) _ [] _ (run_concat _ _ _ _ _ _)

open Sample in
/-- `PowerDeliveryReq(Stop)` enters `AC_ChargeLoop`. -/
theorem start_gate_stop :
    ¬∀ (platform : Platform) (config : SessionConfig) (pauseCtx : Option PauseContext) (id : SessionId)
      (inputs : List Input) (past future : List FsmStep) (record : FsmStep),
      run platform config pauseCtx id inputs = past ++ record :: future → StartGate past record := by
  intro gate
  have stopped := gate platform config none (sessionId 9)
    (reachPowerDelivery (sessionId 1) ++ [deliver (sessionId 1) .stop]) _ [] _ (run_concat _ _ _ _ _ _)
  have outside := stopped.other _ (by decide +kernel) ⟨_, rfl⟩ (by decide)
  exact absurd outside (by decide +kernel)

end Fsm

end LibIso15118
