import LibIso15118.Fsm.Run

set_option autoImplicit false

namespace LibIso15118

open Datatypes Shared

def Input.cableCheck? : Input → Option Bool
  | .control _ (.cableCheckFinished success) => some success
  | _ => none

/-- What the most recent `CableCheckFinished` event of these steps said. -/
def latestCableCheck (steps : List FsmStep) : Option Bool :=
  (steps.filterMap fun record => record.input.cableCheck?).getLast?

theorem latestCableCheck_concat (steps : List FsmStep) (record : FsmStep) :
    latestCableCheck (steps ++ [record]) = record.input.cableCheck?.or (latestCableCheck steps) := by
  cases told : record.input.cableCheck? <;> simp [latestCableCheck, List.filterMap_append, told]

namespace Fsm

def Signals (record : FsmStep) (signal : Signal) : Prop := .feedback (.signal signal) ∈ record.outputs

def Enters (record : FsmStep) (id : StateId) : Prop :=
  record.before.state.id ≠ id ∧ record.after.state.id = id

/-- A passed cable check since the last entry into `ScheduleExchange`: the stay in `DC_CableCheck`
that `leave` ends. -/
structure CableChecked (entered : List FsmStep) (leave : FsmStep) (after : List FsmStep) : Prop where
  left : leave.before.state.id = .dcCableCheck ∧ leave.after.state.id = .dcPreCharge
  finished : latestCableCheck (stay .dcCableCheck entered) = some true
  signalled : ∃ record ∈ stay .dcCableCheck entered ++ [leave], Signals record .startCableCheck
  answered : ∃ res, responses leave.outputs = [.dcCableCheck res] ∧ res.responseCode = .ok ∧
    res.processing = .finished
  scheduled : ∀ record ∈ stay .dcCableCheck entered ++ leave :: after, ¬Enters record .scheduleExchange

def Isolated (past : List FsmStep) : Prop :=
  ∃ entered leave after, past = entered ++ leave :: after ∧ CableChecked entered leave after

def PreCharged (past : List FsmStep) : Prop :=
  ∃ record ∈ past, record.before.state.id = .dcPreCharge ∧
    (∃ env req, record.input = .message env (.request (.dcPreCharge req))) ∧
    ∃ res, .dcPreCharge res ∈ responses record.outputs ∧ res.responseCode = .ok

/-- The states behind `DC_PreCharge`. -/
def Charging (fsm : Fsm) : Prop :=
  fsm.state.id = .powerDelivery ∧ fsm.ctx.session.isDcCharger = true ∨
    fsm.state.id = .dcChargeLoop ∨ fsm.state.id = .dcWeldingDetection

def Energised (fsm : Fsm) : Prop := fsm.state.id = .dcPreCharge ∨ fsm.Charging

section Steps

variable (platform : Platform) {fsm : Fsm} (idle : fsm.ctx.request = none) (input : Input)
include idle

theorem moved_by_message (elsewhere : fsm.state.id ≠ .powerDelivery)
    (moved : (step platform input fsm).state.state.id ≠ fsm.state.id) :
    ∃ env variant, input = .message env variant := by
  -- A machine outside `PowerDelivery` moves on only when a message comes in.
  by_contra quiet
  refine moved ((step_frame platform fsm input idle).quiet ?_).1
  rintro (message | ⟨env, event, -, self, req, closed, delivery, -⟩)
  · exact quiet message
  · exact elsewhere (by simp [delivery, State.id])

theorem scheduleExchange_powerDelivery (schedule : fsm.state.id = .scheduleExchange)
    (delivery : (step platform input fsm).state.state.id = .powerDelivery) :
    fsm.ctx.session.isAcCharger = true := by
  obtain ⟨env, variant, rfl⟩ := moved_by_message platform idle input (by simp [schedule])
    (by simp [schedule, delivery])
  have spec : Act.wp (step platform (.message env variant))
      (fun _ fsm' _ => fsm'.state.id = .powerDelivery → fsm.ctx.session.isAcCharger = true) fsm := by
    obtain ⟨self, state⟩ : ∃ self, fsm.state = .scheduleExchange self := by
      cases eq : fsm.state <;> simp_all [State.id]
    rw [wp_step_message platform env variant fsm idle, state]
    simp only [State.feed, State.ScheduleExchange.feed, Act.wp_bind,
      Feed.wp_pullRequest _ (messageContext_request fsm.ctx variant)]
    split
    · simp [Platform.stringsFit, settle, State.enter, State.id]
    · simp [wp_stopOnRequest, settle, State.id]
    · simp only [Act.wp_bind, Act.wp_pure]
      apply wp_stopOnSequenceError
      simp [settle, State.id]
  exact spec delivery

theorem preCharge_powerDelivery (preCharge : fsm.state.id = .dcPreCharge)
    (delivery : (step platform input fsm).state.state.id = .powerDelivery) :
    (∃ env req, input = .message env (.request (.dcPreCharge req))) ∧
      ∃ res, .dcPreCharge res ∈ responses (step platform input fsm).log ∧ res.responseCode = .ok := by
  obtain ⟨env, variant, rfl⟩ := moved_by_message platform idle input (by simp [preCharge])
    (by simp [preCharge, delivery])
  have spec : Act.wp (step platform (.message env variant))
      (fun _ fsm' log => fsm'.state.id = .powerDelivery →
        (∃ req, variant = .request (.dcPreCharge req)) ∧
          ∃ res, .dcPreCharge res ∈ responses log ∧ res.responseCode = .ok) fsm := by
    obtain ⟨self, state⟩ : ∃ self, fsm.state = .dcPreCharge self := by
      cases eq : fsm.state <;> simp_all [State.id]
    rw [wp_step_message platform env variant fsm idle, state]
    simp only [State.feed, State.DcPreCharge.feed, Act.wp_bind,
      Feed.wp_pullRequest _ (messageContext_request fsm.ctx variant)]
    split
    · rename_i req
      by_cases own : fsm.ctx.session.id = req.header.sessionId <;>
        simp [Platform.stringsFit, settle, State.enter, State.id, handleDcPreCharge, validateHeader,
          own, Output.response?, mem_responses]
    · simp [wp_stopOnRequest, settle, State.id]
    · simp only [Act.wp_bind, Act.wp_pure]
      apply wp_stopOnSequenceError
      simp [settle, State.id]
  obtain ⟨⟨req, rfl⟩, answered⟩ := spec delivery
  exact ⟨⟨env, req, rfl⟩, answered⟩

omit idle

inductive CableCheckStep (self : State.DcCableCheck) (input : Input) : Fsm → List Output → Prop
  | stay (fsm' : Fsm) (log : List Output) (self' : State.DcCableCheck)
      (state : fsm'.state = .dcCableCheck self')
      (done : self'.cableCheckDone = input.cableCheck?.getD self.cableCheckDone)
      (initiated : self'.cableCheckInitiated = true → self.cableCheckInitiated = true ∨
        .feedback (.signal .startCableCheck) ∈ log) :
      CableCheckStep self input fsm' log
  | leave (fsm' : Fsm) (log : List Output) (state : fsm'.state.id = .dcPreCharge)
      (done : self.cableCheckDone = true)
      (initiated : self.cableCheckInitiated = true ∨ .feedback (.signal .startCableCheck) ∈ log)
      (answered : ∃ res, responses log = [.dcCableCheck res] ∧ res.responseCode = .ok ∧
        res.processing = .finished) :
      CableCheckStep self input fsm' log

theorem cableCheck_message {self : State.DcCableCheck} (state : fsm.state = .dcCableCheck self)
    (idle : fsm.ctx.request = none) (env : Env) (variant : Variant) :
    Act.wp (step platform (.message env variant))
      (fun _ fsm' log => CableCheckStep self (.message env variant) fsm' log) fsm := by
  rw [wp_step_message platform env variant fsm idle, state]
  simp only [State.feed, State.DcCableCheck.feed, Act.wp_bind,
    Feed.wp_pullRequest _ (messageContext_request fsm.ctx variant)]
  split
  · rename_i req
    obtain ⟨initiated, done⟩ := self
    by_cases own : fsm.ctx.session.id = req.header.sessionId
    · cases done
      · cases initiated <;>
          simp [handleDcCableCheck, validateHeader, own, Platform.stringsFit, settle] <;>
          exact .stay _ _ { cableCheckInitiated := true } rfl rfl (by simp)
      · cases initiated <;>
          simp [handleDcCableCheck, validateHeader, own, Platform.stringsFit, settle] <;>
          exact .leave _ _ rfl rfl (by simp) ⟨_, rfl, rfl, rfl⟩
    · cases initiated <;>
        simp [handleDcCableCheck, validateHeader, own, Platform.stringsFit, settle] <;>
        exact .stay _ _ { cableCheckInitiated := true, cableCheckDone := done } rfl rfl (by simp)
  · simp only [Act.wp_bind, wp_stopOnRequest, Act.wp_pure]
    exact .stay _ _ self rfl rfl .inl
  · simp only [Act.wp_bind, Act.wp_pure]
    apply wp_stopOnSequenceError
    intro pending log _
    exact .stay _ _ self rfl rfl .inl

theorem cableCheck_step {self : State.DcCableCheck} (state : fsm.state = .dcCableCheck self)
    (idle : fsm.ctx.request = none) (input : Input) :
    CableCheckStep self input (step platform input fsm).state (step platform input fsm).log := by
  cases input with
  | control env event =>
      refine wp_step_control_quiet platform env event fsm ?_
        (fun _ fsm' log => CableCheckStep self (.control env event) fsm' log) ?_
      · rintro ⟨_, _, _, delivery, -⟩
        simp [state] at delivery
      · rintro timeouts -
        rw [state]
        cases event
        case cableCheckFinished success =>
          exact .stay _ _ { self with cableCheckDone := success } rfl rfl .inl
        all_goals exact .stay _ _ self rfl rfl .inl
  | message env variant => exact cableCheck_message platform state idle env variant
  | timeout env type =>
      apply wp_step_timeout platform env type fsm
        (fun _ fsm' log => CableCheckStep self (.timeout env type) fsm' log)
      intro pending log _
      exact .stay _ _ self (by rw [state]; rfl) rfl .inl
  | _ => exact .stay _ _ self state rfl .inl

end Steps

theorem stay_before {id : StateId} {past : List FsmStep} {record : FsmStep}
    (member : record ∈ stay id past) : record.before.state.id = id := by
  simpa using List.mem_rtakeWhile_imp member

theorem Isolated.concat {past : List FsmStep} (isolated : Isolated past) {record : FsmStep}
    (elsewhere : record.after.state.id ≠ .scheduleExchange) : Isolated (past ++ [record]) := by
  obtain ⟨entered, leave, after, rfl, checked⟩ := isolated
  refine ⟨entered, leave, after ++ [record], by simp, { checked with scheduled := ?_ }⟩
  intro other member
  rw [← List.cons_append, ← List.append_assoc, List.mem_append, List.mem_singleton] at member
  rcases member with before | rfl
  · exact checked.scheduled other before
  · exact fun enters => elsewhere enters.2

theorem PreCharged.concat {past : List FsmStep} (preCharged : PreCharged past) (record : FsmStep) :
    PreCharged (past ++ [record]) := by
  obtain ⟨request, member, answered⟩ := preCharged
  exact ⟨request, List.mem_append_left _ member, answered⟩

section Invariant

variable (platform : Platform) {past : List FsmStep} {fsm : Fsm} {input : Input}

structure IsolationInvariant (past : List FsmStep) (fsm : Fsm) : Prop where
  idle : fsm.ctx.request = none
  frames : ∀ record ∈ past, StepFrame record.before record.input record.after
  done : ∀ self, fsm.state = .dcCableCheck self → self.cableCheckDone = true →
    latestCableCheck (stay .dcCableCheck past) = some true
  initiated : ∀ self, fsm.state = .dcCableCheck self → self.cableCheckInitiated = true →
    ∃ record ∈ stay .dcCableCheck past, Signals record .startCableCheck
  isolated : fsm.Energised → Isolated past
  preCharged : fsm.Charging → PreCharged past

theorem cableCheck_invariant_step (inv : IsolationInvariant past fsm) (self' : State.DcCableCheck)
    (now : (step platform input fsm).state.state = .dcCableCheck self') :
    (self'.cableCheckDone = true →
      latestCableCheck (stay .dcCableCheck (past ++ [Machine.stepOf (step platform) fsm input])) =
        some true) ∧
    (self'.cableCheckInitiated = true →
      ∃ record ∈ stay .dcCableCheck (past ++ [Machine.stepOf (step platform) fsm input]),
        Signals record .startCableCheck) := by
  rcases (step_frame platform fsm input inv.idle).next with same | ⟨next, -, created⟩
  · obtain ⟨self, state⟩ : ∃ self, fsm.state = .dcCableCheck self := by
      rw [now] at same
      cases eq : fsm.state <;> simp_all [State.id]
    rw [stay_concat, if_pos (by simp [state, State.id]), latestCableCheck_concat]
    cases cableCheck_step platform state inv.idle input with
    | stay self'' after done initiated =>
        obtain rfl : self' = self'' := by simpa [now] using after
        constructor
        · intro isDone
          cases told : input.cableCheck? with
          | none => simpa [told] using inv.done self state (by simpa [told, done] using isDone)
          | some success =>
              obtain rfl : success = true := by simpa [told, done] using isDone
              simp [told]
        · intro isInitiated
          rcases initiated isInitiated with before | signalled
          · obtain ⟨record, member, signals⟩ := inv.initiated self state before
            exact ⟨record, List.mem_append_left _ member, signals⟩
          · exact ⟨_, List.mem_append_right _ (List.mem_singleton_self _), signalled⟩
    | leave after => simp [now, State.id] at after
  · rw [created] at now
    obtain rfl : self' = {} := by
      cases next <;> simp [StateId.create, State.enter] at now
      exact now.symm
    simp

theorem isolated_of_leave (inv : IsolationInvariant past fsm)
    (checking : fsm.state.id = .dcCableCheck)
    (left : (step platform input fsm).state.state.id = .dcPreCharge) :
    Isolated (past ++ [Machine.stepOf (step platform) fsm input]) := by
  obtain ⟨self, state⟩ : ∃ self, fsm.state = .dcCableCheck self := by
    cases eq : fsm.state <;> simp_all [State.id]
  cases cableCheck_step platform state inv.idle input with
  | stay self' after => simp [after, State.id] at left
  | leave after done initiated answered =>
      refine ⟨past, _, [], rfl, ⟨checking, left⟩, inv.done self state done, ?_, answered, ?_⟩
      · rcases initiated with before | signalled
        · obtain ⟨record, member, signals⟩ := inv.initiated self state before
          exact ⟨record, List.mem_append_left _ member, signals⟩
        · exact ⟨_, List.mem_append_right _ (List.mem_singleton_self _), signalled⟩
      · intro record member enters
        rcases List.mem_append.mp member with stayed | last
        · have frame := inv.frames record (List.IsSuffix.subset (List.rtakeWhile_suffix _ _) stayed)
          have next := frame.entered enters.1 enters.2
          rw [stay_before stayed] at next
          simp [StateId.successors] at next
        · rw [List.mem_singleton.mp last] at enters
          simp [Enters, left] at enters

theorem charging_before (idle : fsm.ctx.request = none)
    (charging : (step platform input fsm).state.Charging) :
    fsm.Charging ∨
      fsm.state.id = .dcPreCharge ∧ (step platform input fsm).state.state.id = .powerDelivery := by
  have frame := step_frame platform fsm input idle
  rcases charging with ⟨delivery, dc⟩ | loop | welding
  · by_cases inside : fsm.state.id = .powerDelivery
    · rw [Session.isDcCharger_congr (frame.selected (by simp [inside]) (by simp [inside]))] at dc
      exact .inl (.inl ⟨inside, dc⟩)
    · rcases StateId.before_powerDelivery (frame.entered inside delivery) with schedule | preCharge
      · have ac := scheduleExchange_powerDelivery platform idle input schedule delivery
        rw [Session.isDcCharger_congr (frame.selected (by simp [schedule]) (by simp [schedule])),
          Session.not_dc_of_ac ac] at dc
        exact absurd dc (by simp)
      · exact .inr ⟨preCharge, delivery⟩
  · by_cases inside : fsm.state.id = .dcChargeLoop
    · exact .inl (.inr (.inl inside))
    · have delivery := StateId.before_dcChargeLoop (frame.entered inside loop)
      obtain ⟨self, state⟩ := State.eq_powerDelivery delivery
      cases powerDelivery_step platform state idle input with
      | stay self' after => simp [after, State.id] at loop
      | answered env req message own ready answer kind after =>
          refine .inl (.inl ⟨delivery, kind ?_⟩)
          by_contra ac
          simp [loop, ac] at after
      | resumed env closed req event saved own answer after => simp [loop] at after
  · by_cases inside : fsm.state.id = .dcWeldingDetection
    · exact .inl (.inr (.inr inside))
    · exact .inl (.inr (.inl (StateId.before_dcWeldingDetection (frame.entered inside welding))))

theorem Energised.not_scheduleExchange (energised : fsm.Energised) :
    fsm.state.id ≠ .scheduleExchange := by
  rcases energised with state | ⟨state, -⟩ | state | state <;> simp [state]

theorem isolationInvariant_step (inv : IsolationInvariant past fsm) :
    IsolationInvariant (past ++ [Machine.stepOf (step platform) fsm input])
      (step platform input fsm).state := by
  have frame := step_frame platform fsm input inv.idle
  have checking := @cableCheck_invariant_step platform past fsm input inv
  refine ⟨frame.idle, ?_, fun self now => (checking self now).1, fun self now => (checking self now).2,
    ?_, ?_⟩
  · intro record member
    rcases List.mem_append.mp member with before | last
    · exact inv.frames record before
    · rw [List.mem_singleton.mp last]
      exact frame
  · intro energised
    have concat := fun before => @Isolated.concat past (inv.isolated before)
      (Machine.stepOf (step platform) fsm input) (Energised.not_scheduleExchange energised)
    rcases energised with preCharge | charging
    · by_cases inside : fsm.state.id = .dcPreCharge
      · exact concat (.inl inside)
      · exact isolated_of_leave platform inv
          (StateId.before_dcPreCharge (frame.entered inside preCharge)) preCharge
    · rcases charging_before platform inv.idle charging with before | ⟨preCharge, -⟩
      · exact concat (.inr before)
      · exact concat (.inl preCharge)
  · intro charging
    rcases charging_before platform inv.idle charging with before | ⟨preCharge, delivery⟩
    · exact (inv.preCharged before).concat _
    · obtain ⟨message, answered⟩ := preCharge_powerDelivery platform inv.idle input preCharge delivery
      exact ⟨_, List.mem_append_right _ (List.mem_singleton_self _), preCharge, message, answered⟩

end Invariant

/-- Whenever the DC output may be energised, the cable check has been passed since the schedule was
exchanged, and `DC_ChargeLoop` comes after an answered `DC_PreChargeReq`. -/
theorem isolation_gate (platform : Platform) (config : SessionConfig) (pauseCtx : Option PauseContext)
    (id : SessionId) (inputs : List Input) :
    ((reached platform config pauseCtx id inputs).Energised →
      Isolated (run platform config pauseCtx id inputs)) ∧
    ((reached platform config pauseCtx id inputs).state.id = .dcChargeLoop →
      PreCharged (run platform config pauseCtx id inputs)) := by
  have inv : IsolationInvariant (run platform config pauseCtx id inputs)
      (reached platform config pauseCtx id inputs) := by
    refine Machine.run_induction (step platform) (Fsm.new config pauseCtx id)
      (motive := IsolationInvariant) ?_ (fun past fsm input => isolationInvariant_step platform) inputs
    exact ⟨rfl, by simp, by simp, by simp, by simp [Energised, Charging, State.id],
      by simp [Charging, State.id]⟩
  exact ⟨inv.isolated, fun loop => inv.preCharged (.inr (.inl loop))⟩

open Sample in
theorem isolation_gate_dc :
    (reached platform config none (sessionId 9)
        (reachDcPowerDelivery (sessionId 1) ++ [deliver (sessionId 1) .start])).state.id = .dcChargeLoop ∧
      Isolated (run platform config none (sessionId 9)
        (reachDcPowerDelivery (sessionId 1) ++ [deliver (sessionId 1) .start])) ∧
      PreCharged (run platform config none (sessionId 9)
        (reachDcPowerDelivery (sessionId 1) ++ [deliver (sessionId 1) .start])) := by
  have loop : (reached platform config none (sessionId 9)
      (reachDcPowerDelivery (sessionId 1) ++ [deliver (sessionId 1) .start])).state.id = .dcChargeLoop := by
    decide +kernel
  have gate := isolation_gate platform config none (sessionId 9)
    (reachDcPowerDelivery (sessionId 1) ++ [deliver (sessionId 1) .start])
  exact ⟨loop, gate.1 (.inr (.inr (.inl loop))), gate.2 loop⟩

end Fsm

end LibIso15118
