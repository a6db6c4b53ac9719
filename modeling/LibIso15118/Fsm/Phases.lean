import LibIso15118.Fsm.EnergyService
import LibIso15118.Fsm.Failures
import LibIso15118.Fsm.IsolationGate

set_option autoImplicit false

namespace LibIso15118

open Datatypes Shared

def StateId.isAc : StateId → Bool
  | .acChargeParameterDiscovery | .acChargeLoop => true
  | _ => false

def StateId.isDc : StateId → Bool
  | .dcChargeParameterDiscovery | .dcCableCheck | .dcPreCharge | .dcChargeLoop
  | .dcWeldingDetection => true
  | _ => false

theorem StateId.fits_of_rank {id : StateId} (early : id.rank < 7) (session : Session) :
    id.fits session = true := by
  cases id <;> first | rfl | exact absurd early (by decide)

theorem StateId.fits_of_isAc {id : StateId} (ac : id.isAc = true) (session : Session) :
    id.fits session = session.isAcCharger := by
  cases id <;> simp [StateId.isAc] at ac <;> rfl

theorem StateId.fits_of_isDc {id : StateId} (dc : id.isDc = true) (session : Session) :
    id.fits session = session.isDcCharger := by
  cases id <;> simp [StateId.isDc] at dc <;> rfl

def oneShots : List Signal :=
  [.startCableCheck, .preChargeStarted, .chargeLoopFinished, .acOpenContactor, .dcOpenContactor]

def loopSignals : List Signal := [.chargeLoopFinished, .acOpenContactor, .dcOpenContactor]

/-- The charge loops that send a signal of `loopSignals`. -/
def Signal.loops : Signal → List StateId
  | .chargeLoopFinished => [.acChargeLoop, .dcChargeLoop]
  | .acOpenContactor => [.acChargeLoop]
  | .dcOpenContactor => [.dcChargeLoop]
  | _ => []

def Input.signals (input : Input) (state : State) : List Signal :=
  match input with
  | .message _ (.request req) => if state.id.accepts req then state.signals req else []
  | _ => []

def Signal.rank : Signal → Nat
  | .startCableCheck => 9
  | .preChargeStarted => 10
  | _ => 12

def State.acted : State → Bool
  | .dcCableCheck self => self.cableCheckInitiated
  | .dcPreCharge self => self.preChargeInitiated
  | _ => false

def State.spent (state : State) (s : Signal) : Bool :=
  s.rank < state.id.rank || s.rank = state.id.rank && state.acted

def visited (steps : List FsmStep) : List StateId :=
  .supportedAppProtocol :: steps.filterMap fun record =>
    if record.after.state.id = record.before.state.id then none else some record.after.state.id

def runSignals (steps : List FsmStep) : List Signal := signals (steps.flatMap (·.outputs))

section Feed

variable (platform : Platform) (env : Env) (ctx : Context)

theorem powerDelivery_unasked_follows (self : State.PowerDelivery) {ev : Event}
    (unasked : ev ≠ .v2gtpMessage) :
    Act.wp (State.feed platform env (.powerDelivery self) ev)
      (fun result _ _ => ∀ state' res, result = .ok (state', res) → res.Follows .powerDelivery) ctx := by
  have leaf (left state' : State) (res : Result)
      (ok : (Except.ok (left, {}) : Except Exn (State × Result)) = .ok (state', res)) :
      res.Follows .powerDelivery := by
    cases ok
    rfl
  simp only [State.feed, State.PowerDelivery.feed, Act.wp_bind]
  cases ev
  case v2gtpMessage => exact absurd rfl unasked
  case reset | failed => exact leaf _
  case controlMessage =>
    simp only [State.PowerDelivery.feedControl, Act.wp_bind, Act.wp_get]
    split
    · exact leaf _
    · simp only [Act.wp_bind, Feed.wp_stopTimeout]
      split
      · exact leaf _
      · simp only [Act.wp_pure, Act.wp_ite, Feed.wp_respond, Feed.wp_stopSession, Platform.stringsFit,
          true_implies, reduceCtorEq, false_implies, and_true, Act.wp_bind]
        refine ⟨fun _ => leaf _, fun _ => ?_⟩
        rintro _ _ ⟨⟩
        exact ⟨rfl, .acChargeLoop, by simp [StateId.successors], rfl⟩
    · exact leaf _
  case timeout =>
    simp only [State.PowerDelivery.feedTimeout, Act.wp_bind, Act.wp_get, Act.wp_ite, Act.wp_pure,
      Feed.wp_respond, Feed.wp_stopSession, Platform.stringsFit, true_implies, reduceCtorEq, false_implies,
      and_true]
    exact ⟨fun _ => leaf _, fun _ => leaf _⟩

theorem State.feed_follows (state : State) (ev : Event) :
    Act.wp (state.feed platform env ev)
      (fun result _ _ => ∀ state' res, result = .ok (state', res) → res.Follows state.id) ctx := by
  by_cases message : ev = .v2gtpMessage
  · subst message
    cases pending : ctx.request with
    | none =>
        refine Act.wp_mono _ _ (state.unfed platform env ctx pending) ?_
        rintro _ _ _ ⟨rfl, -⟩ _ _ ⟨⟩
    | some variant =>
        refine Act.wp_mono _ _ (State.message_frame platform env ctx pending state) ?_
        intro result ctx' log frame state' res ok
        exact (frame.next state' res ok).2
  · by_cases delivery : state.id = .powerDelivery
    · obtain ⟨self, rfl⟩ := State.eq_powerDelivery delivery
      exact powerDelivery_unasked_follows platform env ctx self message
    · refine Act.wp_mono _ _ (State.unasked platform env ctx message delivery) ?_
      rintro _ _ _ ⟨⟨state', rfl⟩, -⟩ _ _ ⟨⟩
      rfl

theorem refusedLog_signals (variant : Variant) : signals (refusedLog env ctx variant) = [] := by
  simp only [refusedLog]
  cases sequenceErrorResponse (setupHeader env ctx.session) variant.getType <;> rfl

def Advances (result : Except Exn (State × Result)) : Prop :=
  ∃ state' res, result = .ok (state', res) ∧ (res.newState ≠ none ∨ state'.acted = true)

theorem Advances.moved (state' next : State) : Advances (.ok (state', .createState next)) :=
  ⟨state', _, rfl, .inl (by simp)⟩

def Remembers (state : State) (result : Except Exn (State × Result)) (log : List Output) : Prop :=
  ∃ state' res, result = .ok (state', res) ∧
    (state'.acted = true ∨ state' = state ∧ signals log = [])

theorem Remembers.advances {state : State} {result : Except Exn (State × Result)} {log : List Output}
    (remembers : Remembers state result log) (sent : signals log ≠ []) : Advances result := by
  obtain ⟨state', res, ok, acted | ⟨-, silent⟩⟩ := remembers
  · exact ⟨state', res, ok, .inr acted⟩
  · exact absurd silent sent

theorem Remembers.of_acted (state : State) {state' : State} (acted : state'.acted = true) (res : Result)
    (log : List Output) : Remembers state (.ok (state', res)) log := ⟨state', res, rfl, .inl acted⟩

theorem Remembers.silent (state : State) (res : Result) {log : List Output} (silent : signals log = []) :
    Remembers state (.ok (state, res)) log := ⟨state, res, rfl, .inr ⟨rfl, silent⟩⟩

section Remembers

variable {variant : Variant} (pending : ctx.request = some variant)
include pending

theorem dcCableCheck_remembers (self : State.DcCableCheck) :
    Act.wp (State.feed platform env (.dcCableCheck self) .v2gtpMessage)
      (fun result _ log => Remembers (.dcCableCheck self) result log) ctx := by
  simp only [State.feed, State.DcCableCheck.feed, Act.wp_bind, Feed.wp_pullRequest _ pending]
  split
  · simp only [Act.wp_bind, Act.wp_get, Act.wp_pure, Act.wp_ite, Feed.wp_signal, Feed.wp_respond,
      Feed.wp_stopSession, Platform.stringsFit, true_implies, reduceCtorEq, false_implies, and_true]
    refine ⟨fun _ => ⟨fun _ => ?_, fun _ => ⟨fun _ => ?_, fun _ => ?_⟩⟩,
      fun _ => ⟨fun _ => ?_, fun _ => ⟨fun _ => ?_, fun _ => ?_⟩⟩⟩ <;> exact .of_acted _ rfl _ _
  · simp only [Act.wp_bind, wp_stopOnRequest, Act.wp_pure]
    exact .silent _ _ rfl
  · simp only [Act.wp_bind, Act.wp_pure]
    rw [wp_refused]
    exact .silent _ _ (by simp [refusedLog_signals])

theorem dcPreCharge_remembers (self : State.DcPreCharge) :
    Act.wp (State.feed platform env (.dcPreCharge self) .v2gtpMessage)
      (fun result _ log => Remembers (.dcPreCharge self) result log) ctx := by
  simp only [State.feed, State.DcPreCharge.feed, Act.wp_bind, Feed.wp_pullRequest _ pending]
  split
  · simp only [Act.wp_bind, Act.wp_get, Act.wp_pure, Act.wp_ite, Feed.wp_signal, Feed.wp_feedback,
      Feed.wp_respond, Feed.wp_stopSession, Platform.stringsFit, true_implies, reduceCtorEq,
      false_implies, and_true]
    refine ⟨fun _ => ⟨fun _ => ?_, fun _ => ?_⟩, fun _ => ⟨fun _ => ?_, fun _ => ?_⟩⟩ <;>
      exact .of_acted _ rfl _ _
  · simp only [Act.wp_bind, wp_stopOnRequest, Act.wp_pure]
    exact .silent _ _ rfl
  · simp only [Act.wp_bind, Act.wp_pure]
    rw [wp_refused]
    exact .silent _ _ (by simp [refusedLog_signals])

end Remembers

theorem acChargeLoop_advances (self : State.AcChargeLoop) (req : PowerDeliveryRequest)
    (pending : ctx.request = some (.request (.powerDelivery req))) :
    Act.wp (State.feed platform env (.acChargeLoop self) .v2gtpMessage)
      (fun result _ log => signals log ≠ [] → Advances result) ctx := by
  simp only [State.feed, State.AcChargeLoop.feed, Act.wp_bind, Feed.wp_pullRequest _ pending]
  simp only [Act.wp_bind, Act.wp_get, Act.wp_pure, Act.wp_ite, Feed.wp_signal, Feed.wp_respond,
    Feed.wp_stopSession, Platform.stringsFit, true_implies, reduceCtorEq, false_implies, and_true]
  refine ⟨fun _ sent => ?_, fun _ => ⟨fun _ _ => .moved _ _, fun _ sent => ?_⟩⟩ <;>
    exact absurd rfl sent

theorem dcChargeLoop_advances (self : State.DcChargeLoop) (req : PowerDeliveryRequest)
    (pending : ctx.request = some (.request (.powerDelivery req))) :
    Act.wp (State.feed platform env (.dcChargeLoop self) .v2gtpMessage)
      (fun result _ log => signals log ≠ [] → Advances result) ctx := by
  simp only [State.feed, State.DcChargeLoop.feed, Act.wp_bind, Feed.wp_pullRequest _ pending]
  simp only [Act.wp_bind, Act.wp_get, Act.wp_pure, Act.wp_ite, Feed.wp_signal, Feed.wp_respond,
    Feed.wp_stopSession, Platform.stringsFit, true_implies, reduceCtorEq, false_implies, and_true]
  refine ⟨fun _ sent => ?_, fun _ => ⟨fun _ _ => .moved _ _, fun _ sent => ?_⟩⟩ <;>
    exact absurd rfl sent

theorem State.signals_oneShot {s : Signal} (once : s ∈ oneShots) {state : State} {req : Request}
    (sent : s ∈ state.signals req) :
    s.rank = state.id.rank ∧ state.acted = false ∧ (state.signals req).count s = 1 := by
  revert sent
  unfold State.signals
  split
  case h_2 self _ =>
    intro sent
    cases initiated : self.cableCheckInitiated <;> simp [initiated] at sent
    subst sent
    simp [initiated, State.acted, State.id, StateId.rank, Signal.rank]
  case h_3 self _ =>
    intro sent
    cases initiated : self.preChargeInitiated <;> simp [initiated] at sent
    subst sent
    simp [initiated, State.acted, State.id, StateId.rank, Signal.rank]
  all_goals
    intro sent
    simp only [oneShots, List.mem_cons, List.not_mem_nil, or_false] at once sent <;>
    rcases sent with rfl | rfl <;> simp [State.acted, State.id, StateId.rank, Signal.rank] at once ⊢

theorem message_advances (state : State) {req : Request}
    (pending : ctx.request = some (.request req)) (accepts : state.id.accepts req = true) :
    Act.wp (state.feed platform env .v2gtpMessage)
      (fun result _ log => (∃ s ∈ oneShots, s ∈ signals log) → Advances result) ctx := by
  have branch := State.message_branch platform env ctx state pending accepts
  rintro ⟨s, once, sent⟩
  have nonempty : signals (state.feed platform env .v2gtpMessage ctx).log ≠ [] :=
    List.ne_nil_of_mem sent
  have offered := branch.signals.subset sent
  unfold State.signals at offered
  split at offered
  case h_2 self req => exact (dcCableCheck_remembers platform env ctx pending self).advances nonempty
  case h_3 self req => exact (dcPreCharge_remembers platform env ctx pending self).advances nonempty
  case h_5 self req => exact acChargeLoop_advances platform env ctx self req pending nonempty
  case h_6 self req => exact dcChargeLoop_advances platform env ctx self req pending nonempty
  all_goals
    simp only [oneShots, List.mem_cons, List.not_mem_nil, or_false] at once offered <;>
    rcases offered with rfl | rfl <;> simp at once

theorem State.feed_advances (state : State) {variant : Variant} (pending : ctx.request = some variant) :
    Act.wp (state.feed platform env .v2gtpMessage)
      (fun result _ log => (state.acted = true ∨ ∃ s ∈ oneShots, s ∈ LibIso15118.signals log) →
        Advances result) ctx := by
  -- A state that has acted, or sends a signal of `oneShots`, does not do so again.
  have remembered (remembers : Act.wp (state.feed platform env .v2gtpMessage)
      (fun result _ log => Remembers state result log) ctx) (acted : state.acted = true) :
      Act.wp (state.feed platform env .v2gtpMessage) (fun result _ _ => Advances result) ctx := by
    obtain ⟨state', res, ok, now | ⟨rfl, -⟩⟩ := remembers
    · exact ⟨state', res, ok, .inr now⟩
    · exact ⟨state', res, ok, .inr acted⟩
  rintro (acted | ⟨s, once, sent⟩)
  · cases state
    case dcCableCheck self =>
      exact remembered (dcCableCheck_remembers platform env ctx pending self) acted
    case dcPreCharge self =>
      exact remembered (dcPreCharge_remembers platform env ctx pending self) acted
    all_goals simp [State.acted] at acted
  · by_cases accepted : ∃ req, variant = .request req ∧ state.id.accepts req = true
    · obtain ⟨req, rfl, accepts⟩ := accepted
      exact message_advances platform env ctx state pending accepts ⟨s, once, sent⟩
    · have silent := State.wp_unexpected platform env pending state
        (fun req same => by
          by_contra accepts
          exact accepted ⟨req, same, Bool.eq_true_of_not_eq_false accepts⟩)
        (fun _ _ log => s ∉ LibIso15118.signals log)
        (fun response log refused sent => by
          obtain ⟨_, ⟨⟩, -⟩ := refused _ ((mem_signals log).mp sent))
      exact absurd sent silent

end Feed

theorem input_signals_oneShot {s : Signal} (once : s ∈ oneShots) {input : Input} {state : State}
    (sent : s ∈ input.signals state) :
    s.rank = state.id.rank ∧ state.acted = false ∧ (input.signals state).count s ≤ 1 := by
  cases input with
  | message env variant =>
      cases variant with
      | request req =>
          by_cases accepts : state.id.accepts req = true
          · simp only [Input.signals, accepts, if_true] at sent ⊢
            obtain ⟨rank, unacted, single⟩ := State.signals_oneShot once sent
            exact ⟨rank, unacted, single.le⟩
          · simp [Input.signals, accepts] at sent
      | _ => simp [Input.signals] at sent
  | _ => simp [Input.signals] at sent

theorem State.signals_loops {s : Signal} (ends : s ∈ loopSignals) {state : State} {req : Request}
    (sent : s ∈ state.signals req) : state.id ∈ s.loops := by
  unfold State.signals at sent
  split at sent
  case h_2 => split at sent <;> simp_all [loopSignals]
  case h_3 => split at sent <;> simp_all [loopSignals]
  all_goals
    simp only [loopSignals, List.mem_cons, List.not_mem_nil, or_false] at ends sent <;>
    rcases sent with rfl | rfl <;> simp [State.id, Signal.loops] at ends ⊢

theorem input_signals_loops {s : Signal} (ends : s ∈ loopSignals) {input : Input} {state : State}
    (sent : s ∈ input.signals state) : state.id ∈ s.loops := by
  unfold Input.signals at sent
  split at sent
  · split_ifs at sent
    · exact State.signals_loops ends sent
    · simp at sent
  · simp at sent

namespace Fsm

section Step

variable (platform : Platform) {fsm : Fsm} (idle : fsm.ctx.request = none)
include idle

theorem message_signals (env : Env) (variant : Variant) :
    Act.wp (step platform (.message env variant))
      (fun _ _ log => (signals log).Sublist (Input.signals (.message env variant) fsm.state)) fsm := by
  rw [wp_step_message platform env variant fsm idle]
  have pending := messageContext_request fsm.ctx variant
  by_cases accepted : ∃ req, variant = .request req ∧ fsm.state.id.accepts req = true
  · obtain ⟨req, rfl, accepts⟩ := accepted
    refine Act.wp_mono _ _ (State.message_branch platform env _ fsm.state pending accepts) ?_
    intro result ctx' log branch
    simpa [Input.signals, accepts, Output.signal?] using branch.signals
  · apply State.wp_unexpected platform env pending
    · intro req same
      by_contra accepts
      exact accepted ⟨req, same, Bool.eq_true_of_not_eq_false accepts⟩
    · intro response log refused
      have silent : signals log = [] := by
        rw [List.eq_nil_iff_forall_not_mem]
        intro s member
        obtain ⟨_, ⟨⟩, -⟩ := refused _ ((mem_signals log).mp member)
      simp [silent, Output.signal?]

theorem step_signals (input : Input) :
    (signals (step platform input fsm).log).Sublist (input.signals fsm.state) := by
  cases input with
  | message env variant => exact message_signals platform idle env variant
  | control env event =>
      suffices spec : Act.wp (step platform (.control env event))
          (fun _ _ log => (signals log).Sublist []) fsm from spec
      by_cases resumes : fsm.state.Resumes event
      · obtain ⟨self, req, closed, delivery, saved, rfl⟩ := resumes
        rw [wp_step_control_resumed platform env closed fsm self req delivery saved]
        exact ⟨fun _ => List.nil_sublist _, fun _ => List.nil_sublist _⟩
      · exact wp_step_control_quiet platform env event fsm resumes _ fun _ _ => List.nil_sublist _
  | timeout env type =>
      suffices spec : Act.wp (step platform (.timeout env type))
          (fun _ _ log => (signals log).Sublist []) fsm from spec
      apply wp_step_timeout platform env type fsm
      rintro pending log (⟨-, rfl⟩ | ⟨-, -, res, -, -, -, rfl⟩) <;> exact List.nil_sublist _
  | _ => exact List.nil_sublist _

theorem message_spends (env : Env) (variant : Variant) :
    Act.wp (step platform (.message env variant))
      (fun _ fsm' log => fsm'.state.id = fsm.state.id →
        (fsm.state.acted = true ∨ ∃ s ∈ oneShots, s ∈ signals log) → fsm'.state.acted = true) fsm := by
  rw [wp_step_message platform env variant fsm idle]
  have pending := messageContext_request fsm.ctx variant
  refine Act.wp_mono _ _ (Act.wp_and _ _ (State.message_frame platform env _ pending fsm.state)
    (State.feed_advances platform env _ fsm.state pending)) ?_
  rintro result ctx' log ⟨frame, advances⟩ stays acts
  obtain ⟨state', ⟨unhandled, newState⟩, rfl, advanced⟩ :=
    advances (by simpa [Output.signal?] using acts)
  have follows := (frame.next state' ⟨unhandled, newState⟩ rfl).2
  cases newState with
  | none =>
      obtain rfl : unhandled = true := follows
      simpa using advanced
  | some new =>
      obtain ⟨rfl, next, successor, rfl⟩ := follows
      have later := StateId.rank_lt_of_mem_successors successor
      simp only [settle, Bool.false_eq_true, if_false, State.enter_id, StateId.create_id] at stays
      exact absurd later (by simp [stays])

theorem step_spends (input : Input) (stays : (step platform input fsm).state.state.id = fsm.state.id)
    (acts : fsm.state.acted = true ∨ ∃ s ∈ oneShots, s ∈ signals (step platform input fsm).log) :
    (step platform input fsm).state.state.acted = true := by
  by_cases message : ∃ env variant, input = .message env variant
  · obtain ⟨env, variant, rfl⟩ := message
    exact message_spends platform idle env variant stays acts
  have silent : signals (step platform input fsm).log = [] := by
    have sent := step_signals platform idle input
    cases input <;> simp_all [Input.signals]
  have acted : fsm.state.acted = true := by simpa [silent] using acts
  have elsewhere : fsm.state.id ≠ .powerDelivery := by
    intro delivery
    obtain ⟨self, state⟩ := State.eq_powerDelivery delivery
    simp [state, State.acted] at acted
  cases input with
  | message env variant => exact absurd ⟨env, variant, rfl⟩ message
  | control env event =>
      refine wp_step_control_quiet platform env event fsm ?_
        (fun _ fsm' _ => fsm'.state.acted = true) fun _ _ => ?_
      · rintro ⟨_, _, _, delivery, -⟩
        exact elsewhere (by simp [delivery, State.id])
      · cases state : fsm.state <;> cases event <;> simp_all [State.acted, State.afterControl]
  | timeout env type =>
      refine wp_step_timeout platform env type fsm (fun _ fsm' _ => fsm'.state.acted = true)
        fun _ _ _ => ?_
      cases state : fsm.state <;> simp_all [State.acted, State.afterTimeout]
  | _ => exact acted

theorem step_balance (input : Input) {s : Signal} (once : s ∈ oneShots) :
    (signals (step platform input fsm).log).count s + (fsm.state.spent s).toNat ≤
      ((step platform input fsm).state.state.spent s).toNat := by
  -- The balance of a step: what it sends, the machine had not sent and will not send again.
  have advanced : (step platform input fsm).state.state.id = fsm.state.id ∨
      fsm.state.id.rank < (step platform input fsm).state.state.id.rank := by
    refine (step_frame platform fsm input idle).next.imp id ?_
    rintro ⟨next, successor, created⟩
    simpa [created] using StateId.rank_lt_of_mem_successors successor
  by_cases sent : s ∈ signals (step platform input fsm).log
  · obtain ⟨rank, unacted, single⟩ := input_signals_oneShot once
      ((step_signals platform idle input).subset sent)
    have count := (step_signals platform idle input).count_le s
    have unspent : fsm.state.spent s = false := by simp [State.spent, rank, unacted]
    have spent : (step platform input fsm).state.state.spent s = true := by
      rcases advanced with stays | later
      · simp [State.spent, rank, stays, step_spends platform idle input stays (.inr ⟨s, once, sent⟩)]
      · simp [State.spent, rank, later]
    rw [unspent, spent, Bool.toNat_true, Bool.toNat_false]
    omega
  · rw [List.count_eq_zero_of_not_mem sent, Nat.zero_add]
    apply Bool.toNat_le_toNat
    intro spent
    simp only [State.spent, Bool.or_eq_true, Bool.and_eq_true, decide_eq_true_eq] at spent ⊢
    rcases advanced with stays | later
    · rw [stays]
      exact spent.imp id fun ⟨here, acted⟩ => ⟨here, step_spends platform idle input stays (.inl acted)⟩
    · exact .inl (by omega)

theorem step_leaves (input : Input) {s : Signal} (ends : s ∈ loopSignals)
    (sent : s ∈ signals (step platform input fsm).log) :
    fsm.state.id ∈ s.loops ∧ (step platform input fsm).state.state.id ≠ fsm.state.id := by
  -- A charge loop ends its charging only when the machine leaves it.
  have once : s ∈ oneShots := by
    simp only [loopSignals, List.mem_cons, List.not_mem_nil, or_false] at ends
    rcases ends with rfl | rfl | rfl <;> simp [oneShots]
  have loop : fsm.state.id ∈ s.loops :=
    input_signals_loops ends ((step_signals platform idle input).subset sent)
  refine ⟨loop, fun stays => ?_⟩
  have acted := step_spends platform idle input stays (.inr ⟨s, once, sent⟩)
  have inside : fsm.state.id = .acChargeLoop ∨ fsm.state.id = .dcChargeLoop := by
    simp only [loopSignals, List.mem_cons, List.not_mem_nil, or_false] at ends
    rcases ends with rfl | rfl | rfl <;> simp [Signal.loops] at loop <;> simp [loop]
  rw [← stays] at inside
  cases state : (step platform input fsm).state.state <;> simp [state, State.acted] at acted <;>
    simp [state, State.id] at inside

end Step

structure PhaseInvariant (past : List FsmStep) (fsm : Fsm) : Prop where
  service : ServiceInvariant fsm
  reached : ∀ id ∈ visited past, id.rank ≤ fsm.state.id.rank
  ordered : (visited past).Pairwise fun id id' => id.rank < id'.rank
  fits : ∀ id ∈ visited past, id.fits fsm.ctx.session = true
  balance : ∀ s ∈ oneShots, (runSignals past).count s ≤ (fsm.state.spent s).toNat
  leaves : ∀ record ∈ past, ∀ s ∈ loopSignals, Signals record s →
    record.before.state.id ∈ s.loops ∧ record.after.state.id ≠ record.before.state.id

theorem visited_concat (past : List FsmStep) (record : FsmStep) :
    visited (past ++ [record]) = visited past ++
      if record.after.state.id = record.before.state.id then [] else [record.after.state.id] := by
  by_cases same : record.after.state.id = record.before.state.id <;>
    simp [visited, List.filterMap_append, same]

theorem runSignals_concat (past : List FsmStep) (record : FsmStep) :
    runSignals (past ++ [record]) = runSignals past ++ signals record.outputs := by
  simp [runSignals]

theorem phaseInvariant_step (platform : Platform) {past : List FsmStep} {fsm : Fsm}
    (inv : PhaseInvariant past fsm) (input : Input) :
    PhaseInvariant (past ++ [Machine.stepOf (step platform) fsm input])
      (step platform input fsm).state := by
  have idle := inv.service.idle
  have frame := step_frame platform fsm input idle
  have service := serviceInvariant_step platform inv.service input
  refine ⟨service, ?_, ?_, ?_, ?_, ?_⟩
  · intro id member
    rw [visited_concat] at member
    rcases List.mem_append.mp member with before | now
    · exact (inv.reached id before).trans frame.rank_le
    · split_ifs at now
      · simp at now
      · rw [List.mem_singleton.mp now]
        exact le_rfl
  · rw [visited_concat]
    split_ifs with same
    · simpa using inv.ordered
    · refine List.pairwise_append.mpr ⟨inv.ordered, by simp, ?_⟩
      intro id member id' now
      rw [List.mem_singleton.mp now]
      rcases frame.next with stays | ⟨next, successor, created⟩
      · exact absurd stays same
      · have later := StateId.rank_lt_of_mem_successors successor
        have reached := inv.reached id member
        simp [created] at later ⊢
        omega
  · intro id member
    rw [visited_concat] at member
    rcases List.mem_append.mp member with before | now
    · rcases Nat.lt_or_ge id.rank 7 with early | late
      · exact StateId.fits_of_rank early _
      · -- from here on no state writes the selected services
        have rank := Nat.le_trans late (inv.reached id before)
        rw [id.fits_congr (frame.selected (fun setup => ?_) fun selection => ?_)]
        · exact inv.fits id before
        · rw [setup] at rank
          exact absurd rank (by decide)
        · rw [selection] at rank
          exact absurd rank (by decide)
    · split_ifs at now
      · simp at now
      · rw [List.mem_singleton.mp now]
        exact service.fits
  · intro s once
    rw [runSignals_concat, List.count_append]
    have balance := step_balance platform idle input once
    have before := inv.balance s once
    simp only [Machine.stepOf_outputs]
    omega
  · intro record member s ends sent
    rcases List.mem_append.mp member with before | last
    · exact inv.leaves record before s ends sent
    · rw [List.mem_singleton.mp last] at sent ⊢
      exact step_leaves platform idle input ends ((mem_signals _).mpr sent)

/-- The machine moves only forward through the phases of a session. -/
theorem phase_monotonicity (platform : Platform) (config : SessionConfig)
    (pauseCtx : Option PauseContext) (id : SessionId) (inputs : List Input) :
    (∀ (state : State) (env : Env) (ev : Event) (ctx : Context) (state' new : State) (res : Result),
      (state.feed platform env ev ctx).result = .ok (state', res) → res.newState = some new →
        state.id.rank < new.id.rank) ∧
    ((visited (run platform config pauseCtx id inputs)).Pairwise fun id id' => id.rank < id'.rank) ∧
    (visited (run platform config pauseCtx id inputs)).Nodup ∧
    (∀ a ∈ visited (run platform config pauseCtx id inputs),
      ∀ b ∈ visited (run platform config pauseCtx id inputs), ¬(a.isAc = true ∧ b.isDc = true)) ∧
    (∀ s ∈ oneShots, (runSignals (run platform config pauseCtx id inputs)).count s ≤ 1) ∧
    ∀ record ∈ run platform config pauseCtx id inputs, ∀ s ∈ loopSignals, Signals record s →
      record.before.state.id ∈ s.loops ∧ record.after.state.id ≠ record.before.state.id := by
  have inv : PhaseInvariant (run platform config pauseCtx id inputs)
      (reached platform config pauseCtx id inputs) := by
    refine Machine.run_induction (step platform) (Fsm.new config pauseCtx id) (motive := PhaseInvariant)
      ?_ (fun past fsm input inv => phaseInvariant_step platform inv input) inputs
    refine ⟨⟨rfl, rfl, by rintro _ _ ⟨⟩⟩, ?_, ?_, ?_, ?_, by simp⟩ <;>
      simp [visited, runSignals, State.id, StateId.fits]
  refine ⟨?_, inv.ordered, ?_, ?_, ?_, inv.leaves⟩
  · intro state env ev ctx state' new res ok asked
    have follows := State.feed_follows platform env ctx state ev state' res ok
    simp only [Result.Follows, asked] at follows
    obtain ⟨-, next, successor, rfl⟩ := follows
    simpa using StateId.rank_lt_of_mem_successors successor
  · exact inv.ordered.imp fun lt same => absurd (congrArg StateId.rank same) (Nat.ne_of_lt lt)
  · rintro a visitedA b visitedB ⟨ac, dc⟩
    have isAc := inv.fits a visitedA
    have isDc := inv.fits b visitedB
    rw [StateId.fits_of_isAc ac] at isAc
    rw [StateId.fits_of_isDc dc, Session.not_dc_of_ac isAc] at isDc
    cases isDc
  · intro s once
    exact (inv.balance s once).trans (Bool.toNat_le _)

open Sample in
example : visited (run platform config none (sessionId 9)
    (reachDcPowerDelivery (sessionId 1) ++ [deliver (sessionId 1) .start, deliver (sessionId 1) .stop])) =
      [.supportedAppProtocol, .sessionSetup, .authorizationSetup, .authorization, .serviceDiscovery,
        .serviceDetail, .serviceSelection, .dcChargeParameterDiscovery, .scheduleExchange, .dcCableCheck,
        .dcPreCharge, .powerDelivery, .dcChargeLoop, .dcWeldingDetection] := by
  decide +kernel

end Fsm

end LibIso15118
