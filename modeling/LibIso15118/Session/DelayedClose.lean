import LibIso15118.Session.Run
import Mathlib.Tactic.MkIffOfInductiveProp

set_option autoImplicit false

namespace LibIso15118

open Datatypes Shared

def Signal.isDlink : Signal → Bool
  | .dlinkTerminate | .dlinkError | .dlinkPause => true
  | _ => false

def dlinkSignals (log : List SessionOutput) : List Signal := (sessionSignals log).filter (·.isDlink)

theorem lt_offsetTimePointByMs (now : TimePoint) {offset : Nat} (positive : 0 < offset) :
    now < offsetTimePointByMs now offset := by
  have later : (0 : Int) < offset * 1000000 := by omega
  exact lt_add_of_pos_right now later

@[simp] theorem dlinkSignals_nil : dlinkSignals [] = [] := rfl

@[simp] theorem dlinkSignals_append (log log' : List SessionOutput) :
    dlinkSignals (log ++ log') = dlinkSignals log ++ dlinkSignals log' := by
  simp [dlinkSignals]

def SessionInput.clock? : SessionInput → Option TimePoint
  | .poll env => some env.now
  | _ => none

def polls (steps : List SessionStep) : List TimePoint := steps.filterMap (·.input.clock?)

@[mk_iff] structure Quiet (record : SessionStep) : Prop where
  closes : closes record.outputs = 0
  dlink : dlinkSignals record.outputs = []

def Returns (platform : Platform) (record : SessionStep) : Prop :=
  (LinkedSession.act platform record.input record.before).result = .ok ()

instance (platform : Platform) (record : SessionStep) : Decidable (Returns platform record) :=
  inferInstanceAs (Decidable (_ = _))

/-- What a step of a finished session does, from the polls before it. -/
structure DelayedClose (deadline : TimePoint) (past : List SessionStep) (record : SessionStep) : Prop where
  waits : (∀ now ∈ polls (past ++ [record]), now < deadline) →
    Quiet record ∧ (record.input.clock?.isSome = true → record.after.session.nextSessionEvent = deadline)
  closes : ∀ now, (∀ now ∈ polls past, now < deadline) → record.input.clock? = some now →
    deadline ≤ now → LibIso15118.closes record.outputs = 1 ∧
      dlinkSignals record.outputs =
        [if record.after.session.fsm.ctx.sessionPaused then .dlinkPause else .dlinkTerminate]
  once : (∃ now ∈ polls past, deadline ≤ now) → Quiet record

theorem State.signals_isDlink (state : State) (req : Request) :
    (state.signals req).filter (·.isDlink) = [] := by
  cases state <;> cases req <;> simp only [State.signals] <;> first | rfl | (split <;> rfl)

theorem Fsm.step_dlink (platform : Platform) {fsm : Fsm} (idle : fsm.ctx.request = none) (input : Input) :
    (signals (step platform input fsm).log).filter (·.isDlink) = [] := by
  have few := (step_signals platform idle input).filter (·.isDlink)
  have none : (input.signals fsm.state).filter (·.isDlink) = [] := by
    unfold Input.signals
    split
    · split
      · exact State.signals_isDlink _ _
      · rfl
    · rfl
  rw [none] at few
  exact List.sublist_nil.mp few

theorem runSignals_dlink (platform : Platform) {fsm : Fsm} (idle : fsm.ctx.request = none)
    (inputs : List Input) :
    (runSignals (Machine.steps (Fsm.step platform) fsm inputs)).filter (·.isDlink) = [] := by
  induction inputs generalizing fsm with
  | nil => rfl
  | cons input rest hyp =>
      have first := Fsm.step_dlink platform idle input
      have later := hyp (Fsm.step_frame platform fsm input idle).idle
      simp only [runSignals, Machine.steps, List.flatMap_cons, signals_append, List.filter_append,
        Machine.stepOf_outputs, first, List.nil_append]
      exact later

theorem Drives.dlink {platform : Platform} {session session' : IsoSession} {log : List SessionOutput}
    (drives : Drives platform session session' log) (idle : session.fsm.ctx.request = none) :
    dlinkSignals log = [] := by
  obtain ⟨inputs, steps, -⟩ := drives.follows
  rw [dlinkSignals, drives.signals, steps, runSignals_dlink platform idle]

namespace LinkedSession

structure Running (linked : LinkedSession) : Prop where
  unfinished : linked.session.isFinished = false
  unscheduled : linked.session.delayedCloseAt = none

structure Closing (deadline : TimePoint) (linked : LinkedSession) : Prop where
  finished : linked.session.isFinished = true
  connected : linked.session.connected = true
  scheduled : linked.session.delayedCloseAt = some deadline

structure Closed (linked : LinkedSession) : Prop where
  disconnected : linked.session.connected = false
  link : linked.link = .closed

structure Linked (linked : LinkedSession) : Prop where
  idle : linked.session.fsm.ctx.request = none
  connected : linked.session.connected = true ↔ linked.link = .accepted ∨ linked.link = .opened

section Steps

variable {platform : Platform} {linked : LinkedSession}

theorem poll_parts (env : PollEnv) (session : IsoSession) (connected : session.connected = true)
    (returns : (IsoSession.poll platform env session).result = .ok ()) :
    ∃ session' log session'' log', Drives platform session session' log ∧
      IsoSession.CloseStep env.now session' session'' log' ∧
      (IsoSession.poll platform env session).state = session'' ∧
      (IsoSession.poll platform env session).log = log ++ log' := by
  suffices spec : Act.wp (IsoSession.poll platform env) (fun result state log =>
      result = .ok () → ∃ session' before session'' log', Drives platform session session' before ∧
        IsoSession.CloseStep env.now session' session'' log' ∧ state = session'' ∧ log = before ++ log')
      session from spec returns
  rw [IsoSession.wp_poll]
  refine ⟨fun absent => absurd connected (by simp [absent]), fun _ => ?_⟩
  have drives := IsoSession.advance_drives platform env session.controlEventQueue session
  rw [Act.wp_iff]
  cases (IsoSession.advance platform env session.controlEventQueue session).result with
  | error e => exact fun threw => absurd threw (by simp)
  | ok _ =>
      intro _
      exact ⟨_, _, _, _, drives, (IsoSession.closeWhenDue_step env.now _).2, rfl, rfl⟩

theorem linked_step (sound : linked.Linked) (input : SessionInput) :
    (act platform input linked).state.Linked := by
  have follows := act_follows platform input linked
  refine ⟨follows.idle sound.idle, ?_⟩
  have called {m : SessionAct Unit} (severs : Act.Keeps IsoSession.Severs m) :
      (call m linked).state.session.connected = true ↔
        (call m linked).state.link = .accepted ∨ (call m linked).state.link = .opened := by
    have severs := severs linked.session
    have connected := sound.connected
    simp only [call]
    rw [severs]
    by_cases closed : (m linked.session).log.any (·.isClose) = true
    · simp [closed]
    · simp [closed, connected]
  cases input with
  | accept =>
      by_cases listening : linked.link = .listening
      · simp [act, report, listening, IsoSession.handleConnectionEvent]
      · simpa [act, report, listening] using sound.connected
  | opened =>
      have drives : Drives platform linked.session
          (IsoSession.handleConnectionEvent platform .opened linked.session).state
          (IsoSession.handleConnectionEvent platform .opened linked.session).log :=
        IsoSession.handleConnectionEvent_drives platform (by simp) (by simp) linked.session
      by_cases accepted : linked.link = .accepted
      · simpa [act, report, accepted, drives.connected] using sound.connected
      · simpa [act, report, accepted] using sound.connected
  | data =>
      by_cases opened : linked.link = .opened
      · simpa [act, report, opened, IsoSession.handleConnectionEvent] using sound.connected
      · simpa [act, report, opened] using sound.connected
  | push event => exact called fun session => (Bool.and_true session.connected).symm
  | poll env => exact called (IsoSession.poll_severs platform env)
  | close => exact called (IsoSession.close_severs platform)

structure Between (linked : LinkedSession) (record : SessionStep) : Prop where
  finished : record.after.session.isFinished = linked.session.isFinished
  delayedCloseAt : record.after.session.delayedCloseAt = linked.session.delayedCloseAt
  connected : linked.session.connected = true → record.after.session.connected = true
  closed : linked.Closed → record.after.Closed
  quiet : Quiet record

theorem between_report (before after : Link) (event : ConnectionEvent) (live : before ≠ .closed)
    (stays : event ≠ .closed) {input : SessionInput}
    (reports : act platform input = report platform before after event) :
    Between linked (Machine.stepOf (act platform) linked input) := by
  by_cases ready : linked.link = before
  · have acts : act platform input linked = _ := congrFun reports linked
    rw [report, if_pos ready] at acts
    have handled : ∀ session, (IsoSession.handleConnectionEvent platform event session).state.isFinished =
          session.isFinished ∧
        (IsoSession.handleConnectionEvent platform event session).state.delayedCloseAt =
          session.delayedCloseAt ∧
        (session.connected = true →
          (IsoSession.handleConnectionEvent platform event session).state.connected = true) ∧
        closes (IsoSession.handleConnectionEvent platform event session).log = 0 ∧
        dlinkSignals (IsoSession.handleConnectionEvent platform event session).log = [] := by
      intro session
      cases event
      case opened =>
        obtain ⟨fsm, vehicle⟩ := session
        cases vehicle <;> exact ⟨rfl, rfl, id, rfl, rfl⟩
      case closed => exact absurd rfl stays
      case accepted => exact ⟨rfl, rfl, fun _ => rfl, rfl, rfl⟩
      case newData => exact ⟨rfl, rfl, id, rfl, rfl⟩
    obtain ⟨finished, scheduled, connected, closes, dlink⟩ := handled linked.session
    constructor
    · simpa [acts] using finished
    · simpa [acts] using scheduled
    · simpa [acts] using connected
    · exact fun closed => absurd (ready.symm.trans closed.link) live
    · exact ⟨by simpa [acts] using closes, by simpa [acts] using dlink⟩
  · have acts : act platform input linked = _ := congrFun reports linked
    rw [report, if_neg ready] at acts
    constructor
    · simp [acts]
    · simp [acts]
    · simp [acts]
    · simp [acts]
    · exact ⟨by simp [acts], by simp [acts, dlinkSignals]⟩

theorem between_polls (input : SessionInput) (unpolled : input.clock? = none) (called : input ≠ .close) :
    Between linked (Machine.stepOf (act platform) linked input) := by
  cases input with
  | poll env => exact absurd unpolled (by simp [SessionInput.clock?])
  | close => exact absurd rfl called
  | push event => exact ⟨rfl, rfl, id, fun closed => ⟨closed.disconnected, closed.link⟩, ⟨rfl, rfl⟩⟩
  | accept => exact between_report .listening .accepted .accepted (by simp) (by simp) rfl
  | opened => exact between_report .accepted .opened .opened (by simp) (by simp) rfl
  | data => exact between_report .opened .opened .newData (by simp) (by simp) rfl

variable (sound : linked.Linked) (env : PollEnv)

variable (platform) in
theorem poll_disconnected (disconnected : linked.session.connected = false) :
    (act platform (.poll env) linked).log = [] ∧
    (act platform (.poll env) linked).state =
      { linked with session := { linked.session with
          nextSessionEvent := offsetTimePointByMs env.now sessionIdleTimeoutMs } } := by
  have idles : IsoSession.poll platform env linked.session =
      ⟨.ok (), { linked.session with
        nextSessionEvent := offsetTimePointByMs env.now sessionIdleTimeoutMs }, []⟩ := by
    simp [IsoSession.poll, Act.bind_apply, disconnected, IsoSession.wakeUp]
  simp [act, call, idles]

include sound in
theorem poll_running (running : linked.Running)
    (returns : Returns platform (Machine.stepOf (act platform) linked (.poll env))) :
    Quiet (Machine.stepOf (act platform) linked (.poll env)) ∧
    ((act platform (.poll env) linked).state.Running ∨
      (act platform (.poll env) linked).state.Closing (offsetTimePointByMs env.now delayedCloseMs) ∧
        (act platform (.poll env) linked).state.session.nextSessionEvent =
          offsetTimePointByMs env.now delayedCloseMs) := by
  cases connected : linked.session.connected with
  | false =>
      obtain ⟨silent, state⟩ := poll_disconnected platform env connected
      refine ⟨⟨by simp [silent], by simp [silent, dlinkSignals]⟩, .inl ?_⟩
      rw [state]
      exact ⟨running.unfinished, running.unscheduled⟩
  | true =>
      obtain ⟨session', log, session'', log', drives, step, state, wrote⟩ :=
        poll_parts env linked.session connected returns
      have silent : closes log = 0 ∧ dlinkSignals log = [] := ⟨drives.closes, drives.dlink sound.idle⟩
      have unscheduled : session'.delayedCloseAt = none := drives.delayedCloseAt.trans running.unscheduled
      have closeAt : session'.closeAt env.now = offsetTimePointByMs env.now delayedCloseMs := by
        simp [IsoSession.closeAt, unscheduled]
      simp only [quiet_iff, act, call, Machine.stepOf, state, wrote]
      cases step with
      | running unfinished =>
          exact ⟨by simpa using silent, .inl ⟨unfinished, unscheduled⟩⟩
      | waiting finished early =>
          rw [closeAt]
          exact ⟨by simpa using silent, .inr ⟨⟨finished, drives.connected.trans connected, rfl⟩, rfl⟩⟩
      | closing finished due =>
          -- the deadline has just been set, so that it is still to come
          rw [closeAt] at due
          exact absurd due (not_le.mpr (lt_offsetTimePointByMs env.now (by decide)))

include sound in
theorem poll_closing {deadline : TimePoint} (closing : linked.Closing deadline)
    (returns : Returns platform (Machine.stepOf (act platform) linked (.poll env))) :
    (env.now < deadline → Quiet (Machine.stepOf (act platform) linked (.poll env)) ∧
      (act platform (.poll env) linked).state.Closing deadline ∧
      (act platform (.poll env) linked).state.session.nextSessionEvent = deadline) ∧
    (deadline ≤ env.now → closes (act platform (.poll env) linked).log = 1 ∧
      dlinkSignals (act platform (.poll env) linked).log =
        [if (act platform (.poll env) linked).state.session.fsm.ctx.sessionPaused then .dlinkPause
          else .dlinkTerminate] ∧
      (act platform (.poll env) linked).state.Closed) := by
  obtain ⟨session', log, session'', log', drives, step, state, wrote⟩ :=
    poll_parts env linked.session closing.connected returns
  have silent : closes log = 0 ∧ dlinkSignals log = [] := ⟨drives.closes, drives.dlink sound.idle⟩
  have finished : session'.isFinished = true := drives.follows.finished sound.idle closing.finished
  have closeAt : session'.closeAt env.now = deadline := by
    simp [IsoSession.closeAt, drives.delayedCloseAt, closing.scheduled]
  simp only [quiet_iff, act, call, Machine.stepOf, state, wrote]
  cases step with
  | running unfinished => exact absurd finished (by simp [unfinished])
  | waiting _ early =>
      rw [closeAt] at early ⊢
      refine ⟨fun _ => ⟨by simpa using silent, ⟨finished, ?_, rfl⟩, rfl⟩,
        fun due => absurd due (not_le.mpr early)⟩
      exact drives.connected.trans closing.connected
  | closing _ due =>
      rw [closeAt] at due
      refine ⟨fun early => absurd due (not_le.mpr early), fun _ => ⟨?_, ?_, rfl, ?_⟩⟩
      · rw [closes_append, silent.1]
        rfl
      · rw [dlinkSignals_append, silent.2]
        cases session'.fsm.ctx.sessionPaused <;> rfl
      · simp [SessionOutput.isClose]

theorem poll_closed (closed : linked.Closed) :
    Quiet (Machine.stepOf (act platform) linked (.poll env)) ∧
      (act platform (.poll env) linked).state.Closed := by
  obtain ⟨silent, state⟩ := poll_disconnected platform env closed.disconnected
  rw [state]
  exact ⟨⟨by simp [silent], by simp [silent]⟩, closed.disconnected, closed.link⟩

end Steps

inductive Phase (deadline : TimePoint) (past : List SessionStep) (linked : LinkedSession) : Prop
  | closing (early : ∀ now ∈ polls past, now < deadline) (closing : linked.Closing deadline)
  | closed (late : ∃ now ∈ polls past, deadline ≤ now) (closed : linked.Closed)

theorem polls_concat (past : List SessionStep) (record : SessionStep) :
    polls (past ++ [record]) = polls past ++ record.input.clock?.toList := by
  cases clock : record.input.clock? <;> simp [polls, clock]

section Phases

variable {platform : Platform} {deadline : TimePoint} {past : List SessionStep} {linked : LinkedSession}
variable (sound : linked.Linked) (phase : Phase deadline past linked) (input : SessionInput)
  (called : input ≠ .close) (returns : Returns platform (Machine.stepOf (act platform) linked input))
include sound phase called returns

theorem phase_step :
    Phase deadline (past ++ [Machine.stepOf (act platform) linked input]) (act platform input linked).state := by
  cases clock : input.clock? with
  | none =>
      have between : Between linked (Machine.stepOf (act platform) linked input) :=
        between_polls input clock called
      cases phase with
      | closing early closing =>
          exact .closing (by simpa [polls_concat, clock] using early)
            ⟨between.finished.trans closing.finished, between.connected closing.connected,
              between.delayedCloseAt.trans closing.scheduled⟩
      | closed late closed =>
          exact .closed (by simpa [polls_concat, clock] using late) (between.closed closed)
  | some now =>
      obtain ⟨env, rfl, rfl⟩ : ∃ env, input = .poll env ∧ now = env.now := by
        cases input <;> simp_all [SessionInput.clock?]
      cases phase with
      | closing early closing =>
          obtain ⟨waits, closes⟩ := poll_closing sound env closing returns
          by_cases due : deadline ≤ env.now
          · exact .closed ⟨env.now, by simp [polls_concat, clock], due⟩ (closes due).2.2
          · refine .closing ?_ (waits (lt_of_not_ge due)).2.1
            intro now member
            rcases List.mem_append.mp (polls_concat past _ ▸ member) with before | here
            · exact early now before
            · obtain rfl : now = env.now := by simpa [clock] using here
              exact lt_of_not_ge due
      | closed late closed =>
          obtain ⟨now, member, due⟩ := late
          exact .closed ⟨now, by simp [polls_concat, member], due⟩ (poll_closed env closed).2

theorem delayedClose_step : DelayedClose deadline past (Machine.stepOf (act platform) linked input) := by
  cases clock : input.clock? with
  | none =>
      have quiet : Quiet (Machine.stepOf (act platform) linked input) :=
        (between_polls input clock called).quiet
      exact ⟨fun _ => ⟨quiet, by simp [clock]⟩, by simp [clock], fun _ => quiet⟩
  | some now =>
      obtain ⟨env, rfl, rfl⟩ : ∃ env, input = .poll env ∧ now = env.now := by
        cases input <;> simp_all [SessionInput.clock?]
      cases phase with
      | closing early closing =>
          obtain ⟨waits, closes⟩ := poll_closing sound env closing returns
          refine ⟨fun before => ?_, ?_, ?_⟩
          · have soon := before env.now (by simp [polls_concat, clock])
            exact ⟨(waits soon).1, fun _ => (waits soon).2.2⟩
          · intro now _ here due
            obtain rfl : env.now = now := by simpa [clock] using here
            exact ⟨(closes due).1, (closes due).2.1⟩
          · rintro ⟨now, member, due⟩
            exact absurd due (not_le.mpr (early now member))
      | closed late closed =>
          obtain ⟨now, member, due⟩ := late
          refine ⟨fun early => ?_, fun _ early => ?_, fun _ => (poll_closed env closed).1⟩
          · exact absurd due (not_le.mpr (early now (by simp [polls_concat, member])))
          · exact absurd due (not_le.mpr (early now member))

end Phases

structure Open (linked : LinkedSession) : Prop where
  sound : linked.Linked
  running : linked.session.isFinished = false → linked.Running

theorem open_step (platform : Platform) {linked : LinkedSession} (started : linked.Open)
    (input : SessionInput) (called : input ≠ .close)
    (returns : Returns platform (Machine.stepOf (act platform) linked input)) :
    (act platform input linked).state.Open := by
  refine ⟨linked_step started.sound input, fun unfinished => ?_⟩
  have running : linked.Running := by
    apply started.running
    by_contra finished
    have still := (act_follows platform input linked).finished started.sound.idle (by simpa using finished)
    exact absurd still (by simp [unfinished])
  cases clock : input.clock? with
  | none =>
      have between : Between linked (Machine.stepOf (act platform) linked input) :=
        between_polls input clock called
      exact ⟨unfinished, between.delayedCloseAt.trans running.unscheduled⟩
  | some now =>
      obtain ⟨env, rfl⟩ : ∃ env, input = .poll env := by cases input <;> simp_all [SessionInput.clock?]
      rcases (poll_running started.sound env running returns).2 with still | closing
      · exact still
      · exact absurd closing.1.finished (by simp [unfinished])

end LinkedSession

open LinkedSession in
/-- A session that is stopped or paused by a poll is closed 5 s later, once. -/
theorem delayed_close (platform : Platform) (config : SessionConfig) (pauseCtx : Option PauseContext)
    (vehicle : Option Sha512Hash) (id : SessionId) (start : TimePoint) (inputs : List SessionInput)
    {before after : List SessionStep} {finishing : SessionStep} {env : PollEnv}
    (returns : ∀ record ∈ run platform (.new config pauseCtx vehicle id start) inputs,
      Returns platform record)
    (polled : .close ∉ inputs)
    (split : run platform (.new config pauseCtx vehicle id start) inputs = before ++ finishing :: after)
    (poll : finishing.input = .poll env) (running : finishing.before.session.isFinished = false)
    (finished : finishing.after.session.isFinished = true) :
    Quiet finishing ∧ finishing.after.session.nextSessionEvent = offsetTimePointByMs env.now 5000 ∧
      ∀ past record future, after = past ++ record :: future →
        DelayedClose (offsetTimePointByMs env.now 5000) past record := by
  have good : Machine.All (fun record => Returns platform record ∧ record.input ≠ .close)
      (run platform (.new config pauseCtx vehicle id start) inputs) := by
    intro record member
    refine ⟨returns record member, fun closing => polled ?_⟩
    obtain ⟨past, input, future, rfl, rfl⟩ := Machine.exists_split_of_mem (act platform) member
    obtain rfl : input = .close := closing
    simp
  rw [split] at good
  obtain ⟨first, input, rest, rfl, rfl, rfl, rfl⟩ := Machine.future_of_steps (act platform) split
  obtain rfl : input = .poll env := poll
  -- the session that the poll finds
  have opened : (reached platform (.new config pauseCtx vehicle id start) first).Open :=
    Machine.run_invariant (act platform) _ (fun _ linked => linked.Open) (Machine.All _) Machine.All.shorter
      ⟨⟨rfl, by simp [new, IsoSession.new]⟩, fun _ => ⟨rfl, rfl⟩⟩
      (fun _ _ input good started => open_step platform started input good.last.2 good.last.1) first
      (Machine.ok_of_append Machine.All.shorter good)
  have returned := (good _ (List.mem_append_right _ List.mem_cons_self)).1
  obtain ⟨quiet, still | ⟨closing, next⟩⟩ := poll_running opened.sound env (opened.running running) returned
  · exact absurd (still.unfinished.symm.trans finished) Bool.false_ne_true
  refine ⟨quiet, next, fun past record future later => ?_⟩
  refine Machine.run_always (act platform) _
    (fun past linked => linked.Linked ∧ Phase (offsetTimePointByMs env.now 5000) past linked)
    (Machine.All fun record => Returns platform record ∧ record.input ≠ .close) _ Machine.All.shorter
    ⟨linked_step opened.sound _, .closing (by simp [polls]) closing⟩ ?_ ?_ rest ?_ later
  · intro past linked input good phase
    exact ⟨linked_step phase.1 input, phase_step phase.1 phase.2 input good.last.2 good.last.1⟩
  · intro past linked input good phase
    exact delayedClose_step phase.1 phase.2 input good.last.2 good.last.1
  · exact fun record member => good record (List.mem_append_right _ (List.mem_cons_of_mem _ member))

namespace Sample

def connect : List SessionInput := [.accept, .opened, .data]

def emptyPacket : Except Exn ReadResult := .ok ⟨false, setupResponseHeader 0x8001 0⟩

def firstPacket : SessionInput := .poll { reads := [fun _ => emptyPacket] }

def otherPacket : SessionInput := .poll { now := 4999999999, reads := [fun _ => emptyPacket] }

def windowEnds : SessionInput := .poll { now := 5000000000 }

def connected (inputs : List SessionInput) : LinkedSession :=
  LinkedSession.reached platform (.new config none none (sessionId 1) 0) (connect ++ inputs)

def stepAfter (inputs : List SessionInput) (input : SessionInput) : SessionStep :=
  Machine.stepOf (LinkedSession.act platform) (connected inputs) input

end Sample

open LinkedSession Sample in
theorem delayed_close_unexpected :
    Quiet (stepAfter [] firstPacket) ∧
      Quiet (stepAfter [firstPacket, .data] otherPacket) ∧
      (connected [firstPacket, .data, otherPacket]).session.nextSessionEvent = 5000000000 ∧
      closes (stepAfter [firstPacket, .data, otherPacket] windowEnds).outputs = 1 ∧
      dlinkSignals (stepAfter [firstPacket, .data, otherPacket] windowEnds).outputs = [.dlinkTerminate] ∧
      Quiet (stepAfter [firstPacket, .data, otherPacket, windowEnds] windowEnds) := by
  have split : run platform (.new config none none (sessionId 1) 0)
        (connect ++ [firstPacket, .data, otherPacket, windowEnds, windowEnds]) =
      run platform (.new config none none (sessionId 1) 0) connect ++
        stepAfter [] firstPacket ::
          [stepAfter [firstPacket] .data, stepAfter [firstPacket, .data] otherPacket,
            stepAfter [firstPacket, .data, otherPacket] windowEnds,
            stepAfter [firstPacket, .data, otherPacket, windowEnds] windowEnds] := rfl
  obtain ⟨quiet, -, later⟩ := delayed_close platform config none none (sessionId 1) 0 _ (by decide +kernel)
    (by simp [connect, firstPacket, otherPacket, windowEnds]) split rfl (by decide +kernel) (by decide +kernel)
  have inside := (later [_] _ [_, _] rfl).waits (by decide)
  obtain ⟨closed, told⟩ := (later [_, _] _ [_] rfl).closes 5000000000 (by decide) rfl (by decide)
  have after := (later [_, _, _] _ [] rfl).once ⟨5000000000, by decide, by decide⟩
  have unpaused : (stepAfter [firstPacket, .data, otherPacket]
      windowEnds).after.session.fsm.ctx.sessionPaused = false := by
    decide +kernel
  rw [if_neg (ne_true_of_eq_false unpaused)] at told
  exact ⟨quiet, inside.1, inside.2 rfl, closed, told, after⟩

end LibIso15118
