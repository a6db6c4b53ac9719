import LibIso15118.Session.SequenceTimer
import LibIso15118.Session.TimerOwnership

set_option autoImplicit false

namespace LibIso15118

open Datatypes Shared

def Silent (history : List Traffic) : Prop := ∀ variant, .received variant ∉ history

theorem Silent.of_append {history history' : List Traffic} (silent : Silent (history ++ history')) :
    Silent history ∧ Silent history' :=
  ⟨fun variant member => silent variant (List.mem_append_left _ member),
    fun variant member => silent variant (List.mem_append_right _ member)⟩

theorem Timeouts.Unarmed.check_eq {timeouts : Timeouts} {deadline : TimePoint} (unarmed : timeouts.Unarmed)
    (armed : timeouts.deadline .sequence = some deadline) (clock : TimeoutType → TimePoint) :
    timeouts.check clock = if deadline ≤ clock .sequence then some [.sequence] else none := by
  have performance := unarmed .performance (by simp)
  have ongoing := unarmed .ongoing (by simp)
  have contactor := unarmed .contactor (by simp)
  by_cases reached : deadline ≤ clock .sequence <;>
    simp [Timeouts.check, performance, ongoing, contactor, armed, reached, insertByDeadline]

namespace Fsm

structure Waits (deadline : TimePoint) (fsm : Fsm) : Prop where
  undeferred : fsm.Undeferred
  unarmed : fsm.ctx.timeouts.Unarmed
  armed : fsm.ctx.timeouts.deadline .sequence = some deadline
  running : fsm.ctx.sessionStopped = false
  unpaused : fsm.ctx.sessionPaused = false
  answered : fsm.ctx.pendingResponse = none

structure Over (fsm : Fsm) : Prop where
  idle : fsm.ctx.request = none
  stopped : fsm.ctx.sessionStopped = true

variable (platform : Platform)

theorem over_step {fsm : Fsm} (ended : fsm.Over) (input : Input) : (step platform input fsm).state.Over := by
  have frame := step_frame platform fsm input ended.idle
  exact ⟨frame.idle, frame.stopped ended.stopped⟩

theorem waits_control {deadline : TimePoint} {fsm : Fsm} (waits : fsm.Waits deadline) (env : Env)
    (event : ControlEvent) : (step platform (.control env event) fsm).state.Waits deadline := by
  have undeferred := undeferred_step platform waits.undeferred (.control env event)
  suffices spec : Act.wp (step platform (.control env event)) (fun _ fsm' _ =>
      fsm'.Undeferred → fsm'.Waits deadline) fsm from spec undeferred
  apply wp_step_control_quiet platform env event fsm (waits.undeferred.unresumed waits.running event)
  rintro timeouts changes undeferred
  constructor
  · exact undeferred
  · rcases changes with rfl | ⟨-, -, rfl⟩
    · exact waits.unarmed
    · exact waits.unarmed.stopTimeout _
  · rcases changes with rfl | ⟨-, -, rfl⟩ <;> simpa using waits.armed
  · simpa using waits.running
  · simpa using waits.unpaused
  · simpa using waits.answered

end Fsm

namespace IsoSession

variable (platform : Platform) (deadline : TimePoint)

def Lasts (session session' : IsoSession) (log : List SessionOutput) : Prop :=
  Silent (traffic log) →
    (session.fsm.Waits deadline → session'.fsm.Waits deadline) ∧ (session.fsm.Over → session'.fsm.Over)

variable {platform deadline} {s t u : IsoSession} {l l' : List SessionOutput}

theorem Lasts.trans (first : Lasts deadline s t l) (next : Lasts deadline t u l') :
    Lasts deadline s u (l ++ l') := by
  intro silent
  rw [traffic_append] at silent
  obtain ⟨waits, ended⟩ := first silent.of_append.1
  obtain ⟨waits', ended'⟩ := next silent.of_append.2
  exact ⟨fun holds => waits' (waits holds), fun holds => ended' (ended holds)⟩

theorem Lasts.still (same : t.fsm = s.fsm) : Lasts deadline s t l := by
  intro _
  rw [same]
  exact ⟨id, id⟩

variable (platform)

theorem dispatch_lasts {input : Input} (fed : input.fed = true) (unreached : input ≠ .sequenceTimeout)
    (other : ∀ env type, input ≠ .timeout env type) :
      Act.Keeps (Lasts deadline) (dispatch platform input) := by
  intro session silent
  refine ⟨fun waits => ?_, fun ended => session.fsm.over_step platform ended input⟩
  cases input with
  | message env variant => exact absurd List.mem_cons_self (silent variant)
  | control env event => exact Fsm.waits_control platform waits env event
  | sequenceTimeout => exact absurd rfl unreached
  | timeout env type => exact absurd rfl (other env type)
  | _ => cases fed

theorem sendControlEvents_lasts (env : Nat → Env) (index : Nat) (events : List ControlEvent) :
    Act.Keeps (Lasts deadline) (sendControlEvents platform env index events) := by
  induction events generalizing index with
  | nil => exact .pure (fun _ => .still rfl) ()
  | cons event rest hyp =>
      refine .bind .trans (fun _ => .still rfl) fun _ => .bind .trans ?_ fun _ => hyp _
      exact dispatch_lasts platform rfl (by simp) (by simp)

theorem handlePacket_lasts (env : PollEnv) : Act.Keeps (Lasts deadline) (handlePacket platform env) := by
  have fed (variant : Variant) :
      Act.Keeps (Lasts deadline) (dispatch platform (.message env.message variant)) :=
    dispatch_lasts platform rfl (by simp) (by simp)
  refine .bind .trans (.get fun _ => .still rfl) fun session => .ite (fun _ => ?_) fun _ =>
    .pure (fun _ => .still rfl) ()
  cases platform.decode session.packet.getPayloadType session.packet.getPayload with
  | error e => exact .throw (fun _ => .still rfl) e
  | ok variant =>
      exact .ite (fun _ => .bind .trans (fun _ => .still rfl) fun _ => fed variant) fun _ => fed variant

def Awaits (deadline clock : TimePoint) (fsm : Fsm) : Prop :=
  if deadline ≤ clock then fsm.Over else fsm.Waits deadline

theorem checkTimeouts_awaits (env : PollEnv) (session : IsoSession) (waits : session.fsm.Waits deadline) :
    Awaits deadline (env.clock .sequence) (checkTimeouts platform env session).state.fsm := by
  simp only [checkTimeouts, Act.get_bind, waits.unarmed.check_eq waits.armed, Awaits]
  split
  · exact ⟨waits.undeferred.idle, rfl⟩
  · exact waits

theorem Awaits.lasts {clock : TimePoint} (awaits : Awaits deadline clock s.fsm) (lasts : Lasts deadline s t l)
    (silent : Silent (traffic l)) : Awaits deadline clock t.fsm := by
  unfold Awaits at awaits ⊢
  split at awaits
  · rw [if_pos ‹_›]
    exact (lasts silent).2 awaits
  · rw [if_neg ‹_›]
    exact (lasts silent).1 awaits

theorem prepare_awaits (env : PollEnv) (queue : List ControlEvent) (session : IsoSession)
    (waits : session.fsm.Waits deadline) :
    Act.wp (prepare platform env queue) (fun result session' log => result = .ok () → Silent (traffic log) →
      Awaits deadline (env.clock .sequence) session'.fsm) session := by
  have hears : Act.Keeps (Lasts deadline)
      (receive env >>= fun _ => sendControlEvents platform env.control 0 queue) :=
    .bind .trans (Still.receive (fun same _ _ => .still same) env) fun _ =>
      sendControlEvents_lasts platform env.control 0 queue
  have parts : prepare platform env queue =
      (receive env >>= fun _ => sendControlEvents platform env.control 0 queue) >>=
      fun _ => checkTimeouts platform env >>= fun _ => handlePacket platform env := by
    simp only [prepare, Act.bind_assoc]
  have heard := hears session
  rw [parts, Act.wp_bind, Act.wp_iff]
  cases hearing : (receive env >>= fun _ => sendControlEvents platform env.control 0 queue) session with
  | mk result between log =>
      rw [hearing] at heard
      cases result with
      | error e => simp
      | ok _ =>
          rw [Act.wp_bind, Act.wp_iff]
          have checked (waits : between.fsm.Waits deadline) := checkTimeouts_awaits platform env between waits
          cases check : checkTimeouts platform env between with
          | mk result checking log' =>
              rw [check] at checked
              cases result with
              | error e => simp
              | ok _ =>
                  rw [Act.wp_iff]
                  intro _ silent
                  simp only [traffic_append] at silent
                  obtain ⟨before, after⟩ := silent.of_append
                  have awaits := checked ((heard before).1 waits)
                  exact awaits.lasts (handlePacket_lasts platform env checking) after.of_append.2

theorem Awaits.sent {clock : TimePoint} {fsm : Fsm} (awaits : Awaits deadline clock fsm)
    (written : TimePoint) :
    Awaits deadline clock (sentFsm fsm written) := by
  unfold Awaits at awaits ⊢
  split at awaits
  · rw [if_pos ‹_›]
    exact ⟨awaits.idle, awaits.stopped⟩
  · rw [if_neg ‹_›]
    exact ⟨⟨awaits.undeferred.idle, awaits.undeferred.unsaved⟩, by simpa [sentFsm, awaits.answered]
      using awaits.unarmed,
      by simpa [sentFsm, awaits.answered] using awaits.armed, awaits.running, awaits.unpaused, rfl⟩

theorem poll_awaits (env : PollEnv) (session : IsoSession) (waits : session.fsm.Waits deadline)
    (connected : session.connected = true) (silent : Silent (traffic (poll platform env session).log))
    (returned : (poll platform env session).result = .ok ()) :
    Awaits deadline (env.clock .sequence) (poll platform env session).state.fsm := by
  -- A poll without a request finds the end of the wait when it looks at the clock.
  revert silent
  refine wp_poll_returns platform env session (fun session' log => Silent (traffic log) →
    Awaits deadline (env.clock .sequence) session'.fsm) (by simp [connected]) ?_ returned
  intro prepared log sent log' closed log'' _ prepares sends closes silent
  simp only [traffic_append] at silent
  have prepared := prepare_awaits platform env session.controlEventQueue session waits
  rw [Act.wp_iff, prepares] at prepared
  have awaits := prepared rfl silent.of_append.1.of_append.1
  have writes := sendResponse_sends platform env _ (by rw [sends])
  rw [sends] at writes
  have sentAwaits : Awaits deadline (env.clock .sequence) sent.fsm := by
    rw [writes.fsm]
    exact awaits.sent env.written
  cases closes <;> exact sentAwaits

theorem handleConnectionEvent_lasts (event : ConnectionEvent) :
    Act.Keeps (Lasts deadline) (handleConnectionEvent platform event) := by
  have certified (hash : Sha512Hash) : Act.Keeps (Lasts deadline) (dispatch platform (.certHash hash)) := by
    refine fun session _ => ⟨fun waits => ?_, fun ended => session.fsm.over_step platform ended _⟩
    exact ⟨Fsm.undeferred_step platform waits.undeferred _, waits.unarmed, waits.armed, waits.running,
      waits.unpaused, waits.answered⟩
  cases event with
  | opened =>
      refine .bind .trans (.get fun _ => .still rfl) fun session => ?_
      cases session.vehicle with
      | none => exact .pure (fun _ => .still rfl) ()
      | some hash => exact certified hash
  | _ => exact fun _ => .still rfl

theorem handleConnectionEvent_traffic (event : ConnectionEvent) (session : IsoSession) :
    traffic (handleConnectionEvent platform event session).log = [] := by
  cases event with
  | opened =>
      obtain ⟨fsm, vehicle⟩ := session
      cases vehicle <;> rfl
  | _ => rfl

end IsoSession

namespace LinkedSession

variable (platform : Platform)

theorem sessionOutputs_concat (past : List SessionStep) (record : SessionStep) :
    sessionOutputs (past ++ [record]) = sessionOutputs past ++ record.outputs := by
  simp [sessionOutputs]

structure Live (past : List SessionStep) (linked : LinkedSession) : Prop where
  sound : linked.Linked
  running : linked.session.isFinished = false → linked.Running
  attached : linked.session.isFinished = false →
    linked.session.connected = true ∨ traffic (sessionOutputs past) = []

theorem live_new (config : SessionConfig) (pauseCtx : Option PauseContext) (vehicle : Option Sha512Hash)
    (id : SessionId) (now : TimePoint) : Live [] (new config pauseCtx vehicle id now) :=
  ⟨⟨rfl, by simp [new, IsoSession.new]⟩, fun unfinished => ⟨unfinished, rfl⟩, fun _ => .inr rfl⟩

variable {platform} {past : List SessionStep} {linked : LinkedSession}

theorem other_traffic {input : SessionInput} (unpolled : input.clock? = none) (called : input ≠ .close) :
    traffic (act platform input linked).log = [] := by
  have reported (before after : Link) (event : ConnectionEvent) :
      traffic (report platform before after event linked).log = [] := by
    unfold report
    split
    · exact IsoSession.handleConnectionEvent_traffic platform event linked.session
    · rfl
  cases input with
  | accept | opened | data => exact reported _ _ _
  | push event => rfl
  | poll env => cases unpolled
  | close => exact absurd rfl called

theorem live_other (live : Live past linked) {input : SessionInput} (unpolled : input.clock? = none)
    (called : input ≠ .close) :
    Live (past ++ [Machine.stepOf (act platform) linked input]) (act platform input linked).state := by
  have between : Between linked (Machine.stepOf (act platform) linked input) :=
    between_polls input unpolled called
  have quiet : traffic (act platform input linked).log = [] := other_traffic unpolled called
  refine ⟨linked_step live.sound input, fun after => ?_, fun after => ?_⟩
  · have running := live.running (between.finished.symm.trans after)
    exact ⟨after, between.delayedCloseAt.trans running.unscheduled⟩
  · refine (live.attached (between.finished.symm.trans after)).imp between.connected fun before => ?_
    rw [sessionOutputs_concat, traffic_append, before, Machine.stepOf_outputs, quiet]
    rfl

variable (platform) in
theorem live_step (live : Live past linked) (input : SessionInput)
    (returned : Returns platform (Machine.stepOf (act platform) linked input)) :
    Live (past ++ [Machine.stepOf (act platform) linked input]) (act platform input linked).state := by
  have finishes := (act_follows platform input linked).finished live.sound.idle
  have stays : (act platform input linked).state.Linked := linked_step live.sound input
  have unfinished (after : (act platform input linked).state.session.isFinished = false) :
      linked.session.isFinished = false := by
    by_contra finished
    exact absurd (finishes (by simpa using finished)) (by simp [after])
  cases input with
  | poll env =>
      refine ⟨stays, fun after => ?_, fun after => ?_⟩
      · rcases (poll_running live.sound env (live.running (unfinished after)) returned).2 with running |
          closing
        · exact running
        · exact absurd closing.1.finished (by simp [after])
      · cases connected : linked.session.connected with
        | false =>
            obtain ⟨silent, -⟩ := poll_disconnected platform env connected
            have before := (live.attached (unfinished after)).resolve_left (by simp [connected])
            refine .inr ?_
            rw [sessionOutputs_concat, traffic_append, before, Machine.stepOf_outputs, silent]
            rfl
        | true =>
            obtain ⟨session', log, session'', log', drives, step, state, wrote⟩ :=
              poll_parts env linked.session connected returned
            have still : (act platform (.poll env) linked).state.session = session'' := state
            rw [still] at after ⊢
            cases step with
            | running | waiting => exact .inl (drives.connected.trans connected)
            | closing finished due => exact absurd finished (by simpa [IsoSession.isFinished] using after)
  | close =>
      have finished : (act platform .close linked).state.session.isFinished = true := rfl
      exact ⟨stays, by simp [finished], by simp [finished]⟩
  | accept | opened | data | push => exact live_other live rfl (by simp)

theorem other_lasts {deadline : TimePoint} {input : SessionInput} (unpolled : input.clock? = none)
    (called : input ≠ .close) :
      IsoSession.Lasts deadline linked.session (act platform input linked).state.session
      (act platform input linked).log := by
  have reported (before after : Link) (event : ConnectionEvent) :
      IsoSession.Lasts deadline linked.session (report platform before after event linked).state.session
        (report platform before after event linked).log := by
    unfold report
    split
    · exact IsoSession.handleConnectionEvent_lasts platform event linked.session
    · exact .still rfl
  cases input with
  | accept | opened | data => exact reported _ _ _
  | push event => exact .still rfl
  | poll env => cases unpolled
  | close => exact absurd rfl called

structure Awaiting (deadline : TimePoint) (linked : LinkedSession) : Prop where
  sound : linked.Linked
  running : linked.Running
  connected : linked.session.connected = true
  waits : linked.session.fsm.Waits deadline

variable {deadline : TimePoint}

theorem awaiting_other (awaiting : linked.Awaiting deadline) {input : SessionInput}
    (unpolled : input.clock? = none)
    (called : input ≠ .close) : (act platform input linked).state.Awaiting deadline := by
  have between : Between linked (Machine.stepOf (act platform) linked input) :=
    between_polls input unpolled called
  have quiet : traffic (act platform input linked).log = [] := other_traffic unpolled called
  have lasts : IsoSession.Lasts deadline linked.session (act platform input linked).state.session
      (act platform input linked).log := other_lasts unpolled called
  exact ⟨linked_step awaiting.sound input, ⟨between.finished.trans awaiting.running.unfinished,
    between.delayedCloseAt.trans awaiting.running.unscheduled⟩, between.connected awaiting.connected,
    (lasts (by simp [quiet, Silent])).1 awaiting.waits⟩

theorem awaiting_poll (awaiting : linked.Awaiting deadline) (env : PollEnv)
    (silent : Silent (traffic (act platform (.poll env) linked).log))
    (returned : Returns platform (Machine.stepOf (act platform) linked (.poll env))) :
    if deadline ≤ env.clock .sequence then
      (act platform (.poll env) linked).state.Closing (offsetTimePointByMs env.now delayedCloseMs) ∧
        (act platform (.poll env) linked).state.session.nextSessionEvent =
          offsetTimePointByMs env.now delayedCloseMs
    else (act platform (.poll env) linked).state.Awaiting deadline := by
  have awaits : IsoSession.Awaits deadline (env.clock .sequence)
      (act platform (.poll env) linked).state.session.fsm :=
    IsoSession.poll_awaits platform env linked.session awaiting.waits awaiting.connected silent returned
  have phases := (poll_running awaiting.sound env awaiting.running returned).2
  unfold IsoSession.Awaits at awaits
  split at awaits
  · have finished : (act platform (.poll env) linked).state.session.isFinished = true := by
      simp [IsoSession.isFinished, awaits.stopped]
    rw [if_pos ‹_›]
    exact phases.resolve_left fun running => absurd running.unfinished (by simp [finished])
  · have unfinished : (act platform (.poll env) linked).state.session.isFinished = false := by
      simp [IsoSession.isFinished, awaits.running, awaits.unpaused]
    rw [if_neg ‹_›]
    have running := phases.resolve_right fun closing => absurd closing.1.finished (by simp [unfinished])
    refine ⟨linked_step awaiting.sound _, running, ?_, awaits⟩
    obtain ⟨session', log, session'', log', drives, step, state, wrote⟩ :=
      poll_parts env linked.session awaiting.connected returned
    have still : (act platform (.poll env) linked).state.session = session'' := state
    rw [still] at unfinished ⊢
    cases step with
    | running | waiting => exact drives.connected.trans awaiting.connected
    | closing finished due => exact absurd finished (by simpa [IsoSession.isFinished] using unfinished)

variable (platform) in
theorem run_awaiting (awaiting : linked.Awaiting deadline) (inputs : List SessionInput)
    (returns : ∀ record ∈ run platform linked inputs, Returns platform record)
    (silent : Silent (traffic (sessionOutputs (run platform linked inputs)))) (uncalled : .close ∉ inputs)
    (early : ∀ env, .poll env ∈ inputs → env.clock .sequence < deadline) :
    (reached platform linked inputs).Awaiting deadline := by
  induction inputs generalizing linked with
  | nil => exact awaiting
  | cons input rest hyp =>
      have outputs : sessionOutputs (run platform linked (input :: rest)) =
          (act platform input linked).log ++
            sessionOutputs (run platform (act platform input linked).state rest) :=
        rfl
      rw [outputs, traffic_append] at silent
      obtain ⟨here, later⟩ := silent.of_append
      have returned := returns _ List.mem_cons_self
      refine hyp ?_ (fun record member => returns record (List.mem_cons_of_mem _ member)) later
        (fun member => uncalled (List.mem_cons_of_mem _ member))
        (fun env member => early env (List.mem_cons_of_mem _ member))
      cases input with
      | poll env =>
          have polled := awaiting_poll awaiting env here returned
          rwa [if_neg (not_le.mpr (early env List.mem_cons_self))] at polled
      | close => exact absurd List.mem_cons_self uncalled
      | accept | opened | data | push => exact awaiting_other awaiting rfl (by simp)

variable (platform) in
theorem reached_finished (idle : linked.session.fsm.ctx.request = none)
    (finished : linked.session.isFinished = true)
    (inputs : List SessionInput) : (reached platform linked inputs).session.isFinished = true := by
  induction inputs generalizing linked with
  | nil => exact finished
  | cons input rest hyp =>
      have follows := act_follows platform input linked
      exact hyp (follows.idle idle) (follows.finished idle finished)

variable (platform) in
theorem run_expires (awaiting : linked.Awaiting deadline) (inputs : List SessionInput)
    (returns : ∀ record ∈ run platform linked inputs, Returns platform record)
    (silent : Silent (traffic (sessionOutputs (run platform linked inputs)))) (uncalled : .close ∉ inputs)
    (late : ∃ env, .poll env ∈ inputs ∧ deadline ≤ env.clock .sequence) :
    (reached platform linked inputs).session.isFinished = true := by
  induction inputs generalizing linked with
  | nil => simp at late
  | cons input rest hyp =>
      have outputs : sessionOutputs (run platform linked (input :: rest)) =
          (act platform input linked).log ++
            sessionOutputs (run platform (act platform input linked).state rest) :=
        rfl
      rw [outputs, traffic_append] at silent
      obtain ⟨here, later⟩ := silent.of_append
      have returned := returns _ List.mem_cons_self
      have goesOn (awaiting : (act platform input linked).state.Awaiting deadline)
          (late : ∃ env, .poll env ∈ rest ∧ deadline ≤ env.clock .sequence) :
          (reached platform linked (input :: rest)).session.isFinished = true :=
        hyp awaiting (fun record member => returns record (List.mem_cons_of_mem _ member)) later
          (fun member => uncalled (List.mem_cons_of_mem _ member)) late
      cases input with
      | poll env =>
          have polled := awaiting_poll awaiting env here returned
          by_cases reached : deadline ≤ env.clock .sequence
          · rw [if_pos reached] at polled
            exact reached_finished platform (linked_step awaiting.sound _).idle polled.1.finished rest
          · rw [if_neg reached] at polled
            refine goesOn polled ?_
            obtain ⟨other, member, due⟩ := late
            rcases List.mem_cons.mp member with same | member
            · cases same
              exact absurd due reached
            · exact ⟨other, member, due⟩
      | close => exact absurd List.mem_cons_self uncalled
      | accept | opened | data | push =>
          exact goesOn (awaiting_other awaiting rfl (by simp)) (by simpa using late)

theorem awaiting_answered (platform : Platform) (config : SessionConfig) (pauseCtx : Option PauseContext)
    (vehicle : Option Sha512Hash) (id : SessionId) (start : TimePoint) (inputs : List SessionInput)
    {answered : TimePoint}
    (returns : ∀ record ∈ run platform (.new config pauseCtx vehicle id start) inputs,
      Returns platform record)
    (last : LastAnswered (traffic
      (sessionOutputs (run platform (.new config pauseCtx vehicle id start) inputs)))
      answered)
    (running : (reached platform (.new config pauseCtx vehicle id start) inputs).session.isFinished = false) :
    (reached platform (.new config pauseCtx vehicle id start) inputs).Awaiting
      (offsetTimePointByMs answered 60000) := by
  obtain ⟨kept, flushed⟩ := run_kept platform config pauseCtx vehicle id start inputs returns
  obtain ⟨-, disarmed⟩ := reached_disarmed platform config pauseCtx vehicle id start inputs
  obtain ⟨stopped, unpaused⟩ := Bool.or_eq_false_iff.mp running
  have live : Live (run platform (.new config pauseCtx vehicle id start) inputs)
      (reached platform (.new config pauseCtx vehicle id start) inputs) :=
    Machine.run_invariant (act platform) _ Live (fun past => ∀ record ∈ past, Returns platform record)
      (fun _ _ returns record member => returns record (List.mem_append_left _ member))
      (live_new config pauseCtx vehicle id start)
      (fun _ _ input returns live => live_step platform live input
        (returns _ (List.mem_append_right _ (List.mem_singleton_self _)))) inputs returns
  obtain ⟨before, variant, res, split⟩ := last
  have attached := (live.attached running).resolve_right (by simp [split])
  refine ⟨live.sound, live.running running, attached, kept.undeferred, disarmed stopped, ?_, stopped,
    unpaused, flushed⟩
  cases kept.phase stopped with
  | fresh silent => exact absurd (by simp [split]) (silent variant)
  | answered before' variant' res' split' =>
      have ends := congrArg List.getLast? (split.symm.trans split')
      simp at ends
  | sent before' variant' res' now' split' encoded empty armed later =>
      have ends := congrArg List.getLast? (split.symm.trans split')
      obtain rfl : answered = now' := by simpa using ends
      exact armed

end LinkedSession

open LinkedSession in
/-- After its last answer, and while no request comes in, a session lives until the first poll that reads a time
60 s later. This poll schedules the close. -/
theorem silent_session_iff (platform : Platform) (config : SessionConfig) (pauseCtx : Option PauseContext)
    (vehicle : Option Sha512Hash) (id : SessionId) (start : TimePoint) (inputs silent : List SessionInput)
    {answered : TimePoint}
    (returns : ∀ record ∈ run platform (.new config pauseCtx vehicle id start) (inputs ++ silent),
      Returns platform record)
    (last : LastAnswered (traffic
      (sessionOutputs (run platform (.new config pauseCtx vehicle id start) inputs)))
      answered)
    (running : (reached platform (.new config pauseCtx vehicle id start) inputs).session.isFinished = false)
    (quiet : Silent (traffic (sessionOutputs
      (run platform (reached platform (.new config pauseCtx vehicle id start) inputs) silent))))
    (uncalled : .close ∉ silent) :
    ((reached platform (.new config pauseCtx vehicle id start) (inputs ++ silent)).session.isFinished = true ↔
      ∃ env, .poll env ∈ silent ∧ offsetTimePointByMs answered 60000 ≤ env.clock .sequence) ∧
    ∀ before env after, silent = before ++ .poll env :: after →
      (∀ earlier, .poll earlier ∈ before → earlier.clock .sequence < offsetTimePointByMs answered 60000) →
      offsetTimePointByMs answered 60000 ≤ env.clock .sequence →
      (reached platform (.new config pauseCtx vehicle id start) (inputs ++ before ++ [.poll env])).Closing
          (offsetTimePointByMs env.now delayedCloseMs) ∧
        (reached platform (.new config pauseCtx vehicle id start)
            (inputs ++ before ++ [.poll env])).session.nextSessionEvent =
          offsetTimePointByMs env.now delayedCloseMs := by
  have split : run platform (.new config pauseCtx vehicle id start) (inputs ++ silent) =
      run platform (.new config pauseCtx vehicle id start) inputs ++
        run platform (reached platform (.new config pauseCtx vehicle id start) inputs) silent :=
    Machine.steps_append (act platform) _ inputs silent
  rw [split] at returns
  have awaiting := awaiting_answered platform config pauseCtx vehicle id start inputs
    (fun record member => returns record (List.mem_append_left _ member)) last running
  have final (more : List SessionInput) :
      reached platform (.new config pauseCtx vehicle id start) (inputs ++ more) =
      reached platform (reached platform (.new config pauseCtx vehicle id start) inputs) more :=
    Machine.final_append (act platform) _ inputs more
  replace returns := fun record member => returns record (List.mem_append_right _ member)
  simp only [List.append_assoc, final]
  generalize reached platform (.new config pauseCtx vehicle id start) inputs = linked at *
  refine ⟨⟨fun finished => ?_, run_expires platform awaiting silent returns quiet uncalled⟩, ?_⟩
  · by_contra early
    have later := run_awaiting platform awaiting silent returns quiet uncalled fun env member => by
      by_contra reached
      exact early ⟨env, member, not_lt.mp reached⟩
    exact absurd finished (by simp [later.running.unfinished])
  · rintro before env after rfl early due
    have split : run platform linked (before ++ .poll env :: after) =
        run platform linked before ++ run platform (reached platform linked before) (.poll env :: after) :=
      Machine.steps_append (act platform) _ before _
    have outputs : sessionOutputs (run platform (reached platform linked before) (.poll env :: after)) =
        (act platform (.poll env) (reached platform linked before)).log ++
          sessionOutputs (run platform (act platform (.poll env) (reached platform linked before)).state
            after) := rfl
    rw [split] at returns quiet
    simp only [sessionOutputs, List.flatMap_append, traffic_append] at quiet
    obtain ⟨here, later⟩ := quiet.of_append
    have waiting := run_awaiting platform awaiting before
      (fun record member => returns record (List.mem_append_left _ member)) here
      (fun member => uncalled (List.mem_append_left _ member)) early
    have polled := awaiting_poll waiting env ?_ (returns _ (List.mem_append_right _ List.mem_cons_self))
    · rw [if_pos due] at polled
      have last : reached platform linked (before ++ [.poll env]) =
          (act platform (.poll env) (reached platform linked before)).state :=
        Machine.final_append (act platform) _ before _
      rw [last]
      exact polled
    · change Silent (traffic (sessionOutputs
        (run platform (reached platform linked before) (.poll env :: after)))) at later
      rw [outputs, traffic_append] at later
      exact later.of_append.1

namespace Sample

def minuteLater : PollEnv := { now := 60000000000, clock := fun _ => 60000000000 }

end Sample

open LinkedSession Sample in
theorem silent_session_settingUp :
    (reached charging (.new config none none (sessionId 9) 0) (settingUp ++
      [.poll {}, .poll minuteLater])).Closing
        65000000000 ∧
      (reached charging (.new config none none (sessionId 9) 0)
        (settingUp ++ [.poll {}, .poll minuteLater])).session.isFinished = true := by
  have answered : LastAnswered (traffic (sessionOutputs (run charging (.new config none none (sessionId 9) 0)
      settingUp))) 0 :=
    lastAnswered_of_armed charging config none none (sessionId 9) 0 settingUp (by decide +kernel)
      (by decide +kernel) (by decide +kernel)
  have nothing : traffic (sessionOutputs
    (run charging (reached charging (.new config none none (sessionId 9) 0)
      settingUp) [.poll {}, .poll minuteLater])) = [] := List.eq_nil_of_length_eq_zero (by decide +kernel)
  obtain ⟨finished, closing⟩ := silent_session_iff charging config none none (sessionId 9) 0 settingUp
    [.poll {}, .poll minuteLater] (by decide +kernel) answered (by decide +kernel) (by simp [nothing, Silent])
    (by simp)
  refine ⟨(closing [.poll {}] minuteLater [] rfl ?_ (by decide +kernel)).1,
    finished.mpr ⟨minuteLater, ?_, ?_⟩⟩
  · simp
    decide
  · simp
  · decide +kernel

end LibIso15118
