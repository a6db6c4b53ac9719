import LibIso15118.Controller.PollTimeout
import LibIso15118.Session.DelayedClose

set_option autoImplicit false

namespace LibIso15118

open Datatypes Shared

def ControllerInput.clock? : ControllerInput → Option TimePoint
  | .iterate _ env _ => some env.now
  | _ => none

def ControllerOutput.of? (number : Nat) : ControllerOutput → Option SessionOutput
  | .session other out => if other = number then some out else none
  | _ => none

def sessionLog (number : Nat) (log : List ControllerOutput) : List SessionOutput :=
  log.filterMap (·.of? number)

def controllerOutputs (steps : List ControllerStep) : List ControllerOutput := steps.flatMap (·.outputs)

def Finishes (number : Nat) (record : ControllerStep) (result : Except Exn Unit) : Prop :=
  (∃ linked, record.before.session = some (number, linked) ∧ linked.session.isFinished = false) ∧
    ∃ session, .polled number result session ∈ record.outputs ∧ session.isFinished = true

/-- The connection of a session is closed, the data link is told about it once, and neither happens
earlier than 5 s after the session has finished. -/
structure OrderlyTeardown (steps : List ControllerStep) (number : Nat) (session : IsoSession) : Prop where
  closed : 1 ≤ closes (sessionLog number (controllerOutputs steps))
  signalled : dlinkSignals (sessionLog number (controllerOutputs steps)) =
    [if session.fsm.ctx.sessionPaused then .dlinkPause else .dlinkTerminate]
  late : ∀ finishing ∈ steps, Finishes number finishing (.ok ()) →
    ∀ closing ∈ steps, .session number .close ∈ closing.outputs →
      ∀ finished closed, finishing.input.clock? = some finished → closing.input.clock? = some closed →
        offsetTimePointByMs finished delayedCloseMs ≤ closed

section Logs

variable (number : Nat) (log log' : List ControllerOutput)

@[simp] theorem sessionLog_nil : sessionLog number [] = [] := rfl

@[simp] theorem sessionLog_append :
    sessionLog number (log ++ log') = sessionLog number log ++ sessionLog number log' := List.filterMap_append

@[simp] theorem sessionLog_map (other : Nat) (outs : List SessionOutput) :
    sessionLog number (outs.map (.session other)) = if other = number then outs else [] := by
  induction outs with
  | nil => simp
  | cons out rest hyp =>
      rw [List.map_cons, ← List.singleton_append, sessionLog_append, hyp]
      by_cases same : other = number <;> simp [sessionLog, ControllerOutput.of?, same]

@[simp] theorem sessionLog_polled (other : Nat) (result : Except Exn Unit) (session : IsoSession) :
    sessionLog number (.polled other result session :: log) = sessionLog number log := rfl

@[simp] theorem sessionLog_destroyed (other : Nat) (session : IsoSession) :
    sessionLog number (.destroyed other session :: log) = sessionLog number log := rfl

end Logs

namespace LinkedSession

variable {platform : Platform} {linked : LinkedSession}

theorem poll_threw (env : PollEnv) {e : Exn}
    (threw : (act platform (.poll env) linked).result = .error e) :
    Drives platform linked.session (act platform (.poll env) linked).state.session
      (act platform (.poll env) linked).log := by
  -- A poll that throws does not reach the delayed close.
  suffices spec : Act.wp (IsoSession.poll platform env) (fun result session' log =>
      result = .error e → Drives platform linked.session session' log) linked.session from spec threw
  rw [IsoSession.wp_poll]
  refine ⟨fun _ returned => absurd returned (by simp), fun _ => ?_⟩
  have drives := IsoSession.advance_drives platform env linked.session.controlEventQueue linked.session
  rw [Act.wp_iff]
  cases (IsoSession.advance platform env linked.session.controlEventQueue linked.session).result with
  | error e => exact fun _ => drives
  | ok _ =>
      intro threw
      have returned := (IsoSession.closeWhenDue_step env.now (IsoSession.advance platform env
        linked.session.controlEventQueue linked.session).state).1
      exact absurd (returned.symm.trans threw) (by simp)

end LinkedSession

namespace LinkedSession

theorem linked_new (config : SessionConfig) (pauseCtx : Option PauseContext) (vehicle : Option Sha512Hash)
    (id : SessionId) (now : TimePoint) : (new config pauseCtx vehicle id now).Linked :=
  ⟨rfl, by simp [new, IsoSession.new]⟩

end LinkedSession

namespace TbdController

structure Hushed (number : Nat) (log : List ControllerOutput) : Prop where
  closes : closes (sessionLog number log) = 0
  dlink : dlinkSignals (sessionLog number log) = []
  unfinished : ∀ session, .polled number (.ok ()) session ∈ log → session.isFinished = false

theorem Hushed.append {number : Nat} {log log' : List ControllerOutput} (first : Hushed number log)
    (next : Hushed number log') : Hushed number (log ++ log') where
  closes := by rw [sessionLog_append, closes_append, first.closes, next.closes]
  dlink := by rw [sessionLog_append, dlinkSignals_append, first.dlink, next.dlink]; rfl
  unfinished session member :=
    (List.mem_append.mp member).elim (first.unfinished session) (next.unfinished session)

theorem Hushed.nil (number : Nat) : Hushed number [] := ⟨rfl, rfl, by simp⟩

def Ahead (controller : TbdController) (number : Nat) : Prop :=
  controller.count < number ∨ ∃ linked, controller.session = some (number, linked)

structure Sound (controller : TbdController) : Prop where
  numbered : ∀ number linked, controller.session = some (number, linked) → number ≤ controller.count
  linked : ∀ number linked, controller.session = some (number, linked) → linked.Linked
  running : ∀ number linked, controller.session = some (number, linked) → controller.looping = true →
    linked.Running

def Undisturbed (controller controller' : TbdController) (log : List ControllerOutput) : Prop :=
  controller.Sound → controller'.Sound ∧
    ∀ number, controller'.Ahead number → controller.Ahead number ∧ Hushed number log

namespace Undisturbed

variable {s t u : TbdController} {l l' : List ControllerOutput}

theorem trans (first : Undisturbed s t l) (next : Undisturbed t u l') : Undisturbed s u (l ++ l') := by
  intro sound
  obtain ⟨sound, earlier⟩ := first sound
  obtain ⟨sound', later⟩ := next sound
  refine ⟨sound', fun number ahead => ?_⟩
  obtain ⟨ahead, hushed'⟩ := later number ahead
  obtain ⟨ahead, hushed⟩ := earlier number ahead
  exact ⟨ahead, hushed.append hushed'⟩

theorem still (session : t.session = s.session) (count : t.count = s.count)
    (looping : t.looping = s.looping) : Undisturbed s t [] := by
  intro sound
  refine ⟨⟨?_, ?_, ?_⟩, fun number ahead => ⟨?_, .nil number⟩⟩
  · rw [session, count]; exact sound.numbered
  · rw [session]; exact sound.linked
  · rw [session, looping]; exact sound.running
  · rwa [Ahead, session, count] at ahead

theorem fresh {linked : LinkedSession} (count : t.count = s.count + 1)
    (session : t.session = some (s.count + 1, linked)) (sound : linked.Linked) (running : linked.Running) :
    t.Sound ∧ ∀ number, t.Ahead number → s.count < number := by
  refine ⟨⟨?_, ?_, ?_⟩, ?_⟩
  · rintro _ _ found
    obtain ⟨rfl, -⟩ := Prod.mk.inj (Option.some.inj (session.symm.trans found))
    exact count.ge
  · rintro _ _ found
    obtain ⟨-, rfl⟩ := Prod.mk.inj (Option.some.inj (session.symm.trans found))
    exact sound
  · rintro _ _ found _
    obtain ⟨-, rfl⟩ := Prod.mk.inj (Option.some.inj (session.symm.trans found))
    exact running
  · rintro number (later | ⟨_, found⟩)
    · omega
    · obtain ⟨rfl, -⟩ := Prod.mk.inj (Option.some.inj (session.symm.trans found))
      omega

theorem kept {number : Nat} {linked linked' : LinkedSession} (sound : s.Sound)
    (current : s.session = some (number, linked)) (session : t.session = some (number, linked'))
    (count : t.count = s.count) (still : linked'.Linked) (running : t.looping = true → linked'.Running) :
    t.Sound ∧ ∀ other, t.Ahead other → s.Ahead other := by
  refine ⟨⟨?_, ?_, ?_⟩, ?_⟩
  · rintro _ _ found
    obtain ⟨rfl, -⟩ := Prod.mk.inj (Option.some.inj (session.symm.trans found))
    exact count ▸ sound.numbered _ _ current
  · rintro _ _ found
    obtain ⟨-, rfl⟩ := Prod.mk.inj (Option.some.inj (session.symm.trans found))
    exact still
  · rintro _ _ found
    obtain ⟨-, rfl⟩ := Prod.mk.inj (Option.some.inj (session.symm.trans found))
    exact running
  · rintro other (later | ⟨_, found⟩)
    · exact .inl (count ▸ later)
    · obtain ⟨rfl, -⟩ := Prod.mk.inj (Option.some.inj (session.symm.trans found))
      exact .inr ⟨linked, current⟩

end Undisturbed

section Outside

variable (platform : Platform)

theorem hushed_session {number other : Nat} {outs : List SessionOutput}
    (silent : other = number → LibIso15118.closes outs = 0 ∧ dlinkSignals outs = []) :
    Hushed number (outs.map (.session other)) := by
  by_cases same : other = number
  · exact ⟨by simp [same, silent], by simp [same, silent], by simp⟩
  · exact ⟨by simp [same], by simp [same], by simp⟩

theorem buildSession_undisturbed (new : NewSession) (controller : TbdController) :
    Undisturbed controller (controller.buildSession new) [] := by
  intro _
  obtain ⟨sound, later⟩ := Undisturbed.fresh (s := controller) (t := controller.buildSession new) rfl rfl
    (LinkedSession.linked_new ..) ⟨rfl, rfl⟩
  exact ⟨sound, fun number ahead => ⟨.inl (later number ahead), .nil number⟩⟩

theorem callSession_undisturbed (input : SessionInput) (unpolled : input.clock? = none)
    (called : input ≠ .close) : Act.Keeps Undisturbed (callSession platform input) := by
  intro controller sound
  cases current : controller.session with
  | none =>
      have idles : callSession platform input controller = ⟨.ok (), controller, []⟩ := by
        simp [callSession, current]
      rw [idles]
      exact ⟨sound, fun number ahead => ⟨ahead, .nil number⟩⟩
  | some session =>
      obtain ⟨number, linked⟩ := session
      have between : LinkedSession.Between linked
          (Machine.stepOf (LinkedSession.act platform) linked input) :=
        LinkedSession.between_polls input unpolled called
      have running := sound.running number linked current
      simp only [callSession, current]
      obtain ⟨sound, earlier⟩ := Undisturbed.kept sound current
        (t := { controller with
          session := some (number, (LinkedSession.act platform input linked).state)
          pauseCtx := (LinkedSession.act platform input linked).state.session.fsm.ctx.pauseCtx }) rfl rfl
        (LinkedSession.linked_step (sound.linked number linked current) input) fun looping =>
          ⟨between.finished.trans (running looping).unfinished,
            between.delayedCloseAt.trans (running looping).unscheduled⟩
      exact ⟨sound, fun other ahead =>
        ⟨earlier other ahead, hushed_session fun _ => ⟨between.quiet.closes, between.quiet.dlink⟩⟩⟩

theorem undisturbed_rule : CallRule platform Undisturbed where
  trans := .trans
  still session count looping _ := .still session count looping
  build new controller _ := buildSession_undisturbed new controller
  call input unpolled called := by
    refine callSession_undisturbed platform input ?_ called
    cases input with
    | poll env => exact absurd rfl (unpolled env)
    | _ => rfl

end Outside

structure Replaced (controller controller' : TbdController) : Prop where
  sound : controller'.Sound
  later : ∀ number, controller'.Ahead number → controller.count < number

theorem resetFinished_finished (new : NewSession) (controller : TbdController) {number : Nat}
    {linked : LinkedSession} (current : controller.session = some (number, linked))
    (finished : linked.session.isFinished = true) :
    ∃ next, resetFinished new controller = ⟨.ok (), next, [.destroyed number linked.session]⟩ ∧
      controller.Replaced next := by
  rw [resetFinished, current]
  simp only [finished, if_true]
  refine ⟨_, rfl, ?_⟩
  by_cases sdp : controller.config.enableSdpServer = true
  · simp only [sdp, if_true]
    constructor
    · exact ⟨by simp, by simp, by simp⟩
    · rintro number (later | ⟨_, ⟨⟩⟩)
      exact later
  · simp only [sdp]
    obtain ⟨sound, later⟩ := Undisturbed.fresh (s := { controller with session := none })
      (t := buildPlainSession new { controller with session := none }) rfl rfl
      (LinkedSession.linked_new ..) ⟨rfl, rfl⟩
    exact ⟨sound, later⟩

inductive Round (platform : Platform) (controller : TbdController) (number : Nat)
    (polled : Outcome LinkedSession SessionOutput Exn Unit) : TbdController → List ControllerOutput → Prop
  | goesOn {next : TbdController} (returned : polled.result = .ok ())
      (unfinished : polled.state.session.isFinished = false)
      (session : next.session = some (number, polled.state)) (count : next.count = controller.count) :
      Round platform controller number polled next
        (polled.log.map (.session number) ++ [.polled number (.ok ()) polled.state.session])
  | finished {next : TbdController} (returned : polled.result = .ok ())
      (finished : polled.state.session.isFinished = true) (replaced : controller.Replaced next) :
      Round platform controller number polled next
        (polled.log.map (.session number) ++ [.polled number (.ok ()) polled.state.session] ++
          [.destroyed number polled.state.session])
  | caught {next : TbdController} (threw : polled.result = .error .runtimeError)
      (replaced : controller.Replaced next) :
      Round platform controller number polled next
        (polled.log.map (.session number) ++
          [.polled number (.error .runtimeError) polled.state.session] ++
          (LinkedSession.act platform .close polled.state).log.map (.session number) ++
          [.destroyed number (LinkedSession.act platform .close polled.state).state.session])
  | aborted {next : TbdController} {e : Exn} (threw : polled.result = .error e) (other : e ≠ .runtimeError)
      (session : next.session = some (number, polled.state)) (count : next.count = controller.count)
      (stopped : next.looping = false) :
      Round platform controller number polled next
        (polled.log.map (.session number) ++ [.polled number (.error e) polled.state.session])

theorem close_finished (platform : Platform) (linked : LinkedSession) :
    (LinkedSession.act platform .close linked).result = .ok () ∧
      (LinkedSession.act platform .close linked).state.session.isFinished = true :=
  ⟨rfl, rfl⟩

theorem iterate_round (platform : Platform) (clock : TimePoint) (env : PollEnv) (new : NewSession)
    {controller : TbdController} {number : Nat} {linked : LinkedSession}
    (current : controller.session = some (number, linked)) :
    Round platform controller number (LinkedSession.act platform (.poll env) linked)
      (iterate platform clock env new controller).state (iterate platform clock env new controller).log := by
  simp only [iterate, Act.bind_apply, Act.modify_apply, Act.tryCatch, pollSession, current,
    List.nil_append]
  generalize LinkedSession.act platform (.poll env) linked = polled
  cases result : polled.result with
  | ok _ =>
      simp only [if_true]
      by_cases finished : polled.state.session.isFinished = true
      · obtain ⟨next, resets, replaced⟩ := resetFinished_finished new
          { controller with
            session := some (number, polled.state)
            pauseCtx := polled.state.session.fsm.ctx.pauseCtx
            nextEvent := min (offsetTimePointByMs clock pollManagerTimeoutMs)
              polled.state.session.nextSessionEvent } rfl finished
        rw [resets]
        exact .finished result finished ⟨replaced.sound, replaced.later⟩
      · simp only [resetFinished, finished, Bool.false_eq_true, if_false, List.append_nil]
        exact .goesOn result (by simpa using finished) rfl rfl
  | error e =>
      simp only [reduceCtorEq, if_false]
      cases e with
      | runtimeError =>
          obtain ⟨closes, finished⟩ := close_finished platform polled.state
          simp only [callSession, closes]
          obtain ⟨next, resets, replaced⟩ := resetFinished_finished new
            { controller with
              session := some (number, (LinkedSession.act platform .close polled.state).state)
              pauseCtx :=
                (LinkedSession.act platform .close polled.state).state.session.fsm.ctx.pauseCtx
              nextEvent := offsetTimePointByMs clock pollManagerTimeoutMs } rfl finished
          rw [resets]
          exact .caught result ⟨replaced.sound, replaced.later⟩
      | _ =>
          simp only [Act.bind_apply, Act.modify_apply, Act.throw_apply, List.append_nil]
          exact .aborted result (by simp) rfl rfl rfl

section Rounds

variable {platform : Platform} {env : PollEnv} {controller : TbdController} {number : Nat}
  {linked : LinkedSession}

variable (platform env) in
theorem poll_hushed (current : controller.session = some (number, linked)) (sound : controller.Sound)
    (looping : controller.looping = true) :
    closes (LinkedSession.act platform (.poll env) linked).log = 0 ∧
      dlinkSignals (LinkedSession.act platform (.poll env) linked).log = [] := by
  -- A poll that throws or returns does not close the session of a sound controller.
  have running := sound.running number linked current looping
  have idle := sound.linked number linked current
  cases result : (LinkedSession.act platform (.poll env) linked).result with
  | ok _ =>
      have quiet := (LinkedSession.poll_running idle env running result).1
      exact ⟨quiet.closes, quiet.dlink⟩
  | error e =>
      have drives := LinkedSession.poll_threw env result
      exact ⟨drives.closes, drives.dlink idle.idle⟩

theorem iterate_undisturbed (clock : TimePoint) (new : NewSession) (looping : controller.looping = true) :
    Undisturbed controller (iterate platform clock env new controller).state
      (iterate platform clock env new controller).log := by
  intro sound
  cases current : controller.session with
  | none =>
      have idles : iterate platform clock env new controller =
          ⟨.ok (), { controller with nextEvent := offsetTimePointByMs clock pollManagerTimeoutMs }, []⟩ := by
        simp [iterate, Act.bind_apply, Act.tryCatch, pollSession, resetFinished, current]
      rw [idles]
      exact Undisturbed.still (s := controller) rfl rfl rfl sound
  | some session =>
      obtain ⟨number, linked⟩ := session
      have running := sound.running number linked current looping
      have idle := sound.linked number linked current
      have hushed := poll_hushed platform env current sound looping
      have bounded := sound.numbered number linked current
      have round := iterate_round platform clock env new current
      have still : (LinkedSession.act platform (.poll env) linked).state.Linked :=
        LinkedSession.linked_step idle (.poll env)
      have runs : (LinkedSession.act platform (.poll env) linked).result = .ok () →
          (LinkedSession.act platform (.poll env) linked).state.session.isFinished = false →
          (LinkedSession.act platform (.poll env) linked).state.Running := by
        intro returned unfinished
        rcases (LinkedSession.poll_running idle env running returned).2 with runs | closing
        · exact runs
        · exact absurd closing.1.finished (by simp [unfinished])
      generalize (iterate platform clock env new controller).state = next at round ⊢
      generalize (iterate platform clock env new controller).log = log at round ⊢
      generalize LinkedSession.act platform (.poll env) linked = outcome at *
      have hushed (other : Nat) : Hushed other (outcome.log.map (.session number)) :=
        hushed_session fun _ => hushed
      -- a session that comes later says nothing in this round
      have absent {other : Nat} (later : controller.count < other) (outs : List SessionOutput) :
          Hushed other (outs.map (.session number)) :=
        hushed_session fun same => by omega
      cases round with
      | goesOn returned unfinished session count =>
          obtain ⟨sound, earlier⟩ := Undisturbed.kept sound current session count still fun _ =>
            runs returned unfinished
          refine ⟨sound, fun other ahead => ⟨earlier other ahead, (hushed other).append ⟨rfl, rfl, ?_⟩⟩⟩
          simpa using fun _ => unfinished
      | finished returned finished replaced =>
          refine ⟨replaced.sound, fun other ahead => ?_⟩
          have later := replaced.later other ahead
          refine ⟨.inl later, ((hushed other).append ⟨rfl, rfl, ?_⟩).append ⟨rfl, rfl, by simp⟩⟩
          simp only [List.mem_singleton, ControllerOutput.polled.injEq]
          omega
      | caught threw replaced =>
          refine ⟨replaced.sound, fun other ahead => ?_⟩
          have later := replaced.later other ahead
          exact ⟨.inl later, (((hushed other).append ⟨rfl, rfl, by simp⟩).append (absent later _)).append
            ⟨rfl, rfl, by simp⟩⟩
      | aborted threw other session count stopped =>
          obtain ⟨sound, earlier⟩ := Undisturbed.kept sound current session count still fun looping =>
            absurd looping (by simp [stopped])
          exact ⟨sound, fun number ahead => ⟨earlier number ahead, (hushed number).append
            ⟨rfl, rfl, by simp⟩⟩⟩

theorem wait_undisturbed (clock : TimePoint) (throws : Bool) : Act.Keeps Undisturbed (wait clock throws) := by
  refine .bind .trans (.get fun _ => .still rfl rfl rfl) fun controller => ?_
  refine .bind .trans (fun _ sound => ⟨sound, fun _ ahead => ⟨ahead, rfl, rfl, by simp⟩⟩) fun _ => ?_
  refine .ite (fun _ => fun controller sound => ?_) fun _ => .pure (fun _ => .still rfl rfl rfl) ()
  exact ⟨⟨sound.numbered, sound.linked, by simp⟩, fun number ahead => ⟨ahead, .nil number⟩⟩

variable (platform) in
theorem act_undisturbed (input : ControllerInput) : Act.Keeps Undisturbed (act platform input) := by
  intro controller
  cases input with
  | iterate clock env new =>
      rw [act_iterate]
      by_cases looping : controller.looping = true
      · rw [if_pos looping]
        exact iterate_undisturbed clock new looping
      · rw [if_neg looping]
        exact .still rfl rfl rfl
  | wait clock throws =>
      rw [act_wait]
      by_cases looping : controller.looping = true
      · rw [if_pos looping]
        exact wait_undisturbed clock throws controller
      · rw [if_neg looping]
        exact .still rfl rfl rfl
  | _ => exact (undisturbed_rule platform).act _ rfl controller

end Rounds

theorem polled_iterates (platform : Platform) {controller : TbdController} {input : ControllerInput}
    {number : Nat} {result : Except Exn Unit} {session : IsoSession}
    (polled : .polled number result session ∈ (act platform input controller).log) :
    ∃ clock env new, input = .iterate clock env new ∧ controller.looping = true ∧
      ∃ other linked, controller.session = some (other, linked) := by
  -- Only the rounds of `loop` poll a session, those in which there is one.
  have rule : CallRule platform (Lacks fun out => ∃ number result session, out = .polled number result session) :=
    Lacks.rule platform (by simp)
  cases input with
  | iterate clock env new =>
      rw [act_iterate] at polled
      by_cases looping : controller.looping = true
      · refine ⟨clock, env, new, rfl, looping, ?_⟩
        cases current : controller.session with
        | none => simp [looping, iterate, Act.bind_apply, Act.tryCatch, pollSession, resetFinished, current] at polled
        | some session => exact ⟨session.1, session.2, rfl⟩
      · simp [looping] at polled
  | wait clock throws =>
      rw [act_wait] at polled
      by_cases looping : controller.looping = true
      · cases throws <;> simp [looping, wait, Act.bind_apply] at polled
      · simp [looping] at polled
  | _ => exact absurd ⟨_, _, _, rfl⟩ (rule.act _ rfl controller _ polled)

structure Calm (past : List ControllerStep) (controller : TbdController) : Prop where
  sound : controller.Sound
  hushed : ∀ number, controller.Ahead number →
    closes (sessionLog number (controllerOutputs past)) = 0 ∧
      dlinkSignals (sessionLog number (controllerOutputs past)) = [] ∧
      ∀ record ∈ past, ¬Finishes number record (.ok ())

theorem controllerOutputs_concat (past : List ControllerStep) (record : ControllerStep) :
    controllerOutputs (past ++ [record]) = controllerOutputs past ++ record.outputs := by
  simp [controllerOutputs]

theorem calm_step (platform : Platform) {past : List ControllerStep} {controller : TbdController}
    (calm : Calm past controller) (input : ControllerInput) :
    Calm (past ++ [Machine.stepOf (act platform) controller input]) (act platform input controller).state := by
  obtain ⟨sound, earlier⟩ := act_undisturbed platform input controller calm.sound
  refine ⟨sound, fun number ahead => ?_⟩
  obtain ⟨ahead, hushed⟩ := earlier number ahead
  obtain ⟨closes, dlink, unfinished⟩ := calm.hushed number ahead
  refine ⟨?_, ?_, ?_⟩
  · rw [controllerOutputs_concat, sessionLog_append, closes_append, closes, Machine.stepOf_outputs,
      hushed.closes]
  · rw [controllerOutputs_concat, sessionLog_append, dlinkSignals_append, dlink, Machine.stepOf_outputs,
      hushed.dlink]
    rfl
  · intro record member finishes
    rcases List.mem_append.mp member with before | here
    · exact unfinished record before finishes
    · obtain rfl := List.mem_singleton.mp here
      obtain ⟨-, session, polled, finished⟩ := finishes
      exact absurd (hushed.unfinished session polled) (by simp [finished])

theorem calm_new (config : TbdConfig) (setup : EvseSetupConfig) (first : NewSession) (clock : TimePoint) :
    Calm [] (new config setup first clock) := by
  refine ⟨?_, fun _ _ => ⟨rfl, rfl, by simp⟩⟩
  unfold new
  by_cases sdp : config.enableSdpServer = true
  · simp only [sdp, if_true]
    exact ⟨by simp, by simp, by simp⟩
  · simp only [sdp]
    exact (Undisturbed.fresh (s := { config, evseSetup := setup, nextEvent := clock }) rfl rfl
      (LinkedSession.linked_new ..) ⟨rfl, rfl⟩).1

end TbdController

open TbdController in
/-- The controller destroys a finished session at once. Its teardown is orderly exactly when it is not
paused and its last poll has thrown. -/
theorem orderly_teardown_iff (platform : Platform) (config : TbdConfig) (setup : EvseSetupConfig)
    (first : NewSession) (clock : TimePoint) (inputs : List ControllerInput)
    {past future : List ControllerStep} {record : ControllerStep} {number : Nat}
    {result : Except Exn Unit} {session : IsoSession}
    (split : Machine.steps (act platform) (.new config setup first clock) inputs = past ++ record :: future)
    (polled : .polled number result session ∈ record.outputs)
    (ends : session.isFinished = true ∨ result = .error .runtimeError)
    (caught : result = .ok () ∨ result = .error .runtimeError) :
    ∃ destroyed, .destroyed number destroyed ∈ record.outputs ∧
      (OrderlyTeardown (past ++ [record]) number destroyed ↔
        result = .error .runtimeError ∧ destroyed.fsm.ctx.sessionPaused = false) := by
  obtain ⟨before, input, after, rfl, rfl, rfl⟩ := Machine.split_of_steps (act platform) split
  have calm : Calm _ (Machine.final (act platform) (new config setup first clock) before) :=
    Machine.run_induction (act platform) _ (calm_new config setup first clock)
      (fun _ _ input calm => calm_step platform calm input) before
  generalize Machine.final (act platform) (new config setup first clock) before = controller at *
  generalize Machine.steps (act platform) (new config setup first clock) before = past at *
  obtain ⟨clock, env, new, rfl, looping, other, linked, current⟩ := polled_iterates platform polled
  obtain ⟨closes, dlink⟩ := poll_hushed platform env current calm.sound looping
  obtain ⟨closes', dlink', early⟩ := calm.hushed other (.inr ⟨linked, current⟩)
  have round := iterate_round platform clock env new current
  have outputs : (Machine.stepOf (act platform) controller (.iterate clock env new)).outputs =
      (iterate platform clock env new controller).log := by
    rw [Machine.stepOf_outputs, act_iterate, if_pos looping]
  rw [outputs] at polled ⊢
  generalize (iterate platform clock env new controller).log = log at *
  generalize (iterate platform clock env new controller).state = next at round
  cases round with
  | goesOn returned unfinished =>
      obtain ⟨rfl, rfl, rfl⟩ : number = other ∧ result = .ok () ∧ session = _ := by simpa using polled
      simp [unfinished] at ends
  | finished returned finished =>
      obtain ⟨rfl, rfl, rfl⟩ : number = other ∧ result = .ok () ∧ session = _ := by simpa using polled
      refine ⟨_, List.mem_append_right _ (List.mem_singleton_self _), fun orderly => ?_, by simp⟩
      -- nothing has closed the connection
      have closed := orderly.closed
      rw [controllerOutputs_concat, outputs] at closed
      simp [closes, closes'] at closed
  | aborted threw exn =>
      obtain ⟨rfl, rfl, rfl⟩ : number = other ∧ result = .error _ ∧ session = _ := by simpa using polled
      simp [exn] at caught
  | caught threw =>
      obtain ⟨rfl, rfl, rfl⟩ : number = other ∧ result = .error .runtimeError ∧ session = _ := by
        simpa using polled
      refine ⟨_, List.mem_append_right _ (List.mem_singleton_self _), ?_⟩
      have logged : sessionLog number (controllerOutputs
            (past ++ [Machine.stepOf (act platform) controller (.iterate clock env new)])) =
          sessionLog number (controllerOutputs past) ++
            (LinkedSession.act platform (.poll env) linked).log ++
            (LinkedSession.act platform .close
              (LinkedSession.act platform (.poll env) linked).state).log := by
        rw [controllerOutputs_concat, outputs]
        simp
      have terminates : dlinkSignals (LinkedSession.act platform .close
          (LinkedSession.act platform (.poll env) linked).state).log = [.dlinkTerminate] := rfl
      constructor
      · intro orderly
        have signalled := orderly.signalled
        rw [logged, dlinkSignals_append, dlinkSignals_append, dlink', dlink,
          terminates] at signalled
        refine ⟨rfl, ?_⟩
        by_contra paused
        simp [paused] at signalled
      · rintro ⟨-, terminated⟩
        refine ⟨?_, ?_, ?_⟩
        · rw [logged, closes_append, closes_append, closes', closes]
          exact le_refl 1
        · rw [logged, dlinkSignals_append, dlinkSignals_append, dlink', dlink, terminated]
          rfl
        · intro finishing member finishes
          rcases List.mem_append.mp member with before | here
          · exact absurd finishes (early finishing before)
          · obtain rfl := List.mem_singleton.mp here
            obtain ⟨-, session, returned, -⟩ := finishes
            rw [outputs] at returned
            simp at returned

namespace Sample

def unexpected : List ControllerInput :=
  [.accept, .opened, .data, .iterate 0 { reads := [fun _ => emptyPacket] } {}]

def broken : List ControllerInput :=
  [.accept, .opened, .data, .iterate 0 { reads := [fun _ => .error .runtimeError] } {}]

end Sample

open TbdController Sample in
/-- A session that an unexpected message stops is destroyed in the same round, and nothing is closed. -/
theorem orderly_teardown_unexpected :
    ¬∀ (inputs : List ControllerInput) (past future : List ControllerStep) (record : ControllerStep)
      (number : Nat) (result : Except Exn Unit) (session : IsoSession),
      Machine.steps (act platform) controller inputs = past ++ record :: future →
      .polled number result session ∈ record.outputs →
      (session.isFinished = true ∨ result = .error .runtimeError) →
      (result = .ok () ∨ result = .error .runtimeError) →
      ∃ destroyed, .destroyed number destroyed ∈ record.outputs ∧
        OrderlyTeardown (past ++ [record]) number destroyed := by
  intro orderly
  obtain ⟨destroyed, -, teardown⟩ := orderly unexpected
    (Machine.steps (act platform) controller (unexpected.take 3)) []
    (Machine.stepOf (act platform) (Machine.final (act platform) controller (unexpected.take 3))
      (.iterate 0 { reads := [fun _ => emptyPacket] } {})) 1 (.ok ()) _ rfl
    (List.mem_cons_of_mem _ (List.mem_cons_of_mem _ List.mem_cons_self)) (.inl (by decide +kernel)) (.inl rfl)
  have silent : closes (sessionLog 1 (controllerOutputs
      (Machine.steps (act platform) controller unexpected))) = 0 := by decide +kernel
  have closed : 1 ≤ closes (sessionLog 1 (controllerOutputs
      (Machine.steps (act platform) controller unexpected))) := teardown.closed
  rw [silent] at closed
  exact absurd closed (by decide)

open TbdController Sample in
theorem orderly_teardown_broken :
    ∃ destroyed, .destroyed 1 destroyed ∈ (Machine.stepOf (act platform)
        (Machine.final (act platform) controller (broken.take 3))
        (.iterate 0 { reads := [fun _ => .error .runtimeError] } {})).outputs ∧
      (OrderlyTeardown (Machine.steps (act platform) controller broken) 1 destroyed ↔
        Except.error Exn.runtimeError = (Except.error Exn.runtimeError : Except Exn Unit) ∧
          destroyed.fsm.ctx.sessionPaused = false) := by
  have split : Machine.steps (act platform) controller broken =
      Machine.steps (act platform) controller (broken.take 3) ++
        Machine.stepOf (act platform) (Machine.final (act platform) controller (broken.take 3))
          (.iterate 0 { reads := [fun _ => .error .runtimeError] } {}) :: [] := rfl
  exact orderly_teardown_iff platform { enableSdpServer := false } setup {} 0 broken split
    List.mem_cons_self (.inr rfl) (.inr rfl)

end LibIso15118
