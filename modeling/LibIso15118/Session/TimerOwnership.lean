import LibIso15118.Fsm.Timers
import LibIso15118.Session.SpuriousStop

set_option autoImplicit false

namespace LibIso15118

open Datatypes Shared

def State.Owns (state : State) : TimeoutType → Prop
  | .ongoing => state.id = .authorization ∨ state.id = .scheduleExchange
  | .contactor => ∃ self req, state = .powerDelivery self ∧ self.previousReq = some req ∧
      req.chargeProgress = .start
  | _ => True

theorem Timeouts.Unarmed.check {timeouts : Timeouts} (unarmed : timeouts.Unarmed)
    (clock : TimeoutType → TimePoint) :
    timeouts.check clock = none ∨ timeouts.check clock = some [.sequence] := by
  have performance := unarmed .performance (by simp)
  have ongoing := unarmed .ongoing (by simp)
  have contactor := unarmed .contactor (by simp)
  simp only [Timeouts.check, performance, ongoing, contactor]
  cases timeouts.deadline .sequence with
  | none => exact .inl rfl
  | some point =>
      by_cases reached : point ≤ clock .sequence
      · exact .inr (by simp [reached, insertByDeadline])
      · exact .inl (by simp [reached])

namespace IsoSession

variable (platform : Platform)

structure Unfired (session session' : IsoSession) (log : List SessionOutput) : Prop where
  follows : Follows platform session session' log
  unfired : session.fsm.ctx.request = none → session.fsm.Disarmed →
    ∀ record ∈ machineSteps log, ∀ env type, record.input = .timeout env type →
      record.before.ctx.sessionStopped = true

namespace Unfired

variable {platform} {s t u : IsoSession} {l l' : List SessionOutput}

theorem trans (first : Unfired platform s t l) (next : Unfired platform t u l') :
    Unfired platform s u (l ++ l') := by
  refine ⟨first.follows.trans next.follows, fun idle disarmed record member => ?_⟩
  obtain ⟨idle', disarmed'⟩ := first.follows.keeps (motive := Fsm.Disarmed)
    (fun fsm input idle disarmed => Fsm.disarmed_step platform idle disarmed input) idle disarmed
  rw [machineSteps_append] at member
  exact (List.mem_append.mp member).elim (first.unfired idle disarmed record)
    (next.unfired idle' disarmed' record)

theorem still (same : t.fsm = s.fsm) : Unfired platform s t [] := ⟨.of_fsm rfl same, by simp⟩

end Unfired

theorem dispatch_unfired {input : Input} (other : ∀ env type, input ≠ .timeout env type) :
    Act.Keeps (Unfired platform) (dispatch platform input) := by
  refine fun session => ⟨(dispatch_drives platform input session).follows, fun _ _ record member => ?_⟩
  obtain rfl := List.mem_singleton.mp member
  exact fun env type same => absurd same (other env type)

theorem dispatch_unfired_stopped (input : Input) (session : IsoSession)
    (stopped : session.fsm.ctx.sessionStopped = true) :
    Unfired platform session (dispatch platform input session).state
      (dispatch platform input session).log := by
  -- Once the session is stopped, its timers may be reached.
  refine ⟨(dispatch_drives platform input session).follows, fun _ _ record member _ _ _ => ?_⟩
  obtain rfl := List.mem_singleton.mp member
  exact stopped

theorem handleTimeouts_unfired (env : TimeoutType → Env) (types : List TimeoutType) (session : IsoSession)
    (idle : session.fsm.ctx.request = none) (stopped : session.fsm.ctx.sessionStopped = true) :
    Unfired platform session (handleTimeouts platform env types session).state
      (handleTimeouts platform env types session).log := by
  induction types generalizing session with
  | nil => exact .still rfl
  | cons type rest hyp =>
      have fires (input : Input) : Unfired platform session
          ((dispatch platform input >>= fun _ => handleTimeouts platform env rest) session).state
          ((dispatch platform input >>= fun _ => handleTimeouts platform env rest) session).log := by
        have first := dispatch_unfired_stopped platform input session stopped
        have frame := Fsm.step_frame platform session.fsm input idle
        rw [Act.bind_apply]
        cases (dispatch platform input session).result with
        | error e => exact first
        | ok _ => exact first.trans (hyp _ frame.idle (frame.stopped stopped))
      cases type
      case sequence => exact dispatch_unfired platform (by simp) session
      all_goals exact fires _

theorem checkTimeouts_unfired (env : PollEnv) : Act.Keeps (Unfired platform) (checkTimeouts platform env) := by
  intro session
  have rule : PollRule platform (Drives platform) :=
    .of_dispatch .trans .of_fsm (dispatch_drives platform) (sendResponse_drives platform)
  have drives := rule.check env session
  refine ⟨drives.follows, fun idle disarmed => ?_⟩
  rw [checkTimeouts, Act.get_bind]
  by_cases stopped : session.fsm.ctx.sessionStopped = true
  · exact (handleTimeouts_unfired platform _ _ session idle stopped).unfired idle disarmed
  · rcases (disarmed (by simpa using stopped)).check env.clock with none | sequence
    · simp [none, handleTimeouts]
    · rw [sequence]
      exact (dispatch_unfired platform (by simp) session).unfired idle disarmed

theorem sendResponse_unfired (env : PollEnv) : Act.Keeps (Unfired platform) (sendResponse platform env) := by
  have refl (session : IsoSession) : Unfired platform session session [] := .still rfl
  have silent {out : SessionOutput} (step : out.step? = none) :
      Act.Keeps (Unfired platform) (Act.emit out : SessionAct Unit) :=
    fun _ => ⟨.of_fsm (by simp [machineSteps, step]) rfl, by simp [machineSteps, step]⟩
  refine .bind .trans (.get refl) fun session => .bind .trans (dispatch_unfired platform (by simp)) fun _ => ?_
  cases session.fsm.ctx.pendingResponse with
  | none => exact .pure refl ()
  | some pending =>
      refine .ite (fun _ => .throw refl _) fun _ => .bind .trans (silent rfl) fun _ => ?_
      exact .bind .trans (dispatch_unfired platform (by simp)) fun _ => silent rfl

theorem poll_unfired (env : PollEnv) : Act.Keeps (Unfired platform) (poll platform env) := by
  refine poll_keeps platform ⟨.trans, fun same _ _ => .still same, fun _ => dispatch_unfired platform,
    checkTimeouts_unfired platform, sendResponse_unfired platform⟩ ?_ env
  intro now s t l step
  cases step <;> exact ⟨.of_fsm rfl rfl, by simp [machineSteps, SessionOutput.step?]⟩

theorem handleConnectionEvent_unfired (event : ConnectionEvent) :
    Act.Keeps (Unfired platform) (handleConnectionEvent platform event) := by
  cases event with
  | opened =>
      refine .bind .trans (.get fun _ => .still rfl) fun session => ?_
      cases session.vehicle with
      | none => exact .pure (fun _ => .still rfl) ()
      | some hash => exact dispatch_unfired platform (by simp)
  | _ => exact fun _ => .still rfl

theorem close_unfired : Act.Keeps (Unfired platform) (close platform) := by
  refine fun session => ⟨close_follows platform session, fun _ _ record member => ?_⟩
  obtain rfl := List.mem_singleton.mp member
  simp

end IsoSession

namespace LinkedSession

variable (platform : Platform)

theorem act_unfired (input : SessionInput) (linked : LinkedSession) :
    IsoSession.Unfired platform linked.session (act platform input linked).state.session
      (act platform input linked).log :=
  act_keeps platform .still (IsoSession.handleConnectionEvent_unfired platform)
    (IsoSession.poll_unfired platform) (IsoSession.close_unfired platform) input linked

/-- In a session that runs no other timer than SEQUENCE is armed. A state that starts ONGOING or CONTACTOR returns
an empty result from the same `feed`, which stops the session. -/
theorem reached_disarmed (config : SessionConfig) (pauseCtx : Option PauseContext)
    (vehicle : Option Sha512Hash) (id : SessionId) (now : TimePoint) (inputs : List SessionInput) :
    (reached platform (.new config pauseCtx vehicle id now) inputs).session.fsm.ctx.request = none ∧
      (reached platform (.new config pauseCtx vehicle id now) inputs).session.fsm.Disarmed := by
  refine Machine.run_induction (act platform) _
    (motive := fun _ linked => linked.session.fsm.ctx.request = none ∧ linked.session.fsm.Disarmed)
    ⟨rfl, fun _ _ _ => rfl⟩ ?_ inputs
  rintro _ linked input ⟨idle, disarmed⟩
  exact (act_follows platform input linked).keeps (motive := Fsm.Disarmed)
    (fun fsm input idle disarmed => Fsm.disarmed_step platform idle disarmed input) idle disarmed

end LinkedSession

open LinkedSession in
/-- In a session that runs a timer is armed, and reached, only in a state that owns it. For ONGOING and CONTACTOR
this is so because neither is ever armed there (`reached_disarmed`). -/
theorem timer_ownership (platform : Platform) (config : SessionConfig) (pauseCtx : Option PauseContext)
    (vehicle : Option Sha512Hash) (id : SessionId) (now : TimePoint) (inputs : List SessionInput)
    (input : SessionInput) :
    ((reached platform (.new config pauseCtx vehicle id now) inputs).session.isFinished = false →
      ∀ type, ((reached platform (.new config pauseCtx vehicle id now)
          inputs).session.fsm.ctx.timeouts.deadline type).isSome = true →
        (reached platform (.new config pauseCtx vehicle id now) inputs).session.fsm.state.Owns type) ∧
    ∀ fired ∈ machineSteps (act platform input
        (reached platform (.new config pauseCtx vehicle id now) inputs)).log,
      ∀ env type, fired.input = .timeout env type → fired.before.ctx.sessionStopped = false →
        fired.before.state.Owns type := by
  obtain ⟨idle, disarmed⟩ := reached_disarmed platform config pauseCtx vehicle id now inputs
  generalize reached platform (.new config pauseCtx vehicle id now) inputs = linked at *
  constructor
  · intro unfinished type armed
    have running : linked.session.fsm.ctx.sessionStopped = false := (Bool.or_eq_false_iff.mp unfinished).1
    cases type with
    | sequence | performance => trivial
    | ongoing => simp [disarmed running .ongoing] at armed
    | contactor => simp [disarmed running .contactor] at armed
  · intro fired here env type reached running
    have stopped := (act_unfired platform input linked).unfired idle disarmed fired here env type reached
    exact absurd stopped (by simp [running])

end LibIso15118
