import LibIso15118.Fsm.Settings
import LibIso15118.Session.Run

set_option autoImplicit false

namespace LibIso15118

open Datatypes Shared

namespace IsoSession

def expects (session : IsoSession) : SessionConfig :=
  session.controlEventQueue.foldl .receive session.fsm.ctx.sessionConfig.settings

structure Unheard (session session' : IsoSession) (_log : List SessionOutput) : Prop where
  queue : session'.controlEventQueue = session.controlEventQueue
  settings : session.fsm.ctx.request = none → session'.fsm.ctx.request = none ∧
    session'.fsm.ctx.sessionConfig.settings = session.fsm.ctx.sessionConfig.settings

namespace Unheard

theorem of_fsm {session session' : IsoSession} {log : List SessionOutput} (fsm : session'.fsm = session.fsm)
    (queue : session'.controlEventQueue = session.controlEventQueue) : Unheard session session' log := by
  refine ⟨queue, fun idle => ?_⟩
  rw [fsm]
  exact ⟨idle, rfl⟩

theorem refl (session : IsoSession) : Unheard session session [] := of_fsm rfl rfl

theorem trans {s t u : IsoSession} {l l' : List SessionOutput} (first : Unheard s t l)
    (next : Unheard t u l') :
    Unheard s u (l ++ l') := by
  refine ⟨next.queue.trans first.queue, fun idle => ?_⟩
  obtain ⟨idle', settings⟩ := first.settings idle
  obtain ⟨idle'', settings'⟩ := next.settings idle'
  exact ⟨idle'', settings'.trans settings⟩

theorem expects {session session' : IsoSession} {log : List SessionOutput}
    (unheard : Unheard session session' log)
    (idle : session.fsm.ctx.request = none) :
    session'.fsm.ctx.request = none ∧ session'.expects = session.expects := by
  obtain ⟨idle', settings⟩ := unheard.settings idle
  exact ⟨idle', by rw [IsoSession.expects, IsoSession.expects, unheard.queue, settings]⟩

end Unheard

variable (platform : Platform)

theorem dispatch_unheard {input : Input} (eventless : input.event? = none) :
    Act.Keeps Unheard (dispatch platform input) := by
  intro session
  refine ⟨rfl, fun idle => ⟨(Fsm.step_frame platform session.fsm input idle).idle, ?_⟩⟩
  have kept := Fsm.step_settings platform session.fsm input idle
  rw [eventless] at kept
  exact kept

theorem checkTimeouts_unheard (env : PollEnv) : Act.Keeps Unheard (checkTimeouts platform env) := by
  have handles (types : List TimeoutType) :
      Act.Keeps Unheard (handleTimeouts platform env.timeout types) := by
    induction types with
    | nil => exact .pure .refl ()
    | cons type rest hyp =>
        cases type
        case sequence => exact dispatch_unheard platform rfl
        all_goals exact .bind .trans (dispatch_unheard platform rfl) fun _ => hyp
  exact .bind .trans (.get .refl) fun _ => handles _

theorem handlePacket_unheard (env : PollEnv) : Act.Keeps Unheard (handlePacket platform env) := by
  refine .bind .trans (.get .refl) fun session => .ite (fun _ => ?_) fun _ => .pure .refl ()
  cases platform.decode session.packet.getPayloadType session.packet.getPayload with
  | error e => exact .throw .refl e
  | ok variant =>
      refine .ite (fun _ => ?_) fun _ => dispatch_unheard platform rfl
      exact .bind .trans (fun _ => .of_fsm rfl rfl) fun _ => dispatch_unheard platform rfl

theorem sendResponse_unheard (env : PollEnv) : Act.Keeps Unheard (sendResponse platform env) := by
  refine .bind .trans (.get .refl) fun session => .bind .trans (dispatch_unheard platform rfl) fun _ => ?_
  cases session.fsm.ctx.pendingResponse with
  | none => exact .pure .refl ()
  | some pending =>
      refine .ite (fun _ => .throw .refl _) fun _ => .bind .trans (fun _ => .of_fsm rfl rfl) fun _ => ?_
      exact .bind .trans (dispatch_unheard platform rfl) fun _ _ => .of_fsm rfl rfl

theorem receive_unheard (env : PollEnv) : Act.Keeps Unheard (receive env) := by
  intro session
  unfold receive
  by_cases data : session.newData = true
  · simp only [data, if_true]
    split <;> exact .of_fsm rfl rfl
  · simp only [data]
    exact .refl session

theorem sendControlEvents_expects (env : Nat → Env) (index : Nat) (events : List ControlEvent)
    {session : IsoSession}
    (queue : session.controlEventQueue = events) (idle : session.fsm.ctx.request = none) :
    Act.wp (sendControlEvents platform env index events) (fun result session' _ =>
      (session'.fsm.ctx.request = none ∧ session'.expects = session.expects) ∧
        (result = .ok () → session'.controlEventQueue = [])) session := by
  -- Every event leaves the queue when it reaches the machine, also when the machine throws.
  induction events generalizing index session with
  | nil => exact ⟨⟨idle, rfl⟩, fun _ => queue⟩
  | cons event rest hyp =>
      simp only [sendControlEvents, Act.wp_bind, Act.wp_modify]
      have fed := Fsm.step_settings platform session.fsm (.control (env index) event) idle
      have idle' := (Fsm.step_frame platform session.fsm (.control (env index) event) idle).idle
      have expects : IsoSession.expects { session with
          controlEventQueue := rest
          fsm := (Fsm.step platform (.control (env index) event) session.fsm).state } = session.expects := by
        rw [IsoSession.expects, IsoSession.expects, queue, fed]
        rfl
      simp only [Act.wp_iff, dispatch]
      cases result : (Fsm.step platform (.control (env index) event) session.fsm).result with
      | error e => exact ⟨⟨idle', expects⟩, by simp⟩
      | ok _ =>
          have later := @hyp (index + 1) { session with
            controlEventQueue := rest
            fsm := (Fsm.step platform (.control (env index) event) session.fsm).state } rfl idle'
          rw [Act.wp_iff, expects] at later
          exact later

/-- What came in is not lost, and nothing is left in the queue once the machine has returned. -/
def Heeds (session : IsoSession) (result : Except Exn Unit) (session' : IsoSession) : Prop :=
  (session'.fsm.ctx.request = none ∧ session'.expects = session.expects) ∧
    (result = .ok () → session'.controlEventQueue = [])

theorem advance_heeds (env : PollEnv) (session : IsoSession) (idle : session.fsm.ctx.request = none) :
    Act.wp (advance platform env session.controlEventQueue)
      (fun result session' _ => Heeds session result session')
      session := by
  have rest : Act.Keeps Unheard
      (checkTimeouts platform env >>= fun _ => handlePacket platform env >>= fun _ =>
      sendResponse platform env) := by
    refine .bind .trans (checkTimeouts_unheard platform env) fun _ => ?_
    exact .bind .trans (handlePacket_unheard platform env) fun _ => sendResponse_unheard platform env
  have received := receive_unheard env session
  obtain ⟨ready, expects⟩ := received.expects idle
  simp only [advance]
  rw [Act.wp_bind, Act.wp_iff]
  cases result : (receive env session).result with
  | error e => exact ⟨⟨ready, expects⟩, by simp⟩
  | ok _ =>
      dsimp only
      rw [Act.wp_bind]
      refine Act.wp_mono _ _ (sendControlEvents_expects platform env.control 0 session.controlEventQueue
        received.queue ready) ?_
      rintro result between log ⟨⟨heard, expects'⟩, drained⟩
      cases result with
      | error e => exact ⟨⟨heard, expects'.trans expects⟩, by simp⟩
      | ok _ =>
          have later := rest between
          obtain ⟨answered, expects''⟩ := later.expects heard
          exact ⟨⟨answered, expects''.trans (expects'.trans expects)⟩, fun _ =>
            later.queue.trans (drained rfl)⟩

theorem poll_heeds (env : PollEnv) (session : IsoSession) (idle : session.fsm.ctx.request = none) :
    Act.wp (poll platform env) (fun result session' _ =>
      (session'.fsm.ctx.request = none ∧ session'.expects = session.expects) ∧
        (session.connected = true → result = .ok () → session'.controlEventQueue = [])) session := by
  -- A poll loses no event, and one that returns leaves none behind.
  rw [wp_poll]
  refine ⟨fun disconnected => ⟨⟨idle, rfl⟩, by simp [disconnected]⟩, fun _ => ?_⟩
  have advanced := advance_heeds platform env session idle
  rw [Act.wp_iff] at advanced ⊢
  cases result : (advance platform env session.controlEventQueue session).result with
  | error e => exact ⟨advanced.1, by simp⟩
  | ok _ =>
      obtain ⟨⟨heard, expects⟩, drained⟩ := advanced
      refine Act.wp_mono _ _ (closeWhenDue_step env.now _) ?_
      rintro _ session' log ⟨-, step⟩
      have unheard : Unheard (advance platform env session.controlEventQueue session).state session' log := by
        cases step <;> exact .of_fsm rfl rfl
      obtain ⟨closed, expects'⟩ := unheard.expects heard
      exact ⟨⟨closed, expects'.trans expects⟩, fun _ _ => unheard.queue.trans (drained result)⟩

end IsoSession

end LibIso15118
