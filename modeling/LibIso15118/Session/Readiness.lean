import LibIso15118.Io.Reads
import LibIso15118.Session.RequestSlot
import LibIso15118.Fsm.Exchange

set_option autoImplicit false

namespace LibIso15118

open Datatypes Shared

def SessionOutput.isWrite : SessionOutput → Bool
  | .write _ _ => true
  | _ => false

namespace IsoSession

structure Untouched (session : IsoSession) : Prop where
  newData : session.newData = false
  packet : session.packet = {}
  state : session.fsm.state.id = .supportedAppProtocol
  pending : session.fsm.ctx.pendingResponse = none
  idle : session.fsm.ctx.request = none

def StaysUntouched (session session' : IsoSession) (log : List SessionOutput) : Prop :=
  session.Untouched → session'.Untouched ∧ ∀ out ∈ log, out.isWrite = false

theorem StaysUntouched.refl (session : IsoSession) :
    StaysUntouched session session [] := fun untouched => ⟨untouched, by simp⟩

theorem StaysUntouched.trans {s t u : IsoSession} {l l' : List SessionOutput}
    (first : StaysUntouched s t l) (next : StaysUntouched t u l') :
    StaysUntouched s u (l ++ l') := by
  intro untouched
  obtain ⟨between, silent⟩ := first untouched
  obtain ⟨after, silent'⟩ := next between
  exact ⟨after, fun out member => (List.mem_append.mp member).elim (silent out) (silent' out)⟩

variable (platform : Platform)

theorem dispatch_untouched {input : Input} (other : input.variant? = none) :
    Act.Keeps StaysUntouched (dispatch platform input) := by
  -- Without a message the machine stays where it is and has nothing to answer.
  intro session untouched
  have elsewhere : session.fsm.state.id ≠ .powerDelivery := by simp [untouched.state]
  have quiet : ¬session.fsm.Moves input := by
    rintro (⟨env, variant, rfl⟩ | ⟨env, event, rfl, _, _, _, delivery, -⟩)
    · cases other
    · simp [delivery, State.id] at elsewhere
  have unanswered : ¬session.fsm.Answers input := by
    intro answers
    cases input with
    | message env variant => cases other
    | control env event =>
        obtain ⟨_, _, _, delivery, -⟩ := answers
        simp [delivery, State.id] at elsewhere
    | timeout env type => exact elsewhere answers.1
    | _ => exact answers
  have frame := Fsm.step_frame platform session.fsm input untouched.idle
  have exchanges := (Fsm.step_exchanges platform untouched.idle input).unanswered unanswered
  have pending : (Fsm.step platform input session.fsm).state.ctx.pendingResponse = none := by
    by_cases taken : input = .takeResponse
    · subst taken
      rfl
    · rw [exchanges.2 taken, untouched.pending]
  refine ⟨⟨untouched.newData, untouched.packet, ?_, pending, frame.idle⟩, by simp [dispatch,
    SessionOutput.isWrite]⟩
  rw [← untouched.state]
  exact (frame.quiet quiet).1

theorem sendControlEvents_untouched (env : Nat → Env) (index : Nat) (events : List ControlEvent) :
    Act.Keeps StaysUntouched (sendControlEvents platform env index events) := by
  induction events generalizing index with
  | nil => exact .pure .refl ()
  | cons event rest hyp =>
      refine .bind .trans ?_ fun _ => .bind .trans (dispatch_untouched platform rfl) fun _ => hyp _
      exact fun session untouched =>
        ⟨⟨untouched.newData, untouched.packet, untouched.state, untouched.pending,
        untouched.idle⟩, by simp⟩

theorem checkTimeouts_untouched (env : PollEnv) : Act.Keeps StaysUntouched (checkTimeouts platform env) := by
  have handles (types : List TimeoutType) :
      Act.Keeps StaysUntouched (handleTimeouts platform env.timeout types) := by
    induction types with
    | nil => exact .pure .refl ()
    | cons type rest hyp =>
        cases type
        case sequence => exact dispatch_untouched platform rfl
        all_goals exact .bind .trans (dispatch_untouched platform rfl) fun _ => hyp
  exact .bind .trans (.get .refl) fun _ => handles _

theorem receive_untouched (env : PollEnv) : Act.Keeps StaysUntouched (receive env) := by
  intro session untouched
  simp only [receive, untouched.newData, Bool.false_eq_true, if_false]
  exact ⟨untouched, by simp⟩

theorem handlePacket_untouched (env : PollEnv) : Act.Keeps StaysUntouched (handlePacket platform env) := by
  intro session untouched
  have incomplete : session.packet.isComplete = false := by
    rw [untouched.packet]
    rfl
  simp only [handlePacket, Act.get_bind, incomplete, Bool.false_eq_true, if_false]
  exact StaysUntouched.refl session untouched

theorem sendResponse_untouched (env : PollEnv) : Act.Keeps StaysUntouched (sendResponse platform env) := by
  intro session untouched
  have taken := dispatch_untouched platform (rfl : Input.takeResponse.variant? = none) session untouched
  simp only [sendResponse, Act.get_bind, untouched.pending]
  exact StaysUntouched.trans (fun _ => taken) (StaysUntouched.refl _) untouched

theorem poll_untouched (env : PollEnv) : Act.Keeps StaysUntouched (poll platform env) := by
  have closes (now : TimePoint) : Act.Keeps StaysUntouched (closeWhenDue now) := by
    intro session untouched
    have kept : Untouched { session with
        connected := (closeWhenDue now session).state.connected
        delayedCloseAt := (closeWhenDue now session).state.delayedCloseAt
        nextSessionEvent := (closeWhenDue now session).state.nextSessionEvent } :=
      ⟨untouched.newData, untouched.packet, untouched.state, untouched.pending, untouched.idle⟩
    have step := (closeWhenDue_step now session).2
    generalize (closeWhenDue now session).state = session' at step kept ⊢
    generalize (closeWhenDue now session).log = log at step ⊢
    cases step <;> exact ⟨kept, by simp [SessionOutput.isWrite]⟩
  refine .bind .trans (.get .refl) fun session => .ite (fun _ => ?_) fun _ => ?_
  · refine .bind .trans (receive_untouched env) fun _ =>
      .bind .trans (sendControlEvents_untouched platform _ _ _) fun _ => ?_
    refine .bind .trans (checkTimeouts_untouched platform env) fun _ => ?_
    refine .bind .trans (handlePacket_untouched platform env) fun _ => ?_
    exact .bind .trans (sendResponse_untouched platform env) fun _ => closes env.now
  · exact fun session untouched => ⟨⟨untouched.newData, untouched.packet, untouched.state, untouched.pending,
      untouched.idle⟩, by simp [wakeUp]⟩

theorem poll_waiting {env : PollEnv} (real : ∀ read ∈ env.reads, FromConnection read) {session : IsoSession}
    (idle : session.fsm.ctx.request = none) (waiting : session.packet.Waiting)
    (returned : (poll platform env session).result = .ok ()) :
    (poll platform env session).state.packet.Waiting := by
  -- A poll that returns leaves a packet that may be read into.
  have received : (receive env session).result = .ok () → Readable (receive env session).state.packet := by
    unfold receive
    by_cases data : session.newData = true
    · have readable := readSingle_readable real waiting
      rw [Act.wp_iff] at readable
      simp only [data, if_true]
      cases result : (readSingleSdpPacket scripted ⟨env.reads, session.packet⟩).result with
      | error e => simp
      | ok blocked => exact fun _ => readable blocked result
    · simp only [data]
      exact fun _ => .inl waiting
  obtain ⟨silent, fsm⟩ := receive_finishes env session
  have prepared : Act.wp (prepare platform env session.controlEventQueue)
      (fun result session' _ => result = .ok () → session'.packet.Waiting) session := by
    have parts : prepare platform env session.controlEventQueue = receive env >>= fun _ =>
        (sendControlEvents platform env.control 0 session.controlEventQueue >>= fun _ =>
          checkTimeouts platform env) >>= fun _ => handlePacket platform env := by
      simp only [prepare, Act.bind_assoc]
    rw [parts, Act.wp_bind, Act.wp_iff]
    cases result : (receive env session).result with
    | error e => simp
    | ok _ =>
        have quiet : Act.wp (sendControlEvents platform env.control 0 session.controlEventQueue >>= fun _ =>
            checkTimeouts platform env) (FeedsNothing (receive env session).state)
              (receive env session).state :=
          FeedsNothing.bind (sendControlEvents_feedsNothing platform _ _ _ _)
            (checkTimeouts_feedsNothing platform env)
        dsimp only
        rw [Act.wp_bind]
        refine Act.wp_mono _ _ quiet ?_
        rintro _ session' log ⟨rfl, packet, -, still⟩
        have empty := still (fsm ▸ idle)
        simp only [handlePacket, Act.wp_bind, Act.wp_get, Act.wp_ite, packet]
        refine ⟨fun complete => ?_, fun incomplete _ => packet ▸ (received result).resolve_right incomplete⟩
        cases platform.decode (receive env session).state.packet.getPayloadType
            (receive env session).state.packet.getPayload with
        | error e => simp
        | ok variant =>
            simp only [empty, Option.isNone_none, if_true]
            exact fun _ => .empty [] (by decide)
  refine wp_poll_returns platform env session (fun session' _ => session'.packet.Waiting)
    (fun _ => waiting) ?_ returned
  intro between log sent log' closed log'' _ prepares sends closes
  have here : between.packet.Waiting := by
    rw [Act.wp_iff, prepares] at prepared
    exact prepared rfl
  have kept := (sendResponse_finishes platform env between).1
  rw [sends] at kept
  rw [(closeStep_finishes closes).1, kept]
  exact here

end IsoSession

end LibIso15118
