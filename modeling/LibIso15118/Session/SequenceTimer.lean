import LibIso15118.Session.ResponseBuffer

set_option autoImplicit false

namespace LibIso15118

open Datatypes Shared

/-- The last request has been answered, and the answer was written then. -/
def LastAnswered (history : List Traffic) (now : TimePoint) : Prop :=
  ∃ before variant res, history = before ++ [.received variant, .response res, .write res, .written now]

def Traffic.response? : Traffic → Option Response
  | .response res => some res
  | _ => none

def lastResponse (history : List Traffic) : Option Response := (history.filterMap (·.response?)).getLast?

/-- A timer runs while the session waits: SEQUENCE for the vehicle, or CONTACTOR for the contactor. -/
def Timed (history : List Traffic) (fsm : Fsm) : Prop :=
  (∃ now, LastAnswered history now ∧
    fsm.ctx.timeouts.deadline .sequence = some (offsetTimePointByMs now 60000)) ∨
  ∃ self req, fsm.state = .powerDelivery self ∧ self.previousReq = some req ∧
    (fsm.ctx.timeouts.deadline .contactor).isSome = true

def Traffic.negotiates : Traffic → Bool
  | .received (.request (.supportedAppProtocol _)) => true
  | _ => false

/-- A `SupportedAppProtocolReq` has been received. -/
def Negotiated (history : List Traffic) : Prop := history.any (·.negotiates) = true

instance (history : List Traffic) : Decidable (Negotiated history) := inferInstanceAs (Decidable (_ = true))

theorem StateId.later_of_mem_successors {id next : StateId} (successor : next ∈ id.successors) :
    next ≠ .supportedAppProtocol := by
  cases id <;> simp [StateId.successors] at successor <;> rcases successor with rfl | rfl | rfl <;> simp

theorem StateId.accepts_supportedAppProtocol {id : StateId} {req : Request} (accepts : id.accepts req = true)
    (negotiates : (Variant.request req).getType = .supportedAppProtocolReq) : id = .supportedAppProtocol := by
  cases req <;> cases id <;> simp_all [StateId.accepts, Variant.getType, Request.type]

namespace Fsm

variable (platform : Platform)

structure Served (fsm : Fsm) (variant : Variant) (fsm' : Fsm) (log : List Output) : Prop where
  answered : ∃ out, responses log = [out] ∧ fsm'.ctx.pendingResponse = platform.encode out
  unarmed : (fsm.state.id = .supportedAppProtocol → fsm.ctx.timeouts.deadline .sequence = none) →
    fsm'.ctx.timeouts.deadline .sequence = none
  later : fsm'.state.id ≠ .supportedAppProtocol

theorem message_served (env : Env) (variant : Variant) (fsm : Fsm) (idle : fsm.ctx.request = none) :
    Act.wp (step platform (.message env variant)) (fun result fsm' log =>
      result = .ok () → fsm'.ctx.sessionStopped = false → Served platform fsm variant fsm' log) fsm := by
  rw [wp_step_message platform env variant fsm idle]
  have pending := messageContext_request fsm.ctx variant
  have framed := State.message_frame platform env _ pending fsm.state
  have moved := State.moved_answers platform env _ fsm.state pending
  refine Act.wp_mono _ _ (Act.wp_and _ _ framed moved) ?_
  rintro result ctx' log ⟨frame, answers⟩ returned running
  rcases result with e | ⟨state', unhandled, newState⟩
  · cases returned
  obtain ⟨-, follows⟩ := frame.next state' ⟨unhandled, newState⟩ rfl
  cases newState with
  | none =>
      -- the message is unhandled, which stops the session
      obtain rfl : unhandled = true := follows
      simp [settle] at running
  | some new =>
      obtain ⟨rfl, next, successor, rfl⟩ := follows
      obtain ⟨req, rfl, accepts, out, sent, held⟩ := answers state' next.create rfl
      refine ⟨⟨out, by simpa [Output.response?] using sent, held⟩, fun fresh => ?_, ?_⟩
      · have same : ctx'.timeouts.deadline .sequence = _ := frame.sequence
        simp only [settle, Bool.false_eq_true, if_false]
        rw [same]
        by_cases negotiates : (Variant.request req).getType = .supportedAppProtocolReq
        · simp [messageContext, negotiates, fresh (StateId.accepts_supportedAppProtocol accepts negotiates)]
        · simp [messageContext, negotiates]
      · simp only [settle, Bool.false_eq_true, if_false, State.enter_id, StateId.create_id]
        exact StateId.later_of_mem_successors successor

end Fsm

namespace IsoSession

variable (platform : Platform)

/-- Where a session that runs stands between its steps. -/
inductive Phase (history : List Traffic) (fsm : Fsm) : Prop
  | fresh (silent : ∀ variant, .received variant ∉ history) (early : fsm.state.id = .supportedAppProtocol)
      (unarmed : fsm.ctx.timeouts.deadline .sequence = none) (empty : fsm.ctx.pendingResponse = none)
  | answered (before : List Traffic) (variant : Variant) (res : Response)
      (split : history = before ++ [.received variant, .response res])
      (held : fsm.ctx.pendingResponse = platform.encode res)
      (unarmed : fsm.ctx.timeouts.deadline .sequence = none) (later : fsm.state.id ≠ .supportedAppProtocol)
  | sent (before : List Traffic) (variant : Variant) (res : Response) (now : TimePoint)
      (split : history = before ++ [.received variant, .response res, .write res, .written now])
      (encoded : platform.encodedSize res ≠ 0) (empty : fsm.ctx.pendingResponse = none)
      (armed : fsm.ctx.timeouts.deadline .sequence = some (offsetTimePointByMs now 60000))
      (later : fsm.state.id ≠ .supportedAppProtocol)

structure Kept (history : List Traffic) (fsm : Fsm) : Prop where
  undeferred : fsm.Undeferred
  phase : fsm.ctx.sessionStopped = false → Phase platform history fsm

def Advances (session session' : IsoSession) (log : List SessionOutput) : Prop :=
  ∀ history, Kept platform history session.fsm → Kept platform (history ++ traffic log) session'.fsm

def Flushes (session session' : IsoSession) (log : List SessionOutput) : Prop :=
  Advances platform session session' log ∧
    (session.fsm.ctx.pendingResponse = none → session'.fsm.ctx.pendingResponse = none)

variable {platform} {s t u : IsoSession} {l l' : List SessionOutput}

theorem Phase.congr {history : List Traffic} {fsm fsm' : Fsm} (phase : Phase platform history fsm)
    (id : fsm'.state.id = fsm.state.id)
    (sequence : fsm'.ctx.timeouts.deadline .sequence = fsm.ctx.timeouts.deadline .sequence)
    (pending : fsm'.ctx.pendingResponse = fsm.ctx.pendingResponse) : Phase platform history fsm' := by
  cases phase with
  | fresh silent early unarmed empty =>
      exact .fresh silent (id.trans early) (sequence.trans unarmed) (pending.trans empty)
  | answered before variant res split held unarmed later =>
      exact .answered before variant res split (pending.trans held) (sequence.trans unarmed) (id ▸ later)
  | sent before variant res now split encoded empty armed later =>
      exact .sent before variant res now split encoded (pending.trans empty) (sequence.trans armed) (id ▸ later)

theorem Advances.trans (first : Advances platform s t l) (next : Advances platform t u l') :
    Advances platform s u (l ++ l') := by
  intro history kept
  rw [traffic_append, ← List.append_assoc]
  exact next _ (first history kept)

theorem Advances.still (same : t.fsm = s.fsm) : Advances platform s t [] := by
  intro history kept
  rw [traffic_nil, List.append_nil, same]
  exact kept

variable (platform)

theorem dispatch_advances {input : Input} (fed : input.fed = true) :
    Act.Ensures (Advances platform) (dispatch platform input) := by
  intro session _ returned history kept
  have returned : (Fsm.step platform input session.fsm).result = .ok () := returned
  refine ⟨Fsm.undeferred_step platform kept.undeferred input, ?_⟩
  change (Fsm.step platform input session.fsm).state.ctx.sessionStopped = false →
    Phase platform _ (Fsm.step platform input session.fsm).state
  intro running
  have running' : session.fsm.ctx.sessionStopped = false := by
    by_contra stopped
    have frame := Fsm.step_frame platform session.fsm input kept.undeferred.idle
    exact absurd (frame.stopped (by simpa using stopped)) (by simp [running])
  have phase := kept.phase running'
  have history' : traffic (dispatch platform input session).log =
      input.traffic ++ (responses (Fsm.step platform input session.fsm).log).map .response :=
    List.append_nil _
  rw [history']
  cases input with
  | message env variant =>
      have served := Fsm.message_served platform env variant session.fsm kept.undeferred.idle returned running
      obtain ⟨res, sent, held⟩ := served.answered
      rw [sent]
      refine .answered history variant res rfl held (served.unarmed fun early => ?_) served.later
      cases phase with
      | fresh silent early unarmed empty => exact unarmed
      | answered before variant res split held unarmed later => exact unarmed
      | sent before variant res now split encoded empty armed later => exact absurd early later
  | control env event =>
      revert running
      suffices spec : Act.wp (Fsm.step platform (.control env event)) (fun _ fsm' log =>
          Phase platform
            (history ++ ((Input.control env event).traffic ++ (responses log).map Traffic.response)) fsm')
          session.fsm from fun _ => spec
      apply Fsm.wp_step_control_quiet platform env event session.fsm
        (kept.undeferred.unresumed running' event)
      intro timeouts changes
      have quiet : history ++ ((Input.control env event).traffic ++ (responses []).map Traffic.response) = history :=
        List.append_nil _
      rw [quiet]
      refine phase.congr (by simp) ?_ (by simp)
      rcases changes with rfl | ⟨-, -, rfl⟩ <;> simp
  | sequenceTimeout => cases running
  | timeout env type =>
      revert running
      apply Fsm.wp_step_timeout platform env type session.fsm (fun _ fsm' log =>
        fsm'.ctx.sessionStopped = false →
          Phase platform
            (history ++ ((Input.timeout env type).traffic ++ (responses log).map Traffic.response)) fsm')
      simp
  | _ => cases fed

theorem prepare_advances (env : PollEnv) (queue : List ControlEvent) :
    Act.Ensures (Advances platform) (prepare platform env queue) := by
  have closed : Act.Closed (ε := Exn) fun m => Act.Ensures (Advances platform) m :=
    Act.Ensures.closed (fun _ => .still rfl) .trans
  exact PrepareRule.prepare
    { closed with
      receive := fun env => (Still.receive (fun same _ _ => .still same) env).ensures
      queued := fun _ _ _ _ => .still rfl
      reset := fun _ _ _ => .still rfl
      dispatch := fun _ fed _ => dispatch_advances platform fed
      check := checkTimeouts_closed platform closed fun _ => dispatch_advances platform } env queue

theorem sends_advances {env : PollEnv} {session session' : IsoSession} {log : List SessionOutput}
    (sends : Sends env session session' log) : Advances platform session session' log := by
  intro history kept
  rw [sends.fsm, sends.traffic]
  refine ⟨⟨kept.undeferred.idle, kept.undeferred.unsaved⟩, fun running => ?_⟩
  cases kept.phase running with
  | fresh silent early unarmed empty =>
      simp only [empty, List.append_nil]
      exact .fresh silent early (by simpa [sentFsm, empty] using unarmed) rfl
  | answered before variant res split held unarmed later =>
      by_cases encoded : platform.encodedSize res = 0
      · -- the response has been discarded
        have discarded : platform.encode res = none := by simp [Platform.encode, encoded]
        simp only [held, discarded, List.append_nil]
        exact .answered before variant res split discarded.symm
          (by simpa [sentFsm, held, discarded] using unarmed) later
      · have written : platform.encode res = some (res, platform.encodedSize res) := by
          simp [Platform.encode, encoded]
        simp only [held, written]
        refine .sent before variant res env.written (by simp [split]) encoded rfl ?_ later
        simp [sentFsm, held, written, Timeouts.startTimeout, unarmed, timeoutSequence]
  | sent before variant res now split encoded empty armed later =>
      simp only [empty, List.append_nil]
      exact .sent before variant res now split encoded rfl (by simpa [sentFsm, empty] using armed) later

theorem poll_flushes (env : PollEnv) : Act.Ensures (Flushes platform) (poll platform env) := by
  intro session _ returned
  refine wp_poll_returns platform env session (fun session' log => Flushes platform session session' log)
    (fun _ => ⟨.still rfl, id⟩) ?_ returned
  intro prepared log sent log' closed log'' _ prepares sends closes
  have advances : Advances platform session prepared log := by
    have ensured := prepare_advances platform env session.controlEventQueue session () (by rw [prepares])
    rwa [prepares] at ensured
  have sends : Sends env prepared sent log' := by
    have spec := sendResponse_sends platform env prepared (by rw [sends])
    rwa [sends] at spec
  have closing : Advances platform sent closed log'' ∧ closed.fsm = sent.fsm := by
    cases closes <;> exact ⟨fun history kept => by simpa [traffic, SessionOutput.traffic] using kept, rfl⟩
  refine ⟨(advances.trans (sends_advances platform sends)).trans closing.1, fun _ => ?_⟩
  rw [closing.2, sends.fsm]
  rfl

theorem handleConnectionEvent_flushes (event : ConnectionEvent) :
    Act.Keeps (Flushes platform) (handleConnectionEvent platform event) := by
  have certified (hash : Sha512Hash) : Act.Keeps (Flushes platform) (dispatch platform (.certHash hash)) := by
    refine fun session => ⟨fun history kept => ⟨⟨kept.undeferred.idle, kept.undeferred.unsaved⟩, ?_⟩, id⟩
    intro running
    rw [show traffic _ = [] from rfl, List.append_nil]
    exact (kept.phase running).congr rfl rfl rfl
  cases event
  case opened =>
    intro session
    simp only [handleConnectionEvent, Act.get_bind]
    cases session.vehicle with
    | none => exact ⟨.still rfl, id⟩
    | some hash => exact certified hash session
  all_goals exact fun _ => ⟨.still rfl, id⟩

theorem close_flushes : Act.Keeps (Flushes platform) (close platform) :=
  fun _ => ⟨fun _ kept => ⟨Fsm.undeferred_step platform kept.undeferred .close,
    fun running => by cases running⟩, id⟩

end IsoSession

namespace LinkedSession

variable (platform : Platform)

theorem act_flushes (input : SessionInput) (linked : LinkedSession)
    (returned : (act platform input linked).result = .ok ()) :
    IsoSession.Flushes platform linked.session (act platform input linked).state.session
      (act platform input linked).log := by
  refine act_relates platform (fun same => ⟨.still same, by rw [same]; exact id⟩)
    (IsoSession.handleConnectionEvent_flushes platform) (IsoSession.close_flushes platform) input linked ?_
  rintro env rfl
  exact IsoSession.poll_flushes platform env linked.session () returned

theorem steps_kept (linked : LinkedSession) (inputs : List SessionInput) (history : List Traffic)
    (kept : IsoSession.Kept platform history linked.session.fsm)
    (flushed : linked.session.fsm.ctx.pendingResponse = none)
    (returns : ∀ record ∈ run platform linked inputs, Returns platform record) :
    IsoSession.Kept platform (history ++ traffic (sessionOutputs (run platform linked inputs)))
        (reached platform linked inputs).session.fsm ∧
      (reached platform linked inputs).session.fsm.ctx.pendingResponse = none := by
  induction inputs generalizing linked history with
  | nil => exact ⟨by simpa [run, Machine.steps, sessionOutputs, reached, Machine.final] using kept, flushed⟩
  | cons input rest hyp =>
      obtain ⟨advances, flushes⟩ := act_flushes platform input linked (returns _ List.mem_cons_self)
      have later := hyp _ _ (advances history kept) (flushes flushed) fun record member =>
        returns record (List.mem_cons_of_mem _ member)
      rw [List.append_assoc, ← traffic_append] at later
      exact later

section New

variable (config : SessionConfig) (pauseCtx : Option PauseContext) (vehicle : Option Sha512Hash) (id : SessionId)
  (start : TimePoint) (inputs : List SessionInput)
  (returns : ∀ record ∈ run platform (.new config pauseCtx vehicle id start) inputs, Returns platform record)
include returns

theorem run_kept :
    IsoSession.Kept platform
        (traffic (sessionOutputs (run platform (.new config pauseCtx vehicle id start) inputs)))
        (reached platform (.new config pauseCtx vehicle id start) inputs).session.fsm ∧
      (reached platform (.new config pauseCtx vehicle id start) inputs).session.fsm.ctx.pendingResponse = none := by
  have fresh : IsoSession.Kept platform [] (new config pauseCtx vehicle id start).session.fsm :=
    ⟨⟨rfl, fun _ _ waits => by cases waits⟩, fun _ => .fresh (by simp) rfl rfl rfl⟩
  simpa using steps_kept platform _ inputs [] fresh rfl returns

theorem lastAnswered_of_armed {now : TimePoint}
    (running : (reached platform (.new config pauseCtx vehicle id start) inputs).session.fsm.ctx.sessionStopped =
      false)
    (armed : (reached platform (.new config pauseCtx vehicle id start)
      inputs).session.fsm.ctx.timeouts.deadline .sequence = some (offsetTimePointByMs now 60000)) :
    LastAnswered (traffic (sessionOutputs (run platform (.new config pauseCtx vehicle id start) inputs))) now := by
  obtain ⟨kept, -⟩ := run_kept platform config pauseCtx vehicle id start inputs returns
  cases kept.phase running with
  | fresh _ _ unarmed => simp [unarmed] at armed
  | answered _ _ _ _ _ unarmed => simp [unarmed] at armed
  | sent before variant res now' split _ _ armed' =>
      obtain rfl : now' = now := by simpa [armed', offsetTimePointByMs] using armed
      exact ⟨before, variant, res, split⟩

end New

end LinkedSession

theorem lastResponse_append (before : List Traffic) (variant : Variant) (res : Response) (written : List Traffic)
    (silent : written.filterMap (·.response?) = []) :
    lastResponse (before ++ [.received variant, .response res] ++ written) = some res := by
  simp only [lastResponse, List.filterMap_append, silent, List.append_nil]
  simp [Traffic.response?, List.getLast?_append]

open LinkedSession in
/-- Once the protocol has been negotiated, a timer runs in a session that runs exactly when the encoder
has accepted the last response. -/
theorem sequence_timed_iff (platform : Platform) (config : SessionConfig) (pauseCtx : Option PauseContext)
    (vehicle : Option Sha512Hash) (id : SessionId) (now : TimePoint) (inputs : List SessionInput)
    (returns : ∀ record ∈ run platform (.new config pauseCtx vehicle id now) inputs, Returns platform record)
    (negotiated : Negotiated
      (traffic (sessionOutputs (run platform (.new config pauseCtx vehicle id now) inputs))))
    (running : (reached platform (.new config pauseCtx vehicle id now) inputs).session.isFinished = false) :
    Timed (traffic (sessionOutputs (run platform (.new config pauseCtx vehicle id now) inputs)))
        (reached platform (.new config pauseCtx vehicle id now) inputs).session.fsm ↔
      ∀ res, lastResponse (traffic (sessionOutputs
        (run platform (.new config pauseCtx vehicle id now) inputs))) = some res →
        platform.encodedSize res ≠ 0 := by
  obtain ⟨kept, flushed⟩ := run_kept platform config pauseCtx vehicle id now inputs returns
  obtain ⟨stopped, -⟩ := Bool.or_eq_false_iff.mp running
  generalize traffic (sessionOutputs (run platform (.new config pauseCtx vehicle id now) inputs)) = history at *
  have unsaved := kept.undeferred.unsaved stopped
  cases kept.phase stopped with
  | fresh silent early unarmed empty =>
      obtain ⟨traffic, received, negotiates⟩ := List.any_eq_true.mp negotiated
      cases traffic with
      | received variant => exact absurd received (silent variant)
      | _ => cases negotiates
  | answered before variant res split held unarmed later =>
      have last : lastResponse history = some res := by
        simpa [split] using lastResponse_append before variant res [] rfl
      -- nothing is left to write, so the encoder has rejected it
      have rejected : platform.encodedSize res = 0 := by
        simpa [Platform.encode] using held.symm.trans flushed
      refine iff_of_false ?_ fun encoded => encoded res last rejected
      rintro (⟨_, -, armed⟩ | ⟨self, req, delivery, saved, -⟩)
      · simp [unarmed] at armed
      · simp [unsaved self delivery] at saved
  | sent before variant res now split encoded empty armed later =>
      have last : lastResponse history = some res := by
        simpa [split] using lastResponse_append before variant res [.write res, .written now] rfl
      refine iff_of_true (.inl ⟨now, ⟨before, variant, res, split⟩, armed⟩) fun res' last' => ?_
      obtain rfl : res = res' := Option.some.inj (last.symm.trans last')
      exact encoded

namespace Sample

def rejecting : Platform :=
  { charging with
    encodedSize := fun res =>
      match res with
      | .sessionSetup _ => 0
      | _ => 16 }

def settingUp : List SessionInput := connect ++ [.poll (request 0), .poll (request 1)]

end Sample

open LinkedSession Sample in
theorem sequence_timed_settingUp :
    Timed (traffic (sessionOutputs (run charging (.new config none none (sessionId 9) 0) settingUp)))
        (reached charging (.new config none none (sessionId 9) 0) settingUp).session.fsm ↔
      ∀ res, lastResponse (traffic (sessionOutputs
        (run charging (.new config none none (sessionId 9) 0) settingUp))) = some res →
        charging.encodedSize res ≠ 0 :=
  sequence_timed_iff charging config none none (sessionId 9) 0 settingUp (by decide +kernel)
    (by decide +kernel) (by decide +kernel)

open LinkedSession Sample in
/-- The `SessionSetupReq` stays without an answer, and no timer runs. Every reading of the clock is 0. -/
theorem sequence_timed_rejecting :
    (∀ record ∈ run rejecting (.new config none none (sessionId 9) 0) settingUp,
      Returns rejecting record) ∧
    Negotiated (traffic (sessionOutputs (run rejecting (.new config none none (sessionId 9) 0) settingUp))) ∧
    (reached rejecting (.new config none none (sessionId 9) 0) settingUp).session.connected = true ∧
    (reached rejecting (.new config none none (sessionId 9) 0) settingUp).session.isFinished = false ∧
    ¬Timed (traffic (sessionOutputs (run rejecting (.new config none none (sessionId 9) 0) settingUp)))
      (reached rejecting (.new config none none (sessionId 9) 0) settingUp).session.fsm := by
  refine ⟨by decide +kernel, by decide +kernel, by decide +kernel, by decide +kernel, ?_⟩
  have unarmed (type : TimeoutType) : (reached rejecting (.new config none none (sessionId 9) 0)
      settingUp).session.fsm.ctx.timeouts.deadline type = none := by
    cases type <;> decide +kernel
  rintro (⟨_, -, armed⟩ | ⟨_, _, -, -, armed⟩)
  · cases (unarmed .sequence).symm.trans armed
  · cases (unarmed .contactor) ▸ armed

end LibIso15118
