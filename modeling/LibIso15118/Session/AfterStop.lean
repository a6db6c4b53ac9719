import LibIso15118.Session.DelayedClose
import LibIso15118.Session.SpuriousStop
import LibIso15118.Fsm.ForeignSession

set_option autoImplicit false

namespace LibIso15118

open Datatypes Shared

namespace Fsm

variable (platform : Platform)

/-- A request that a state has a branch for, and that the branch only refuses: a negotiation without a
supported protocol, or a request of another session before the state acts on it. -/
def Refuses (fsm : Fsm) (req : Request) : Prop :=
  match fsm.state, req with
  | .supportedAppProtocol, .supportedAppProtocol req =>
      req.appProtocol.any (supportsNamespace fsm.ctx.sessionConfig.customProtocol ·.protocolNamespace) = false
  | .supportedAppProtocol, _ => False
  | .sessionSetup, _ => False
  | _, req => req.Foreign fsm.ctx.session ∧ ForeignHarmless fsm req

def Harmless (fsm : Fsm) (input : Input) : Prop :=
  match input with
  | .message _ (.request req) => fsm.state.id.accepts req = true → fsm.Refuses req
  | .control _ event => ¬fsm.state.Resumes event
  | _ => True

structure Inert (fsm fsm' : Fsm) (log : List Output) : Prop where
  idle : fsm'.ctx.request = none
  state : fsm'.state.id = fsm.state.id
  pauseCtx : fsm'.ctx.pauseCtx = fsm.ctx.pauseCtx
  signals : signals log = []
  failed : ∀ res ∈ responses log, res.isFailed = true
  pending : ∀ pending, fsm'.ctx.pendingResponse = some pending →
    fsm.ctx.pendingResponse = some pending ∨ pending.1.isFailed = true

theorem encode_failed {res : Response} (failed : res.isFailed = true) {pending : Response × Nat}
    (encoded : platform.encode res = some pending) : pending.1.isFailed = true := by
  unfold Platform.encode at encoded
  split at encoded
  · cases encoded
  · cases encoded
    exact failed

theorem refused_inert {fsm fsm' : Fsm} {req : Request} {log : List Output} (idle : fsm.ctx.request = none)
    (refused : Refused platform fsm req fsm' log) : Inert fsm fsm' log := by
  obtain ⟨res, -, code, rfl, rfl⟩ := refused
  have failed : res.isFailed = true := by
    rw [Response.isFailed_of_code code]
    rfl
  exact
    { idle
      state := rfl
      pauseCtx := rfl
      signals := by simp [Output.signal?]
      failed := by simpa [Output.response?] using failed
      pending := fun _ encoded => .inr (encode_failed platform failed encoded) }

theorem negotiation_inert {fsm : Fsm} (idle : fsm.ctx.request = none)
    (state : fsm.state = .supportedAppProtocol) (env : Env) (req : SupportedAppProtocolRequest)
    (unsupported : req.appProtocol.any
      (supportsNamespace fsm.ctx.sessionConfig.customProtocol ·.protocolNamespace) = false) :
    Act.wp (step platform (.message env (.request (.supportedAppProtocol req))))
      (fun _ fsm' log => Inert fsm fsm' log) fsm := by
  have failed := (handleSupportedAppProtocol_failed req fsm.ctx.sessionConfig.customProtocol).mpr unsupported
  rw [wp_step_message platform env _ fsm idle, state]
  have pending := messageContext_request fsm.ctx (.request (.supportedAppProtocol req))
  simp only [State.feed, State.SupportedAppProtocol.feed, Act.wp_bind, Act.wp_ite,
    Feed.wp_pullRequest _ pending]
  simp only [Act.wp_get, Act.wp_modify, Act.wp_pure, Feed.wp_respond, Platform.stringsFit, ne_eq,
    not_true_eq_false, not_false_eq_true, true_implies, reduceCtorEq, false_implies, true_and, and_true]
  refine ⟨fun _ => ?_, fun negotiated => absurd failed negotiated⟩
  have failed : Response.isFailed (.supportedAppProtocol
      (handleSupportedAppProtocol req fsm.ctx.sessionConfig.customProtocol)) = true := decide_eq_true failed
  exact
    { idle := rfl
      state := by rw [state]; rfl
      pauseCtx := rfl
      signals := by simp [Output.signal?]
      failed := by
        rintro res sent
        obtain rfl : res = _ := by simpa [Output.response?] using sent
        exact failed
      pending := fun _ encoded => .inr (encode_failed platform failed encoded) }

theorem message_inert {fsm : Fsm} (idle : fsm.ctx.request = none) (env : Env) (variant : Variant)
    (harmless : fsm.Harmless (.message env variant)) :
    Act.wp (step platform (.message env variant)) (fun _ fsm' log => Inert fsm fsm' log) fsm := by
  by_cases accepted : ∃ req, variant = .request req ∧ fsm.state.id.accepts req = true
  · obtain ⟨req, rfl, accepts⟩ := accepted
    have refuses : fsm.Refuses req := harmless accepts
    by_cases negotiates : fsm.state = .supportedAppProtocol
    · cases req <;> simp only [Refuses, negotiates] at refuses
      case supportedAppProtocol req => exact negotiation_inert platform idle negotiates env req refuses
    by_cases setup : fsm.state = .sessionSetup
    · simp [Refuses, setup] at refuses
    have foreign : req.Foreign fsm.ctx.session ∧ ForeignHarmless fsm req := by
      revert refuses
      unfold Refuses
      split <;> simp_all
    have later : fsm.state.id ≠ .supportedAppProtocol ∧ fsm.state.id ≠ .sessionSetup :=
      ⟨fun id => negotiates (State.eq_supportedAppProtocol id), fun id => setup (State.eq_sessionSetup id)⟩
    exact refused_inert platform idle
      ((message_refused_iff platform env idle req later accepts foreign.1).mpr foreign.2)
  · rw [wp_step_message platform env variant fsm idle]
    apply State.wp_sequenceError platform env (messageContext_request fsm.ctx variant)
    · intro req same
      by_contra accepts
      exact accepted ⟨req, same, Bool.eq_true_of_not_eq_false accepts⟩
    · rintro response log (⟨rfl, rfl⟩ | ⟨res, code, rfl, rfl⟩)
      · exact ⟨rfl, rfl, rfl, by simp [Output.signal?], by simp [Output.response?], fun _ => .inl⟩
      · have failed : res.isFailed = true := by
          rw [Response.isFailed_of_code code]
          rfl
        exact ⟨rfl, rfl, rfl, by simp [Output.signal?], by simpa [Output.response?] using failed,
          fun _ encoded => .inr (encode_failed platform failed encoded)⟩

theorem step_inert {fsm : Fsm} (idle : fsm.ctx.request = none) (input : Input)
    (harmless : fsm.Harmless input) :
    Inert fsm (step platform input fsm).state (step platform input fsm).log := by
  cases input with
  | message env variant => exact message_inert platform idle env variant harmless
  | control env event =>
      suffices spec : Act.wp (step platform (.control env event)) (fun _ fsm' log => Inert fsm fsm' log) fsm
        from spec
      apply wp_step_control_quiet platform env event fsm harmless
      intro timeouts _
      exact ⟨by simpa using idle, by simp, by simp, rfl, by simp, by simp +contextual⟩
  | timeout env type =>
      suffices spec : Act.wp (step platform (.timeout env type)) (fun _ fsm' log => Inert fsm fsm' log) fsm
        from spec
      apply wp_step_timeout platform env type fsm
      rintro pending log (⟨⟨-, rfl⟩, rfl⟩ | ⟨-, -, res, failed, -, rfl, rfl⟩)
      · exact ⟨idle, by simp, rfl, rfl, by simp, fun _ => .inl⟩
      · exact ⟨idle, by simp, rfl, by simp [Output.signal?], by simpa [Output.response?] using failed,
          fun _ encoded => .inr (encode_failed platform failed encoded)⟩
  | takeResponse => exact ⟨idle, rfl, rfl, rfl, by simp [step, modifyCtx], by simp [step, modifyCtx]⟩
  | _ => exact ⟨idle, rfl, rfl, rfl, by simp [step, stopSession, modifyCtx], fun _ => .inl⟩

def PendingFailure (fsm : Fsm) : Prop :=
  ∀ pending, fsm.ctx.pendingResponse = some pending → pending.1.isFailed = true

end Fsm

def AllHarmless (log : List SessionOutput) : Prop :=
  ∀ record ∈ machineSteps log, record.before.Harmless record.input

theorem allHarmless_of_unaccepted {log : List SessionOutput}
    (unaccepted : ((machineSteps log).all fun record =>
      match record.input with
      | .message _ (.request req) => !record.before.state.id.accepts req
      | .control _ _ => false
      | _ => true) = true) : AllHarmless log := by
  intro record member
  have unaccepted := List.all_eq_true.mp unaccepted record member
  unfold Fsm.Harmless
  split
  · rename_i req input
    intro accepts
    simp [input, accepts] at unaccepted
  · rename_i input
    simp [input] at unaccepted
  · trivial

structure Rests (session session' : IsoSession) (log : List SessionOutput) : Prop where
  idle : session'.fsm.ctx.request = none
  pending : session'.fsm.PendingFailure
  pauseCtx : session'.fsm.ctx.pauseCtx = session.fsm.ctx.pauseCtx
  stays : ∀ record ∈ machineSteps log, record.after.state.id = record.before.state.id
  signals : ∀ record ∈ machineSteps log, signals record.outputs = []
  written : ∀ header res, .write header res ∈ log → res.isFailed = true

def RestsIfHarmless (session session' : IsoSession) (log : List SessionOutput) : Prop :=
  session.fsm.ctx.request = none → session.fsm.PendingFailure → AllHarmless log →
    Rests session session' log

namespace RestsIfHarmless

variable {s t u : IsoSession} {l l' : List SessionOutput}

theorem trans (first : RestsIfHarmless s t l) (next : RestsIfHarmless t u l') :
    RestsIfHarmless s u (l ++ l') := by
  intro idle pending harmless
  rw [AllHarmless, machineSteps_append] at harmless
  have before := first idle pending fun record member => harmless record (List.mem_append_left _ member)
  have after := next before.idle before.pending fun record member =>
    harmless record (List.mem_append_right _ member)
  exact
    { idle := after.idle
      pending := after.pending
      pauseCtx := after.pauseCtx.trans before.pauseCtx
      stays := by
        rw [machineSteps_append]
        exact fun record member => (List.mem_append.mp member).elim (before.stays record) (after.stays record)
      signals := by
        rw [machineSteps_append]
        exact fun record member =>
          (List.mem_append.mp member).elim (before.signals record) (after.signals record)
      written := fun header res member =>
        (List.mem_append.mp member).elim (before.written header res) (after.written header res) }

theorem of_fsm (same : t.fsm = s.fsm) (unstepped : machineSteps l = [])
    (written : ∀ header res, .write header res ∈ l → res.isFailed = true) : RestsIfHarmless s t l :=
  fun idle pending _ =>
    ⟨same ▸ idle, same ▸ pending, by rw [same], by simp [unstepped], by simp [unstepped], written⟩

end RestsIfHarmless

namespace IsoSession

variable (platform : Platform)

theorem dispatch_rests (input : Input) : Act.Keeps RestsIfHarmless (dispatch platform input) := by
  intro session idle pending harmless
  have inert := Fsm.step_inert platform idle input (harmless _ (List.mem_singleton_self _))
  exact
    { idle := inert.idle
      pending := fun later answered => (inert.pending later answered).elim (pending later) id
      pauseCtx := inert.pauseCtx
      stays := fun record member => by
        rw [List.mem_singleton.mp member]
        exact inert.state
      signals := fun record member => by
        rw [List.mem_singleton.mp member]
        exact inert.signals
      written := by simp [dispatch] }

theorem emit_rests {out : SessionOutput} (unstepped : out.step? = none)
    (written : ∀ header res, out = .write header res → res.isFailed = true) :
    Act.Keeps RestsIfHarmless (Act.emit out : SessionAct Unit) := fun _ =>
  .of_fsm rfl (by simp [machineSteps, unstepped]) fun header res member =>
    written header res (List.mem_singleton.mp member).symm

theorem sendResponse_rests (env : PollEnv) : Act.Keeps RestsIfHarmless (sendResponse platform env) := by
  intro session idle pending
  have same (s : IsoSession) : RestsIfHarmless s s [] := .of_fsm rfl rfl (by simp)
  suffices rests : RestsIfHarmless session (sendResponse platform env session).state
      (sendResponse platform env session).log from rests idle pending
  rw [sendResponse, Act.get_bind]
  refine Act.Keeps.bind RestsIfHarmless.trans (dispatch_rests platform _) (fun _ => ?_) session
  cases answered : session.fsm.ctx.pendingResponse with
  | none => exact .pure same ()
  | some answer =>
      refine .ite (fun _ => .throw same _) fun _ => ?_
      refine .bind .trans (emit_rests rfl ?_) fun _ => ?_
      · rintro _ _ ⟨⟩
        exact pending answer answered
      · exact .bind .trans (dispatch_rests platform _) fun _ => emit_rests rfl (by simp)

theorem poll_rests (env : PollEnv) : Act.Keeps RestsIfHarmless (poll platform env) := by
  refine poll_keeps platform (.of_dispatch .trans (fun same _ _ => .of_fsm same rfl (by simp))
    (dispatch_rests platform) (sendResponse_rests platform)) ?_ env
  intro now s t l step
  cases step <;> exact .of_fsm rfl rfl (by simp)

theorem handleConnectionEvent_rests (event : ConnectionEvent) :
    Act.Keeps RestsIfHarmless (handleConnectionEvent platform event) := by
  cases event with
  | opened =>
      refine .bind .trans (.get fun _ => .of_fsm rfl rfl (by simp)) fun session => ?_
      cases session.vehicle with
      | none => exact .pure (fun _ => .of_fsm rfl rfl (by simp)) ()
      | some hash => exact dispatch_rests platform _
  | _ => exact fun _ => .of_fsm rfl rfl (by simp [handleConnectionEvent])

theorem close_rests : Act.Keeps RestsIfHarmless (close platform) := by
  refine .bind .trans
    (.bind .trans (emit_rests rfl (by simp)) fun _ => fun _ => .of_fsm rfl rfl (by simp)) fun _ => ?_
  exact .bind .trans (emit_rests rfl (by simp)) fun _ => dispatch_rests platform _

end IsoSession

/-- What a step of a session that has finished may do. -/
structure AfterStop (record : SessionStep) : Prop where
  finished : record.after.session.isFinished = true
  stays : ∀ step ∈ machineSteps record.outputs, step.after.state.id = step.before.state.id
  pauseCtx : record.after.session.fsm.ctx.pauseCtx = record.before.session.fsm.ctx.pauseCtx
  written : ∀ header res, .write header res ∈ record.outputs → res.isFailed = true
  signals : ∀ step ∈ machineSteps record.outputs, signals step.outputs = []

namespace LinkedSession

variable (platform : Platform)

theorem act_rests (input : SessionInput) (linked : LinkedSession) :
    RestsIfHarmless linked.session (act platform input linked).state.session (act platform input linked).log :=
  act_keeps platform (fun same => .of_fsm same rfl (by simp))
    (IsoSession.handleConnectionEvent_rests platform) (IsoSession.poll_rests platform)
    (IsoSession.close_rests platform) input linked

end LinkedSession

open LinkedSession in
/-- A finished session rests as long as its machine is given nothing to act on. -/
theorem after_stop (platform : Platform) (config : SessionConfig) (pauseCtx : Option PauseContext)
    (vehicle : Option Sha512Hash) (id : SessionId) (start : TimePoint) (inputs : List SessionInput)
    {before after : List SessionStep} {finishing : SessionStep}
    (split : run platform (.new config pauseCtx vehicle id start) inputs = before ++ finishing :: after)
    (finished : finishing.after.session.isFinished = true)
    (pending : finishing.after.session.fsm.PendingFailure)
    (harmless : ∀ record ∈ after, AllHarmless record.outputs) :
    ∀ record ∈ after, AfterStop record := by
  obtain ⟨first, input, rest, rfl, rfl, rfl, rfl⟩ := Machine.future_of_steps (act platform) split
  intro record member
  obtain ⟨past, future, later⟩ := List.append_of_mem member
  have idle : (act platform input (reached platform (.new config pauseCtx vehicle id start)
      first)).state.session.fsm.ctx.request = none :=
    (act_follows platform input _).idle
      (undeferred_reached platform config pauseCtx vehicle id start first).idle
  refine Machine.run_always (act platform) _
    (fun _ linked => linked.session.fsm.ctx.request = none ∧ linked.session.fsm.PendingFailure ∧
      linked.session.isFinished = true)
    (Machine.All fun record => AllHarmless record.outputs) (fun _ => AfterStop) Machine.All.shorter
    ⟨idle, pending, finished⟩ ?_ ?_ rest harmless later
  · rintro past linked input good ⟨idle, pending, finished⟩
    have rests := act_rests platform input linked idle pending good.last
    exact ⟨rests.idle, rests.pending, (act_follows platform input linked).finished idle finished⟩
  · rintro past linked input good ⟨idle, pending, finished⟩
    have rests := act_rests platform input linked idle pending good.last
    exact ⟨(act_follows platform input linked).finished idle finished, rests.stays, rests.pauseCtx,
      rests.written, rests.signals⟩

open LinkedSession Sample in
/-- A session that is stopped by an unexpected message negotiates when it is asked to. -/
theorem after_stop_negotiates :
    ¬∀ (platform : Platform) (config : SessionConfig) (pauseCtx : Option PauseContext)
      (vehicle : Option Sha512Hash) (id : SessionId) (start : TimePoint) (inputs : List SessionInput)
      (before after : List SessionStep) (finishing : SessionStep) (env : PollEnv),
      run platform (.new config pauseCtx vehicle id start) inputs = before ++ finishing :: after →
      finishing.input = .poll env → Returns platform finishing →
      finishing.after.session.isFinished = true → ∀ record ∈ after, AfterStop record := by
  intro rests
  have rest := rests numberedPlatform config none none (sessionId 9) 0
    (connect ++ [.poll (request 4), .poll (request 0)])
    (run numberedPlatform (.new config none none (sessionId 9) 0) connect) _ _ (request 4) rfl rfl (by decide +kernel)
    (by decide +kernel) _ (List.mem_singleton_self _)
  have stays := rest.stays
  exact absurd stays (by decide +kernel)

open LinkedSession Sample in
theorem after_stop_unexpected :
    AfterStop (Machine.stepOf (act numberedPlatform)
      (reached numberedPlatform (.new config none none (sessionId 9) 0) (connect ++ [.poll (request 4)]))
      (.poll (request 1))) := by
  have split : run numberedPlatform (.new config none none (sessionId 9) 0)
        (connect ++ [.poll (request 4), .poll (request 1)]) =
      run numberedPlatform (.new config none none (sessionId 9) 0) connect ++
        Machine.stepOf (act numberedPlatform)
            (reached numberedPlatform (.new config none none (sessionId 9) 0) connect) (.poll (request 4)) ::
          run numberedPlatform (reached numberedPlatform (.new config none none (sessionId 9) 0)
            (connect ++ [.poll (request 4)])) [.poll (request 1)] := rfl
  refine after_stop numberedPlatform config none none (sessionId 9) 0 _ split (by decide +kernel) ?_ ?_ _
    (List.mem_singleton_self _)
  · have answered : (Machine.stepOf (act numberedPlatform)
        (reached numberedPlatform (.new config none none (sessionId 9) 0) connect)
        (.poll (request 4))).after.session.fsm.ctx.pendingResponse.isNone = true := by decide +kernel
    intro pending waits
    exact absurd ((Option.isNone_iff_eq_none.mp answered).symm.trans waits) (by simp)
  · intro record member
    rw [List.mem_singleton.mp member]
    exact allHarmless_of_unaccepted (by decide +kernel)

end LibIso15118
