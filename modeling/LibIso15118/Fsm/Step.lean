import LibIso15118.Fsm.Frame

set_option autoImplicit false

namespace LibIso15118

open Datatypes Shared

namespace Fsm

def settle (fsm : Fsm) (result : Except Exn (State × Result)) (ctx : Context) : Fsm :=
  match result with
  | .error _ => ⟨fsm.state, ctx⟩
  | .ok (state, res) =>
      if res.unhandled then ⟨state, { ctx with sessionStopped := true }⟩
      else
        match res.newState with
        | none => ⟨state, ctx⟩
        | some next => ⟨next.enter ctx, ctx⟩

section Settle

variable (fsm : Fsm) (ctx : Context)

@[simp] theorem settle_error (e : Exn) : fsm.settle (.error e) ctx = ⟨fsm.state, ctx⟩ := rfl

@[simp] theorem settle_unhandled (state : State) :
    fsm.settle (.ok (state, {})) ctx = ⟨state, { ctx with sessionStopped := true }⟩ := rfl

@[simp] theorem settle_createState (state next : State) :
    fsm.settle (.ok (state, .createState next)) ctx = ⟨next.enter ctx, ctx⟩ := rfl

theorem settle_ctx (result : Except Exn (State × Result)) :
    (fsm.settle result ctx).ctx = ctx ∨
      (fsm.settle result ctx).ctx = { ctx with sessionStopped := true } := by
  unfold settle
  repeat' split
  all_goals simp

end Settle

variable (platform : Platform)

theorem wp_feedOrStop (env : Env) (ev : Event) (fsm : Fsm)
    (post : Except Exn Unit → Fsm → List Output → Prop) :
    Act.wp (feedOrStop platform env ev) post fsm ↔
      Act.wp (fsm.state.feed platform env ev)
        (fun result ctx log => post (result.map fun _ => ()) (fsm.settle result ctx) log) fsm.ctx := by
  simp only [feedOrStop, Act.wp_bind, wp_feed, settle]
  apply iff_of_eq
  rw [Act.wp, Act.wp]
  rcases (fsm.state.feed platform env ev fsm.ctx).result with e | ⟨state, unhandled, newState⟩
  · rfl
  · cases unhandled
    · cases newState <;> simp [land, Except.map]
    · simp [land, stopSession, Except.map]

def messageContext (ctx : Context) (variant : Variant) : Context :=
  { ctx with
    request := some variant
    timeouts :=
      if variant.getType ≠ .supportedAppProtocolReq then ctx.timeouts.stopTimeout .sequence
      else ctx.timeouts }

section MessageContext

variable (ctx : Context) (variant : Variant)

@[simp] theorem messageContext_request : (messageContext ctx variant).request = some variant := rfl
@[simp] theorem messageContext_session : (messageContext ctx variant).session = ctx.session := rfl
@[simp] theorem messageContext_pauseCtx : (messageContext ctx variant).pauseCtx = ctx.pauseCtx := rfl
@[simp] theorem messageContext_vehicleCertHash :
    (messageContext ctx variant).vehicleCertHash = ctx.vehicleCertHash := rfl

end MessageContext

theorem wp_step_message (env : Env) (variant : Variant) (fsm : Fsm) (idle : fsm.ctx.request = none)
    (post : Except Exn Unit → Fsm → List Output → Prop) :
    Act.wp (step platform (.message env variant)) post fsm ↔
      Act.wp (fsm.state.feed platform env .v2gtpMessage)
        (fun result ctx log => post (result.map fun _ => ()) (fsm.settle result ctx)
          (.feedback (.v2gMessage variant.getType) :: log)) (messageContext fsm.ctx variant) := by
  by_cases sap : variant.getType = .supportedAppProtocolReq
  all_goals
    simp only [step, setRequest, Act.wp_bind, Act.wp_get, idle, Option.isSome_none,
      Bool.false_eq_true, if_false, wp_modifyCtx, Act.wp_ite, Act.wp_emit, wp_feedOrStop, ne_eq, sap,
      not_true_eq_false, not_false_eq_true, false_implies, true_implies, true_and,
      messageContext, if_true, List.nil_append, List.singleton_append]
    rfl

def controlContext (ctx : Context) (event : ControlEvent) : Context :=
  ({ ctx with currentControlEvent := some event } : Context).storeControlEvent event

section ControlContext

variable (ctx : Context) (event : ControlEvent)

@[simp] theorem controlContext_currentControlEvent :
    (controlContext ctx event).currentControlEvent = some event := by
  cases event <;> rfl

@[simp] theorem controlContext_session : (controlContext ctx event).session = ctx.session := by
  cases event <;> rfl

@[simp] theorem controlContext_pauseCtx : (controlContext ctx event).pauseCtx = ctx.pauseCtx := by
  cases event <;> rfl

@[simp] theorem controlContext_request : (controlContext ctx event).request = ctx.request := by
  cases event <;> rfl

@[simp] theorem controlContext_vehicleCertHash :
    (controlContext ctx event).vehicleCertHash = ctx.vehicleCertHash := by
  cases event <;> rfl

@[simp] theorem controlContext_timeouts : (controlContext ctx event).timeouts = ctx.timeouts := by
  cases event <;> rfl

@[simp] theorem controlContext_sessionStopped :
    (controlContext ctx event).sessionStopped = ctx.sessionStopped := by
  cases event <;> rfl

@[simp] theorem controlContext_sessionPaused :
    (controlContext ctx event).sessionPaused = ctx.sessionPaused := by
  cases event <;> rfl

@[simp] theorem controlContext_pendingResponse :
    (controlContext ctx event).pendingResponse = ctx.pendingResponse := by
  cases event <;> rfl

end ControlContext

theorem wp_step_control (env : Env) (event : ControlEvent) (fsm : Fsm)
    (post : Except Exn Unit → Fsm → List Output → Prop) :
    Act.wp (step platform (.control env event)) post fsm ↔
      Act.wp (fsm.state.feed platform env .controlMessage)
        (fun result ctx log => post (result.map fun _ => ()) (land fsm result ctx).2 log)
        (controlContext fsm.ctx event) := by
  simp only [step, Act.wp_bind, wp_modifyCtx, wp_feed, Act.wp_pure, List.nil_append, List.append_nil]
  apply iff_of_eq
  rw [Act.wp, Act.wp]
  simp only [controlContext]
  rcases (fsm.state.feed platform env .controlMessage _).result with e | ⟨state, unhandled, newState⟩
  · rfl
  · cases unhandled
    · cases newState <;> simp [land, Except.map]
    · simp [land, Except.map]

theorem wp_step_control_quiet (env : Env) (event : ControlEvent) (fsm : Fsm)
    (quiet : ¬fsm.state.Resumes event) (post : Except Exn Unit → Fsm → List Output → Prop)
    (kept : ∀ timeouts, (timeouts = fsm.ctx.timeouts ∨ fsm.state.id = .powerDelivery ∧
        (∃ closed, event = .closedContactor closed) ∧
        timeouts = fsm.ctx.timeouts.stopTimeout .contactor) →
      post (.ok ()) ⟨fsm.state.afterControl event, { controlContext fsm.ctx event with timeouts }⟩ []) :
    Act.wp (step platform (.control env event)) post fsm := by
  -- A control event that resumes nothing: only member variables, caches and the CONTACTOR timer
  -- change.
  rw [wp_step_control]
  apply State.wp_control platform env _ (by simp) _ quiet
  simpa [land, Except.map] using kept

def resumedContext (env : Env) (req : PowerDeliveryRequest) (closed : Bool) (ctx : Context) : Context :=
  { ctx with
    currentControlEvent := some (.closedContactor closed)
    timeouts := ctx.timeouts.stopTimeout .contactor
    pendingResponse :=
      platform.encode (.powerDelivery (handlePowerDelivery env req ctx.session false)) }

theorem wp_step_control_resumed (env : Env) (closed : Bool) (fsm : Fsm) (self : State.PowerDelivery)
    (req : PowerDeliveryRequest) (delivery : fsm.state = .powerDelivery self)
    (saved : self.previousReq = some req) (post : Except Exn Unit → Fsm → List Output → Prop) :
    Act.wp (step platform (.control env (.closedContactor closed))) post fsm ↔
      ((handlePowerDelivery env req fsm.ctx.session false).responseCode.isFailed = true →
        post (.ok ()) ⟨.powerDelivery { self with acConnectorClosed := true },
            { resumedContext platform env req closed fsm.ctx with sessionStopped := true }⟩
          [.respond (.powerDelivery (handlePowerDelivery env req fsm.ctx.session false))]) ∧
      ((handlePowerDelivery env req fsm.ctx.session false).responseCode.isFailed = false →
        post (.ok ()) ⟨(State.acChargeLoop {}).enter (resumedContext platform env req closed fsm.ctx),
            resumedContext platform env req closed fsm.ctx⟩
          [.respond (.powerDelivery (handlePowerDelivery env req fsm.ctx.session false))]) := by
  simp only [wp_step_control, delivery, State.feed, State.PowerDelivery.feed,
    State.PowerDelivery.feedControl]
  simp [saved, controlContext, resumedContext, Context.storeControlEvent, land, Except.map,
    Platform.stringsFit]

theorem wp_step_timeout (env : Env) (type : TimeoutType) (fsm : Fsm)
    (post : Except Exn Unit → Fsm → List Output → Prop)
    (stopped : ∀ pending log,
      ((¬(fsm.state.id = .powerDelivery ∧ type = .contactor) ∧ pending = fsm.ctx.pendingResponse) ∧
          log = [] ∨
        fsm.state.id = .powerDelivery ∧ type = .contactor ∧
          ∃ res : Response, res.isFailed = true ∧
            res.header? = some (setupHeader env fsm.ctx.session) ∧ pending = platform.encode res ∧
            log = [.respond res]) →
      post (.ok ())
        ⟨fsm.state.afterTimeout type,
          { fsm.ctx with
            currentTimeout := some type
            pendingResponse := pending
            sessionStopped := true
            timeouts := fsm.ctx.timeouts.resetTimeout type }⟩ log) :
    Act.wp (step platform (.timeout env type)) post fsm := by
  simp only [step, Act.wp_bind, wp_modifyCtx, wp_feedOrStop]
  by_cases waiting : fsm.state.id = .powerDelivery ∧ type = .contactor
  · obtain ⟨delivery, rfl⟩ := waiting
    obtain ⟨self, state⟩ := State.eq_powerDelivery delivery
    simp only [state, State.feed, State.PowerDelivery.feed, State.PowerDelivery.feedTimeout]
    have failed : Response.isFailed (.powerDelivery
        (handlePowerDelivery env (self.previousReq.getD {}) fsm.ctx.session true)) = true := by
      simp only [handlePowerDelivery]
      split <;> rfl
    have header : Response.header? (.powerDelivery
        (handlePowerDelivery env (self.previousReq.getD {}) fsm.ctx.session true)) =
        some (setupHeader env fsm.ctx.session) := by
      simp only [handlePowerDelivery]
      split <;> rfl
    have answered := stopped _ _ (.inr ⟨delivery, rfl, _, failed, header, rfl, rfl⟩)
    rw [state] at answered
    simpa [settle, Except.map, Platform.stringsFit, State.afterTimeout] using answered
  · rw [Act.wp, State.timeout_eq platform env _ rfl fsm.state (by tauto)]
    simpa [settle, Except.map] using stopped _ _ (.inl ⟨⟨waiting, rfl⟩, rfl⟩)

def Moves (fsm : Fsm) (input : Input) : Prop :=
  (∃ env variant, input = .message env variant) ∨
    ∃ env event, input = .control env event ∧ fsm.state.Resumes event

@[mk_iff] structure StepFrame (fsm : Fsm) (input : Input) (fsm' : Fsm) : Prop where
  idle : fsm'.ctx.request = none
  sessionId : fsm.state.id ≠ .sessionSetup → fsm'.ctx.session.id = fsm.ctx.session.id
  selected : fsm.state.id ≠ .sessionSetup → fsm.state.id ≠ .serviceSelection →
    fsm'.ctx.session.selectedServices = fsm.ctx.session.selectedServices
  pauseCtx : fsm.state.id ≠ .sessionSetup → fsm.state.id ≠ .dcWeldingDetection →
    fsm.state.id ≠ .sessionStop → fsm'.ctx.pauseCtx = fsm.ctx.pauseCtx
  certHash : (∀ hash, input ≠ .certHash hash) →
    fsm'.ctx.vehicleCertHash = fsm.ctx.vehicleCertHash
  stopped : fsm.ctx.sessionStopped = true → fsm'.ctx.sessionStopped = true
  paused : fsm.ctx.sessionPaused = true → fsm'.ctx.sessionPaused = true
  quiet : ¬fsm.Moves input → fsm'.state.id = fsm.state.id ∧
    fsm'.ctx.session = fsm.ctx.session ∧ fsm'.ctx.pauseCtx = fsm.ctx.pauseCtx
  next : fsm'.state.id = fsm.state.id ∨
    ∃ next ∈ fsm.state.id.successors, fsm'.state = next.create.enter fsm'.ctx

theorem StepFrame.entered {fsm fsm' : Fsm} {input : Input} (frame : StepFrame fsm input fsm')
    {target : StateId} (outside : fsm.state.id ≠ target) (inside : fsm'.state.id = target) :
    target ∈ fsm.state.id.successors := by
  rcases frame.next with same | ⟨next, successor, created⟩
  · exact absurd (same ▸ inside) outside
  · rw [created, State.enter_id, StateId.create_id] at inside
    exact inside ▸ successor

theorem message_stepFrame (env : Env) (variant : Variant) (fsm : Fsm) (idle : fsm.ctx.request = none) :
    Act.wp (step platform (.message env variant))
      (fun _ fsm' _ => StepFrame fsm (.message env variant) fsm') fsm := by
  rw [wp_step_message platform env variant fsm idle]
  refine Act.wp_mono _ _ (State.message_frame platform env (messageContext fsm.ctx variant)
    (messageContext_request fsm.ctx variant) fsm.state) ?_
  intro result ctx' log frame
  have moves : fsm.Moves (.message env variant) := .inl ⟨env, variant, rfl⟩
  have next : (fsm.settle result ctx').state.id = fsm.state.id ∨
      ∃ next ∈ fsm.state.id.successors,
        (fsm.settle result ctx').state = next.create.enter (fsm.settle result ctx').ctx := by
    rcases result with e | ⟨state', unhandled, newState⟩
    · exact .inl rfl
    · obtain ⟨same, follows⟩ := frame.next state' ⟨unhandled, newState⟩ rfl
      cases newState with
      | none =>
          obtain rfl : unhandled = true := follows
          exact .inl same
      | some new =>
          obtain ⟨rfl, next, successor, rfl⟩ := follows
          exact .inr ⟨next, successor, rfl⟩
  rcases settle_ctx fsm ctx' result with ctx | ctx <;>
  exact
    { idle := by simp [ctx, frame.request]
      sessionId := by simpa [ctx] using frame.sessionId
      selected := by simpa [ctx] using frame.selected
      pauseCtx := by simpa [ctx] using frame.pauseCtx
      certHash := by simp [ctx, frame.certHash]
      stopped := fun stopped => by simp [ctx, frame.stopped stopped]
      paused := fun paused => by simp [ctx, frame.paused paused]
      quiet := fun still => absurd moves still
      next }

theorem control_stepFrame (env : Env) (event : ControlEvent) (fsm : Fsm)
    (idle : fsm.ctx.request = none) :
    Act.wp (step platform (.control env event))
      (fun _ fsm' _ => StepFrame fsm (.control env event) fsm') fsm := by
  by_cases resumes : fsm.state.Resumes event
  · have moves : fsm.Moves (.control env event) := .inr ⟨env, event, rfl, resumes⟩
    obtain ⟨self, req, closed, delivery, saved, rfl⟩ := resumes
    rw [wp_step_control_resumed platform env closed fsm self req delivery saved]
    simp only [stepFrame_iff, delivery, moves, State.id, StateId.successors, List.mem_cons]
    exact ⟨by simp [idle, resumedContext], by simp [idle, resumedContext, StateId.create]⟩
  · apply wp_step_control_quiet platform env event fsm resumes
    intro timeouts _
    simp [stepFrame_iff, idle]

theorem step_frame (fsm : Fsm) (input : Input) (idle : fsm.ctx.request = none) :
    StepFrame fsm input (step platform input fsm).state := by
  cases input with
  | certHash hash => simp [step, modifyCtx, stepFrame_iff, idle]
  | control env event => exact control_stepFrame platform env event fsm idle
  | sequenceTimeout => simp [step, stopSession, modifyCtx, stepFrame_iff, idle]
  | timeout env type =>
      apply wp_step_timeout platform env type fsm (fun _ fsm' _ => StepFrame fsm (.timeout env type) fsm')
      simp [stepFrame_iff, idle]
  | message env variant => exact message_stepFrame platform env variant fsm idle
  | takeResponse => simp [step, modifyCtx, stepFrame_iff, idle]
  | responseWritten now => simp [step, modifyCtx, stepFrame_iff, idle]
  | close => simp [step, stopSession, modifyCtx, stepFrame_iff, idle]

end Fsm

end LibIso15118
