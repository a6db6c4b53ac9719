import LibIso15118.Fsm.Accepts

set_option autoImplicit false

namespace LibIso15118

open Datatypes Shared

def Input.stopRequest? : Input → Option SessionStopRequest
  | .message _ (.request (.sessionStop req)) => some req
  | _ => none

theorem Input.eq_of_stopRequest {input : Input} {req : SessionStopRequest}
    (stop : input.stopRequest? = some req) : ∃ env, input = .message env (.request (.sessionStop req)) := by
  unfold stopRequest? at stop
  split at stop <;> simp_all

def StateId.rank : StateId → Nat
  | .supportedAppProtocol => 0
  | .sessionSetup => 1
  | .authorizationSetup => 2
  | .authorization => 3
  | .serviceDiscovery => 4
  | .serviceDetail => 5
  | .serviceSelection => 6
  | .acChargeParameterDiscovery => 7
  | .dcChargeParameterDiscovery => 7
  | .scheduleExchange => 8
  | .dcCableCheck => 9
  | .dcPreCharge => 10
  | .powerDelivery => 11
  | .acChargeLoop => 12
  | .dcChargeLoop => 12
  | .dcWeldingDetection => 13
  | .sessionStop => 14

theorem StateId.rank_lt_of_mem_successors {id next : StateId} (successor : next ∈ id.successors) :
    id.rank < next.rank := by
  cases id <;> simp only [StateId.successors, List.mem_cons, List.not_mem_nil, or_false] at successor <;>
    rcases successor with rfl | rfl | rfl <;> decide

/-- The states whose `SessionStopReq` branch touches the pause context. -/
def StateId.ends : StateId → Bool
  | .dcWeldingDetection | .sessionStop => true
  | _ => false

namespace Fsm

variable (platform : Platform)

inductive SetupStep (fsm : Fsm) (input : Input) : Except Exn Unit → Fsm → List Output → Prop
  | other (result : Except Exn Unit) (fsm' : Fsm) (log : List Output)
      (unasked : ∀ env req, input ≠ .message env (.request (.sessionSetup req)))
      (state : fsm'.state.id = .sessionSetup)
      (session : fsm'.ctx.session = fsm.ctx.session)
      (pauseCtx : fsm'.ctx.pauseCtx = fsm.ctx.pauseCtx)
      (unjoined : ∀ res ∈ responses log, res.code? ≠ some .okOldSessionJoined) :
      SetupStep fsm input result fsm' log
  | fresh (result : Except Exn Unit) (fsm' : Fsm) (log : List Output) (env : Env)
      (req : SessionSetupRequest) (message : input = .message env (.request (.sessionSetup req)))
      (session : fsm'.ctx.session = .new env.newSessionId)
      (pauseCtx : fsm'.ctx.pauseCtx =
        freshPauseContext platform fsm.ctx.vehicleCertHash fsm.ctx.pauseCtx env.newSessionId)
      (ids : generatedIds log = [env.newSessionId])
      (digested : ∀ hash, fsm.ctx.vehicleCertHash = some hash →
        concatenatedSessionIdVehicle hash env.newSessionId ∈ digests log)
      (unjoined : ∀ res ∈ responses log, res.code? ≠ some .okOldSessionJoined)
      (next : result = .ok () → fsm'.state.id = .authorizationSetup) :
      SetupStep fsm input result fsm' log
  | joined (result : Except Exn Unit) (fsm' : Fsm) (log : List Output) (env : Env)
      (req : SessionSetupRequest) (hash : Sha512Hash) (old : PauseContext)
      (message : input = .message env (.request (.sessionSetup req)))
      (cert : fsm.ctx.vehicleCertHash = some hash)
      (joins : joinedPauseContext platform fsm.ctx.vehicleCertHash fsm.ctx.pauseCtx
        req.header.sessionId = some old)
      (session : fsm'.ctx.session = .ofPauseContext old)
      (pauseCtx : fsm'.ctx.pauseCtx = fsm.ctx.pauseCtx)
      (digested : concatenatedSessionIdVehicle hash req.header.sessionId ∈ digests log)
      (answer : result = .ok () → ∃ res ∈ responses log, res.code? = some .okOldSessionJoined)
      (next : result = .ok () → fsm'.state.id = .sessionSetup ∨
        fsm'.state.id ∈ [StateId.acChargeParameterDiscovery, .dcChargeParameterDiscovery] ∧
          old.charges = true) :
      SetupStep fsm input result fsm' log

theorem sessionSetup_step_request {fsm : Fsm} (setup : fsm.state = .sessionSetup)
    (idle : fsm.ctx.request = none) (env : Env) (req : SessionSetupRequest) :
    Act.wp (step platform (.message env (.request (.sessionSetup req))))
      (fun result fsm' log =>
        SetupStep platform fsm (.message env (.request (.sessionSetup req))) result fsm' log) fsm := by
  rw [wp_step_message platform env _ fsm idle, setup]
  simp only [State.feed, Act.wp_bind]
  refine Act.wp_mono _ _ (sessionSetup_answer platform env _ req
    (messageContext_request fsm.ctx (.request (.sessionSetup req)))) ?_
  rintro result ctx' log ⟨answer, -, -⟩
  cases answer with
  | fresh unjoined session pauseCtx ids digested answer next =>
      have new : ∀ res ∈ responses log, res.code? ≠ some .okOldSessionJoined := by
        intro res member
        simp [answer res member]
      rcases next with rfl | rfl
      · refine .fresh _ _ _ env req rfl session pauseCtx ?_ ?_ ?_ fun _ => rfl
        all_goals simpa [Output.generatedId?, Output.digest?, Output.response?]
      · refine .fresh _ _ _ env req rfl session pauseCtx ?_ ?_ ?_ (by simp [Except.map])
        all_goals simpa [Output.generatedId?, Output.digest?, Output.response?]
  | joined hash old cert joins session pauseCtx ids digested answer next =>
      rcases next with rfl | rfl
      · refine .joined _ _ _ env req hash old rfl cert joins ?_ ?_ (by simpa [Output.digest?]) ?_ fun _ => ?_
        · rcases settle_ctx fsm ctx' (.ok (.sessionSetup, joinedResult ctx'.session)) with eq | eq <;>
            exact (congrArg Context.session eq).trans session
        · rcases settle_ctx fsm ctx' (.ok (.sessionSetup, joinedResult ctx'.session)) with eq | eq <;>
            exact (congrArg Context.pauseCtx eq).trans pauseCtx
        · simpa [Output.response?] using fun _ => answer _ rfl
        · rw [session]
          simp only [joinedResult]
          split
          · rename_i ac
            exact .inr ⟨by simp [settle, State.enter, State.id], by simp [PauseContext.charges, Session.charges, ac]⟩
          · split
            · rename_i dc
              exact .inr ⟨by simp [settle, State.enter, State.id],
                by simp [PauseContext.charges, Session.charges, dc]⟩
            · exact .inl rfl
      · exact .joined _ _ _ env req hash old rfl cert joins session pauseCtx (by simpa [Output.digest?])
          (by simp [Except.map]) (by simp [Except.map])

theorem sessionSetup_step {fsm : Fsm} (setup : fsm.state = .sessionSetup)
    (idle : fsm.ctx.request = none) (input : Input) :
    SetupStep platform fsm input (step platform input fsm).result (step platform input fsm).state
      (step platform input fsm).log := by
  cases input with
  | message env variant =>
      by_cases expected : ∃ req, variant = .request (.sessionSetup req)
      · obtain ⟨req, rfl⟩ := expected
        exact sessionSetup_step_request platform setup idle env req
      · suffices spec : Act.wp (step platform (.message env variant))
            (fun result fsm' log => SetupStep platform fsm (.message env variant) result fsm' log) fsm
          from spec
        rw [wp_step_message platform env variant fsm idle, setup]
        apply State.wp_unexpected platform env (messageContext_request fsm.ctx variant)
        · rintro req rfl
          cases req <;> simp_all [State.id, StateId.accepts]
        · intro response log failed
          refine .other _ _ _ (by simp_all) rfl rfl rfl ?_
          intro res member
          have sent : .respond res ∈ log := by simpa [Output.response?, mem_responses] using member
          obtain ⟨_, ⟨⟩, code⟩ := failed _ sent
          simp [code]
  | control env event =>
      refine wp_step_control_quiet platform env event fsm ?_
        (fun result fsm' log => SetupStep platform fsm (.control env event) result fsm' log) ?_
      · rintro ⟨_, _, _, delivery, -⟩
        simp [setup] at delivery
      · rintro timeouts -
        exact .other _ _ _ (by simp) (by simp only [State.afterControl_id, setup]; rfl) (by simp) (by simp)
          (by simp)
  | timeout env type =>
      apply wp_step_timeout platform env type fsm
        (fun result fsm' log => SetupStep platform fsm (.timeout env type) result fsm' log)
      rintro pending log (⟨-, rfl⟩ | ⟨delivery, -⟩)
      · exact .other _ _ _ (by simp) (by simp only [State.afterTimeout_id, setup]; rfl) rfl rfl (by simp)
      · simp [setup, State.id] at delivery
  | _ =>
      exact .other _ _ _ (by simp) (congrArg State.id setup) rfl rfl
        (by simp [step, modifyCtx, stopSession])

inductive AuthorizationStep (self : State.Authorization) (input : Input) : Fsm → Prop
  | stay (fsm' : Fsm) (self' : State.Authorization) (state : fsm'.state = .authorization self')
      (accepted : self'.authorizationStatus = .accepted → self.authorizationStatus = .accepted ∨
        ∃ env, input = .control env (.authorizationResponse true)) :
      AuthorizationStep self input fsm'
  | leave (fsm' : Fsm) (accepted : self.authorizationStatus = .accepted) : AuthorizationStep self input fsm'

theorem authorization_step {fsm : Fsm} {self : State.Authorization}
    (state : fsm.state = .authorization self) (idle : fsm.ctx.request = none) (input : Input) :
    AuthorizationStep self input (step platform input fsm).state := by
  cases input with
  | message env variant =>
      suffices spec : Act.wp (step platform (.message env variant))
          (fun _ fsm' _ => AuthorizationStep self (.message env variant) fsm') fsm from spec
      by_cases accepted : self.authorizationStatus = .accepted
      · exact .leave _ accepted
      rw [wp_step_message platform env variant fsm idle, state]
      simp only [State.feed, State.Authorization.feed, Act.wp_bind,
        Feed.wp_pullRequest _ (messageContext_request fsm.ctx variant)]
      split
      · rename_i req
        have stays (ctx : Context) : AuthorizationStep self (.message env (.request (.authorization req)))
            ⟨.authorization { self with firstReqMsg := false }, ctx⟩ :=
          .stay _ _ rfl .inl
        simp [Platform.stringsFit, settle, accepted, stays]
      · simp only [Act.wp_bind, wp_stopOnRequest, Act.wp_pure]
        exact .stay _ self rfl .inl
      · simp only [Act.wp_bind, Act.wp_pure]
        apply wp_stopOnSequenceError
        exact fun _ _ _ => .stay _ self rfl .inl
  | control env event =>
      refine wp_step_control_quiet platform env event fsm ?_
        (fun _ fsm' _ => AuthorizationStep self (.control env event) fsm') ?_
      · rintro ⟨_, _, _, delivery, -⟩
        simp [state] at delivery
      · rintro timeouts -
        rw [state]
        cases event
        case authorizationResponse authorized =>
          refine .stay _ _ rfl fun accepted => .inr ⟨env, ?_⟩
          cases authorized <;> simp_all
        all_goals exact .stay _ self rfl .inl
  | timeout env type =>
      apply wp_step_timeout platform env type fsm
        (fun _ fsm' _ => AuthorizationStep self (.timeout env type) fsm')
      rintro pending log -
      rw [state]
      by_cases ongoing : type = .ongoing
      · exact .stay _ { self with timeoutOngoingReached := true } (by simp [State.afterTimeout, ongoing]) .inl
      · exact .stay _ self (by simp [State.afterTimeout, ongoing]) .inl
  | _ => exact .stay _ self state .inl

def endedPauseContext (ctx : Context) (req : SessionStopRequest) : Option PauseContext :=
  match req.chargingSession with
  | .pause => ctx.pauseCtx.map fun pauseCtx =>
      { pauseCtx with selectedServiceParameters := ctx.session.selectedServices }
  | .terminate => none
  | .serviceRenegotiation => ctx.pauseCtx

section Ending

variable {fsm : Fsm} (ending : fsm.state.id.ends = true) (idle : fsm.ctx.request = none)
include ending idle

theorem ending_stopRequest (env : Env) (req : SessionStopRequest) :
    Act.wp (step platform (.message env (.request (.sessionStop req))))
      (fun _ fsm' log => fsm'.ctx.pauseCtx = endedPauseContext fsm.ctx req ∧
        responses log = [.sessionStop (handleSessionStop env req fsm.ctx.session)]) fsm := by
  rw [wp_step_message platform env _ fsm idle]
  cases state : fsm.state <;> simp only [state, State.id, StateId.ends, Bool.false_eq_true] at ending
  · simp only [State.feed, State.DcWeldingDetection.feed, Act.wp_bind]
    rw [Feed.wp_pullRequest _ rfl]
    cases kind : req.chargingSession <;>
      simp [endSession, kind, endedPauseContext, Platform.stringsFit, settle, Output.response?]
  · simp only [State.feed, State.SessionStop.feed, Act.wp_bind, Act.wp_ite]
    rw [Feed.wp_pullRequest _ rfl]
    cases kind : req.chargingSession <;>
      simp [endSession, kind, endedPauseContext, Platform.stringsFit, settle, Output.response?]

theorem ending_pauseCtx (input : Input) :
    (step platform input fsm).state.ctx.pauseCtx =
      match input.stopRequest? with
      | some req => endedPauseContext fsm.ctx req
      | none => fsm.ctx.pauseCtx := by
  by_cases moves : fsm.Moves input
  · rcases moves with ⟨env, variant, rfl⟩ | ⟨_, _, _, _, _, _, delivery, -⟩
    · by_cases stop : ∃ req, variant = .request (.sessionStop req)
      · obtain ⟨req, rfl⟩ := stop
        exact (ending_stopRequest platform ending idle env req).1
      · have other : (Input.message env variant).stopRequest? = none := by
          unfold Input.stopRequest?
          split <;> simp_all
        rw [other]
        suffices spec : Act.wp (step platform (.message env variant))
            (fun _ fsm' _ => fsm'.ctx.pauseCtx = fsm.ctx.pauseCtx) fsm from spec
        rw [wp_step_message platform env variant fsm idle]
        cases state : fsm.state <;> simp only [state, State.id, StateId.ends, Bool.false_eq_true] at ending
        · simp only [State.feed, State.DcWeldingDetection.feed, Act.wp_bind,
            Feed.wp_pullRequest _ (messageContext_request fsm.ctx variant)]
          split
          · simp [Platform.stringsFit, settle]
          · simp at stop
          · simp only [Act.wp_bind, Act.wp_pure]
            apply wp_stopOnSequenceError
            simp [settle]
        · apply State.wp_unexpected platform env (messageContext_request fsm.ctx variant)
          · rintro req rfl
            cases req <;> simp_all [State.id, StateId.accepts]
          · simp [settle]
    · simp [delivery, State.id, StateId.ends] at ending
  · rw [((step_frame platform fsm input idle).quiet moves).2.2]
    split
    · rename_i req told
      unfold Input.stopRequest? at told
      split at told
      · exact absurd (.inl ⟨_, _, rfl⟩) moves
      · cases told
    · rfl

end Ending

theorem StepFrame.rank_le {fsm fsm' : Fsm} {input : Input} (frame : StepFrame fsm input fsm') :
    fsm.state.id.rank ≤ fsm'.state.id.rank := by
  rcases frame.next with same | ⟨next, successor, created⟩
  · rw [same]
  · rw [created, State.enter_id, StateId.create_id]
    exact Nat.le_of_lt (StateId.rank_lt_of_mem_successors successor)

theorem StepFrame.rank_before {fsm fsm' : Fsm} {input : Input} (frame : StepFrame fsm input fsm')
    (elsewhere : fsm.state.id ≠ .sessionSetup) (later : 2 ≤ fsm'.state.id.rank) :
    2 ≤ fsm.state.id.rank := by
  -- A machine gets past `SessionSetup` in no other state.
  rcases frame.next with same | ⟨next, successor, created⟩
  · rwa [same] at later
  · rw [created, State.enter_id, StateId.create_id] at later
    cases id : fsm.state.id <;> simp_all [StateId.successors, StateId.rank]

theorem cert_kept {fsm : Fsm} (idle : fsm.ctx.request = none) (input : Input)
    (cert : fsm.ctx.vehicleCertHash.isSome = true) :
    (step platform input fsm).state.ctx.vehicleCertHash.isSome = true := by
  by_cases opened : ∃ own, input = .certHash own
  · obtain ⟨hash, rfl⟩ := opened
    rfl
  · rwa [(step_frame platform fsm input idle).certHash fun own eq => opened ⟨own, eq⟩]

/-- The input is a `SessionStopReq(Pause)` in one of the last two states. -/
def pauses (fsm : Fsm) (input : Input) : Bool :=
  fsm.state.id.ends && input.stopRequest?.any (·.chargingSession = .pause)

theorem pauseCtx_origin {fsm : Fsm} (idle : fsm.ctx.request = none)
    (elsewhere : fsm.state.id ≠ .sessionSetup) {input : Input} {pauseCtx : PauseContext}
    (saved : (step platform input fsm).state.ctx.pauseCtx = some pauseCtx) :
    ∃ old, fsm.ctx.pauseCtx = some old ∧ pauseCtx.oldSessionId = old.oldSessionId ∧
      pauseCtx.vehicleCertSessionIdHash = old.vehicleCertSessionIdHash ∧
      pauseCtx.selectedServiceParameters =
        if fsm.pauses input then fsm.ctx.session.selectedServices else old.selectedServiceParameters := by
  -- Outside `SessionSetup` a pause context keeps its hash and its session id; only a pause
  -- overwrites the services in it.
  by_cases ending : fsm.state.id.ends = true
  · rw [ending_pauseCtx platform ending idle] at saved
    cases stop : input.stopRequest? with
    | none => exact ⟨pauseCtx, by simpa [stop] using saved, rfl, rfl, by simp [pauses, stop]⟩
    | some req =>
        simp only [stop, endedPauseContext] at saved
        cases kind : req.chargingSession with
        | pause =>
            simp only [kind, Option.map_eq_some_iff] at saved
            obtain ⟨old, before, rfl⟩ := saved
            exact ⟨old, before, rfl, rfl, by simp [pauses, ending, stop, kind]⟩
        | terminate => simp [kind] at saved
        | serviceRenegotiation =>
            exact ⟨pauseCtx, by simpa [kind] using saved, rfl, rfl, by simp [pauses, stop, kind]⟩
  · have kept := (step_frame platform fsm input idle).pauseCtx elsewhere
      (fun state => ending (by simp [state, StateId.ends]))
      (fun state => ending (by simp [state, StateId.ends]))
    exact ⟨pauseCtx, kept ▸ saved, rfl, rfl, by simp [pauses, ending]⟩

theorem pauses_rank {fsm : Fsm} {input : Input} (pauses : fsm.pauses input = true) :
    13 ≤ fsm.state.id.rank := by
  obtain ⟨ends, -⟩ := Bool.and_eq_true_iff.mp pauses
  cases state : fsm.state.id <;> simp_all [StateId.ends, StateId.rank]

end Fsm

end LibIso15118
