import LibIso15118.Fsm.Exchange
import LibIso15118.Session.DelayedClose
import LibIso15118.Session.SpuriousStop

set_option autoImplicit false

namespace LibIso15118

open Datatypes Shared

inductive Traffic where
  | received (variant : Variant)
  | response (res : Response)
  | write (res : Response)
  | written (now : TimePoint)

def Input.traffic : Input → List Traffic
  | .message _ variant => [.received variant]
  | .responseWritten now => [.written now]
  | _ => []

def SessionOutput.traffic : SessionOutput → List Traffic
  | .step record => record.input.traffic ++ (responses record.outputs).map .response
  | .write _ res => [.write res]
  | _ => []

def traffic (log : List SessionOutput) : List Traffic := log.flatMap (·.traffic)

def Traffic.exchange? : Traffic → Bool
  | .response _ | .write _ => true
  | _ => false

def exchanges (log : List SessionOutput) : List Traffic := (traffic log).filter (·.exchange?)

/-- Every response is written, once and before the next one, and nothing else is. -/
def Delivered : List Traffic → Prop
  | [] => True
  | .response res :: .write res' :: rest => res' = res ∧ Delivered rest
  | _ => False

def sessionOutputs (steps : List SessionStep) : List SessionOutput := steps.flatMap (·.outputs)

def produced (log : List SessionOutput) : List Response :=
  (machineSteps log).flatMap fun record => responses record.outputs

/-- No step of the machine answers while a response is waiting. -/
def Unspoilt (log : List SessionOutput) : Prop :=
  ∀ record ∈ machineSteps log, record.before.ctx.pendingResponse.isSome = true →
    ¬record.before.Answers record.input

section Logs

variable (log log' : List SessionOutput)

@[simp] theorem traffic_append : traffic (log ++ log') = traffic log ++ traffic log' := List.flatMap_append

@[simp] theorem traffic_nil : traffic [] = [] := rfl

@[simp] theorem exchanges_append : exchanges (log ++ log') = exchanges log ++ exchanges log' := by
  simp [exchanges]

@[simp] theorem exchanges_nil : exchanges [] = [] := rfl

@[simp] theorem produced_append : produced (log ++ log') = produced log ++ produced log' := by
  simp [produced]

@[simp] theorem produced_nil : produced [] = [] := rfl

theorem unspoilt_append : Unspoilt (log ++ log') ↔ Unspoilt log ∧ Unspoilt log' := by
  simp only [Unspoilt, machineSteps_append, List.mem_append, or_imp, forall_and]

end Logs

theorem delivered_append (responses : List Response) (rest : List Traffic) :
    Delivered (responses.map .response ++ responses.getLast?.toList.map .write ++ rest) ↔
      responses.length ≤ 1 ∧ Delivered rest := by
  -- A poll that produces more than one response loses one.
  cases responses with
  | nil => simp
  | cons first responses =>
      cases responses with
      | nil => simp [Delivered]
      | cons second responses => simp [Delivered]

namespace IsoSession

variable (platform : Platform)

structure Produces (session session' : IsoSession) (log : List SessionOutput) : Prop where
  idle : session'.fsm.ctx.request = none
  silent : exchanges log = (produced log).map .response
  pending : session'.fsm.ctx.pendingResponse =
    match (produced log).getLast? with
    | none => session.fsm.ctx.pendingResponse
    | some res => platform.encode res
  unspoilt : Unspoilt log ↔
    session.fsm.ctx.pendingResponse.isSome.toNat + (produced log).length ≤ 1

def ProducesIfIdle (session session' : IsoSession) (log : List SessionOutput) : Prop :=
  session.fsm.ctx.request = none → Produces platform session session' log

variable {platform} {s t u : IsoSession} {l l' : List SessionOutput}

theorem encode_some (encodes : ∀ res, platform.encodedSize res ≠ 0) (res : Response) :
    platform.encode res = some (res, platform.encodedSize res) := by
  simp [Platform.encode, encodes res]

theorem ProducesIfIdle.trans (encodes : ∀ res, platform.encodedSize res ≠ 0)
    (first : ProducesIfIdle platform s t l) (next : ProducesIfIdle platform t u l') :
    ProducesIfIdle platform s u (l ++ l') := by
  intro idle
  have first := first idle
  have next := next first.idle
  have held := first.pending
  refine ⟨next.idle, ?_, ?_, ?_⟩
  · simp [first.silent, next.silent]
  · rw [next.pending, produced_append]
    cases later : (produced l').getLast? with
    | none => simp [List.getLast?_eq_none_iff.mp later, held]
    | some res => simp [List.getLast?_append, later]
  · rw [unspoilt_append, first.unspoilt, next.unspoilt, produced_append, List.length_append]
    have few : s.fsm.ctx.pendingResponse.isSome.toNat ≤ 1 := Bool.toNat_le _
    rcases List.eq_nil_or_concat (produced l) with none | ⟨before, last, some⟩
    · rw [none] at held ⊢
      rw [show t.fsm.ctx.pendingResponse = s.fsm.ctx.pendingResponse from held]
      simp only [List.length_nil]
      omega
    · rw [some, List.concat_eq_append] at held ⊢
      simp only [List.getLast?_concat, encode_some encodes] at held
      simp only [held, Option.isSome_some, Bool.toNat_true, List.length_append, List.length_singleton]
      omega

theorem Produces.still (idle : s.fsm.ctx.request = none) (same : t.fsm = s.fsm) :
    Produces platform s t [] where
  idle := by rw [same, idle]
  silent := rfl
  pending := by simp [same]
  unspoilt := by
    have few : s.fsm.ctx.pendingResponse.isSome.toNat ≤ 1 := Bool.toNat_le _
    simp [Unspoilt, few]

variable (platform)

theorem dispatch_produces {input : Input} (fed : input.fed = true) :
    Act.Ensures (ProducesIfIdle platform) (dispatch platform input) := by
  intro session _ returned idle
  have exchanged := Fsm.step_exchanges platform idle input
  have frame := Fsm.step_frame platform session.fsm input idle
  have returned : (Fsm.step platform input session.fsm).result = .ok () := returned
  have few : session.fsm.ctx.pendingResponse.isSome.toNat ≤ 1 := Bool.toNat_le _
  have unwritten : input.traffic.filter (·.exchange?) = [] := by
    cases input <;> rfl
  have produces : produced (dispatch platform input session).log =
      responses (Fsm.step platform input session.fsm).log := by
    simp [produced, machineSteps, dispatch, SessionOutput.step?]
  have silent : exchanges (dispatch platform input session).log =
      (produced (dispatch platform input session).log).map .response := by
    rw [produces]
    simp only [exchanges, traffic, dispatch, SessionOutput.traffic, List.flatMap_singleton, List.filter_append,
      unwritten, List.nil_append]
    simp [List.filter_map, Function.comp_def, Traffic.exchange?]
  have spoils : Unspoilt (dispatch platform input session).log ↔
      (session.fsm.ctx.pendingResponse.isSome = true → ¬session.fsm.Answers input) := by
    simp [Unspoilt, machineSteps, dispatch, SessionOutput.step?]
  refine ⟨frame.idle, silent, ?_, ?_⟩
  · rw [produces]
    by_cases answers : session.fsm.Answers input
    · rcases exchanged.answered answers with ⟨e, threw⟩ | ⟨out, sent, held⟩
      · exact absurd (returned.symm.trans threw) (by simp)
      · rw [sent]
        exact held
    · obtain ⟨unsent, kept⟩ := exchanged.unanswered answers
      rw [unsent]
      exact kept (by rintro rfl; cases fed)
  · rw [spoils, produces]
    by_cases answers : session.fsm.Answers input
    · rcases exchanged.answered answers with ⟨e, threw⟩ | ⟨out, sent, held⟩
      · exact absurd (returned.symm.trans threw) (by simp)
      · cases waits : session.fsm.ctx.pendingResponse <;> simp [sent, answers]
    · obtain ⟨unsent, -⟩ := exchanged.unanswered answers
      simp [unsent, answers, few]

theorem prepare_produces (encodes : ∀ res, platform.encodedSize res ≠ 0) (env : PollEnv)
    (queue : List ControlEvent) :
    Act.Ensures (ProducesIfIdle platform) (prepare platform env queue) := by
  have refl : Still (ProducesIfIdle platform) := fun same _ _ idle => .still idle same
  have closed : Act.Closed (ε := Exn) fun m => Act.Ensures (ProducesIfIdle platform) m :=
    Act.Ensures.closed (fun _ => refl rfl rfl rfl) (ProducesIfIdle.trans encodes)
  exact PrepareRule.prepare
    { closed with
      receive := fun env => (Still.receive refl env).ensures
      queued := fun _ _ _ _ => refl rfl rfl rfl
      reset := fun _ _ _ => refl rfl rfl rfl
      dispatch := fun _ fed _ => dispatch_produces platform fed
      check := checkTimeouts_closed platform closed fun _ => dispatch_produces platform } env queue

def sentFsm (fsm : Fsm) (written : TimePoint) : Fsm :=
  { fsm with
    ctx := { fsm.ctx with
      pendingResponse := none
      timeouts :=
        if fsm.ctx.pendingResponse.isSome then
          fsm.ctx.timeouts.startTimeout written .sequence timeoutSequence
        else fsm.ctx.timeouts } }

structure Sends (env : PollEnv) (session session' : IsoSession) (log : List SessionOutput) : Prop where
  fsm : session'.fsm = sentFsm session.fsm env.written
  traffic : LibIso15118.traffic log =
    match session.fsm.ctx.pendingResponse with
    | none => []
    | some (res, _) => [.write res, .written env.written]
  unanswered : ∀ record ∈ machineSteps log, responses record.outputs = [] ∧ ¬record.before.Answers record.input

theorem sendResponse_sends (env : PollEnv) (session : IsoSession)
    (returned : (sendResponse platform env session).result = .ok ()) :
    Sends env session (sendResponse platform env session).state (sendResponse platform env session).log := by
  suffices spec : Act.wp (sendResponse platform env) (fun result session' log =>
      result = .ok () → Sends env session session' log) session from spec returned
  simp only [sendResponse, Act.wp_bind, Act.wp_get, List.nil_append]
  rw [Act.wp_iff]
  have took : (dispatch platform .takeResponse session).result = .ok () := rfl
  rw [took]
  cases pending : session.fsm.ctx.pendingResponse with
  | none =>
      intro _
      refine ⟨by simp [sentFsm, pending, dispatch, Fsm.step, Fsm.modifyCtx], by simp [pending]; rfl, ?_⟩
      intro record member
      obtain rfl := List.mem_singleton.mp member
      exact ⟨rfl, id⟩
  | some answer =>
      simp only [Act.wp_ite, Act.wp_throw, Act.wp_bind, Act.wp_emit]
      refine ⟨by simp, fun _ _ => ?_⟩
      refine ⟨by simp [sentFsm, pending, dispatch, Fsm.step, Fsm.modifyCtx], by simp [pending]; rfl, ?_⟩
      intro record member
      obtain rfl | rfl : record = _ ∨ record = _ := by
        simpa [machineSteps, dispatch, SessionOutput.step?] using member
      · exact ⟨rfl, id⟩
      · exact ⟨rfl, id⟩

structure Exchanged (session' : IsoSession) (log : List SessionOutput) : Prop where
  idle : session'.fsm.ctx.request = none
  flushed : session'.fsm.ctx.pendingResponse = none
  exchanges : ∃ responses : List Response, LibIso15118.exchanges log =
      responses.map .response ++ responses.getLast?.toList.map .write ∧
    (Unspoilt log ↔ responses.length ≤ 1)

theorem exchanged_silent {session' : IsoSession} {log : List SessionOutput}
    (idle : session'.fsm.ctx.request = none) (flushed : session'.fsm.ctx.pendingResponse = none)
    (silent : LibIso15118.exchanges log = [])
    (unanswered : ∀ record ∈ machineSteps log, ¬record.before.Answers record.input) :
    Exchanged session' log :=
  ⟨idle, flushed, [], silent, iff_of_true (fun record member _ => unanswered record member) (Nat.zero_le 1)⟩

variable (encodes : ∀ res, platform.encodedSize res ≠ 0) {session : IsoSession}
  (idle : session.fsm.ctx.request = none) (flushed : session.fsm.ctx.pendingResponse = none)
include encodes idle flushed

theorem poll_exchanged (env : PollEnv) (returned : (poll platform env session).result = .ok ()) :
    Exchanged (poll platform env session).state (poll platform env session).log := by
  refine wp_poll_returns platform env session _ (fun _ => ?_) ?_ returned
  · exact exchanged_silent idle flushed rfl (by simp)
  intro prepared log sent log' closed log'' _ prepares sends closes
  have produces : Produces platform session prepared log := by
    have ensured := prepare_produces platform encodes env session.controlEventQueue session ()
      (by rw [prepares]) idle
    rwa [prepares] at ensured
  have sends : Sends env prepared sent log' := by
    have spec := sendResponse_sends platform env prepared (by rw [sends])
    rwa [sends] at spec
  have closing : closed.fsm = sent.fsm ∧ exchanges log'' = [] ∧ machineSteps log'' = [] := by
    cases closes <;> exact ⟨rfl, rfl, rfl⟩
  refine ⟨?_, ?_, produced log, ?_, ?_⟩
  · rw [closing.1, sends.fsm]
    exact produces.idle
  · rw [closing.1, sends.fsm]
    rfl
  · have pending := produces.pending
    rw [exchanges_append, exchanges_append, produces.silent, closing.2.1, List.append_nil, exchanges,
      sends.traffic, pending, flushed]
    cases last : (produced log).getLast? with
    | none => simp
    | some res => simp [encode_some encodes, Traffic.exchange?]
  · have later : Unspoilt (log' ++ log'') := by
      intro record member _
      rw [machineSteps_append, closing.2.2, List.append_nil] at member
      exact (sends.unanswered record member).2
    rw [List.append_assoc, unspoilt_append, produces.unspoilt, flushed]
    simp [later]

end IsoSession

namespace LinkedSession

variable (platform : Platform) (encodes : ∀ res, platform.encodedSize res ≠ 0)
include encodes

theorem act_exchanged {linked : LinkedSession} (idle : linked.session.fsm.ctx.request = none)
    (flushed : linked.session.fsm.ctx.pendingResponse = none) (input : SessionInput)
    (returned : (act platform input linked).result = .ok ()) :
    IsoSession.Exchanged (act platform input linked).state.session (act platform input linked).log := by
  have idle' := (act_follows platform input linked).idle idle
  -- a connection event feeds the machine nothing but the certificate
  have reported (before after : Link) (event : ConnectionEvent)
      (reports : act platform input = report platform before after event) :
      IsoSession.Exchanged (act platform input linked).state.session (act platform input linked).log := by
    have acts : act platform input linked = _ := congrFun reports linked
    rw [report] at acts
    by_cases ready : linked.link = before
    · rw [if_pos ready] at acts
      rw [acts] at idle' ⊢
      cases event
      case opened =>
        cases vehicle : linked.session.vehicle with
        | none =>
          simp only [IsoSession.handleConnectionEvent, Act.get_bind, vehicle] at *
          exact IsoSession.exchanged_silent idle' flushed rfl (by simp)
        | some hash =>
          simp only [IsoSession.handleConnectionEvent, Act.get_bind, vehicle] at *
          refine IsoSession.exchanged_silent idle' flushed rfl ?_
          intro record member
          obtain rfl := List.mem_singleton.mp member
          exact id
      all_goals exact IsoSession.exchanged_silent idle' flushed rfl (by simp [IsoSession.handleConnectionEvent])
    · rw [if_neg ready] at acts
      rw [acts] at idle' ⊢
      exact IsoSession.exchanged_silent idle' flushed rfl (by simp)
  cases input with
  | poll env => exact IsoSession.poll_exchanged platform encodes idle flushed env returned
  | push event =>
      exact IsoSession.exchanged_silent idle flushed rfl (by simp [act, call, IsoSession.pushControlEvent])
  | close =>
      refine IsoSession.exchanged_silent idle' flushed rfl ?_
      intro record member
      obtain rfl := List.mem_singleton.mp member
      exact id
  | accept => exact reported .listening .accepted .accepted rfl
  | opened => exact reported .accepted .opened .opened rfl
  | data => exact reported .opened .opened .newData rfl

theorem steps_delivered {linked : LinkedSession} (idle : linked.session.fsm.ctx.request = none)
    (flushed : linked.session.fsm.ctx.pendingResponse = none) (inputs : List SessionInput)
    (returns : ∀ record ∈ run platform linked inputs, Returns platform record) :
    Delivered (exchanges (sessionOutputs (run platform linked inputs))) ↔
      ∀ record ∈ run platform linked inputs, Unspoilt record.outputs := by
  induction inputs generalizing linked with
  | nil => simp [run, Machine.steps, sessionOutputs, Delivered]
  | cons input rest hyp =>
      have first := returns _ List.mem_cons_self
      obtain ⟨idle', flushed', produced, exchanged, unspoilt⟩ :=
        act_exchanged platform encodes idle flushed input first
      have later := hyp idle' flushed' fun record member => returns record (List.mem_cons_of_mem _ member)
      have splits : sessionOutputs (run platform linked (input :: rest)) =
          (act platform input linked).log ++
            sessionOutputs (run platform (act platform input linked).state rest) := rfl
      rw [splits, exchanges_append, exchanged, delivered_append, later, ← unspoilt, run, run,
        Machine.steps, List.forall_mem_cons]
      rfl

end LinkedSession

open LinkedSession in
/-- In a run whose polls return, every response is written once, in order and before the next one, exactly
when no step of the machine answers while a response is waiting. -/
theorem responses_delivered_iff (platform : Platform) (encodes : ∀ res, platform.encodedSize res ≠ 0)
    (config : SessionConfig) (pauseCtx : Option PauseContext) (vehicle : Option Sha512Hash)
    (id : SessionId) (now : TimePoint) (inputs : List SessionInput)
    (returns : ∀ record ∈ run platform (.new config pauseCtx vehicle id now) inputs, Returns platform record) :
    Delivered (exchanges (sessionOutputs (run platform (.new config pauseCtx vehicle id now) inputs))) ↔
      ∀ record ∈ run platform (.new config pauseCtx vehicle id now) inputs, Unspoilt record.outputs :=
  steps_delivered platform encodes rfl rfl inputs returns

theorem Delivered.balanced {history : List Traffic} (delivered : Delivered history) :
    history.countP (fun traffic => traffic matches .response _) =
      history.countP (fun traffic => traffic matches .write _) := by
  fun_induction Delivered history with
  | case1 => rfl
  | case2 res res' rest hyp => simp [hyp delivered.2]
  | case3 => exact delivered.elim

namespace Sample

def chargingRequests : List Request :=
  (reachPowerDelivery (sessionId 1) ++ [deliver (sessionId 1) .start, deliver (sessionId 1) .stop]).filterMap
    fun input =>
      match input with
      | .message _ (.request req) => some req
      | _ => none

def charging : Platform := numbering chargingRequests

def deferring : List SessionInput :=
  connect ++ (List.range 3).map (fun number => .poll (request (UInt8.ofNat number))) ++
    [.push (.authorizationResponse true)] ++
    (List.range 7).map fun number => .poll (request (UInt8.ofNat (number + 3)))

def coinciding : List SessionInput := deferring ++ [.push (.closedContactor true), .poll (request 10)]

def resuming : List SessionInput := deferring ++ [.push (.closedContactor true), .poll {}]

end Sample

open LinkedSession Sample in
theorem responses_delivered_resuming :
    Delivered (exchanges (sessionOutputs (run charging (.new config none none (sessionId 9) 0) resuming))) ↔
      ∀ record ∈ run charging (.new config none none (sessionId 9) 0) resuming, Unspoilt record.outputs :=
  responses_delivered_iff charging (fun _ => by simp [charging, numbering, platform]) config none none (sessionId 9) 0
    resuming (by decide +kernel)

attribute [local irreducible] Delivered in
open LinkedSession Sample in
/-- The deferred `PowerDeliveryRes` is replaced by the answer to the next request. -/
theorem responses_delivered_coinciding :
    ¬∀ (platform : Platform) (config : SessionConfig) (pauseCtx : Option PauseContext)
      (vehicle : Option Sha512Hash) (id : SessionId) (now : TimePoint) (inputs : List SessionInput),
      (∀ res, platform.encodedSize res ≠ 0) →
      (∀ record ∈ run platform (.new config pauseCtx vehicle id now) inputs, Returns platform record) →
      Delivered (exchanges (sessionOutputs (run platform (.new config pauseCtx vehicle id now) inputs))) := by
  intro delivered
  have encodes (res : Response) : charging.encodedSize res ≠ 0 := by simp [charging, numbering, platform]
  have returns : ∀ record ∈ run charging (.new config none none (sessionId 9) 0) coinciding,
      Returns charging record := by decide +kernel
  have balanced := Delivered.balanced
    (delivered charging config none none (sessionId 9) 0 coinciding encodes returns)
  revert balanced
  decide +kernel

end LibIso15118
