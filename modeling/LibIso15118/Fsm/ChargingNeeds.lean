import LibIso15118.Fsm.Events
import LibIso15118.Fsm.Choices

set_option autoImplicit false

namespace LibIso15118

open Datatypes Shared

namespace Fsm

variable (platform : Platform)

def selection (record : FsmStep) : Option SelectedServiceParameters :=
  (choices record.outputs).findSome? (·.selection?)

def needs (record : FsmStep) : List ChargingNeeds := (choices record.outputs).filterMap (·.needs?)

def accepted {α : Type} (found : Variant → Option α) (record : FsmStep) : Option α :=
  match record.input with
  | .message _ variant => acceptedOf found variant record.outputs
  | _ => none

theorem step_aloof {fsm : Fsm} (idle : fsm.ctx.request = none) (input : Input)
    (apart : fsm.state.id.informs = false ∨ ∀ env variant, input ≠ .message env variant) :
    Aloof fsm.ctx (step platform input fsm).state.ctx (step platform input fsm).log := by
  cases input with
  | message env variant =>
      suffices spec : Act.wp (step platform (.message env variant))
          (fun _ fsm' log => Aloof fsm.ctx fsm'.ctx log) fsm from spec
      rw [wp_step_message platform env variant fsm idle]
      have apart : fsm.state.id.informs = false := apart.resolve_right (by simp)
      refine Act.wp_mono _ _ (State.message_aloof platform env (messageContext fsm.ctx variant)
        (messageContext_request fsm.ctx variant) fsm.state apart) ?_
      rintro result ctx' log ⟨info, silent⟩
      rcases settle_ctx fsm ctx' result with same | same <;>
        exact ⟨by rw [same]; exact info, silent⟩
  | control env event =>
      suffices spec : Act.wp (step platform (.control env event))
          (fun _ fsm' log => Aloof fsm.ctx fsm'.ctx log) fsm from spec
      have info : (controlContext fsm.ctx event).sessionEvInfo = fsm.ctx.sessionEvInfo := by
        cases event <;> rfl
      by_cases resumes : fsm.state.Resumes event
      · obtain ⟨self, req, closed, delivery, saved, rfl⟩ := resumes
        rw [wp_step_control_resumed platform env closed fsm self req delivery saved]
        exact ⟨fun _ => ⟨rfl, rfl⟩, fun _ => ⟨rfl, rfl⟩⟩
      · apply wp_step_control_quiet platform env event fsm resumes
        intro timeouts _
        exact ⟨info, rfl⟩
  | timeout env type =>
      apply wp_step_timeout platform env type fsm (fun _ fsm' log => Aloof fsm.ctx fsm'.ctx log)
      rintro pending log (⟨-, rfl⟩ | ⟨-, -, res, -, -, -, rfl⟩) <;> exact ⟨rfl, rfl⟩
  | _ => exact ⟨rfl, rfl⟩

theorem accepted_request {α : Type} {found : Variant → Option α} {fsm : Fsm} (idle : fsm.ctx.request = none)
    {input : Input} {value : α}
    (brought : accepted found (Machine.stepOf (step platform) fsm input) = some value) :
    ∃ env req, input = .message env (.request req) ∧ fsm.state.id.accepts req = true ∧
      found (.request req) = some value ∧ ∃ out, out.code? = some .ok ∧
        req.Answer env (messageContext fsm.ctx (.request req)) fsm.state out := by
  cases input with
  | message env variant =>
      obtain ⟨answered, brought⟩ := Option.ite_none_right_eq_some.mp brought
      obtain ⟨out, sent, ok⟩ := List.any_eq_true.mp answered
      have ok : out.code? = some .ok := by simpa using ok
      cases step_okAnswer platform idle (.message env variant) out sent ok with
      | message env req out accepts answer => exact ⟨env, req, rfl, accepts, brought, out, ok, answer⟩
  | _ => cases brought

theorem accepted_limits {fsm : Fsm} (idle : fsm.ctx.request = none) (input : Input)
    (other : fsm.state.id.rank ≠ 7) :
    accepted (·.limits?) (Machine.stepOf (step platform) fsm input) = none := by
  by_contra brought
  obtain ⟨limits, brought⟩ := Option.ne_none_iff_exists'.mp brought
  obtain ⟨env, req, -, accepts, asks, -⟩ := accepted_request platform idle brought
  cases req <;> cases asks <;> cases state : fsm.state.id <;>
    simp [state, StateId.accepts, StateId.rank] at accepts other

theorem accepted_services {fsm : Fsm} (idle : fsm.ctx.request = none) (input : Input)
    (other : fsm.state.id ≠ .serviceDiscovery) :
    accepted (·.services?) (Machine.stepOf (step platform) fsm input) = none := by
  by_contra brought
  obtain ⟨services, brought⟩ := Option.ne_none_iff_exists'.mp brought
  obtain ⟨env, req, -, accepts, asks, -⟩ := accepted_request platform idle brought
  cases req <;> cases asks
  cases state : fsm.state.id <;> simp [state, StateId.accepts] at accepts other

theorem aloof_rank {fsm : Fsm} (idle : fsm.ctx.request = none) (input : Input)
    (apart : fsm.state.id.informs = false ∨ ∀ env variant, input ≠ .message env variant) {stage : Nat}
    (known : stage = 7 ∨ stage = 8) (early : fsm.state.id.rank < stage) :
    (step platform input fsm).state.state.id.rank < stage := by
  -- No state is entered that uses what has not been told.
  have frame := step_frame platform fsm input idle
  rcases frame.next with same | ⟨next, successor, created⟩
  · rwa [same]
  · by_cases moves : fsm.Moves input
    · rw [created, State.enter_id, StateId.create_id]
      rcases moves with ⟨env, variant, rfl⟩ | ⟨env, event, rfl, self, req, closed, delivery, -⟩
      · have quiet : fsm.state.id.informs = false := apart.resolve_right (by simp)
        rcases known with rfl | rfl <;> cases state : fsm.state.id <;>
          simp_all [StateId.informs, StateId.successors, StateId.rank]
      · simp [delivery, State.id, StateId.rank] at early
        omega
    · rwa [(frame.quiet moves).1]

theorem message_lift {fsm : Fsm} (idle : fsm.ctx.request = none) (env : Env) (variant : Variant)
    {post : Except Exn (State × Result) → Context → List Output → Prop}
    (spec : Act.wp (fsm.state.feed platform env .v2gtpMessage) post (messageContext fsm.ctx variant)) :
    ∃ result ctx' log, post result ctx' log ∧
      (step platform (.message env variant) fsm).state = fsm.settle result ctx' ∧
      (step platform (.message env variant) fsm).log = .feedback (.v2gMessage variant.getType) :: log := by
  suffices lifted : Act.wp (step platform (.message env variant)) (fun _ fsm' log' =>
      ∃ result ctx' log, post result ctx' log ∧ fsm' = fsm.settle result ctx' ∧
        log' = .feedback (.v2gMessage variant.getType) :: log) fsm from lifted
  rw [wp_step_message platform env variant fsm idle]
  exact Act.wp_mono _ _ spec fun result ctx' log holds => ⟨result, ctx', log, holds, rfl, rfl⟩

def scheduled (record : FsmStep) : Option ScheduleExchangeRequest :=
  match record.input with
  | .message _ (.request (.scheduleExchange req)) =>
      if record.before.state.id = .scheduleExchange then some req else none
  | _ => none

structure Informs (record : FsmStep) : Prop where
  selection : record.before.state.id.chooses = false → selection record = none
  chosen : record.before.state.id.rank < 7 → 7 ≤ record.after.state.id.rank →
    Fsm.selection record = some record.after.ctx.session.selectedServices
  limits : record.before.state.id.rank ≠ 7 →
    record.after.ctx.sessionEvInfo.evTransferLimits = record.before.ctx.sessionEvInfo.evTransferLimits
  taken : record.before.state.id.rank = 7 → 8 ≤ record.after.state.id.rank →
    accepted (·.limits?) record = some record.after.ctx.sessionEvInfo.evTransferLimits
  services : record.after.ctx.sessionEvInfo.evEnergyServices =
    record.before.ctx.sessionEvInfo.evEnergyServices ++ (accepted (·.services?) record).getD []
  discovered : record.after.state.id.rank ≤ 4 → accepted (·.services?) record = none
  needs : needs record = (scheduled record).toList.map fun req =>
    .of record.before.ctx.session.selectedServices record.before.ctx.evseLimits
      record.before.ctx.sessionEvInfo.evTransferLimits req record.before.ctx.sessionEvInfo.evEnergyServices

theorem scheduled_none {fsm : Fsm} {input : Input} (other : fsm.state.id ≠ .scheduleExchange) :
    scheduled (Machine.stepOf (step platform) fsm input) = none := by
  unfold scheduled
  split
  · exact if_neg other
  · rfl

theorem aloof_informs {fsm : Fsm} (idle : fsm.ctx.request = none) (input : Input)
    (apart : fsm.state.id.informs = false ∨ ∀ env variant, input ≠ .message env variant) :
    Informs (Machine.stepOf (step platform) fsm input) := by
  obtain ⟨info, silent⟩ := step_aloof platform idle input apart
  have unscheduled : scheduled (Machine.stepOf (step platform) fsm input) = none := by
    rcases apart with apart | unheard
    · refine scheduled_none platform fun same => ?_
      simp [same, StateId.informs] at apart
    · cases input with
      | message env variant => exact absurd rfl (unheard env variant)
      | _ => rfl
  have undiscovered : accepted (·.services?) (Machine.stepOf (step platform) fsm input) = none := by
    rcases apart with apart | unheard
    · refine accepted_services platform idle input fun same => ?_
      simp [same, StateId.informs] at apart
    · cases input with
      | message env variant => exact absurd rfl (unheard env variant)
      | _ => rfl
  exact
    { selection := fun _ => by simp [selection, silent]
      chosen := fun early later =>
        absurd later (Nat.not_le.mpr (aloof_rank platform idle input apart (.inl rfl) early))
      limits := fun _ => congrArg (·.evTransferLimits) info
      taken := fun now later => absurd later
        (Nat.not_le.mpr (aloof_rank platform idle input apart (.inr rfl) (now.trans_lt (by decide))))
      services := by simp [undiscovered, info]
      discovered := fun _ => undiscovered
      needs := by simp [needs, silent, unscheduled] }

theorem message_moves {fsm : Fsm} {variant : Variant} {request : Option Variant}
    {result : Except Exn (State × Result)} {ctx' : Context}
    (frame : FeedFrame fsm.state (messageContext fsm.ctx variant) request result ctx')
    (moved : (fsm.settle result ctx').state.id ≠ fsm.state.id) :
    ∃ state new, result = .ok (state, .createState new) ∧ (fsm.settle result ctx').state.id = new.id := by
  -- A message that makes the machine leave its state asks for the new one.
  rcases result with e | ⟨state', unhandled, newState⟩
  · exact absurd rfl moved
  · obtain ⟨same, follows⟩ := frame.next state' ⟨unhandled, newState⟩ rfl
    cases newState with
    | none =>
        obtain rfl : unhandled = true := follows
        exact absurd same moved
    | some new =>
        obtain ⟨rfl, -⟩ := follows
        exact ⟨state', new, rfl, State.enter_id _ _⟩

section Informing

variable {fsm : Fsm} (idle : fsm.ctx.request = none) (env : Env) (variant : Variant)
include idle

theorem chooses_informs (choosing : fsm.state.id.chooses = true) :
    Informs (Machine.stepOf (step platform) fsm (.message env variant)) := by
  have pending := messageContext_request fsm.ctx variant
  have spec : Act.wp (fsm.state.feed platform env .v2gtpMessage) (Chooses (messageContext fsm.ctx variant))
      (messageContext fsm.ctx variant) := by
    cases state : fsm.state <;> simp [state, State.id, StateId.chooses] at choosing
    · exact sessionSetup_chooses platform env _ pending
    · exact serviceSelection_chooses platform env _ pending
  obtain ⟨result, ctx', log, ⟨frame, info, needless, chosen⟩, after, outputs⟩ :=
    message_lift platform idle env variant
      (Act.wp_and _ _ (State.message_frame platform env _ pending _) spec)
  have early : fsm.state.id.rank < 7 ∧ fsm.state.id ≠ .serviceDiscovery ∧
      fsm.state.id ≠ .scheduleExchange := by
    cases state : fsm.state.id <;> simp [state, StateId.chooses] at choosing <;> simp [StateId.rank]
  have tells : choices (step platform (.message env variant) fsm).log = choices log := by
    rw [outputs, choices_message]
  have info' : (step platform (.message env variant) fsm).state.ctx.sessionEvInfo =
      fsm.ctx.sessionEvInfo := by
    rw [after]
    rcases settle_ctx fsm ctx' result with same | same <;> rw [same] <;> exact info
  exact
    { selection := fun quiet => absurd choosing (by simpa using quiet)
      chosen := fun _ later => by
        rw [Machine.stepOf_after, after] at later ⊢
        obtain ⟨state, new, rfl, same⟩ := message_moves frame (fun same => by
          rw [same] at later
          exact absurd early.1 (Nat.not_lt.mpr later))
        rw [selection, Machine.stepOf_outputs, tells]
        exact chosen state new rfl (same ▸ later)
      limits := fun _ => congrArg (·.evTransferLimits) info'
      taken := fun now => absurd (show fsm.state.id.rank = 7 from now) (Nat.ne_of_lt early.1)
      services := by
        simp [accepted_services platform idle (.message env variant) early.2.1, info']
      discovered := fun _ => accepted_services platform idle _ early.2.1
      needs := by
        simp [needs, tells, needless, scheduled_none platform early.2.2] }

theorem serviceDiscovery_informs (state : fsm.state.id = .serviceDiscovery) :
    Informs (Machine.stepOf (step platform) fsm (.message env variant)) := by
  have pending := messageContext_request fsm.ctx variant
  have spec := serviceDiscovery_discovers platform env _ pending
  have discovery : fsm.state = .serviceDiscovery := by
    cases here : fsm.state <;> simp [here, State.id] at state
    rfl
  rw [← discovery] at spec
  obtain ⟨result, ctx', log, ⟨frame, silent, limits, services, moves⟩, after, outputs⟩ :=
    message_lift platform idle env variant
      (Act.wp_and _ _ (State.message_frame platform env _ pending _) spec)
  have tells : choices (step platform (.message env variant) fsm).log = [] := by
    rw [outputs, choices_message, silent]
  have info : (step platform (.message env variant) fsm).state.ctx.sessionEvInfo = ctx'.sessionEvInfo := by
    rw [after]
    rcases settle_ctx fsm ctx' result with same | same <;> rw [same]
  have brought : accepted (·.services?) (Machine.stepOf (step platform) fsm (.message env variant)) =
      acceptedOf (·.services?) variant log := by
    simp [accepted, outputs, acceptedOf, Output.response?]
  have frame := step_frame platform fsm (.message env variant) idle
  exact
    { selection := fun _ => by simp [selection, tells]
      chosen := fun _ later => by
        rcases frame.next with same | ⟨next, successor, created⟩
        · rw [Machine.stepOf_after, same, state] at later
          exact absurd later (by decide)
        · rw [state, StateId.successors, List.mem_singleton] at successor
          rw [Machine.stepOf_after, created, State.enter_id, StateId.create_id, successor] at later
          exact absurd later (by decide)
      limits := fun _ => (congrArg (·.evTransferLimits) info).trans limits
      taken := fun now => absurd (show fsm.state.id.rank = 7 from now) (by simp [state, StateId.rank])
      services := by
        rw [brought, Machine.stepOf_after, info]
        exact services
      discovered := fun stays => by
        rcases moves with none | ⟨_, rfl⟩
        · rw [brought, none]
        · rw [Machine.stepOf_after, after] at stays
          rw [settle_createState, State.enter_id] at stays
          exact absurd stays (by decide)
      needs := by
        simp [needs, tells, scheduled_none platform (show fsm.state.id ≠ .scheduleExchange by simp [state])] }

theorem takesLimits_informs (state : fsm.state.id.rank = 7) :
    Informs (Machine.stepOf (step platform) fsm (.message env variant)) := by
  have pending := messageContext_request fsm.ctx variant
  have spec : Act.wp (fsm.state.feed platform env .v2gtpMessage)
      (TakesLimits (messageContext fsm.ctx variant) variant) (messageContext fsm.ctx variant) := by
    cases here : fsm.state <;> simp [here, State.id, StateId.rank] at state
    · exact acChargeParameterDiscovery_limits platform env _ pending _
    · exact dcChargeParameterDiscovery_limits platform env _ pending
  have apart : fsm.state.id ≠ .serviceDiscovery ∧ fsm.state.id ≠ .scheduleExchange := by
    constructor <;> intro same <;> simp [same, StateId.rank] at state
  obtain ⟨result, ctx', log, ⟨frame, silent, services, taken⟩, after, outputs⟩ :=
    message_lift platform idle env variant
      (Act.wp_and _ _ (State.message_frame platform env _ pending _) spec)
  have tells : choices (step platform (.message env variant) fsm).log = [] := by
    rw [outputs, choices_message, silent]
  have info : (step platform (.message env variant) fsm).state.ctx.sessionEvInfo = ctx'.sessionEvInfo := by
    rw [after]
    rcases settle_ctx fsm ctx' result with same | same <;> rw [same]
  have brought : accepted (·.limits?) (Machine.stepOf (step platform) fsm (.message env variant)) =
      acceptedOf (·.limits?) variant log := by
    simp [accepted, outputs, acceptedOf, Output.response?]
  exact
    { selection := fun _ => by simp [selection, tells]
      chosen := fun early => absurd (show fsm.state.id.rank < 7 from early) (by omega)
      limits := fun other => absurd state other
      taken := fun _ later => by
        rw [Machine.stepOf_after, after] at later
        obtain ⟨state', new, rfl, -⟩ := message_moves frame fun same => by
          rw [same] at later
          omega
        rw [brought, Machine.stepOf_after, info]
        exact taken state' new rfl
      services := by
        rw [accepted_services platform idle _ apart.1, Machine.stepOf_after, info, services]
        exact (List.append_nil _).symm
      discovered := fun _ => accepted_services platform idle _ apart.1
      needs := by simp [needs, tells, scheduled_none platform apart.2] }

theorem scheduleExchange_informs (state : fsm.state.id = .scheduleExchange) :
    Informs (Machine.stepOf (step platform) fsm (.message env variant)) := by
  have pending := messageContext_request fsm.ctx variant
  obtain ⟨self, here⟩ : ∃ self, fsm.state = .scheduleExchange self := by
    cases here : fsm.state <;> simp [here, State.id] at state
    exact ⟨_, rfl⟩
  have spec := scheduleExchange_needs platform env _ pending self
  rw [← here] at spec
  obtain ⟨result, ctx', log, ⟨info, tells⟩, after, outputs⟩ := message_lift platform idle env variant spec
  have info' : (step platform (.message env variant) fsm).state.ctx.sessionEvInfo =
      fsm.ctx.sessionEvInfo := by
    rw [after]
    rcases settle_ctx fsm ctx' result with same | same <;> rw [same] <;> exact info
  have same : choices (step platform (.message env variant) fsm).log = choices log := by
    rw [outputs, choices_message]
  exact
    { selection := fun _ => by
        rcases tells with ⟨req, -, tells⟩ | ⟨-, tells⟩ <;> simp [selection, same, tells, Choice.selection?]
      chosen := fun early => absurd (show fsm.state.id.rank < 7 from early) (by simp [state, StateId.rank])
      limits := fun _ => congrArg (·.evTransferLimits) info'
      taken := fun now => absurd (show fsm.state.id.rank = 7 from now) (by simp [state, StateId.rank])
      services := by
        simp [accepted_services platform idle (.message env variant)
          (show fsm.state.id ≠ .serviceDiscovery by simp [state]), info']
      discovered := fun _ => accepted_services platform idle _ (by simp [state])
      needs := by
        rcases tells with ⟨req, rfl, tells⟩ | ⟨other, tells⟩
        · simp [needs, same, tells, Choice.needs?, scheduled, state]
          rfl
        · have unscheduled : scheduled (Machine.stepOf (step platform) fsm (.message env variant)) =
            none := by
            unfold scheduled
            split
            · rename_i here
              exact absurd (Input.message.inj here).2 (other _)
            · rfl
          simp [needs, same, tells, unscheduled] }

end Informing

theorem step_informs {fsm : Fsm} (idle : fsm.ctx.request = none) (input : Input) :
    Informs (Machine.stepOf (step platform) fsm input) := by
  by_cases apart : fsm.state.id.informs = false ∨ ∀ env variant, input ≠ .message env variant
  · exact aloof_informs platform idle input apart
  · push Not at apart
    obtain ⟨informs, env, variant, rfl⟩ := apart
    cases state : fsm.state.id <;> simp [state, StateId.informs] at informs
    · exact chooses_informs platform idle env variant (by rw [state]; rfl)
    · exact serviceDiscovery_informs platform idle env variant state
    · exact chooses_informs platform idle env variant (by rw [state]; rfl)
    · exact takesLimits_informs platform idle env variant (by rw [state]; rfl)
    · exact takesLimits_informs platform idle env variant (by rw [state]; rfl)
    · exact scheduleExchange_informs platform idle env variant state

theorem accepted_suits {fsm : Fsm} (idle : fsm.ctx.request = none) {input : Input} {limits : EvTransferLimits}
    (brought : accepted (·.limits?) (Machine.stepOf (step platform) fsm input) = some limits) :
    limits.Suits fsm.ctx.session.selectedServices.selectedEnergyService := by
  obtain ⟨env, req, rfl, -, asks, out, ok, answer⟩ := accepted_request platform idle brought
  cases req with
  | acChargeParameterDiscovery req =>
      obtain rfl := Option.some.inj asks
      have fits := Request.Answer.fits answer ok (by simp [Request.dcOnly])
      obtain ⟨self, -, rfl⟩ := answer
      obtain ⟨ac, kind, env, req', same, alike⟩ := fits
      cases same
      rw [← alike] at kind
      have ac : fsm.ctx.session.isAcCharger = true := ac
      exact ⟨by simpa [Session.isAcCharger, or_assoc] using ac, kind⟩
  | dcChargeParameterDiscovery req =>
      obtain rfl := Option.some.inj asks
      have fits := Request.Answer.fits answer ok (by simp [Request.dcOnly])
      obtain rfl := answer
      obtain ⟨dc, kind, env, req', same, alike⟩ := fits
      cases same
      rw [← alike] at kind
      have dc : fsm.ctx.session.isDcCharger = true := dc
      exact ⟨by simpa [Session.isDcCharger, or_assoc] using dc, kind⟩
  | _ => cases asks

/-- What is kept for the needs is what the steps so far have told and accepted. -/
structure NeedsInvariant (past : List FsmStep) (fsm : Fsm) : Prop where
  idle : fsm.ctx.request = none
  selection : 7 ≤ fsm.state.id.rank → newest past selection = some fsm.ctx.session.selectedServices
  limits : 8 ≤ fsm.state.id.rank → newest past (accepted (·.limits?)) =
    some fsm.ctx.sessionEvInfo.evTransferLimits
  suits : 8 ≤ fsm.state.id.rank →
    fsm.ctx.sessionEvInfo.evTransferLimits.Suits fsm.ctx.session.selectedServices.selectedEnergyService
  services : fsm.ctx.sessionEvInfo.evEnergyServices = (newest past (accepted (·.services?))).getD []
  undiscovered : fsm.state.id.rank ≤ 4 → fsm.ctx.sessionEvInfo.evEnergyServices = []

theorem needsInvariant_step {past : List FsmStep} {fsm : Fsm} (inv : NeedsInvariant past fsm)
    (input : Input) :
    NeedsInvariant (past ++ [Machine.stepOf (step platform) fsm input]) (step platform input fsm).state := by
  have informs := step_informs platform inv.idle input
  have frame := step_frame platform fsm input inv.idle
  have kept (late : 7 ≤ fsm.state.id.rank) :
      (step platform input fsm).state.ctx.session.selectedServices = fsm.ctx.session.selectedServices := by
    refine frame.selected ?_ ?_ <;> intro same <;> simp [same, StateId.rank] at late
  have accepts (late : 8 ≤ (step platform input fsm).state.state.id.rank) (now : fsm.state.id.rank < 8) :
      fsm.state.id.rank = 7 := by
    rcases frame.next with same | ⟨next, successor, created⟩
    · rw [same] at late
      omega
    · rw [created, State.enter_id, StateId.create_id] at late
      cases state : fsm.state.id <;> simp [state, StateId.successors] at successor <;>
        simp only [state, StateId.rank] at now ⊢ <;> try omega
      all_goals rcases successor with rfl | rfl | rfl <;> simp [StateId.rank] at late
  refine ⟨frame.idle, fun late => ?_, fun late => ?_, fun late => ?_, ?_, fun early => ?_⟩
  · rw [newest_concat]
    by_cases before : fsm.state.id.rank < 7
    · rw [informs.chosen before late]
      rfl
    · have quiet : fsm.state.id.chooses = false := by
        cases state : fsm.state.id <;> simp [state, StateId.rank, StateId.chooses] at before ⊢
      have late : 7 ≤ fsm.state.id.rank := by omega
      rw [informs.selection quiet, Option.none_or, inv.selection late, kept late]
  · rw [newest_concat]
    by_cases before : fsm.state.id.rank < 8
    · rw [informs.taken (accepts late before) late]
      rfl
    · have later : fsm.state.id.rank ≠ 7 := by omega
      rw [accepted_limits platform inv.idle input later, Option.none_or, inv.limits (by omega)]
      exact congrArg some (informs.limits later).symm
  · by_cases before : fsm.state.id.rank < 8
    · have now := accepts late before
      rw [kept (by omega)]
      exact accepted_suits platform inv.idle (informs.taken now late)
    · rw [kept (by omega)]
      exact informs.limits (show fsm.state.id.rank ≠ 7 by omega) ▸ inv.suits (by omega)
  · have services := informs.services
    rw [Machine.stepOf_after, Machine.stepOf_before] at services
    rw [services, newest_concat]
    by_cases discovery : fsm.state.id = .serviceDiscovery
    · have nothing := inv.services.symm.trans (inv.undiscovered (by simp [discovery, StateId.rank]))
      rw [inv.services, nothing, List.nil_append]
      cases brought : accepted (·.services?) (Machine.stepOf (step platform) fsm input) with
      | none => simpa using nothing.symm
      | some services => rfl
    · rw [accepted_services platform inv.idle input discovery, inv.services]
      simp
  · have services := informs.services
    rw [informs.discovered early, Machine.stepOf_before,
      inv.undiscovered (frame.rank_le.trans early)] at services
    exact services

theorem needsInvariant_reached (config : SessionConfig) (pauseCtx : Option PauseContext) (id : SessionId)
    (inputs : List Input) :
    NeedsInvariant (run platform config pauseCtx id inputs) (reached platform config pauseCtx id inputs) :=
  Machine.run_induction (step platform) (Fsm.new config pauseCtx id) (motive := NeedsInvariant)
    ⟨rfl, fun late => absurd late (by simp [Fsm.new, State.id, StateId.rank]),
      fun late => absurd late (by simp [Fsm.new, State.id, StateId.rank]),
      fun late => absurd late (by simp [Fsm.new, State.id, StateId.rank]), rfl, fun _ => rfl⟩
    (fun _ _ input inv => needsInvariant_step platform inv input) inputs

/-- In every run, a `ScheduleExchangeReq` in its state tells the needs once and nothing else does. They are the
selection that was told last and the limits and services that were accepted last, with the limits that the
charger has been set for the same kind of transfer. -/
theorem charging_needs (config : SessionConfig) (pauseCtx : Option PauseContext) (id : SessionId)
    (inputs : List Input) {past future : List FsmStep} {record : FsmStep}
    (split : run platform config pauseCtx id inputs = past ++ record :: future) :
    (scheduled record = none → needs record = []) ∧
    ∀ req, scheduled record = some req → ∃ selected limits,
      newest past selection = some selected ∧ newest past (accepted (·.limits?)) = some limits ∧
      limits.Suits selected.selectedEnergyService ∧
      needs record = [.of selected (limits.counterpart (delivered config past)) limits req
        ((newest past (accepted (·.services?))).getD [])] := by
  obtain ⟨before, input, after, -, rfl, rfl⟩ := Machine.split_of_steps _ split
  have inv := needsInvariant_reached platform config pauseCtx id before
  have stored := (eventInvariant_reached platform config pauseCtx id before).stored
  simp only [run, reached] at inv stored
  generalize Machine.final (step platform) (Fsm.new config pauseCtx id) before = fsm at *
  have tells := (step_informs platform inv.idle input).needs
  refine ⟨fun none => by rw [tells, none]; rfl, fun req asks => ?_⟩
  have exchange : fsm.state.id = .scheduleExchange := by
    by_contra other
    rw [scheduled_none platform other] at asks
    cases asks
  have late : 8 ≤ fsm.state.id.rank := by simp [exchange, StateId.rank]
  refine ⟨_, _, inv.selection (by omega), inv.limits late, inv.suits late, ?_⟩
  rw [tells, asks, ← stored, ← inv.services, ← Context.evseLimits_of_suits (inv.suits late)]
  rfl

end Fsm

namespace Sample

def acLimited : List Input :=
  selectService (sessionId 1) .ac ++
    [receive (sessionId 1) (.acChargeParameterDiscovery ⟨{ sessionId := sessionId 1 }, .ac {}⟩)]

def schedule : ScheduleExchangeRequest := ⟨{ sessionId := sessionId 1 }, 12, .scheduled {}⟩

end Sample

namespace Fsm

open Sample

theorem charging_needs_ac :
    ∃ told, needs (Machine.stepOf (step platform) (reached platform config none (sessionId 9) acLimited)
        (receive (sessionId 1) (.scheduleExchange schedule))) = [told] ∧ told.service = .ac ∧
      told.evseLimits = .ac (delivered config (run platform config none (sessionId 9) acLimited)).acLimits ∧
      told.evControlMode = .scheduled {} := by
  have split := run_concat platform config none (sessionId 9) acLimited
    (receive (sessionId 1) (.scheduleExchange schedule))
  have exchange : (reached platform config none (sessionId 9) acLimited).state.id = .scheduleExchange := by
    decide +kernel
  have service : (newest (run platform config none (sessionId 9) acLimited) selection).map
      (·.selectedEnergyService) = some .ac := by
    decide +kernel
  have asks : scheduled (Machine.stepOf (step platform) (reached platform config none (sessionId 9) acLimited)
      (receive (sessionId 1) (.scheduleExchange schedule))) = some schedule := by
    simp only [scheduled, receive, Machine.stepOf_input, Machine.stepOf_before, exchange, if_true]
  obtain ⟨selected, limits, last, -, suits, tells⟩ :=
    (charging_needs platform config none (sessionId 9) _ split).2 schedule asks
  rw [last] at service
  have ac : selected.selectedEnergyService = .ac := Option.some.inj service
  refine ⟨_, tells, ac, ?_, rfl⟩
  cases limits with
  | ac mode => rfl
  | dc mode =>
      rw [ac] at suits
      exact absurd suits.1 (by decide)

end Fsm

end LibIso15118
