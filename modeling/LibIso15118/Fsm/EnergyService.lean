import LibIso15118.Fsm.Exchange
import LibIso15118.Fsm.SessionSteps

set_option autoImplicit false

namespace LibIso15118

open Datatypes Shared

theorem StateId.fits_congr (id : StateId) {session session' : Session}
    (same : session'.selectedServices = session.selectedServices) : id.fits session' = id.fits session := by
  cases id <;> simp [fits, Session.isAcCharger_congr same, Session.isDcCharger_congr same]

namespace Fsm

variable (platform : Platform)

structure ServiceInvariant (fsm : Fsm) : Prop where
  idle : fsm.ctx.request = none
  fits : fsm.state.id.fits fsm.ctx.session = true
  deferred : ∀ self req, fsm.state = .powerDelivery self → self.previousReq = some req →
    fsm.ctx.session.isAcCharger = true

theorem message_fits {fsm : Fsm} (idle : fsm.ctx.request = none) (env : Env) (variant : Variant)
    (fits : fsm.state.id.fits fsm.ctx.session = true) :
    Act.wp (step platform (.message env variant))
      (fun _ fsm' _ => fsm'.state.id ≠ fsm.state.id → fsm'.state.id.fits fsm'.ctx.session = true)
      fsm := by
  rw [wp_step_message platform env variant fsm idle]
  have pending := messageContext_request fsm.ctx variant
  by_cases accepted : ∃ req, variant = .request req ∧ fsm.state.id.accepts req = true
  · obtain ⟨req, rfl, accepts⟩ := accepted
    refine Act.wp_mono _ _ (Act.wp_and _ _ (State.message_frame platform env _ pending fsm.state)
      (State.message_branch platform env _ fsm.state pending accepts)) ?_
    rintro (e | ⟨state', unhandled, newState⟩) ctx' log ⟨frame, branch⟩ moved
    · exact absurd rfl moved
    · obtain ⟨same, follows⟩ := frame.next state' ⟨unhandled, newState⟩ rfl
      cases newState with
      | none =>
          obtain rfl : unhandled = true := follows
          exact absurd same moved
      | some new =>
          obtain ⟨rfl, -⟩ := follows
          simpa [settle] using branch.fits state' new rfl fits
  · apply State.wp_unexpected platform env pending
    · intro req same
      by_contra accepts
      exact accepted ⟨req, same, Bool.eq_true_of_not_eq_false accepts⟩
    · intro response log _ moved
      exact absurd rfl moved

theorem step_fits {fsm : Fsm} (inv : ServiceInvariant fsm) (input : Input) :
    (step platform input fsm).state.state.id.fits (step platform input fsm).state.ctx.session = true := by
  have frame := step_frame platform fsm input inv.idle
  by_cases same : (step platform input fsm).state.state.id = fsm.state.id
  · rw [same]
    by_cases setup : fsm.state.id = .sessionSetup
    · rw [setup]
      rfl
    by_cases selection : fsm.state.id = .serviceSelection
    · rw [selection]
      rfl
    rw [StateId.fits_congr _ (frame.selected setup selection)]
    exact inv.fits
  · by_cases moves : fsm.Moves input
    · rcases moves with ⟨env, variant, rfl⟩ | ⟨env, event, rfl, resumes⟩
      · exact message_fits platform inv.idle env variant inv.fits same
      · obtain ⟨self, req, closed, delivery, saved, rfl⟩ := resumes
        have ac := inv.deferred self req delivery saved
        suffices spec : Act.wp (step platform (.control env (.closedContactor closed)))
            (fun _ fsm' _ => fsm'.state.id ≠ fsm.state.id →
              fsm'.state.id.fits fsm'.ctx.session = true) fsm from spec same
        rw [wp_step_control_resumed platform env closed fsm self req delivery saved, delivery]
        exact ⟨fun _ moved => absurd rfl moved, fun _ _ => ac⟩
    · exact absurd (frame.quiet moves).1 same

theorem step_deferred {fsm : Fsm} (inv : ServiceInvariant fsm) (input : Input)
    (self' : State.PowerDelivery) (req : PowerDeliveryRequest)
    (now : (step platform input fsm).state.state = .powerDelivery self')
    (saved : self'.previousReq = some req) :
    (step platform input fsm).state.ctx.session.isAcCharger = true := by
  have frame := step_frame platform fsm input inv.idle
  rcases frame.next with same | ⟨next, successor, created⟩
  · rw [now] at same
    obtain ⟨self, delivery⟩ := State.eq_powerDelivery same.symm
    have kept : (step platform input fsm).state.ctx.session.selectedServices =
        fsm.ctx.session.selectedServices :=
      frame.selected (by simp [delivery, State.id]) (by simp [delivery, State.id])
    rw [Session.isAcCharger_congr kept]
    cases powerDelivery_step platform delivery inv.idle input with
    | stay self'' state closed saves =>
        obtain rfl : self' = self'' := by simpa [now] using state
        rcases saves req saved with before | ⟨-, -, ac⟩
        · exact inv.deferred self req delivery before
        · exact ac
    | answered env req' message own closed answer kind state =>
        rw [now] at state
        split at state <;> cases state
    | resumed env closed req' event before own answer state =>
        rw [now] at state
        cases state
  · rw [now] at created
    obtain rfl := State.created_powerDelivery created.symm
    cases saved

theorem serviceInvariant_step {fsm : Fsm} (inv : ServiceInvariant fsm) (input : Input) :
    ServiceInvariant (step platform input fsm).state where
  idle := (step_frame platform fsm input inv.idle).idle
  fits := step_fits platform inv input
  deferred := step_deferred platform inv input

theorem serviceInvariant_reached (config : SessionConfig) (pauseCtx : Option PauseContext)
    (id : SessionId) (inputs : List Input) :
    ServiceInvariant (reached platform config pauseCtx id inputs) := by
  refine Machine.run_induction (step platform) (Fsm.new config pauseCtx id)
    (motive := fun _ fsm => ServiceInvariant fsm) ⟨rfl, rfl, by rintro _ _ ⟨⟩⟩ ?_ inputs
  exact fun _ fsm input inv => serviceInvariant_step platform inv input

end Fsm

inductive TransferKind where
  | plain
  | bpt
  | der
  deriving DecidableEq

def Datatypes.ServiceCategory.transferKind? (service : ServiceCategory) : Option TransferKind :=
  if service = .ac ∨ service = .dc ∨ service = .mcs then some .plain
  else if service = .acBpt ∨ service = .dcBpt ∨ service = .mcsBpt then some .bpt
  else if service = .acDer then some .der
  else none

section TransferKind

@[simp] theorem transferKind_ac : ServiceCategory.ac.transferKind? = some .plain := rfl
@[simp] theorem transferKind_dc : ServiceCategory.dc.transferKind? = some .plain := rfl
@[simp] theorem transferKind_mcs : ServiceCategory.mcs.transferKind? = some .plain := rfl
@[simp] theorem transferKind_acBpt : ServiceCategory.acBpt.transferKind? = some .bpt := rfl
@[simp] theorem transferKind_dcBpt : ServiceCategory.dcBpt.transferKind? = some .bpt := rfl
@[simp] theorem transferKind_mcsBpt : ServiceCategory.mcsBpt.transferKind? = some .bpt := rfl
@[simp] theorem transferKind_acDer : ServiceCategory.acDer.transferKind? = some .der := rfl

end TransferKind

namespace Datatypes

def AcCpdReqTransferMode.kind : AcCpdReqTransferMode → TransferKind
  | .ac _ => .plain
  | .bpt _ => .bpt
  | .der _ => .der

def AcCpdResTransferMode.kind : AcCpdResTransferMode → TransferKind
  | .ac _ => .plain
  | .bpt _ => .bpt
  | .der _ => .der

def DcCpdReqTransferMode.kind : DcCpdReqTransferMode → TransferKind
  | .dc _ => .plain
  | .bpt _ => .bpt

def DcCpdResTransferMode.kind : DcCpdResTransferMode → TransferKind
  | .dc _ => .plain
  | .bpt _ => .bpt

def SeReqControlMode.mode : SeReqControlMode → ControlMode
  | .dynamic _ => .dynamic
  | .scheduled _ => .scheduled

def SeResControlMode.mode : SeResControlMode → ControlMode
  | .dynamic _ => .dynamic
  | .scheduled _ => .scheduled

def AcClReqControlMode.mode : AcClReqControlMode → ControlMode × TransferKind
  | .scheduled _ => (.scheduled, .plain)
  | .bptScheduled _ => (.scheduled, .bpt)
  | .derScheduled _ => (.scheduled, .der)
  | .dynamic _ => (.dynamic, .plain)
  | .bptDynamic _ => (.dynamic, .bpt)
  | .derDynamic _ => (.dynamic, .der)

def AcClResControlMode.mode : AcClResControlMode → ControlMode × TransferKind
  | .scheduled _ => (.scheduled, .plain)
  | .bptScheduled _ => (.scheduled, .bpt)
  | .derScheduled _ => (.scheduled, .der)
  | .dynamic _ => (.dynamic, .plain)
  | .bptDynamic _ => (.dynamic, .bpt)
  | .derDynamic _ => (.dynamic, .der)

def DcClReqControlMode.mode : DcClReqControlMode → ControlMode × TransferKind
  | .scheduled _ => (.scheduled, .plain)
  | .bptScheduled _ => (.scheduled, .bpt)
  | .dynamic _ => (.dynamic, .plain)
  | .bptDynamic _ => (.dynamic, .bpt)

def DcClResControlMode.mode : DcClResControlMode → ControlMode × TransferKind
  | .scheduled _ => (.scheduled, .plain)
  | .bptScheduled _ => (.scheduled, .bpt)
  | .dynamic _ => (.dynamic, .plain)
  | .bptDynamic _ => (.dynamic, .bpt)

end Datatypes

/-- A response belongs to the selected service, and what it carries is the alternative of that service,
of the selected control mode and of the request. -/
def Response.Fits (session : Session) (input : Input) : Response → Prop
  | .acChargeParameterDiscovery res =>
      session.isAcCharger = true ∧
      session.selectedServices.selectedEnergyService.transferKind? = some res.transferMode.kind ∧
      ∃ env req, input = .message env (.request (.acChargeParameterDiscovery req)) ∧
        req.transferMode.kind = res.transferMode.kind
  | .dcChargeParameterDiscovery res =>
      session.isDcCharger = true ∧
      session.selectedServices.selectedEnergyService.transferKind? = some res.transferMode.kind ∧
      ∃ env req, input = .message env (.request (.dcChargeParameterDiscovery req)) ∧
        req.transferMode.kind = res.transferMode.kind
  | .scheduleExchange res =>
      session.selectedServices.selectedControlMode = res.controlMode.mode ∧
      ∃ env req, input = .message env (.request (.scheduleExchange req)) ∧
        req.controlMode.mode = res.controlMode.mode
  | .acChargeLoop res =>
      session.isAcCharger = true ∧
      session.selectedServices.selectedControlMode = res.controlMode.mode.1 ∧
      session.selectedServices.selectedEnergyService.transferKind? = some res.controlMode.mode.2 ∧
      ∃ env req, input = .message env (.request (.acChargeLoop req)) ∧
        req.controlMode.mode = res.controlMode.mode
  | .dcChargeLoop res =>
      session.isDcCharger = true ∧
      session.selectedServices.selectedControlMode = res.controlMode.mode.1 ∧
      session.selectedServices.selectedEnergyService.transferKind? = some res.controlMode.mode.2 ∧
      ∃ env req, input = .message env (.request (.dcChargeLoop req)) ∧
        req.controlMode.mode = res.controlMode.mode
  | .dcCableCheck _ | .dcPreCharge _ | .dcWeldingDetection _ => session.isDcCharger = true
  | _ => True

section Handlers

variable (env : Env) {session : Session}

theorem handleAcChargeParameterDiscovery_fits {req : AcChargeParameterDiscoveryRequest}
    {limits : AcTransferLimits} {powers : AcPresentPower} {provider : AcDerControlProvider}
    {res : AcChargeParameterDiscoveryResponse}
    (answer : (handleAcChargeParameterDiscovery env req session limits powers provider).response = res)
    (ok : res.responseCode = .ok) : Response.Fits session
      (.message env (.request (.acChargeParameterDiscovery req))) (.acChargeParameterDiscovery res) := by
  subst answer
  revert ok
  simp only [handleAcChargeParameterDiscovery]
  repeat' split
  all_goals
    intro ok
    first
      | cases ok; done
      | refine ⟨?_, ?_, env, req, rfl, ?_⟩ <;>
          simp_all [Session.isAcCharger, AcCpdReqTransferMode.kind, AcCpdResTransferMode.kind]

theorem handleDcChargeParameterDiscovery_fits {req : DcChargeParameterDiscoveryRequest}
    {limits : DcTransferLimits} {res : DcChargeParameterDiscoveryResponse}
    (answer : handleDcChargeParameterDiscovery env req session limits = res)
    (ok : res.responseCode = .ok) : Response.Fits session
      (.message env (.request (.dcChargeParameterDiscovery req))) (.dcChargeParameterDiscovery res) := by
  subst answer
  revert ok
  simp only [handleDcChargeParameterDiscovery]
  split
  · intro ok
    cases ok
  cases mode : req.transferMode with
  | dc plain =>
      simp only
      split_ifs with known
      · intro _
        rcases known with service | service <;>
          exact ⟨by simp [Session.isDcCharger, service], by rw [service]; rfl, env, req, rfl,
            by rw [mode]; rfl⟩
      · intro ok
        cases ok
  | bpt bidirectional =>
      simp only
      split_ifs with known
      · cases limits.dischargeLimits with
        | none =>
            intro ok
            cases ok
        | some discharge =>
            intro _
            rcases known with service | service <;>
              exact ⟨by simp [Session.isDcCharger, service], by rw [service]; rfl, env, req, rfl,
                by rw [mode]; rfl⟩
      · intro ok
        cases ok

theorem handleScheduleExchange_fits {req : ScheduleExchangeRequest} {power : RationalNumber}
    {parameters : UpdateDynamicModeParameters} {reached : Bool} {res : ScheduleExchangeResponse}
    (answer : handleScheduleExchange env req session power parameters reached = res)
    (ok : res.responseCode = .ok) : Response.Fits session
      (.message env (.request (.scheduleExchange req))) (.scheduleExchange res) := by
  subst answer
  revert ok
  simp only [handleScheduleExchange]
  repeat' split
  all_goals
    intro ok
    first
      | cases ok; done
      | refine ⟨?_, env, req, rfl, ?_⟩ <;> simp_all [SeReqControlMode.mode, SeResControlMode.mode]

theorem dcClResControlMode_fits {mode : DcClReqControlMode} {limits : DcTransferLimits}
    {dynamic : DynamicClResControlMode} {out : DcClResControlMode}
    (answer : dcClResControlMode mode session.selectedServices limits dynamic = some out) :
    session.isDcCharger = true ∧ session.selectedServices.selectedControlMode = out.mode.1 ∧
      session.selectedServices.selectedEnergyService.transferKind? = some out.mode.2 ∧
      mode.mode = out.mode := by
  cases mode <;> simp only [dcClResControlMode] at answer <;> split_ifs at answer with other
  all_goals
    rw [not_or, not_not, not_not] at other
    obtain ⟨control, service⟩ := other
    first
      | obtain rfl := Option.some.inj answer
      | obtain ⟨discharge, -, rfl⟩ := Option.map_eq_some_iff.mp answer
    rcases service with service | service <;>
      exact ⟨by simp [Session.isDcCharger, service], control, by rw [service]; rfl, rfl⟩

theorem handleDcChargeLoop_fits {req : DcChargeLoopRequest} {self : State.DcChargeLoop}
    {limits : DcTransferLimits} {res : DcChargeLoopResponse}
    (answer : handleDcChargeLoop env req session self limits = res) (ok : res.responseCode = .ok) :
    Response.Fits session (.message env (.request (.dcChargeLoop req))) (.dcChargeLoop res) := by
  subst answer
  revert ok
  simp only [handleDcChargeLoop]
  split
  · intro ok
    cases ok
  split
  · intro ok
    cases ok
  · rename_i controlMode mode
    intro _
    obtain ⟨dc, control, kind, same⟩ := dcClResControlMode_fits mode
    exact ⟨dc, control, kind, env, req, rfl, same⟩

theorem acClResControlMode_fits {mode : AcClReqControlMode} {limits : AcTransferLimits}
    {self : State.AcChargeLoop} {dynamic : DynamicClResControlMode} {provider : AcDerControlProvider}
    {out : AcClResControlMode}
    (answer : acClResControlMode mode session.selectedServices limits self dynamic provider = .ok out) :
    session.isAcCharger = true ∧ session.selectedServices.selectedControlMode = out.mode.1 ∧
      session.selectedServices.selectedEnergyService.transferKind? = some out.mode.2 ∧
      mode.mode = out.mode := by
  cases mode <;> simp only [acClResControlMode] at answer <;> split_ifs at answer with other
  all_goals
    rw [not_or, not_not, not_not] at other
    obtain ⟨control, service⟩ := other
    first
      | cases answer
      | split at answer <;> cases answer
    exact ⟨by simp [Session.isAcCharger, service], control, by rw [service]; rfl, rfl⟩

theorem handleAcChargeLoop_fits {req : AcChargeLoopRequest} {self : State.AcChargeLoop}
    {limits : AcTransferLimits} {provider : AcDerControlProvider} {res : AcChargeLoopResponse}
    (answer : (handleAcChargeLoop env req session self limits provider).response = res)
    (ok : res.responseCode = .ok) :
    Response.Fits session (.message env (.request (.acChargeLoop req))) (.acChargeLoop res) := by
  subst answer
  revert ok
  simp only [handleAcChargeLoop]
  split
  · intro ok
    cases ok
  split
  · intro ok
    cases ok
  · rename_i controlMode mode
    intro _
    obtain ⟨ac, control, kind, same⟩ := acClResControlMode_fits mode
    exact ⟨ac, control, kind, env, req, rfl, same⟩

end Handlers

def Request.dcOnly : Request → Bool
  | .dcCableCheck _ | .dcPreCharge _ | .dcWeldingDetection _ => true
  | _ => false

theorem Request.Answer.fits {env : Env} {ctx : Context} {state : State} {req : Request} {out : Response}
    (answer : req.Answer env ctx state out) (ok : out.code? = some .ok)
    (dc : req.dcOnly = true → ctx.session.isDcCharger = true) :
    out.Fits ctx.session (.message env (.request req)) := by
  cases req
  case acChargeParameterDiscovery =>
    obtain ⟨_, -, rfl⟩ := answer
    exact handleAcChargeParameterDiscovery_fits env rfl (Option.some.inj ok)
  case dcChargeParameterDiscovery =>
    obtain rfl := answer
    exact handleDcChargeParameterDiscovery_fits env rfl (Option.some.inj ok)
  case scheduleExchange =>
    obtain ⟨_, -, rfl⟩ := answer
    exact handleScheduleExchange_fits env rfl (Option.some.inj ok)
  case acChargeLoop =>
    obtain ⟨_, -, rfl⟩ := answer
    exact handleAcChargeLoop_fits env rfl (Option.some.inj ok)
  case dcChargeLoop =>
    obtain ⟨_, -, rfl⟩ := answer
    exact handleDcChargeLoop_fits env rfl (Option.some.inj ok)
  case dcCableCheck | dcPreCharge | dcWeldingDetection =>
    obtain ⟨_, rfl⟩ := answer
    exact dc rfl
  case sessionSetup | authorization | serviceDetail =>
    obtain ⟨_, _, rfl⟩ := answer
    trivial
  all_goals
    obtain rfl := answer
    trivial

namespace Fsm

def AnswersFit (record : FsmStep) : Prop :=
  ∀ out ∈ responses record.outputs, out.code? = some .ok →
    out.Fits record.before.ctx.session record.input

/-- No `DC_PreChargeReq` of its own session reaches `PowerDelivery` unless the session is a DC one. -/
def preChargeFits (record : FsmStep) : Bool :=
  match record.before.state, record.input with
  | .powerDelivery _, .message _ (.request (.dcPreCharge req)) =>
      record.before.ctx.session.isDcCharger || record.before.ctx.session.id ≠ req.header.sessionId
  | _, _ => true

variable (platform : Platform)

theorem powerDelivery_preCharge_answer {fsm : Fsm} (idle : fsm.ctx.request = none)
    {self : State.PowerDelivery} (delivery : fsm.state = .powerDelivery self) (env : Env)
    (req : DcPreChargeRequest) :
    Act.wp (step platform (.message env (.request (.dcPreCharge req))))
      (fun _ _ log => responses log =
        [.dcPreCharge (handleDcPreCharge env req fsm.ctx.session self.presentVoltage)]) fsm := by
  rw [wp_step_message platform env _ fsm idle, delivery]
  simp [State.feed, State.PowerDelivery.feed, State.PowerDelivery.feedPreCharge,
    Feed.wp_pullRequest _ (messageContext_request fsm.ctx _), Platform.stringsFit, Output.response?]

theorem handleDcPreCharge_ok {env : Env} {req : DcPreChargeRequest} {session : Session} {voltage : ℚ} :
    (handleDcPreCharge env req session voltage).responseCode = .ok ↔
      session.id = req.header.sessionId := by
  by_cases own : session.id = req.header.sessionId <;> simp [handleDcPreCharge, validateHeader, own]

theorem answersFit_of_fits {fsm : Fsm} (inv : ServiceInvariant fsm) (input : Input)
    (fits : preChargeFits (Machine.stepOf (step platform) fsm input) = true) :
    AnswersFit (Machine.stepOf (step platform) fsm input) := by
  intro out member ok
  cases step_okAnswer platform inv.idle input out member ok with
  | resumed env event res => trivial
  | message env req _ accepts answer =>
      refine answer.fits ok fun dcOnly => ?_
      have service := inv.fits
      cases state : fsm.state <;> cases req <;>
        simp only [state, State.id, StateId.accepts, Request.dcOnly, Bool.false_eq_true] at accepts dcOnly
      case powerDelivery.dcPreCharge self req =>
        obtain ⟨voltage, rfl⟩ := answer
        have own : fsm.ctx.session.id = req.header.sessionId :=
          handleDcPreCharge_ok.mp (Option.some.inj ok)
        simpa [preChargeFits, state, own] using fits
      all_goals
        rw [state] at service
        exact service

theorem preChargeFits_of_answersFit {fsm : Fsm} (idle : fsm.ctx.request = none) (input : Input)
    (fit : AnswersFit (Machine.stepOf (step platform) fsm input)) :
    preChargeFits (Machine.stepOf (step platform) fsm input) = true := by
  unfold preChargeFits
  split
  · rename_i self env req delivery message
    rw [Machine.stepOf_before] at delivery
    rw [Machine.stepOf_input] at message
    subst message
    have answer : responses (step platform (.message env (.request (.dcPreCharge req))) fsm).log = _ :=
      powerDelivery_preCharge_answer platform idle delivery env req
    by_cases own : fsm.ctx.session.id = req.header.sessionId
    · have dc : fsm.ctx.session.isDcCharger = true := by
        refine fit (.dcPreCharge (handleDcPreCharge env req fsm.ctx.session self.presentVoltage)) ?_
          (congrArg some (handleDcPreCharge_ok.mpr own))
        rw [Machine.stepOf_outputs, answer]
        exact List.mem_singleton_self _
      simp [dc]
    · simp [own]
  · rfl

/-- The answers of a step fit the selected service, exactly when `PowerDelivery` does not accept a
`DC_PreChargeReq` in an AC session. -/
theorem answers_fit_iff (config : SessionConfig) (pauseCtx : Option PauseContext) (id : SessionId)
    (inputs : List Input) (record : FsmStep) (member : record ∈ run platform config pauseCtx id inputs) :
    AnswersFit record ↔ preChargeFits record = true := by
  obtain ⟨past, input, future, rfl, rfl⟩ := Machine.exists_split_of_mem _ member
  have inv := serviceInvariant_reached platform config pauseCtx id past
  exact ⟨preChargeFits_of_answersFit platform inv.idle input, answersFit_of_fits platform inv input⟩

end Fsm

namespace Fsm

open Sample in
theorem answers_fit_dc :
    AnswersFit (Machine.stepOf (step platform)
      (reached platform config none (sessionId 9) (reachDcPowerDelivery (sessionId 1)))
      (preCharge (sessionId 1))) :=
  (answers_fit_iff platform config none (sessionId 9)
    (reachDcPowerDelivery (sessionId 1) ++ [preCharge (sessionId 1)]) _
    (by rw [run_concat]; exact List.mem_append_right _ (List.mem_singleton_self _))).mpr (by decide +kernel)

open Sample in
/-- `PowerDelivery` of an AC session answers a `DC_PreChargeReq` with OK. -/
theorem answers_fit_ac :
    ¬∀ (platform : Platform) (config : SessionConfig) (pauseCtx : Option PauseContext) (id : SessionId)
      (inputs : List Input), ∀ record ∈ run platform config pauseCtx id inputs, AnswersFit record := by
  intro fits
  have fit := fits platform config none (sessionId 9)
    (reachPowerDelivery (sessionId 1) ++ [preCharge (sessionId 1)]) _
    (by rw [run_concat]; exact List.mem_append_right _ (List.mem_singleton_self _))
  exact absurd (preChargeFits_of_answersFit platform (reached_idle platform config none (sessionId 9) _) _ fit)
    (by decide +kernel)

end Fsm

end LibIso15118
