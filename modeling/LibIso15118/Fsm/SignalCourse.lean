import LibIso15118.Fsm.Phases
import LibIso15118.Shared.Automaton

set_option autoImplicit false

namespace LibIso15118

open Datatypes Shared

/-- How far the signals of a connection have brought the application. -/
inductive Course where
  | connected
  | authorizing
  | checking
  | preCharging
  | dcReady
  | dcCharging
  | dcFinished
  | acReady
  | acClosing
  | acFinished
  | opened
  deriving DecidableEq

namespace Course

/-- The signals that may come next. A paused session goes on without an authorization, a charge loop may be left
before it has signalled its start, and that of an AC vehicle never signals it. -/
def next : Course → Signal → Option Course
  | .connected, .requireAuthEim => some .authorizing
  | .connected, .startCableCheck | .authorizing, .startCableCheck => some .checking
  | .checking, .preChargeStarted => some .preCharging
  | .preCharging, .setupFinished | .dcReady, .setupFinished => some .dcReady
  | .preCharging, .chargeLoopStarted | .dcReady, .chargeLoopStarted
  | .dcCharging, .chargeLoopStarted => some .dcCharging
  | .preCharging, .chargeLoopFinished | .dcReady, .chargeLoopFinished
  | .dcCharging, .chargeLoopFinished => some .dcFinished
  | .dcFinished, .dcOpenContactor => some .opened
  | .connected, .setupFinished | .authorizing, .setupFinished
  | .acReady, .setupFinished | .acClosing, .setupFinished => some .acReady
  | .acReady, .acCloseContactor => some .acClosing
  | .connected, .chargeLoopFinished | .authorizing, .chargeLoopFinished
  | .acReady, .chargeLoopFinished | .acClosing, .chargeLoopFinished => some .acFinished
  | .acFinished, .acOpenContactor => some .opened
  | _, _ => none

def beforeAc : List Course := [.connected, .authorizing, .acReady, .acClosing]

def beforeDc : List Course := [.preCharging, .dcReady]

end Course

/-- Where the application may be when a state is entered. -/
def StateId.courses (dc : Bool) : StateId → List Course
  | .supportedAppProtocol | .sessionSetup | .authorizationSetup => [.connected]
  | .dcPreCharge => [.checking]
  | .powerDelivery => if dc then Course.beforeDc else Course.beforeAc
  | .acChargeLoop => Course.beforeAc
  | .dcChargeLoop => .dcCharging :: Course.beforeDc
  | .dcWeldingDetection | .sessionStop => [.opened]
  | _ => [.connected, .authorizing]

def State.courses (dc : Bool) : State → List Course
  | .dcCableCheck self => if self.cableCheckInitiated then [.checking] else [.connected, .authorizing]
  | .dcPreCharge self => if self.preChargeInitiated then [.preCharging] else [.checking]
  | .acChargeLoop self => if self.firstEntryInChargeLoop then [] else Course.beforeAc
  | state => state.id.courses dc

theorem State.courses_create (dc : Bool) (id : StateId) (ctx : Context) :
    (id.create.enter ctx).courses dc = id.courses dc := by
  cases id <;> rfl

@[simp] theorem State.courses_afterControl (dc : Bool) (state : State) (event : ControlEvent) :
    (state.afterControl event).courses dc = state.courses dc := by
  cases state <;> try rfl
  all_goals cases event <;> rfl

@[simp] theorem State.courses_afterTimeout (dc : Bool) (state : State) (type : TimeoutType) :
    (state.afterTimeout type).courses dc = state.courses dc := by
  cases state <;> cases type <;> rfl

def StateId.signalless : StateId → Bool
  | .authorizationSetup | .dcCableCheck | .dcPreCharge | .powerDelivery | .acChargeLoop | .dcChargeLoop => false
  | _ => true

theorem State.courses_signalless (dc : Bool) {state : State} (signalless : state.id.signalless = true) :
    state.courses dc = state.id.courses dc := by
  cases state <;> first | rfl | cases signalless

theorem StateId.courses_signalless {id : StateId} (signalless : id.signalless = true) (dc dc' : Bool) :
    id.courses dc = id.courses dc' := by
  cases id <;> first | rfl | cases signalless

namespace Fsm

def courses (fsm : Fsm) : List Course := fsm.state.courses fsm.ctx.session.isDcCharger

def Keeps (fsm fsm' : Fsm) (log : List Output) : Prop :=
  Leads Course.next fsm.courses fsm'.courses (signals log)

theorem Keeps.silent {fsm fsm' : Fsm} {log : List Output} (silent : signals log = [])
    (within : fsm.courses ⊆ fsm'.courses) : Keeps fsm fsm' log := by
  rw [Keeps, silent]
  exact .still within

theorem Keeps.refused {fsm fsm' : Fsm} {type : MessageType} {log : List Output}
    (failed : ∀ o ∈ log, ∃ res, o = .respond res ∧ res.code? = some ResponseCode.failedSequenceError)
    (within : fsm.courses ⊆ fsm'.courses) : Keeps fsm fsm' (.feedback (.v2gMessage type) :: log) := by
  refine .silent ?_ within
  rw [List.eq_nil_iff_forall_not_mem]
  intro s member
  obtain message | response := List.mem_cons.mp ((mem_signals _).mp member)
  · cases message
  · obtain ⟨_, ⟨⟩, -⟩ := failed _ response

theorem leads_setupFinished (dc : Bool) (req : PowerDeliveryRequest) :
    Leads Course.next (StateId.powerDelivery.courses dc) (StateId.powerDelivery.courses dc)
      (signals (setupFinishedLog req)) := by
  -- `SETUP_FINISHED` may come before and after the contactor is closed.
  by_cases start : req.chargeProgress = .start <;> cases dc <;>
    simp [setupFinishedLog, start, Output.signal?, StateId.courses, Course.beforeAc, Course.beforeDc, Leads,
      follow, Course.next]

section Message

variable (platform : Platform) {fsm : Fsm} (idle : fsm.ctx.request = none) (env : Env) (variant : Variant)
include idle

theorem authorizationSetup_keeps (state : fsm.state = .authorizationSetup) :
    Act.wp (step platform (.message env variant)) (fun _ fsm' log => Keeps fsm fsm' log) fsm := by
  rw [wp_step_message platform env variant fsm idle, state]
  simp only [State.feed, State.AuthorizationSetup.feed, Act.wp_bind, Act.wp_ite,
    Feed.wp_pullRequest _ (messageContext_request fsm.ctx variant)]
  simp only [ne_eq, not_true_eq_false, false_implies, not_false_eq_true, true_implies, true_and]
  split
  · simp [Platform.stringsFit, settle, Keeps, courses, state, State.courses, State.enter, State.id,
      StateId.courses, Output.signal?, Leads, follow, Course.next]
  · simp only [wp_stopOnRequest, Act.wp_pure]
    exact .silent rfl (by simp [courses, state])
  · simp only [Act.wp_pure, List.nil_append, List.append_nil]
    apply wp_stopOnSequenceError
    intro pending log failed
    exact .refused failed (by simp [courses, state])

theorem cableCheck_keeps {self : State.DcCableCheck} (state : fsm.state = .dcCableCheck self) :
    Act.wp (step platform (.message env variant)) (fun _ fsm' log => Keeps fsm fsm' log) fsm := by
  rw [wp_step_message platform env variant fsm idle, state]
  simp only [State.feed, State.DcCableCheck.feed, Act.wp_bind,
    Feed.wp_pullRequest _ (messageContext_request fsm.ctx variant)]
  split
  · cases initiated : self.cableCheckInitiated <;>
      simp [Platform.stringsFit, settle, Keeps, courses, state, State.courses, State.enter, State.id,
        StateId.courses, Output.signal?, Leads, follow, Course.next, initiated]
  · simp only [Act.wp_bind, wp_stopOnRequest, Act.wp_pure]
    exact .silent rfl (by simp [courses, state])
  · simp only [Act.wp_bind, Act.wp_pure, List.nil_append, List.append_nil]
    apply wp_stopOnSequenceError
    intro pending log failed
    exact .refused failed (by simp [courses, state])

theorem preCharge_keeps {self : State.DcPreCharge} (state : fsm.state = .dcPreCharge self)
    (dc : fsm.ctx.session.isDcCharger = true) :
    Act.wp (step platform (.message env variant)) (fun _ fsm' log => Keeps fsm fsm' log) fsm := by
  rw [wp_step_message platform env variant fsm idle, state]
  simp only [State.feed, State.DcPreCharge.feed, Act.wp_bind,
    Feed.wp_pullRequest _ (messageContext_request fsm.ctx variant)]
  split
  · cases initiated : self.preChargeInitiated <;>
      simp [Platform.stringsFit, settle, Keeps, courses, state, State.courses, State.enter, State.id,
        StateId.courses, Course.beforeDc, Output.signal?, Leads, follow, Course.next, initiated, dc]
  · simp only [Act.wp_bind, wp_stopOnRequest, Act.wp_pure]
    exact .silent rfl (by simp [courses, state])
  · simp only [Act.wp_bind, Act.wp_pure, List.nil_append, List.append_nil]
    apply wp_stopOnSequenceError
    intro pending log failed
    exact .refused failed (by simp [courses, state])

theorem powerDelivery_keeps {self : State.PowerDelivery} (state : fsm.state = .powerDelivery self) :
    Act.wp (step platform (.message env variant)) (fun _ fsm' log => Keeps fsm fsm' log) fsm := by
  rw [wp_step_message platform env variant fsm idle, state]
  simp only [State.feed, State.PowerDelivery.feed, Act.wp_bind,
    Feed.wp_pullRequest _ (messageContext_request fsm.ctx variant)]
  have here : fsm.courses = StateId.powerDelivery.courses fsm.ctx.session.isDcCharger := by
    rw [courses, state]
    rfl
  split
  · simp only [Act.wp_bind, State.PowerDelivery.feedPreCharge]
    simp [Platform.stringsFit, settle, Keeps, courses, state, State.courses, State.id, Output.signal?, Leads,
      follow]
  · rename_i req
    refine wp_feedPowerDelivery platform env self req _ _ (fun defers => ?_) fun ready => ?_
    · -- the request is kept until the contactor is closed
      have ac : fsm.ctx.session.isDcCharger = false := Session.not_dc_of_ac defers.1
      simp only [Act.wp_pure]
      rw [Keeps, here]
      simp [settle, courses, State.courses, State.id, ac, setupFinishedLog, defers.2.2, Output.signal?,
        StateId.courses, Course.beforeAc, Leads, follow, Course.next]
    · simp only [Act.wp_pure]
      rw [Keeps, here]
      have leads := leads_setupFinished fsm.ctx.session.isDcCharger req
      refine Leads.mono (by simpa [Output.signal?] using leads) (List.Subset.refl _) ?_
      unfold deliveryResult
      split_ifs with own ac dc
      · exact List.Subset.refl _
      · have ac : fsm.ctx.session.isDcCharger = false := Session.not_dc_of_ac ac
        rw [ac]
        exact List.Subset.refl _
      · have dc : fsm.ctx.session.isDcCharger = true := dc
        rw [dc]
        exact List.subset_cons_self _ _
      · exact List.Subset.refl _
  · simp only [Act.wp_bind, Act.wp_pure, List.nil_append, List.append_nil]
    apply wp_stopOnSequenceError
    intro pending log failed
    exact .refused failed (by simp [courses, state])

theorem acChargeLoop_keeps {self : State.AcChargeLoop} (state : fsm.state = .acChargeLoop self) :
    Act.wp (step platform (.message env variant)) (fun _ fsm' log => Keeps fsm fsm' log) fsm := by
  rw [wp_step_message platform env variant fsm idle, state]
  simp only [State.feed, State.AcChargeLoop.feed, Act.wp_bind,
    Feed.wp_pullRequest _ (messageContext_request fsm.ctx variant)]
  split
  -- the state has no course where its flag is set, so `cases` leaves only the loop as it is entered
  · cases first : self.firstEntryInChargeLoop <;>
      simp [Platform.stringsFit, settle, Keeps, courses, state, State.courses, State.enter, State.id,
        StateId.courses, Course.beforeAc, Output.signal?, Leads, follow, Course.next, first]
  · rename_i req
    cases first : self.firstEntryInChargeLoop <;> cases req.displayParameters <;>
      simp [Platform.stringsFit, settle, Keeps, courses, state, State.courses, State.enter, State.id,
        StateId.courses, Course.beforeAc, Output.signal?, Leads, follow, first]
  · simp only [Act.wp_bind, Act.wp_pure, List.nil_append, List.append_nil]
    apply wp_stopOnSequenceError
    intro pending log failed
    exact .refused failed (by simp [courses, state])

theorem dcChargeLoop_keeps {self : State.DcChargeLoop} (state : fsm.state = .dcChargeLoop self) :
    Act.wp (step platform (.message env variant)) (fun _ fsm' log => Keeps fsm fsm' log) fsm := by
  rw [wp_step_message platform env variant fsm idle, state]
  simp only [State.feed, State.DcChargeLoop.feed, Act.wp_bind,
    Feed.wp_pullRequest _ (messageContext_request fsm.ctx variant)]
  split
  · simp [Platform.stringsFit, settle, Keeps, courses, state, State.courses, State.enter, State.id,
      StateId.courses, Course.beforeDc, Output.signal?, Leads, follow, Course.next]
  · rename_i req
    cases self.firstEntryInChargeLoop <;> cases req.displayParameters <;>
      simp [Platform.stringsFit, settle, Keeps, courses, state, State.courses, State.enter, State.id,
        StateId.courses, Course.beforeDc, Output.signal?, Leads, follow, Course.next]
  · simp only [Act.wp_bind, Act.wp_pure, List.nil_append, List.append_nil]
    apply wp_stopOnSequenceError
    intro pending log failed
    exact .refused failed (by simp [courses, state])

end Message

section Step

variable (platform : Platform) {fsm : Fsm} (inv : ServiceInvariant fsm)
include inv

theorem signalless_keeps (input : Input) (signalless : fsm.state.id.signalless = true) :
    Keeps fsm (step platform input fsm).state (step platform input fsm).log := by
  have idle := inv.idle
  have frame := step_frame platform fsm input idle
  -- what is signalled is among what the state may signal
  have silent : signals (step platform input fsm).log = [] := by
    refine List.eq_nil_of_subset_nil fun s sent => ?_
    have offered := (step_signals platform idle input).subset sent
    unfold Input.signals at offered
    split at offered
    · split_ifs at offered
      · unfold State.signals at offered
        split at offered <;> simp_all [State.id, StateId.signalless]
      · exact offered
    · exact offered
  refine .silent silent ?_
  rw [courses, courses, State.courses_signalless _ signalless]
  -- a service may be selected here, so the step can turn an AC session into a DC one
  rcases frame.next with same | ⟨next, successor, created⟩
  · rw [State.courses_signalless _ (by rw [same]; exact signalless), same]
    intro course member
    rwa [StateId.courses_signalless signalless _ fsm.ctx.session.isDcCharger]
  · have ac (delivery : next = .powerDelivery) (before : fsm.state.id = .scheduleExchange) :
        (step platform input fsm).state.ctx.session.isDcCharger = false := by
      rw [Session.isDcCharger_congr (frame.selected (by simp [before]) (by simp [before]))]
      refine Session.not_dc_of_ac (scheduleExchange_powerDelivery platform idle input before ?_)
      rw [created, State.enter_id, StateId.create_id, delivery]
    rw [created, State.courses_create]
    cases before : fsm.state.id <;> simp [before, StateId.signalless] at signalless <;>
      simp only [before, StateId.successors, List.mem_cons, List.not_mem_nil, or_false] at successor
    case scheduleExchange =>
      rcases successor with rfl | rfl
      · simp [ac rfl before, StateId.courses, Course.beforeAc]
      · simp [StateId.courses]
    case sessionSetup => rcases successor with rfl | rfl | rfl <;> simp [StateId.courses]
    case serviceSelection => rcases successor with rfl | rfl <;> simp [StateId.courses]
    all_goals
      subst successor
      simp [StateId.courses]

theorem step_keeps (input : Input) :
    Keeps fsm (step platform input fsm).state (step platform input fsm).log := by
  have idle := inv.idle
  by_cases signalless : fsm.state.id.signalless = true
  · exact signalless_keeps platform inv input signalless
  cases input with
  | message env variant =>
      cases state : fsm.state with
      | authorizationSetup => exact authorizationSetup_keeps platform idle env variant state
      | dcCableCheck self => exact cableCheck_keeps platform idle env variant state
      | dcPreCharge self =>
          have dc := inv.fits
          rw [state] at dc
          exact preCharge_keeps platform idle env variant state dc
      | powerDelivery self => exact powerDelivery_keeps platform idle env variant state
      | acChargeLoop self => exact acChargeLoop_keeps platform idle env variant state
      | dcChargeLoop self => exact dcChargeLoop_keeps platform idle env variant state
      | _ => simp [state, State.id, StateId.signalless] at signalless
  | control env event =>
      suffices spec : Act.wp (step platform (.control env event)) (fun _ fsm' log => Keeps fsm fsm' log) fsm
        from spec
      -- a closed contactor answers the request that was kept, and signals nothing
      by_cases resumes : fsm.state.Resumes event
      · obtain ⟨self, req, closed, delivery, saved, rfl⟩ := resumes
        have ac : fsm.ctx.session.isDcCharger = false :=
          Session.not_dc_of_ac (inv.deferred self req delivery saved)
        rw [wp_step_control_resumed platform env closed fsm self req delivery saved]
        refine ⟨fun _ => .silent rfl ?_, fun _ => .silent rfl ?_⟩ <;>
          simp [courses, delivery, State.courses, State.id, StateId.courses, State.enter, resumedContext, ac]
      · apply wp_step_control_quiet platform env event fsm resumes
        intro timeouts _
        exact .silent rfl (by simp [courses])
  | timeout env type =>
      apply wp_step_timeout platform env type fsm (fun _ fsm' log => Keeps fsm fsm' log)
      rintro pending log (⟨-, rfl⟩ | ⟨-, -, res, -, -, -, rfl⟩) <;>
        exact .silent rfl (by simp [courses])
  | _ => exact .silent rfl (List.Subset.refl _)

end Step

/-- In every run the signals keep to the course, and the state of the machine is one for where they have led. -/
theorem signals_follow_course (platform : Platform) (config : SessionConfig) (pauseCtx : Option PauseContext)
    (id : SessionId) (inputs : List Input) :
    ∃ course ∈ (reached platform config pauseCtx id inputs).courses,
      follow Course.next .connected (runSignals (run platform config pauseCtx id inputs)) = some course := by
  have unset : ServiceInvariant (Fsm.new config pauseCtx id) := ⟨rfl, rfl, by rintro _ _ ⟨⟩⟩
  have leads := Machine.run_leads (step platform) Course.next (Fsm.new config pauseCtx id) signals courses
    ServiceInvariant unset (fun _ input inv => serviceInvariant_step platform inv input)
    (fun _ input inv => step_keeps platform inv input) inputs
  have first : Course.connected ∈ (Fsm.new config pauseCtx id).courses := List.mem_singleton_self _
  rw [runSignals, signals, run, List.filterMap_flatMap]
  exact leads .connected first

open Sample in
example : follow Course.next .connected (runSignals (run platform config none (sessionId 9)
    (reachDcPowerDelivery (sessionId 1) ++ [deliver (sessionId 1) .start, deliver (sessionId 1) .stop]))) =
      some .opened := by
  decide +kernel

end Fsm

end LibIso15118
