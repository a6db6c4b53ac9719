import LibIso15118.Fsm.Members
import LibIso15118.Fsm.LoopStatus

set_option autoImplicit false

namespace LibIso15118

open Datatypes Shared

namespace ControlEvent

def presentVoltage? : ControlEvent → Option ℚ
  | .presentVoltageCurrent voltage _ => some voltage
  | _ => none

def presentCurrent? : ControlEvent → Option ℚ
  | .presentVoltageCurrent _ current => some current
  | _ => none

end ControlEvent

def presentVoltage : Member ℚ where
  read
    | .dcPreCharge self => some self.presentVoltage
    | .powerDelivery self => some self.presentVoltage
    | .dcChargeLoop self => some self.presentVoltage
    | .dcWeldingDetection self => some self.presentVoltage
    | _ => none
  kind := (·.presentVoltage?)
  initial := 0

def presentCurrent : Member ℚ where
  read
    | .dcChargeLoop self => some self.presentCurrent
    | _ => none
  kind := (·.presentCurrent?)
  initial := 0

def Response.presentVoltage? : Response → Option RationalNumber
  | .dcPreCharge res => some res.presentVoltage
  | .dcChargeLoop res => some res.presentVoltage
  | .dcWeldingDetection res => some res.presentVoltage
  | _ => none

def Response.presentCurrent? : Response → Option RationalNumber
  | .dcChargeLoop res => some res.presentCurrent
  | _ => none

def Response.Measures (out : Response) (state : State) : Prop :=
  (∀ sent, out.presentVoltage? = some sent →
      ∃ voltage, presentVoltage.read state = some voltage ∧ sent = fromFloat voltage) ∧
    ∀ sent, out.presentCurrent? = some sent →
      ∃ current, presentCurrent.read state = some current ∧ sent = fromFloat current

theorem Response.measures_of_silent {out : Response} {state : State} (voltage : out.presentVoltage? = none)
    (current : out.presentCurrent? = none) : out.Measures state := by
  constructor
  · intro sent is
    rw [voltage] at is
    cases is
  · intro sent is
    rw [current] at is
    cases is

section Handlers

variable (env : Env) {session : Session}

theorem handleDcPreCharge_measures {req : DcPreChargeRequest} {voltage : ℚ}
    (ok : (handleDcPreCharge env req session voltage).responseCode = .ok) :
    (handleDcPreCharge env req session voltage).presentVoltage = fromFloat voltage := by
  revert ok
  simp only [handleDcPreCharge]
  split
  · intro ok
    cases ok
  · exact fun _ => rfl

theorem handleDcWeldingDetection_measures {req : DcWeldingDetectionRequest} {voltage : ℚ}
    (ok : (handleDcWeldingDetection env req session voltage).responseCode = .ok) :
    (handleDcWeldingDetection env req session voltage).presentVoltage = fromFloat voltage := by
  revert ok
  simp only [handleDcWeldingDetection]
  split
  · intro ok
    cases ok
  · exact fun _ => rfl

theorem handleDcChargeLoop_measures {req : DcChargeLoopRequest} {self : State.DcChargeLoop}
    {limits : DcTransferLimits} (ok : (handleDcChargeLoop env req session self limits).responseCode = .ok) :
    (handleDcChargeLoop env req session self limits).presentVoltage = fromFloat self.presentVoltage ∧
      (handleDcChargeLoop env req session self limits).presentCurrent = fromFloat self.presentCurrent := by
  revert ok
  simp only [handleDcChargeLoop]
  repeat' split
  all_goals
    intro ok
    first
      | cases ok; done
      | exact ⟨rfl, rfl⟩

end Handlers

section Message

variable (platform : Platform) (env : Env) (ctx : Context) {variant : Variant}
  (pending : ctx.request = some variant)
include pending

theorem State.message_measured (state : State) :
    Act.wp (state.feed platform env .v2gtpMessage) (fun result _ _ =>
      ∀ state' res, result = .ok (state', res) → presentVoltage.read state' = presentVoltage.read state ∧
        presentCurrent.read state' = presentCurrent.read state) ctx := by
  by_cases measures : (presentVoltage.read state).isSome = true
  · cases state
    case dcPreCharge self =>
      simp only [State.feed, State.DcPreCharge.feed, Act.wp_bind, Feed.wp_pullRequest _ pending]
      split
      · simp [presentVoltage, presentCurrent]
      · simp [wp_stopOnRequest]
      · simp only [Act.wp_bind, Act.wp_pure]
        apply wp_stopOnSequenceError
        simp
    case powerDelivery self =>
      simp only [State.feed, State.PowerDelivery.feed, Act.wp_bind, Feed.wp_pullRequest _ pending]
      split
      · simp [State.PowerDelivery.feedPreCharge]
      · simp [State.PowerDelivery.feedPowerDelivery, presentVoltage, presentCurrent]
      · simp only [Act.wp_bind, Act.wp_pure]
        apply wp_stopOnSequenceError
        simp
    case dcChargeLoop self =>
      simp only [State.feed, State.DcChargeLoop.feed, Act.wp_bind, Feed.wp_pullRequest _ pending]
      split
      · simp [presentVoltage, presentCurrent]
      · simp [presentVoltage, presentCurrent]
      · simp only [Act.wp_bind, Act.wp_pure]
        apply wp_stopOnSequenceError
        simp
    case dcWeldingDetection self =>
      simp only [State.feed, State.DcWeldingDetection.feed, Act.wp_bind, Feed.wp_pullRequest _ pending]
      split
      · simp
      · rename_i req
        cases req.chargingSession <;> simp [endSession]
      · simp only [Act.wp_bind, Act.wp_pure]
        apply wp_stopOnSequenceError
        simp
    all_goals simp [presentVoltage] at measures
  · refine Act.wp_mono _ _ (State.message_frame platform env ctx pending state) ?_
    intro result ctx' log frame state' res returned
    have same := (frame.next state' res returned).1
    cases state <;> simp [presentVoltage] at measures <;> cases state' <;> simp [State.id] at same <;>
      exact ⟨rfl, rfl⟩

theorem State.preCharge_measures {req : DcPreChargeRequest} (message : variant = .request (.dcPreCharge req))
    (state : State) (accepts : state.id.accepts (.dcPreCharge req) = true) :
    Act.wp (state.feed platform env .v2gtpMessage) (fun _ _ log =>
      ∀ out ∈ responses log, out.code? = some .ok → out.Measures state) ctx := by
  -- The voltage that is sent before and after the charge loop is that of the state.
  subst message
  have answered (voltage : ℚ) (state : State) (read : presentVoltage.read state = some voltage)
      (ok : (handleDcPreCharge env req ctx.session voltage).responseCode = .ok) :
      (Response.dcPreCharge (handleDcPreCharge env req ctx.session voltage)).Measures state :=
    ⟨fun sent is => ⟨voltage, read, (Option.some.inj is).symm.trans (handleDcPreCharge_measures env ok)⟩,
      by simp [Response.presentCurrent?]⟩
  cases state <;> simp only [State.id, StateId.accepts, Bool.false_eq_true] at accepts
  case dcPreCharge self =>
    have sent := answered self.presentVoltage (.dcPreCharge self) rfl
    simp only [State.feed, State.DcPreCharge.feed, Act.wp_bind, Feed.wp_pullRequest _ pending]
    simp +contextual [Output.response?, Response.code?, sent]
  case powerDelivery self =>
    have sent := answered self.presentVoltage (.powerDelivery self) rfl
    simp only [State.feed, State.PowerDelivery.feed, Act.wp_bind, Feed.wp_pullRequest _ pending]
    simp +contextual [State.PowerDelivery.feedPreCharge, Output.response?, Response.code?, sent]

theorem State.weldingDetection_measures {req : DcWeldingDetectionRequest}
    (message : variant = .request (.dcWeldingDetection req)) (state : State)
    (accepts : state.id.accepts (.dcWeldingDetection req) = true) :
    Act.wp (state.feed platform env .v2gtpMessage) (fun _ _ log =>
      ∀ out ∈ responses log, out.code? = some .ok → out.Measures state) ctx := by
  subst message
  cases state <;> simp only [State.id, StateId.accepts, Bool.false_eq_true] at accepts
  rename_i self
  have sent (ok : (handleDcWeldingDetection env req ctx.session self.presentVoltage).responseCode = .ok) :
      (Response.dcWeldingDetection
        (handleDcWeldingDetection env req ctx.session self.presentVoltage)).Measures
        (.dcWeldingDetection self) :=
    ⟨fun sent is => ⟨_, rfl, (Option.some.inj is).symm.trans (handleDcWeldingDetection_measures env ok)⟩,
      by simp [Response.presentCurrent?]⟩
  simp only [State.feed, State.DcWeldingDetection.feed, Act.wp_bind, Feed.wp_pullRequest _ pending]
  simp +contextual [Output.response?, Response.code?, sent]

end Message

theorem presentVoltage_follows (platform : Platform) : presentVoltage.Follows platform where
  control state event := by cases state <;> cases event <;> rfl
  timeout state type := by cases state <;> cases type <;> rfl
  created next ctx value read := by cases next <;> cases read <;> rfl
  message env ctx variant pending state := Act.wp_mono _ _ (state.message_measured platform env ctx pending)
    fun _ _ _ measured state' res returned => (measured state' res returned).1

theorem presentCurrent_follows (platform : Platform) : presentCurrent.Follows platform where
  control state event := by cases state <;> cases event <;> rfl
  timeout state type := by cases state <;> cases type <;> rfl
  created next ctx value read := by cases next <;> cases read; rfl
  message env ctx variant pending state := Act.wp_mono _ _ (state.message_measured platform env ctx pending)
    fun _ _ _ measured state' res returned => (measured state' res returned).2

namespace Fsm

variable (platform : Platform)

variable {fsm : Fsm}

theorem message_measures (idle : fsm.ctx.request = none) (env : Env) {variant : Variant}
    (measures : ∀ ctx : Context, ctx.request = some variant →
      Act.wp (fsm.state.feed platform env .v2gtpMessage) (fun _ _ log =>
        ∀ out ∈ responses log, out.code? = some .ok → out.Measures fsm.state) ctx) :
    ∀ out ∈ responses (step platform (.message env variant) fsm).log, out.code? = some .ok →
      out.Measures fsm.state := by
  suffices spec : Act.wp (step platform (.message env variant)) (fun _ _ log =>
      ∀ out ∈ responses log, out.code? = some .ok → out.Measures fsm.state) fsm from spec
  rw [wp_step_message platform env variant fsm idle]
  refine Act.wp_mono _ _ (measures _ (messageContext_request fsm.ctx variant)) ?_
  intro result ctx' log measured out member
  exact measured out (by simpa [Output.response?] using member)

theorem step_measures (idle : fsm.ctx.request = none) (input : Input) :
    ∀ out ∈ responses (step platform input fsm).log, out.code? = some .ok → out.Measures fsm.state := by
  intro out sent ok
  cases step_okAnswer platform idle input out sent ok with
  | resumed env event res => exact Response.measures_of_silent rfl rfl
  | message env req _ accepts answer =>
      cases req
      case dcPreCharge req =>
        exact message_measures platform idle env
          (fun ctx pending => State.preCharge_measures platform env ctx pending rfl fsm.state accepts)
            out sent ok
      case dcWeldingDetection req =>
        exact message_measures platform idle env
          (fun ctx pending => State.weldingDetection_measures platform env ctx pending rfl fsm.state accepts)
          out sent ok
      case dcChargeLoop req =>
        obtain ⟨self, state, rfl⟩ := answer
        obtain ⟨voltage, current⟩ := handleDcChargeLoop_measures env (Option.some.inj ok)
        rw [state]
        exact ⟨fun _ is => ⟨_, rfl, (Option.some.inj is).symm.trans voltage⟩,
          fun _ is => ⟨_, rfl, (Option.some.inj is).symm.trans current⟩⟩
      case sessionSetup | authorization | serviceDetail | acChargeParameterDiscovery | scheduleExchange |
          acChargeLoop =>
        obtain ⟨_, _, rfl⟩ := answer
        exact Response.measures_of_silent rfl rfl
      case dcCableCheck =>
        obtain ⟨_, rfl⟩ := answer
        exact Response.measures_of_silent rfl rfl
      all_goals
        obtain rfl := answer
        exact Response.measures_of_silent rfl rfl

/-- Every measurement that is answered with OK is the last one that the answering state was told of, and 0 if
it was told of none: what earlier states were told of is forgotten. -/
theorem measurements_fresh (config : SessionConfig) (pauseCtx : Option PauseContext) (id : SessionId)
    (inputs : List Input) {past future : List FsmStep} {record : FsmStep}
    (split : run platform config pauseCtx id inputs = past ++ record :: future) {out : Response}
    (sent : out ∈ responses record.outputs) (ok : out.code? = some .ok) :
    (∀ voltage, out.presentVoltage? = some voltage →
        voltage = fromFloat (presentVoltage.since record.before.state.id past)) ∧
      ∀ current, out.presentCurrent? = some current →
        current = fromFloat (presentCurrent.since record.before.state.id past) := by
  obtain ⟨before, input, after, -, rfl, rfl⟩ := Machine.split_of_steps _ split
  have voltages := memberInvariant_reached platform
    (presentVoltage_follows platform) config pauseCtx id before rfl
  have currents := memberInvariant_reached platform
    (presentCurrent_follows platform) config pauseCtx id before rfl
  obtain ⟨voltage, current⟩ := step_measures platform voltages.idle input out sent ok
  constructor
  · intro sent is
    obtain ⟨held, read, rfl⟩ := voltage sent is
    rw [voltages.held held read]
    rfl
  · intro sent is
    obtain ⟨held, read, rfl⟩ := current sent is
    rw [currents.held held read]
    rfl

end Fsm

namespace Sample

def measured : Input := .control {} (.presentVoltageCurrent 400 20)

def Measured (out : Response) : Bool :=
  out.code? = some .ok ∧ out.presentVoltage?.isSome ∧ out.presentCurrent?.isSome

end Sample

namespace Fsm

open Sample

theorem measurements_told :
    ∃ out ∈ responses (Machine.stepOf (step platform)
        (reached platform config none (sessionId 9) (dcCharging ++ [measured])) dcLoop).outputs,
      out.presentVoltage? = some (fromFloat 400) ∧ out.presentCurrent? = some (fromFloat 20) := by
  obtain ⟨out, sent, answers⟩ := List.any_eq_true.mp (show (responses (Machine.stepOf (step platform)
    (reached platform config none (sessionId 9) (dcCharging ++ [measured])) dcLoop).outputs).any
      Measured = true by
      decide +kernel)
  have split := run_concat platform config none (sessionId 9) (dcCharging ++ [measured]) dcLoop
  obtain ⟨ok, hasVoltage, hasCurrent⟩ := of_decide_eq_true answers
  obtain ⟨voltage, current⟩ := measurements_fresh platform config none (sessionId 9) _ split sent ok
  obtain ⟨_, is⟩ := Option.isSome_iff_exists.mp hasVoltage
  obtain ⟨_, is'⟩ := Option.isSome_iff_exists.mp hasCurrent
  have voltageTold : presentVoltage.since .dcChargeLoop
      (run platform config none (sessionId 9) (dcCharging ++ [measured])) = 400 := by decide +kernel
  have currentTold : presentCurrent.since .dcChargeLoop
      (run platform config none (sessionId 9) (dcCharging ++ [measured])) = 20 := by decide +kernel
  have loop : (reached platform config none (sessionId 9) (dcCharging ++ [measured])).state.id =
      .dcChargeLoop := by
    decide +kernel
  rw [Machine.stepOf_before, loop] at voltage current
  exact ⟨out, sent, by rw [is, voltage _ is, voltageTold], by rw [is', current _ is', currentTold]⟩

end Fsm

end LibIso15118
