import LibIso15118.Codec.Readable
import LibIso15118.Fsm.RequestSlot
import LibIso15118.Session.Run

set_option autoImplicit false

namespace LibIso15118

open Datatypes Shared

/-- The slot in a step of the machine: it is empty before and after, the request of a message is set
and pulled, and the other events do not touch it. -/
structure ServesSlot (platform : Platform) (step : FsmStep) : Prop where
  before : step.before.ctx.request = none
  after : step.after.ctx.request = none
  set : ∀ env variant, step.input = .message env variant →
    (Fsm.setRequest variant step.before).result = .ok ()
  pulled : ∀ env variant, step.input = .message env variant →
    (Feed.pullRequest (Fsm.messageContext step.before.ctx variant)).result = .ok variant
  once : ∀ env variant, step.input = .message env variant →
    Feed.TakesOnce (step.before.state.feed platform env .v2gtpMessage)
  control : ∀ env event, step.input = .control env event →
    Feed.IgnoresSlot (step.before.state.feed platform env .controlMessage)
  timeout : ∀ env type, step.input = .timeout env type →
    Feed.IgnoresSlot (step.before.state.feed platform env .timeout)

def Input.variant? : Input → Option Variant
  | .message _ variant => some variant
  | _ => none

def fedVariants (log : List SessionOutput) : List Variant := (machineSteps log).filterMap (·.input.variant?)

/-- The documents that the decoders yield are of the schema: the lengths of their arrays are within, a number
of an enumeration is one of its enumerators, and a choice is made. -/
def Platform.Conforming (platform : Platform) : Prop :=
  ∀ payloadType payload fault, Variant.new platform.decoders payloadType payload = .error fault → fault.isRefusal

def receivedPacket (record : SessionStep) : Option SdpPacket :=
  match record.input with
  | .poll env =>
      if record.before.session.connected = true ∧ (IsoSession.receive env record.before.session).result = .ok ()
      then some (IsoSession.receive env record.before.session).state.packet
      else none
  | _ => none

/-- No request is left over, and a packet that a poll completes is fed in the same poll and once. -/
structure Serviced (platform : Platform) (record : SessionStep) : Prop where
  idle : record.before.session.fsm.ctx.request = none
  steps : ∀ step ∈ machineSteps record.outputs, ServesSlot platform step
  fed : ∀ packet, receivedPacket record = some packet → packet.isComplete = true →
    ∃ variant, fedVariants record.outputs = [variant] ∧
      platform.decode packet.getPayloadType packet.getPayload = .ok variant
  partly : ∀ packet, receivedPacket record = some packet → packet.isComplete = false →
    fedVariants record.outputs = []
  reset : ∀ variant ∈ fedVariants record.outputs, record.after.session.packet = {}

/-- A packet that a poll completes decodes to nothing that the conversions refuse. -/
def ReceivesReadable (platform : Platform) (record : SessionStep) : Prop :=
  ∀ packet, receivedPacket record = some packet → packet.isComplete = true →
    platform.decoders.Readable packet.getPayloadType packet.getPayload

theorem Platform.decode_iff {platform : Platform} (conforming : platform.Conforming) (payloadType : UInt16)
    (payload : List UInt8) :
    (∃ variant, platform.decode payloadType payload = .ok variant) ↔
      platform.decoders.Readable payloadType payload := by
  rw [← (Variant.new_reads platform.decoders payloadType payload).ok_iff (conforming payloadType payload)]
  rw [Platform.decode]
  cases Variant.new platform.decoders payloadType payload <;> simp [Except.mapError]

def receivedVariant (platform : Platform) (packet : SdpPacket) : Option Variant :=
  if packet.isComplete then (platform.decode packet.getPayloadType packet.getPayload).toOption else none

section Logs

variable (log log' : List SessionOutput)

@[simp] theorem fedVariants_append : fedVariants (log ++ log') = fedVariants log ++ fedVariants log' := by
  simp [fedVariants]

@[simp] theorem fedVariants_nil : fedVariants [] = [] := rfl

end Logs

namespace Fsm

variable (platform : Platform) (fsm : Fsm)

theorem final_idle {fsm : Fsm} (idle : fsm.ctx.request = none) (inputs : List Input) :
    (Machine.final (step platform) fsm inputs).ctx.request = none :=
  Machine.run_induction (step platform) fsm (motive := fun _ fsm => fsm.ctx.request = none) idle
    (fun _ _ input idle => (step_frame platform _ input idle).idle) inputs

theorem control_returns (env : Env) (event : ControlEvent) :
    (step platform (.control env event) fsm).result = .ok () := by
  suffices spec : Act.wp (step platform (.control env event)) (fun result _ _ => result = .ok ()) fsm from spec
  by_cases resumes : fsm.state.Resumes event
  · obtain ⟨self, req, closed, delivery, saved, rfl⟩ := resumes
    simp [wp_step_control_resumed platform env closed fsm self req delivery saved]
  · exact wp_step_control_quiet platform env event fsm resumes _ fun _ _ => rfl

theorem timeout_returns (env : Env) (type : TimeoutType) :
    (step platform (.timeout env type) fsm).result = .ok () :=
  wp_step_timeout platform env type fsm (fun result _ _ => result = .ok ()) fun _ _ _ => rfl

theorem step_serves {fsm : Fsm} (idle : fsm.ctx.request = none) (input : Input) :
    ServesSlot platform (Machine.stepOf (step platform) fsm input) where
  before := idle
  after := (step_frame platform fsm input idle).idle
  set env variant same := by simp [setRequest, Act.bind_apply, idle, modifyCtx]
  pulled env variant same := by simp [Feed.pullRequest, Act.bind_apply]
  once env variant same := State.takesOnce platform env _
  control env event same := State.ignoresSlot platform env _ (by simp)
  timeout env type same := State.ignoresSlot platform env _ (by simp)

end Fsm

namespace IsoSession

variable (platform : Platform)

def FeedsNothing (session : IsoSession) (result : Except Exn Unit) (session' : IsoSession)
    (log : List SessionOutput) : Prop :=
  result = .ok () ∧ session'.packet = session.packet ∧ fedVariants log = [] ∧
    (session.fsm.ctx.request = none → session'.fsm.ctx.request = none)

theorem FeedsNothing.bind {m : SessionAct Unit} {next : Unit → SessionAct Unit} {session : IsoSession}
    (first : Act.wp m (FeedsNothing session) session)
    (rest : ∀ session', Act.wp (next ()) (FeedsNothing session') session') :
    Act.wp (m >>= next) (FeedsNothing session) session := by
  rw [Act.wp_bind]
  refine Act.wp_mono _ _ first ?_
  rintro _ session' log ⟨rfl, packet, fed, idle⟩
  refine Act.wp_mono _ _ (rest session') ?_
  rintro _ session'' log' ⟨rfl, packet', fed', idle'⟩
  exact ⟨rfl, packet'.trans packet, by simp [fed, fed'], fun none => idle' (idle none)⟩

theorem dispatch_feedsNothing (session : IsoSession) {input : Input}
    (returns : (Fsm.step platform input session.fsm).result = .ok ()) (other : input.variant? = none) :
    Act.wp (dispatch platform input) (FeedsNothing session) session := by
  refine ⟨returns, rfl, ?_, fun idle => (Fsm.step_frame platform session.fsm input idle).idle⟩
  simp [fedVariants, machineSteps, dispatch, SessionOutput.step?, other]

theorem sendControlEvents_feedsNothing (env : Nat → Env) (index : Nat) (events : List ControlEvent)
    (session : IsoSession) :
    Act.wp (sendControlEvents platform env index events) (FeedsNothing session) session := by
  induction events generalizing index session with
  | nil => exact ⟨rfl, rfl, rfl, id⟩
  | cons event rest hyp =>
      refine FeedsNothing.bind ⟨rfl, rfl, rfl, id⟩ fun session' => FeedsNothing.bind ?_ (hyp _)
      exact dispatch_feedsNothing platform session' (Fsm.control_returns platform _ _ event) rfl

theorem checkTimeouts_feedsNothing (env : PollEnv) (session : IsoSession) :
    Act.wp (checkTimeouts platform env) (FeedsNothing session) session := by
  have handles (types : List TimeoutType) (session : IsoSession) :
      Act.wp (handleTimeouts platform env.timeout types) (FeedsNothing session) session := by
    induction types generalizing session with
    | nil => exact ⟨rfl, rfl, rfl, id⟩
    | cons type rest hyp =>
        cases type
        case sequence => exact dispatch_feedsNothing platform session rfl rfl
        all_goals
          refine FeedsNothing.bind ?_ hyp
          exact dispatch_feedsNothing platform session (Fsm.timeout_returns platform _ _ _) rfl
  simp only [checkTimeouts, Act.wp_bind, Act.wp_get, List.nil_append]
  exact handles _ session

def FeedsPacket (session session' : IsoSession) (log : List SessionOutput) : Prop :=
  fedVariants log = (receivedVariant platform session.packet).toList ∧
    ∀ variant ∈ fedVariants log, session'.packet = {}

theorem handlePacket_feeds (env : PollEnv) {session : IsoSession} (idle : session.fsm.ctx.request = none) :
    Act.wp (handlePacket platform env) (fun _ session' log => FeedsPacket platform session session' log)
      session := by
  simp only [handlePacket, Act.wp_bind, Act.wp_get, Act.wp_ite, List.nil_append]
  constructor
  · intro complete
    cases decoded : platform.decode session.packet.getPayloadType session.packet.getPayload with
    | error e => simp [FeedsPacket, receivedVariant, complete, decoded, Except.toOption]
    | ok variant =>
        simp [Act.wp, Act.bind_apply, idle, FeedsPacket, receivedVariant, complete, decoded, Except.toOption,
          dispatch, fedVariants, machineSteps, SessionOutput.step?, Input.variant?]
  · intro partly
    simp [FeedsPacket, receivedVariant, partly]

def Finishes (session session' : IsoSession) (log : List SessionOutput) : Prop :=
  session'.packet = session.packet ∧ fedVariants log = []

theorem Finishes.trans {s t u : IsoSession} {l l' : List SessionOutput} (first : Finishes s t l)
    (next : Finishes t u l') : Finishes s u (l ++ l') :=
  ⟨next.1.trans first.1, by simp [first.2, next.2]⟩

theorem FeedsPacket.finishes {s t u : IsoSession} {l l' : List SessionOutput}
    (first : FeedsPacket platform s t l) (next : Finishes t u l') : FeedsPacket platform s u (l ++ l') := by
  constructor
  · simp [next.2, first.1]
  · intro variant fed
    rw [next.1]
    exact first.2 variant (by simpa [next.2] using fed)

theorem dispatch_finishes {input : Input} (other : input.variant? = none) :
    Act.Keeps Finishes (dispatch platform input) := by
  refine fun session => ⟨rfl, ?_⟩
  simp [fedVariants, machineSteps, dispatch, SessionOutput.step?, other]

theorem sendResponse_finishes (env : PollEnv) : Act.Keeps Finishes (sendResponse platform env) := by
  have refl (session : IsoSession) : Finishes session session [] := ⟨rfl, rfl⟩
  refine .bind .trans (.get refl) fun session => .bind .trans (dispatch_finishes platform rfl) fun _ => ?_
  cases session.fsm.ctx.pendingResponse with
  | none => exact .pure refl ()
  | some pending =>
      refine .ite (fun _ => .throw refl _) fun _ => .bind .trans (fun _ => ⟨rfl, rfl⟩) fun _ => ?_
      exact .bind .trans (dispatch_finishes platform rfl) fun _ => fun _ => ⟨rfl, rfl⟩

theorem closeStep_finishes {now : TimePoint} {session session' : IsoSession} {log : List SessionOutput}
    (step : CloseStep now session session' log) : Finishes session session' log := by
  cases step <;> exact ⟨rfl, rfl⟩

theorem receive_finishes (env : PollEnv) (session : IsoSession) :
    (receive env session).log = [] ∧ (receive env session).state.fsm = session.fsm := by
  unfold receive
  by_cases data : session.newData = true
  · simp only [data, if_true]
    split <;> exact ⟨rfl, rfl⟩
  · simp [data]

def FeedsReceived (env : PollEnv) (session session' : IsoSession) (log : List SessionOutput) : Prop :=
  ((receive env session).result = .ok () → FeedsPacket platform (receive env session).state session' log) ∧
    ∀ variant ∈ fedVariants log, session'.packet = {}

theorem FeedsReceived.finishes {env : PollEnv} {s t u : IsoSession} {l l' : List SessionOutput}
    (first : FeedsReceived platform env s t l) (next : Finishes t u l') :
    FeedsReceived platform env s u (l ++ l') := by
  refine ⟨fun received => (first.1 received).finishes platform next, fun variant fed => ?_⟩
  rw [next.1]
  exact first.2 variant (by simpa [next.2] using fed)

theorem advance_feeds (env : PollEnv) (queue : List ControlEvent) {session : IsoSession}
    (idle : session.fsm.ctx.request = none) :
    Act.wp (advance platform env queue) (fun _ session' log => FeedsReceived platform env session session' log)
      session := by
  obtain ⟨silent, fsm⟩ := receive_finishes env session
  have quiet (received : IsoSession) : Act.wp (sendControlEvents platform env.control 0 queue >>= fun _ =>
      checkTimeouts platform env) (FeedsNothing received) received :=
    FeedsNothing.bind (sendControlEvents_feedsNothing platform _ _ _ received)
      (checkTimeouts_feedsNothing platform env)
  have parts : advance platform env queue = receive env >>= fun _ =>
      (sendControlEvents platform env.control 0 queue >>= fun _ => checkTimeouts platform env) >>= fun _ =>
        handlePacket platform env >>= fun _ => sendResponse platform env := by
    simp only [advance, Act.bind_assoc]
  rw [parts, Act.wp_bind, Act.wp_iff]
  cases received : (receive env session).result with
  | error e =>
      rw [silent]
      exact ⟨fun ok => absurd (ok.symm.trans received) (by simp), by simp⟩
  | ok _ =>
      dsimp only
      rw [silent, Act.wp_bind]
      refine Act.wp_mono _ _ (quiet (receive env session).state) ?_
      rintro _ prepared log ⟨rfl, packet, fed, still⟩
      rw [Act.wp_bind]
      refine Act.wp_mono _ _ (handlePacket_feeds platform env (still (fsm ▸ idle))) ?_
      intro result handled log' feeds
      have here : FeedsReceived platform env session handled ([] ++ (log ++ log')) := by
        refine ⟨fun _ => ⟨?_, fun variant member => feeds.2 variant (by simpa [fed] using member)⟩,
          fun variant member => feeds.2 variant (by simpa [fed] using member)⟩
        rw [← packet]
        simpa [fed] using feeds.1
      cases result with
      | error e => exact here
      | ok _ =>
          have sent := here.finishes platform (sendResponse_finishes platform env handled)
          rw [Act.wp_iff]
          simpa only [List.nil_append, List.append_assoc] using sent

theorem poll_feeds (env : PollEnv) {session : IsoSession} (idle : session.fsm.ctx.request = none)
    (connected : session.connected = true) :
    FeedsReceived platform env session (poll platform env session).state (poll platform env session).log := by
  suffices spec : Act.wp (poll platform env)
    (fun _ session' log => FeedsReceived platform env session session' log) session from spec
  rw [wp_poll]
  refine ⟨fun absent => absurd (connected.symm.trans absent) (by simp), fun _ => ?_⟩
  refine Act.wp_mono _ _ (advance_feeds platform env session.controlEventQueue idle) ?_
  intro result sent log feeds
  cases result with
  | error e => exact feeds
  | ok _ => exact feeds.finishes platform (closeStep_finishes (closeWhenDue_step env.now sent).2)

end IsoSession

namespace LinkedSession

variable (platform : Platform)

theorem act_silent (input : SessionInput) (linked : LinkedSession) (unpolled : ∀ env, input ≠ .poll env) :
    fedVariants (act platform input linked).log = [] := by
  refine act_relates (R := fun _ _ log => fedVariants log = []) platform (fun _ => rfl) (fun event session => ?_)
    (fun _ => rfl) input linked fun env same => absurd same (unpolled env)
  cases event with
  | opened =>
      cases vehicle : session.vehicle <;>
        simp [IsoSession.handleConnectionEvent, Act.bind_apply, vehicle, IsoSession.dispatch, fedVariants,
          machineSteps, SessionOutput.step?, Input.variant?]
  | _ => rfl

theorem received_poll {record : SessionStep} {packet : SdpPacket} (received : receivedPacket record = some packet) :
    ∃ env, record.input = .poll env ∧ record.before.session.connected = true ∧
      (IsoSession.receive env record.before.session).result = .ok () ∧
      (IsoSession.receive env record.before.session).state.packet = packet := by
  rw [receivedPacket] at received
  split at received
  · rename_i env polled
    split at received
    · rename_i here
      exact ⟨env, polled, here.1, here.2, Option.some.inj received⟩
    · cases received
  · cases received

theorem act_feeds {input : SessionInput} {linked : LinkedSession} (idle : linked.session.fsm.ctx.request = none)
    {packet : SdpPacket} (received : receivedPacket (Machine.stepOf (act platform) linked input) = some packet) :
    fedVariants (act platform input linked).log = (receivedVariant platform packet).toList := by
  obtain ⟨env, polled, connected, returned, rfl⟩ := received_poll received
  obtain rfl : input = .poll env := polled
  exact ((IsoSession.poll_feeds platform env idle connected).1 returned).1

theorem act_resets (input : SessionInput) {linked : LinkedSession} (idle : linked.session.fsm.ctx.request = none) :
    ∀ variant ∈ fedVariants (act platform input linked).log,
      (act platform input linked).state.session.packet = {} := by
  intro variant fed
  by_cases polled : ∃ env, input = .poll env
  · obtain ⟨env, rfl⟩ := polled
    cases connected : linked.session.connected with
    | true => exact (IsoSession.poll_feeds platform env idle connected).2 variant fed
    | false =>
        -- A poll without a connection feeds nothing.
        simp [act, call, IsoSession.poll, Act.bind_apply, connected, IsoSession.wakeUp] at fed
  · rw [act_silent platform input linked (not_exists.mp polled)] at fed
    cases fed

theorem act_services {platform : Platform} (conforming : platform.Conforming) (input : SessionInput)
    {linked : LinkedSession} (idle : linked.session.fsm.ctx.request = none) :
    Serviced platform (Machine.stepOf (act platform) linked input) ↔
      ReceivesReadable platform (Machine.stepOf (act platform) linked input) := by
  constructor
  · intro serviced packet received complete
    obtain ⟨variant, -, decoded⟩ := serviced.fed packet received complete
    exact (platform.decode_iff conforming _ _).mp ⟨variant, decoded⟩
  · intro readable
    obtain ⟨machineInputs, steps, -⟩ := act_follows platform input linked
    refine ⟨idle, fun step member => ?_, ?_, ?_, act_resets platform input idle⟩
    · rw [Machine.stepOf_outputs, steps] at member
      obtain ⟨past, machineInput, -, -, rfl⟩ := Machine.exists_split_of_mem (Fsm.step platform) member
      exact Fsm.step_serves platform (Fsm.final_idle platform idle past) machineInput
    · intro packet received complete
      obtain ⟨variant, decoded⟩ := (platform.decode_iff conforming _ _).mpr (readable packet received complete)
      refine ⟨variant, ?_, decoded⟩
      simpa [receivedVariant, complete, decoded, Except.toOption] using act_feeds platform idle received
    · intro packet received partly
      simpa [receivedVariant, partly] using act_feeds platform idle received

end LinkedSession

namespace Sample

def meteredResponse (meterSignature : Option StdString) : DcChargeLoopResponse :=
  { meterInfo := some { meterId := "M1", chargedEnergyReadingWh := 1000, meterSignature } }

def meteredDocument (meterSignature : Option StdString) : Option (Iso20DcExiDocument capacities) :=
  ((meteredResponse meterSignature).convert default).toOption.map .chargeLoopRes

def meteredDocuments (payload : List UInt8) : Option (Iso20DcExiDocument capacities) :=
  if payload = [0] then meteredDocument none
  else if payload = [1] then meteredDocument (some "S")
  else none

def metered : Platform :=
  { platform with
    decoders :=
      { appHand := fun _ => none, iso20 := fun _ => none, iso20Dc := meteredDocuments, iso20Ac := fun _ => none } }

theorem meteredDocuments_refusal {payload : List UInt8} {fault : Fault}
    (failed : handleDc (meteredDocuments payload) = .error fault) : fault.isRefusal := by
  have plain : ∃ variant, handleDc (meteredDocument none) = .ok variant := ⟨_, rfl⟩
  have signed : handleDc (meteredDocument (some "S")) = .error (.runtimeError "Byte array too long") := rfl
  rw [meteredDocuments] at failed
  split_ifs at failed
  · obtain ⟨variant, made⟩ := plain
    rw [made] at failed
    cases failed
  · rw [signed] at failed
    cases failed
    trivial
  · cases failed

theorem metered_conforming : metered.Conforming := by
  intro payloadType payload fault failed
  rw [Variant.new] at failed
  split_ifs at failed
  · cases failed
  · cases failed
  · exact meteredDocuments_refusal failed
  · cases failed
  · cases failed

theorem metered_readable (payloadType : UInt16) {payload : List UInt8} (unsigned : payload ≠ [1]) :
    metered.decoders.Readable payloadType payload := by
  refine ⟨fun _ _ decoded => (by cases decoded), fun _ document decoded => ?_, fun _ _ decoded => (by cases decoded)⟩
  change meteredDocuments payload = some document at decoded
  rw [meteredDocuments] at decoded
  split_ifs at decoded
  · obtain rfl := Option.some.inj decoded
    exact ⟨fun _ => rfl, fun used => absurd used Bool.false_ne_true⟩

def responding (number : UInt8) : List SessionInput :=
  [.accept, .opened, .data,
    .poll { reads :=
      [fun _ => .ok ⟨false, setupResponseHeader payloadTypePart20Dc 1⟩, fun _ => .ok ⟨false, [number]⟩] }]

end Sample

end LibIso15118
