import LibIso15118.Io.PacketStream
import LibIso15118.Session.DelayedClose
import LibIso15118.Session.RequestSlot

set_option autoImplicit false

namespace LibIso15118

open Datatypes Shared

def Wire.settled (wire : Wire) : Wire :=
  { wire with
    available := wire.available ++ wire.arriving
    arriving := [] }

/-- What the two reads of a call find on the wire. -/
def Reader.script (reader : Reader Wire) : List (Nat → Except Exn ReadResult) :=
  [fun size => (Wire.read size reader.connection).1,
    fun size => (Wire.read size (Wire.read reader.packet.getRemainingBytesToRead reader.connection).2).1]

structure WiredSession where
  linked : LinkedSession
  wire : Wire := {}

structure WiredInput where
  input : SessionInput
  arrival : Arrival := {}

namespace WiredSession

def reader (wired : WiredSession) : Reader Wire := ⟨wired.wire, wired.linked.session.packet⟩

def reads (wired : WiredSession) : Bool := wired.linked.session.connected && wired.linked.session.newData

variable (platform : Platform)

def act (call : WiredInput) : Act WiredSession SessionOutput Exn Unit := fun wired =>
  let start := wired.reader.arrive call.arrival
  match call.input with
  | .poll env =>
      let outcome := LinkedSession.act platform (.poll { env with reads := start.script }) wired.linked
      let wire :=
        if wired.reads then (readSingleSdpPacket Wire.read start).state.connection else
          start.connection.settled
      ⟨outcome.result, ⟨outcome.state, wire⟩, outcome.log⟩
  | input =>
      let outcome := LinkedSession.act platform input wired.linked
      ⟨outcome.result, ⟨outcome.state, start.connection.settled⟩, outcome.log⟩

end WiredSession

theorem readInto_script (wire : Wire) (packet : SdpPacket) (rest : List (Nat → Except Exn ReadResult)) :
    ∃ log, readInto IsoSession.scripted ⟨(fun size => (Wire.read size wire).1) :: rest, packet⟩ =
      ⟨(readInto Wire.read ⟨wire, packet⟩).result,
        ⟨rest, (readInto Wire.read ⟨wire, packet⟩).state.packet⟩, log⟩ :=
  ⟨_, rfl⟩

theorem readInto_connection (wire : Wire) (packet : SdpPacket) :
    (readInto Wire.read ⟨wire, packet⟩).state.connection =
    (Wire.read packet.getRemainingBytesToRead wire).2 :=
  rfl

theorem readSingle_script (reader : Reader Wire) :
    (readSingleSdpPacket IsoSession.scripted ⟨reader.script, reader.packet⟩).result =
        (readSingleSdpPacket Wire.read reader).result ∧
      (readSingleSdpPacket IsoSession.scripted ⟨reader.script, reader.packet⟩).state.packet =
        (readSingleSdpPacket Wire.read reader).state.packet := by
  obtain ⟨wire, packet⟩ := reader
  obtain ⟨log, first⟩ := readInto_script wire packet
    [fun size => (Wire.read size (Wire.read packet.getRemainingBytesToRead wire).2).1]
  have connection := readInto_connection wire packet
  simp only [readSingleSdpPacket, Act.bind_apply, Reader.script, first]
  generalize readInto Wire.read ⟨wire, packet⟩ = outcome at connection ⊢
  obtain ⟨result, ⟨wire', packet'⟩, log⟩ := outcome
  obtain rfl : wire' = _ := connection
  cases result with
  | error e => exact ⟨rfl, rfl⟩
  | ok blocked =>
      cases blocked with
      | true => exact ⟨rfl, rfl⟩
      | false =>
          obtain ⟨log, second⟩ := readInto_script (Wire.read packet.getRemainingBytesToRead wire).2 packet' []
          simp only [Bool.false_eq_true, if_false, Act.bind_apply, Act.get_apply]
          by_cases complete : packet'.state = .complete
          · simp [complete]
          by_cases header : packet'.state = .headerRead
          · simp only [header, reduceCtorEq, second, if_false, ne_eq, not_true_eq_false, Act.bind_apply]
            generalize readInto Wire.read ⟨(Wire.read packet.getRemainingBytesToRead wire).2, packet'⟩ =
              outcome
            obtain ⟨result, ⟨wire', packet''⟩, log⟩ := outcome
            cases result with
            | error e => exact ⟨rfl, rfl⟩
            | ok blocked =>
                by_cases whole : packet''.state = .complete <;> cases blocked <;>
                  simp [Act.bind_apply, whole, logInvalidPacketError]
          · simp [complete, header, Act.bind_apply, logInvalidPacketError]

theorem wp_readInto_drains {wire : Wire} (arrived : wire.arriving = []) (packet : SdpPacket)
    {post : Except Exn Bool → Reader Wire → List (ReadCall Wire) → Prop}
    (blocks : ∀ wire' packet' log, wire'.available = [] → post (.ok true) ⟨wire', packet'⟩ log)
    (reads : ∀ wire' packet' log, wire'.arriving = [] → post (.ok false) ⟨wire', packet'⟩ log) :
    Act.wp (readInto Wire.read) post ⟨wire, packet⟩ := by
  rw [wp_readInto]
  refine ⟨fun _ => blocks _ _ _ ?_, fun _ => reads _ _ _ rfl⟩
  simp [Wire.after, arrived]

theorem readSingle_drains {wire : Wire} (arrived : wire.arriving = []) (packet : SdpPacket) :
    Act.wp (readSingleSdpPacket Wire.read) (fun result reader' _ =>
      result = .ok true → reader'.connection.available = []) ⟨wire, packet⟩ := by
  -- A call that would block has taken everything that was there.
  simp only [readSingleSdpPacket, logInvalidPacketError, Act.wp_bind]
  apply wp_readInto_drains arrived
  · intro wire' packet' log drained
    simpa using drained
  · intro wire' packet' log arrived'
    simp only [Bool.false_eq_true, if_false, Act.wp_bind, Act.wp_get, Act.wp_ite, Act.wp_pure, Act.wp_modify]
    refine ⟨fun _ => by simp, fun _ => ⟨fun _ => by simp, fun _ => ?_⟩⟩
    apply wp_readInto_drains arrived'
    · intro wire'' packet'' log drained
      simpa using drained
    · intro wire'' packet'' log _
      simp

namespace Receiver

theorem exhausted_of_drained {reader : Reader Wire} (sound : Sound reader)
    (drained : reader.connection.available = []) :
    Exhausted reader := by
  -- A reader that has taken everything waits for more.
  have unread : reader.unread = reader.packet.buffer := by simp [Reader.unread, drained, sound.arrived]
  have waiting := sound.waiting
  obtain ⟨wire, packet⟩ := reader
  simp only at unread waiting
  cases waiting with
  | empty buffer short =>
      constructor
      · rw [unread]
        exact Nat.lt_of_lt_of_le short (v2gtpFormat.headerSize_le_sizeOf _)
      · intro started
        rw [unread] at started
        exact absurd short (Nat.not_lt.mpr started)
  | header buffer length parsed started more =>
      refine ⟨?_, fun _ => rfl⟩
      rw [unread, sizeOf_accepted parsed rfl]
      exact more

end Receiver

namespace IsoSession

variable (platform : Platform)

structure Aside (session session' : IsoSession) (log : List SessionOutput) : Prop where
  newData : session'.newData = session.newData
  packet : session'.packet = session.packet
  fed : fedVariants log = []
  idle : session.fsm.ctx.request = none → session'.fsm.ctx.request = none

namespace Aside

theorem of_fsm {session session' : IsoSession} {log : List SessionOutput} (fsm : session'.fsm = session.fsm)
    (newData : session'.newData = session.newData) (packet : session'.packet = session.packet)
    (fed : fedVariants log = []) : Aside session session' log :=
  ⟨newData, packet, fed, fun idle => fsm ▸ idle⟩

theorem refl (session : IsoSession) : Aside session session [] := of_fsm rfl rfl rfl rfl

theorem trans {s t u : IsoSession} {l l' : List SessionOutput} (first : Aside s t l) (next : Aside t u l') :
    Aside s u (l ++ l') := by
  refine ⟨next.newData.trans first.newData, next.packet.trans first.packet, ?_, fun idle =>
    next.idle (first.idle idle)⟩
  rw [fedVariants_append, first.fed, next.fed]
  rfl

end Aside

theorem dispatch_aside {input : Input} (other : input.variant? = none) :
    Act.Keeps Aside (dispatch platform input) := by
  refine fun session => ⟨rfl, rfl, (dispatch_finishes platform other session).2, fun idle => ?_⟩
  exact (Fsm.step_frame platform session.fsm input idle).idle

theorem sendControlEvents_aside (env : Nat → Env) (index : Nat) (events : List ControlEvent) :
    Act.Keeps Aside (sendControlEvents platform env index events) := by
  induction events generalizing index with
  | nil => exact .pure .refl ()
  | cons event rest hyp =>
      refine .bind .trans (fun _ => .of_fsm rfl rfl rfl rfl) fun _ => ?_
      exact .bind .trans (dispatch_aside platform rfl) fun _ => hyp _

theorem checkTimeouts_aside (env : PollEnv) : Act.Keeps Aside (checkTimeouts platform env) := by
  have handles (types : List TimeoutType) : Act.Keeps Aside (handleTimeouts platform env.timeout types) := by
    induction types with
    | nil => exact .pure .refl ()
    | cons type rest hyp =>
        cases type
        case sequence => exact dispatch_aside platform rfl
        all_goals exact .bind .trans (dispatch_aside platform rfl) fun _ => hyp
  exact .bind .trans (.get .refl) fun _ => handles _

theorem sendResponse_aside (env : PollEnv) : Act.Keeps Aside (sendResponse platform env) := by
  refine .bind .trans (.get .refl) fun session => .bind .trans (dispatch_aside platform rfl) fun _ => ?_
  cases session.fsm.ctx.pendingResponse with
  | none => exact .pure .refl ()
  | some pending =>
      refine .ite (fun _ => .throw .refl _) fun _ =>
        .bind .trans (fun _ => .of_fsm rfl rfl rfl rfl) fun _ => ?_
      exact .bind .trans (dispatch_aside platform rfl) fun _ _ => .of_fsm rfl rfl rfl rfl

def Takes (packet : SdpPacket) (packet' : SdpPacket) (log : List SessionOutput) : Prop :=
  if packet.isComplete then
    ∃ variant, platform.decode packet.getPayloadType packet.getPayload = .ok variant ∧
      fedVariants log = [variant] ∧ packet' = {}
  else fedVariants log = [] ∧ packet' = packet

theorem handlePacket_takes (env : PollEnv) (session : IsoSession) (idle : session.fsm.ctx.request = none) :
    Act.wp (handlePacket platform env) (fun result session' log => result = .ok () →
      session'.newData = session.newData ∧ Takes platform session.packet session'.packet log) session := by
  simp only [handlePacket, Act.wp_bind, Act.wp_get, Act.wp_ite, List.nil_append]
  constructor
  · intro complete
    cases decoded : platform.decode session.packet.getPayloadType session.packet.getPayload with
    | error e => simp
    | ok variant =>
        simp [Act.wp, Act.bind_apply, idle, Takes, complete, decoded, dispatch, fedVariants, machineSteps,
          SessionOutput.step?, Input.variant?]
  · intro partly
    simp [Takes, partly]

structure Handles (env : PollEnv) (session session' : IsoSession) (log : List SessionOutput) : Prop where
  received : (receive env session).result = .ok ()
  newData : session'.newData = (receive env session).state.newData
  takes : Takes platform (receive env session).state.packet session'.packet log

variable {platform} in
theorem Handles.aside {env : PollEnv} {s t u : IsoSession} {l l' : List SessionOutput}
    (handles : Handles platform env s t l) (aside : Aside t u l') : Handles platform env s u (l ++ l') := by
  refine ⟨handles.received, aside.newData.trans handles.newData, ?_⟩
  rw [Takes, aside.packet, fedVariants_append, aside.fed, List.append_nil]
  exact handles.takes

theorem prepare_handles (env : PollEnv) (queue : List ControlEvent) {session : IsoSession}
    (idle : session.fsm.ctx.request = none) :
    Act.wp (prepare platform env queue) (fun result session' log => result = .ok () →
      Handles platform env session session' log) session := by
  obtain ⟨silent, fsm⟩ := receive_finishes env session
  have aside : Act.Keeps Aside (sendControlEvents platform env.control 0 queue >>= fun _ =>
      checkTimeouts platform env) :=
    .bind .trans (sendControlEvents_aside platform _ _ _) fun _ => checkTimeouts_aside platform env
  have parts : prepare platform env queue = receive env >>= fun _ =>
      (sendControlEvents platform env.control 0 queue >>= fun _ => checkTimeouts platform env) >>= fun _ =>
        handlePacket platform env := by
    simp only [prepare, Act.bind_assoc]
  rw [parts, Act.wp_bind, Act.wp_iff]
  cases received : (receive env session).result with
  | error e => simp
  | ok _ =>
      dsimp only
      have between := aside (receive env session).state
      rw [Act.wp_bind, Act.wp_iff]
      generalize (sendControlEvents platform env.control 0 queue >>= fun _ => checkTimeouts platform env)
        (receive env session).state = outcome at between ⊢
      obtain ⟨result, heard, log⟩ := outcome
      cases result with
      | error e => simp
      | ok _ =>
          refine Act.wp_mono _ _ (handlePacket_takes platform env heard (between.idle (fsm ▸ idle))) ?_
          intro result handled log' takes returned
          obtain ⟨newData, takes⟩ := takes returned
          refine ⟨received, newData.trans between.newData, ?_⟩
          rw [Takes, silent, List.nil_append, fedVariants_append, between.fed, List.nil_append,
            ← between.packet]
          exact takes

theorem poll_handles (env : PollEnv) {session : IsoSession} (idle : session.fsm.ctx.request = none)
    (connected : session.connected = true) (returned : (poll platform env session).result = .ok ()) :
    Handles platform env session (poll platform env session).state (poll platform env session).log := by
  refine wp_poll_returns platform env session (Handles platform env session) (by simp [connected]) ?_ returned
  intro prepared log sent log' closed log'' _ prepares sends closes
  have handles := prepare_handles platform env session.controlEventQueue idle
  rw [Act.wp_iff, prepares] at handles
  have aside := sendResponse_aside platform env prepared
  rw [sends] at aside
  refine ((handles rfl).aside aside).aside ?_
  cases closes <;> exact .of_fsm rfl rfl rfl rfl

variable {platform} in
theorem receive_script (env : PollEnv) {session : IsoSession} (data : session.newData = true)
    {start : Reader Wire}
    (same : start.packet = session.packet) :
    (receive { env with reads := start.script } session).state.packet =
        (readSingleSdpPacket Wire.read start).state.packet ∧
      ((receive { env with reads := start.script } session).result = .ok () →
        (receive { env with reads := start.script } session).state.newData = true ∨
          (readSingleSdpPacket Wire.read start).result = .ok true) := by
  obtain ⟨result, packet⟩ := readSingle_script start
  rw [same] at result packet
  simp only [receive, data, if_true, ← packet, ← result]
  cases (readSingleSdpPacket scripted ⟨start.script, session.packet⟩).result with
  | error e => simp
  | ok blocked => cases blocked <;> simp

theorem handleConnectionEvent_aside {event : ConnectionEvent} (silent : event ≠ .newData) :
    Act.Keeps Aside (handleConnectionEvent platform event) := by
  cases event with
  | newData => exact absurd rfl silent
  | opened =>
      refine .bind .trans (.get .refl) fun session => ?_
      cases session.vehicle with
      | none => exact .pure .refl ()
      | some hash => exact dispatch_aside platform rfl
  | _ => exact fun _ => .of_fsm rfl rfl rfl rfl

end IsoSession

namespace WiredSession

variable {platform : Platform}

structure Idles (wired : WiredSession) (arrival : Arrival) (wired' : WiredSession)
    (log : List SessionOutput) :
    Prop where
  reader : wired'.reader = ⟨(wired.reader.arrive arrival).connection.settled, wired.reader.packet⟩
  fed : fedVariants log = []
  newData : wired.linked.session.newData = true → wired'.linked.session.newData = true

structure Consumes (platform : Platform) (wired : WiredSession) (arrival : Arrival) (wired' : WiredSession)
    (log : List SessionOutput) : Prop where
  reader : wired'.reader = (receivePacket arrival wired.reader).state
  fed : ((receivePacket arrival wired.reader).log.filterMap (·.packet?)).map (fun packet =>
    platform.decode packet.1 packet.2) = (fedVariants log).map .ok
  newData : arrival.between = [] → wired'.linked.session.newData = true ∨ wired'.wire.available = []

section Steps

variable {wired : WiredSession} (idle : wired.linked.session.fsm.ctx.request = none)
include idle

theorem poll_consumes (reads : wired.reads = true) (env : PollEnv) (arrival : Arrival)
    (returned : (act platform ⟨.poll env, arrival⟩ wired).result = .ok ()) :
    Consumes platform wired arrival (act platform ⟨.poll env, arrival⟩ wired).state
      (act platform ⟨.poll env, arrival⟩ wired).log := by
  obtain ⟨connected, data⟩ := Bool.and_eq_true_iff.mp reads
  have handles := IsoSession.poll_handles platform
    { env with reads := (wired.reader.arrive arrival).script } idle
    connected returned
  have sameBuffer : (wired.reader.arrive arrival).packet = wired.linked.session.packet := rfl
  obtain ⟨packet, blocked⟩ := IsoSession.receive_script env data sameBuffer
  have drains (arrived : (wired.reader.arrive arrival).connection.arriving = []) :=
    readSingle_drains arrived wired.linked.session.packet
  have takes := handles.takes
  rw [packet] at takes
  simp only [act, reads, if_true]
  change Consumes platform wired arrival ⟨{ wired.linked with
    session := (IsoSession.poll platform { env with reads := (wired.reader.arrive arrival).script }
      wired.linked.session).state
    link := _ }, _⟩ (IsoSession.poll platform { env with reads := (wired.reader.arrive arrival).script }
      wired.linked.session).log
  have drained (arrived : arrival.between = []) :
      (IsoSession.poll platform { env with reads := (wired.reader.arrive arrival).script }
          wired.linked.session).state.newData = true ∨
        (readSingleSdpPacket Wire.read (wired.reader.arrive arrival)).state.connection.available = [] := by
    rw [handles.newData]
    exact (blocked handles.received).imp_right (drains arrived)
  by_cases whole : (readSingleSdpPacket Wire.read
    (wired.reader.arrive arrival)).state.packet.isComplete = true
  · rw [IsoSession.Takes, if_pos whole] at takes
    obtain ⟨variant, decoded, fed, reset⟩ := takes
    refine ⟨?_, ?_, drained⟩
    · simp only [receivePacket, if_pos whole]
      exact congrArg (Reader.mk _) reset
    · simp only [receivePacket, if_pos whole, List.filterMap_append, Receiver.filterMap_packet_read, fed]
      simp [ReceiverOutput.packet?, decoded]
  · rw [IsoSession.Takes, if_neg whole] at takes
    refine ⟨?_, ?_, drained⟩
    · simp only [receivePacket, if_neg whole]
      exact congrArg (Reader.mk _) takes.2
    · simp only [receivePacket, if_neg whole, Receiver.filterMap_packet_read, takes.1]
      rfl

theorem poll_idles (sound : Receiver.Sound wired.reader) (reads : wired.reads = false) (env : PollEnv)
    (arrival : Arrival)
    (returned : (act platform ⟨.poll env, arrival⟩ wired).result = .ok ()) :
    Idles wired arrival (act platform ⟨.poll env, arrival⟩ wired).state
      (act platform ⟨.poll env, arrival⟩ wired).log := by
  simp only [act, reads, Bool.false_eq_true, if_false]
  cases connected : wired.linked.session.connected with
  | false =>
      obtain ⟨silent, state⟩ := LinkedSession.poll_disconnected platform
        { env with reads := (wired.reader.arrive arrival).script } connected
      rw [silent, state]
      exact ⟨rfl, rfl, id⟩
  | true =>
      have data : wired.linked.session.newData = false := by simpa [WiredSession.reads, connected] using reads
      have handles := IsoSession.poll_handles platform
        { env with reads := (wired.reader.arrive arrival).script } idle
        connected returned
      have received : IsoSession.receive { env with reads := (wired.reader.arrive arrival).script }
          wired.linked.session = ⟨.ok (), wired.linked.session, []⟩ := by
        simp [IsoSession.receive, data]
      have takes := handles.takes
      have waiting : wired.linked.session.packet.Waiting := sound.waiting
      rw [received, IsoSession.Takes,
        if_neg (by simp [Receiver.SdpPacket.Waiting.incomplete waiting])] at takes
      refine ⟨?_, takes.1, by simp [data]⟩
      exact congrArg _ takes.2

end Steps

theorem other_idles {wired : WiredSession} {input : SessionInput} (unpolled : input.clock? = none)
    (arrival : Arrival) :
    Idles wired arrival (act platform ⟨input, arrival⟩ wired).state
      (act platform ⟨input, arrival⟩ wired).log := by
  have reported (before after : Link) (event : ConnectionEvent) :
      Idles wired arrival ⟨(LinkedSession.report platform before after event wired.linked).state,
          (wired.reader.arrive arrival).connection.settled⟩
        (LinkedSession.report platform before after event wired.linked).log := by
    unfold LinkedSession.report
    split
    · by_cases announced : event = .newData
      · subst announced
        exact ⟨rfl, rfl, fun _ => rfl⟩
      · have aside := IsoSession.handleConnectionEvent_aside platform announced wired.linked.session
        exact ⟨congrArg (Reader.mk _) aside.packet, aside.fed, aside.newData.trans⟩
    · exact ⟨rfl, rfl, id⟩
  cases input with
  | accept | opened | data => exact reported _ _ _
  | push event => exact ⟨rfl, rfl, id⟩
  | close => exact ⟨rfl, rfl, id⟩
  | poll env => cases unpolled

variable (platform) in
theorem act_linked (wired : WiredSession) (call : WiredInput) :
    ∃ input, (act platform call wired).state.linked =
      (LinkedSession.act platform input wired.linked).state := by
  obtain ⟨input, arrival⟩ := call
  cases input with
  | poll env => exact ⟨.poll { env with reads := (wired.reader.arrive arrival).script }, rfl⟩
  | accept | opened | data | push | close => exact ⟨_, rfl⟩

end WiredSession

end LibIso15118
