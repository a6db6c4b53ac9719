import LibIso15118.Session.ResponseBuffer
import LibIso15118.Session.Wire

set_option autoImplicit false

namespace LibIso15118

open Datatypes Shared

abbrev WiredStep := Step WiredSession WiredInput SessionOutput

def WiredInput.bytes (call : WiredInput) : List UInt8 := call.arrival.before ++ call.arrival.between

def WiredInput.isPoll (call : WiredInput) : Bool := call.input.clock?.isSome

def Platform.decodePacket (platform : Platform) (packet : UInt16 × List UInt8) : Except Exn Variant :=
  platform.decode packet.1 packet.2

namespace WiredSession

def stream (inputs : List WiredInput) : List UInt8 := inputs.flatMap (·.bytes)

theorem stream_append (inputs inputs' : List WiredInput) :
    stream (inputs ++ inputs') = stream inputs ++ stream inputs' := List.flatMap_append

theorem quiet_arrivals {inputs : List WiredInput} (quiet : stream inputs = []) :
    ∀ call ∈ inputs, call.arrival = {} := by
  intro call member
  obtain ⟨before, between⟩ := List.append_eq_nil_iff.mp (List.flatMap_eq_nil_iff.mp quiet call member)
  cases same : call.arrival
  simp_all

def fed (steps : List WiredStep) : List Variant := steps.flatMap fun record => fedVariants record.outputs

def new (config : SessionConfig) (pauseCtx : Option PauseContext) (vehicle : Option Sha512Hash)
    (id : SessionId)
    (now : TimePoint) : WiredSession :=
  { linked := .new config pauseCtx vehicle id now }

def Returned (platform : Platform) (record : WiredStep) : Prop :=
  (act platform record.input record.before).result = .ok ()

instance (platform : Platform) (record : WiredStep) : Decidable (Returned platform record) :=
  inferInstanceAs (Decidable (_ = _))

theorem settled_sound {reader : Reader Wire} (sound : Receiver.Sound reader) (arrival : Arrival) :
    Receiver.Sound ⟨(reader.arrive arrival).connection.settled, reader.packet⟩ :=
  ⟨sound.waiting, rfl, sound.position⟩

theorem settled_ahead {reader : Reader Wire} (sound : Receiver.Sound reader) (arrival : Arrival)
    (future : List UInt8) :
    Receiver.ahead ⟨(reader.arrive arrival).connection.settled, reader.packet⟩ future =
      Receiver.ahead reader (arrival.before ++ arrival.between ++ future) := by
  rw [Receiver.ahead_arrive sound.arrived]
  simp [Receiver.ahead, Reader.unread, Reader.base, Reader.arrive, Wire.settled]

theorem settled_quiet {reader : Reader Wire} (arrived : reader.connection.arriving = []) :
    ⟨(reader.arrive {}).connection.settled, reader.packet⟩ = reader := by
  obtain ⟨⟨available, arriving, position⟩, packet⟩ := reader
  obtain rfl : arriving = [] := arrived
  simp [Reader.arrive, Wire.settled]

structure Delivers (platform : Platform) (past : List WiredStep) (wired : WiredSession) : Prop where
  sound : Receiver.Sound wired.reader
  linked : wired.linked.Linked
  frames : ∀ future, Receiver.ahead wired.reader future <:+
    Receiver.ahead Receiver.start (stream (past.map (·.input)) ++ future)
  taken : ∃ packets, packets.map platform.decodePacket = (fed past).map .ok ∧
    ∀ future, Receiver.packetsAhead Receiver.start (stream (past.map (·.input)) ++ future) =
      packets ++ Receiver.packetsAhead wired.reader future

variable {platform : Platform}

variable (platform) in
theorem act_linked_sound {wired : WiredSession} (sound : wired.linked.Linked) (call : WiredInput) :
    (act platform call wired).state.linked.Linked := by
  obtain ⟨input, same⟩ := act_linked platform wired call
  rw [same]
  exact LinkedSession.linked_step sound input

theorem act_cases {wired : WiredSession} (sound : Receiver.Sound wired.reader) (linked : wired.linked.Linked)
    (call : WiredInput) (returned : (act platform call wired).result = .ok ()) :
    (call.isPoll = true ∧ wired.reads = true ∧
      Consumes platform wired call.arrival (act platform call wired).state
        (act platform call wired).log) ∨
      (call.isPoll = false ∨ wired.reads = false) ∧
        Idles wired call.arrival (act platform call wired).state (act platform call wired).log := by
  obtain ⟨input, arrival⟩ := call
  cases input with
  | poll env =>
      by_cases reads : wired.reads = true
      · exact .inl ⟨rfl, reads, poll_consumes linked.idle reads env arrival returned⟩
      · have reads : wired.reads = false := by simpa using reads
        exact .inr ⟨.inr reads, poll_idles linked.idle sound reads env arrival returned⟩
  | accept | opened | data | push | close => exact .inr ⟨.inl rfl, other_idles rfl arrival⟩

theorem delivers_step {past : List WiredStep} {wired : WiredSession} (delivers : Delivers platform past wired)
    (call : WiredInput) (returned : (act platform call wired).result = .ok ()) :
    Delivers platform (past ++ [Machine.stepOf (act platform) wired call])
      (act platform call wired).state := by
  obtain ⟨packets, decoded, ahead⟩ := delivers.taken
  have linked := act_linked_sound platform delivers.linked call
  have bytes (future : List UInt8) :
      stream ((past ++ [Machine.stepOf (act platform) wired call]).map (·.input)) ++
      future = stream (past.map (·.input)) ++ (call.arrival.before ++ call.arrival.between ++ future) := by
    simp [stream, WiredInput.bytes]
  have more : fed (past ++ [Machine.stepOf (act platform) wired call]) =
      fed past ++ fedVariants (act platform call wired).log := by
    simp [fed]
  rcases act_cases delivers.sound delivers.linked call returned with ⟨-, -, consumes⟩ | ⟨-, idles⟩
  · have receives (future : List UInt8) := Receiver.receivePacket_receives delivers.sound call.arrival future
    rw [← consumes.reader] at receives
    refine ⟨(receives []).sound, linked, fun future => ?_, packets ++
      (receivePacket call.arrival wired.reader).log.filterMap
      (·.packet?), ?_, fun future => ?_⟩
    · rw [bytes]
      exact (receives future).frames.trans (delivers.frames _)
    · rw [List.map_append, more, List.map_append, decoded]
      exact congrArg _ consumes.fed
    · rw [bytes, ahead, (receives future).packets, List.append_assoc]
  · refine ⟨idles.reader ▸ settled_sound delivers.sound call.arrival, linked, fun future => ?_, packets, ?_,
      fun future => ?_⟩
    · rw [bytes, idles.reader, settled_ahead delivers.sound]
      exact delivers.frames _
    · rw [more, idles.fed, List.append_nil, decoded]
    · rw [bytes, ahead, idles.reader, Receiver.packetsAhead, Receiver.packetsAhead,
        settled_ahead delivers.sound]

theorem delivers_new (config : SessionConfig) (pauseCtx : Option PauseContext) (vehicle : Option Sha512Hash)
    (id : SessionId) (now : TimePoint) : Delivers platform [] (new config pauseCtx vehicle id now) where
  sound := Receiver.start_sound
  linked := ⟨rfl, by simp [new, LinkedSession.new, IsoSession.new]⟩
  frames _ := List.suffix_rfl
  taken := ⟨[], rfl, fun _ => rfl⟩

theorem closed_stays {linked : LinkedSession} (closed : linked.link = .closed) (input : SessionInput) :
    (LinkedSession.act platform input linked).state.link = .closed := by
  cases input <;> simp [LinkedSession.act, LinkedSession.report, LinkedSession.call, closed]

theorem open_stays {linked : LinkedSession} (isOpen : linked.link = .opened) (input : SessionInput) :
    (LinkedSession.act platform input linked).state.link = .opened ∨
      (LinkedSession.act platform input linked).state.link = .closed := by
  cases input with
  | accept | opened | data => simp [LinkedSession.act, LinkedSession.report, isOpen]
  | push | poll | close =>
      simp only [LinkedSession.act, LinkedSession.call, isOpen]
      split <;> simp

variable (platform) in
theorem final_closed {wired : WiredSession} (closed : wired.linked.link = .closed)
    (inputs : List WiredInput) :
    (Machine.final (act platform) wired inputs).linked.link = .closed := by
  induction inputs generalizing wired with
  | nil => exact closed
  | cons call rest hyp =>
      obtain ⟨input, same⟩ := act_linked platform wired call
      exact hyp (by rw [same]; exact closed_stays closed input)

variable (platform) in
theorem final_linked {wired : WiredSession} (sound : wired.linked.Linked) (inputs : List WiredInput) :
    (Machine.final (act platform) wired inputs).linked.Linked := by
  induction inputs generalizing wired with
  | nil => exact sound
  | cons call rest hyp => exact hyp (act_linked_sound platform sound call)

structure Draining (wired : WiredSession) (count : Nat) : Prop where
  sound : Receiver.Sound wired.reader
  linked : wired.linked.Linked
  isOpen : wired.linked.link = .opened
  announced : wired.linked.session.newData = true ∨ Receiver.Exhausted wired.reader
  enough : Receiver.Exhausted wired.reader ∨ (Receiver.ahead wired.reader []).length ≤ count

theorem Draining.connected {wired : WiredSession} {count : Nat} (draining : wired.Draining count) :
    wired.linked.session.connected = true := draining.linked.connected.mpr (.inr draining.isOpen)

theorem Draining.exhausted {wired : WiredSession} (draining : wired.Draining 0) :
    Receiver.Exhausted wired.reader := by
  rcases draining.enough with exhausted | none
  · exact exhausted
  · exact Receiver.exhausted_of_ahead (List.length_eq_zero_iff.mp (Nat.le_zero.mp none))

theorem draining_step {wired : WiredSession} {count : Nat} {call : WiredInput}
    (draining : wired.Draining (if call.isPoll then count + 1 else count)) (quiet : call.arrival = {})
    (returned : (act platform call wired).result = .ok ())
    (isOpen : (act platform call wired).state.linked.link = .opened) :
    (act platform call wired).state.Draining count := by
  -- Each poll takes a frame off the wire or finds that it is empty.
  have linked := act_linked_sound platform draining.linked call
  rcases act_cases draining.sound draining.linked call returned with ⟨polled, reads, consumes⟩ |
    ⟨unread, idles⟩
  · have receives := Receiver.receivePacket_receives draining.sound call.arrival []
    rw [← consumes.reader, quiet] at receives
    have announced : (act platform call wired).state.linked.session.newData = true ∨
        Receiver.Exhausted (act platform call wired).state.reader :=
      (consumes.newData (by rw [quiet])).imp_right fun drained =>
        Receiver.exhausted_of_drained receives.sound drained
    refine ⟨receives.sound, linked, isOpen, announced, ?_⟩
    rcases receives.progress rfl with exhausted | fewer
    · exact .inl exhausted
    · simp only [List.append_nil] at fewer
      have enough := draining.enough
      rw [polled, if_pos rfl] at enough
      rcases enough with exhausted | enough
      · have one := exhausted.ahead_length
        exact .inl (Receiver.exhausted_of_ahead (List.length_eq_zero_iff.mp (by omega)))
      · exact .inr (by omega)
  · have same : (act platform call wired).state.reader = wired.reader := by
      rw [idles.reader, quiet]
      exact settled_quiet draining.sound.arrived
    have announced := draining.announced.imp_left idles.newData
    refine ⟨same ▸ draining.sound, linked, isOpen, same ▸ announced, ?_⟩
    rw [same]
    have enough := draining.enough
    rcases unread with other | blocked
    · simpa [other] using enough
    · -- Without an announcement everything has been read.
      have unannounced : wired.linked.session.newData = false := by
        simpa [WiredSession.reads, draining.connected] using blocked
      exact .inl (draining.announced.resolve_left (by simp [unannounced]))

theorem draining_run {wired : WiredSession} (inputs : List WiredInput)
    (draining : wired.Draining (inputs.countP (·.isPoll))) (quiet : ∀ call ∈ inputs, call.arrival = {})
    (returns : ∀ record ∈ Machine.steps (act platform) wired inputs, Returned platform record)
    (connected : (Machine.final (act platform) wired inputs).linked.session.connected = true) :
    (Machine.final (act platform) wired inputs).Draining 0 := by
  induction inputs generalizing wired with
  | nil => exact draining
  | cons call rest hyp =>
      have stays : (act platform call wired).state.linked.link = .opened := by
        obtain ⟨input, same⟩ := act_linked platform wired call
        refine (same ▸ open_stays draining.isOpen input).resolve_right fun closed => ?_
        have after := final_closed platform closed rest
        have linked := final_linked platform draining.linked (call :: rest)
        rcases linked.connected.mp connected with accepted | isOpen
        · exact absurd (after.symm.trans accepted) (by simp)
        · exact absurd (after.symm.trans isOpen) (by simp)
      refine hyp (draining_step ?_ (quiet call List.mem_cons_self) (returns _ List.mem_cons_self) stays)
        (fun other member => quiet other (List.mem_cons_of_mem _ member))
        (fun record member => returns record (List.mem_cons_of_mem _ member)) connected
      simpa [List.countP_cons, apply_ite] using draining

end WiredSession

open WiredSession in
/-- The messages that the machine is fed are those of the first packets that the vehicle has sent, one for one and
in their order. When the session is told of data after the last bytes have come in, it needs no more polls than
there are packets to feed all of them. -/
theorem wire_delivery (platform : Platform) (config : SessionConfig) (pauseCtx : Option PauseContext)
    (vehicle : Option Sha512Hash) (id : SessionId) (now : TimePoint) (inputs : List WiredInput)
    (sent : List (UInt16 × List UInt8)) (small : ∀ packet ∈ sent, packet.2.length ≤ 2040)
    (fragments : stream inputs = sent.flatMap writePacket)
    (returns : ∀ record ∈ Machine.steps (act platform) (.new config pauseCtx vehicle id now) inputs,
      Returned platform record) :
    (∀ count, ∃ taken, taken <+: sent ∧
      (fed (Machine.steps (act platform) (.new config pauseCtx vehicle id now) (inputs.take count))).map .ok =
        taken.map platform.decodePacket) ∧
    ∀ before arrival after, inputs = before ++ ⟨.data, arrival⟩ :: after →
      (Machine.final (act platform) (.new config pauseCtx vehicle id now) before).linked.link = .opened →
      stream after = [] → sent.length ≤ after.countP (·.isPoll) →
      (Machine.final (act platform) (.new config pauseCtx vehicle id now)
        inputs).linked.session.connected = true →
      (fed (Machine.steps (act platform) (.new config pauseCtx vehicle id now) inputs)).map .ok =
        sent.map platform.decodePacket := by
  obtain ⟨length, all⟩ := Receiver.packets_written small
  -- what has been fed after some of the calls
  have delivers (some : List WiredInput) (rest : List WiredInput) (split : inputs = some ++ rest) :
      Delivers platform (Machine.steps (act platform) (.new config pauseCtx vehicle id now) some)
        (Machine.final (act platform) (.new config pauseCtx vehicle id now) some) := by
    refine Machine.run_invariant (act platform) _ (Delivers platform) (fun past => ∀ record ∈ past,
      Returned platform record) (fun _ _ returns record member =>
        returns record (List.mem_append_left _ member))
      (delivers_new config pauseCtx vehicle id now) ?_ some ?_
    · intro past wired call returns delivers
      exact delivers_step delivers call (returns _ (List.mem_append_right _ (List.mem_singleton_self _)))
    · intro record member
      rw [split, Machine.steps_append] at returns
      exact returns record (List.mem_append_left _ member)
  have came (some : List WiredInput) :
      (Machine.steps (act platform) (.new config pauseCtx vehicle id now) some).map (·.input) = some :=
    Machine.steps_inputs ..
  refine ⟨fun count => ?_, ?_⟩
  · have split := (List.take_append_drop count inputs).symm
    obtain ⟨packets, decoded, ahead⟩ := (delivers _ _ split).taken
    have whole := ahead (stream (inputs.drop count))
    rw [came, ← stream_append, ← split, fragments, all] at whole
    exact ⟨packets, ⟨_, whole.symm⟩, decoded.symm⟩
  · rintro before arrival after rfl isOpen quiet enough connected
    have split : before ++ ⟨.data, arrival⟩ :: after = (before ++ [⟨.data, arrival⟩]) ++ after := by simp
    have announcing := delivers (before ++ [⟨.data, arrival⟩]) after split
    have last := delivers _ [] (List.append_nil _).symm
    rw [split] at fragments returns connected last ⊢
    rw [Machine.final_append] at connected last
    rw [Machine.steps_append] at returns
    have came' : stream (before ++ [⟨.data, arrival⟩] ++ after) = stream (before ++ [⟨.data, arrival⟩]) := by
      rw [stream_append _ after, quiet, List.append_nil]
    rw [came'] at fragments
    have fresh : (Machine.final (act platform) (.new config pauseCtx vehicle id now)
          (before ++ [⟨.data, arrival⟩])).linked.link = .opened ∧
        (Machine.final (act platform) (.new config pauseCtx vehicle id now)
          (before ++ [⟨.data, arrival⟩])).linked.session.newData = true := by
      rw [Machine.final_append]
      simp [Machine.final, act, LinkedSession.act, LinkedSession.report, isOpen,
        IsoSession.handleConnectionEvent]
    have frames := (announcing.frames []).length_le
    rw [came, List.append_nil, fragments, Receiver.ahead_start, length] at frames
    have draining := draining_run after ⟨announcing.sound, announcing.linked, fresh.1, .inl fresh.2,
      .inr (frames.trans enough)⟩ ?_ (fun record member =>
        returns record (List.mem_append_right _ member)) connected
    · have exhausted := draining.exhausted
      obtain ⟨packets, decoded, ahead⟩ := last.taken
      have whole := ahead []
      rw [came, List.append_nil, came', fragments, all, exhausted.ahead.1, List.append_nil] at whole
      rw [whole, decoded]
    · exact quiet_arrivals quiet

namespace Sample

def firstPackets : List (UInt16 × List UInt8) := [(0x8001, [0]), (0x8002, [1])]

def piecewise : List WiredInput :=
  [⟨.accept, {}⟩, ⟨.opened, {}⟩, ⟨.data, { before := (firstPackets.flatMap writePacket).take 5 }⟩,
    ⟨.poll {}, {}⟩]

def completing : List WiredInput := [⟨.poll {}, {}⟩, ⟨.poll {}, {}⟩]

end Sample

open WiredSession Sample in
theorem wire_delivery_piecewise :
    (fed (Machine.steps (act charging) (.new config none none (sessionId 9) 0) (piecewise ++
        ⟨.data, { before := (firstPackets.flatMap writePacket).drop 5 }⟩ :: completing))).map .ok =
      firstPackets.map charging.decodePacket :=
  (wire_delivery charging config none none (sessionId 9) 0 _ firstPackets (by decide) rfl
    (by decide +kernel)).2
    piecewise _ completing rfl (by decide +kernel) rfl (by decide) (by decide +kernel)

end LibIso15118
