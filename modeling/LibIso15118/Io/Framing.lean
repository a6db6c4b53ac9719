import LibIso15118.Io.SdpPacket
import LibIso15118.Shared.Framing
import LibIso15118.Shared.Machine

set_option autoImplicit false

namespace LibIso15118

open Shared

namespace SdpPacket

/-- What `parse_header` makes of the bytes of a header. -/
def ofHeader (header : List UInt8) : SdpPacket := parseHeader { buffer := header }

theorem ofHeader_buffer (header : List UInt8) : (ofHeader header).buffer = header := by
  simp only [ofHeader, parseHeader]
  repeat' split
  all_goals rfl

theorem ofHeader_state (header : List UInt8) :
    (ofHeader header).state = .headerRead ∧ v2gtpHeaderSize ≤ (ofHeader header).length ∧
        (ofHeader header).length ≤ sdpBufferSize ∨
      (ofHeader header).state = .invalidHeader ∨ (ofHeader header).state = .payloadToLong := by
  simp only [ofHeader, parseHeader]
  repeat' split
  · exact .inr (.inl rfl)
  · exact .inr (.inl rfl)
  · exact .inr (.inr rfl)
  · rename_i fits
    exact .inl ⟨rfl, Nat.le_add_left _ _, Nat.le_of_not_lt fits⟩

end SdpPacket

/-- How far the reader goes from one header to the next. -/
def v2gtpFormat : Format UInt8 where
  headerSize := v2gtpHeaderSize
  size header :=
    if (SdpPacket.ofHeader header).state = .headerRead then (SdpPacket.ofHeader header).length
    else v2gtpHeaderSize
  headerSize_pos := by decide
  headerSize_le header := by
    rcases SdpPacket.ofHeader_state header with ⟨-, le, -⟩ | state | state
    · split <;> omega
    · simp [state]
    · simp [state]

/-- A connection with the bytes that have come in and are not yet read, and those that come in right
after the next call of `read`. `position` counts the bytes read so far. -/
structure Wire where
  available : List UInt8 := []
  arriving : List UInt8 := []
  position : Nat := 0

/-- A `read` that returns what is there, and would block when that is less than asked for. -/
def Wire.read : Read Wire := fun size wire =>
  (.ok
      { wouldBlock := 0 < size ∧ wire.available.length < size
        bytes := wire.available.take size },
    { available := wire.available.drop size ++ wire.arriving
      position := wire.position + min size wire.available.length })

/-- The bytes that come in before a call of `read_single_sdp_packet` and between its two tries. -/
structure Arrival where
  before : List UInt8 := []
  between : List UInt8 := []

inductive ReceiverOutput where
  | read (call : ReadCall Wire)
  | packet (payloadType : UInt16) (payload : List UInt8)

def Reader.arrive (reader : Reader Wire) (arrival : Arrival) : Reader Wire :=
  { reader with
    connection :=
      { reader.connection with
        available := reader.connection.available ++ arrival.before
        arriving := arrival.between } }

/-- A call of `read_single_sdp_packet` by a caller that takes a complete packet and resets it. -/
def receivePacket (arrival : Arrival) : Act (Reader Wire) ReceiverOutput Exn Unit := fun reader =>
  let outcome := readSingleSdpPacket Wire.read (reader.arrive arrival)
  let packet := outcome.state.packet
  if packet.isComplete then
    ⟨.ok (), { outcome.state with packet := {} },
      outcome.log.map .read ++ [.packet packet.getPayloadType packet.getPayload]⟩
  else ⟨.ok (), outcome.state, outcome.log.map .read⟩

abbrev ReceiverStep := Step (Reader Wire) Arrival ReceiverOutput

def ReceiverOutput.packet? : ReceiverOutput → Option (UInt16 × List UInt8)
  | .packet payloadType payload => some (payloadType, payload)
  | .read _ => none

def ReceiverOutput.read? : ReceiverOutput → Option (ReadCall Wire)
  | .read call => some call
  | .packet _ _ => none

namespace Receiver

def run (arrivals : List Arrival) : List ReceiverStep :=
  Machine.steps receivePacket { connection := {} } arrivals

def stream (arrivals : List Arrival) : List UInt8 :=
  arrivals.flatMap fun arrival => arrival.before ++ arrival.between

def idle (count : Nat) : List Arrival := List.replicate count {}

def packets (steps : List ReceiverStep) : List (UInt16 × List UInt8) :=
  steps.flatMap fun record => record.outputs.filterMap ReceiverOutput.packet?

def reads (steps : List ReceiverStep) : List (ReadCall Wire) :=
  steps.flatMap fun record => record.outputs.filterMap ReceiverOutput.read?

end Receiver

namespace SdpPacket

inductive Waiting : SdpPacket → Prop
  | empty (buffer : List UInt8) (short : buffer.length < v2gtpHeaderSize) : Waiting { buffer }
  | header (buffer : List UInt8) (length : Nat)
      (parsed : ofHeader (buffer.take v2gtpHeaderSize) =
        { state := .headerRead, buffer := buffer.take v2gtpHeaderSize, length })
      (started : v2gtpHeaderSize ≤ buffer.length) (more : buffer.length < length) :
      Waiting { state := .headerRead, buffer, length }

def withHeader (header : List UInt8) : SdpPacket :=
  if (ofHeader header).state = .headerRead ∧ v2gtpHeaderSize = (ofHeader header).length then
    { ofHeader header with state := .complete }
  else ofHeader header

section Update

variable {buffer bytes : List UInt8} {length : Nat}

theorem updateReadBytes_short (short : buffer.length + bytes.length < v2gtpHeaderSize) :
    updateReadBytes { buffer } bytes = { buffer := buffer ++ bytes } := by
  have few : buffer.length + bytes.length ≠ v2gtpHeaderSize := Nat.ne_of_lt short
  simp [updateReadBytes, few]

theorem updateReadBytes_header (full : buffer.length + bytes.length = v2gtpHeaderSize) :
    updateReadBytes { buffer } bytes = withHeader (buffer ++ bytes) := by
  have size : (buffer ++ bytes).length = v2gtpHeaderSize := by simpa using full
  have kept := ofHeader_buffer (buffer ++ bytes)
  simp only [ofHeader] at kept
  simp [updateReadBytes, withHeader, ofHeader, kept, size]

theorem updateReadBytes_more (more : buffer.length + bytes.length < length) :
    updateReadBytes { state := .headerRead, buffer, length } bytes =
      { state := .headerRead, buffer := buffer ++ bytes, length } := by
  have few : buffer.length + bytes.length ≠ length := Nat.ne_of_lt more
  simp [updateReadBytes, few]

theorem updateReadBytes_complete (full : buffer.length + bytes.length = length) :
    updateReadBytes { state := .headerRead, buffer, length } bytes =
      { state := .complete, buffer := buffer ++ bytes, length } := by
  have size : (buffer ++ bytes).length = length := by simpa using full
  simp [updateReadBytes, size]

end Update

end SdpPacket

section ReadInto

def Wire.after (wire : Wire) (size : Nat) : Wire :=
  { available := wire.available.drop size ++ wire.arriving, position := wire.position + size }

variable {wire : Wire} {packet : SdpPacket}
  {post : Except Exn Bool → Reader Wire → List (ReadCall Wire) → Prop}

theorem wp_readInto :
    Act.wp (readInto Wire.read) post ⟨wire, packet⟩ ↔
      (wire.available.length < packet.getRemainingBytesToRead →
        post (.ok true) ⟨wire.after wire.available.length, packet.updateReadBytes wire.available⟩
          [⟨packet, packet.getRemainingBytesToRead, packet.updateReadBytes wire.available,
            wire.after wire.available.length⟩]) ∧
      (packet.getRemainingBytesToRead ≤ wire.available.length →
        post (.ok false)
          ⟨wire.after packet.getRemainingBytesToRead,
            packet.updateReadBytes (wire.available.take packet.getRemainingBytesToRead)⟩
          [⟨packet, packet.getRemainingBytesToRead,
            packet.updateReadBytes (wire.available.take packet.getRemainingBytesToRead),
            wire.after packet.getRemainingBytesToRead⟩]) := by
  rcases Nat.lt_or_ge wire.available.length packet.getRemainingBytesToRead with few | enough
  · have positive : 0 < packet.getRemainingBytesToRead := by omega
    simp [Act.wp, readInto, Wire.read, Wire.after, few, positive, Nat.le_of_lt few,
      Nat.not_le.mpr few, List.take_of_length_le, List.drop_eq_nil_of_le]
  · simp [Act.wp, readInto, Wire.read, Wire.after, enough, Nat.not_lt.mpr enough, List.take_take]

theorem wp_readInto_empty {buffer : List UInt8} (short : buffer.length < v2gtpHeaderSize) :
    Act.wp (readInto Wire.read) post ⟨wire, { buffer }⟩ ↔
      (buffer.length + wire.available.length < v2gtpHeaderSize →
        post (.ok true) ⟨wire.after wire.available.length, { buffer := buffer ++ wire.available }⟩
          [⟨{ buffer }, v2gtpHeaderSize - buffer.length, { buffer := buffer ++ wire.available },
            wire.after wire.available.length⟩]) ∧
      (v2gtpHeaderSize ≤ buffer.length + wire.available.length →
        post (.ok false)
          ⟨wire.after (v2gtpHeaderSize - buffer.length),
            .withHeader (buffer ++ wire.available.take (v2gtpHeaderSize - buffer.length))⟩
          [⟨{ buffer }, v2gtpHeaderSize - buffer.length,
            .withHeader (buffer ++ wire.available.take (v2gtpHeaderSize - buffer.length)),
            wire.after (v2gtpHeaderSize - buffer.length)⟩]) := by
  rw [wp_readInto]
  simp only [SdpPacket.getRemainingBytesToRead]
  refine and_congr ⟨fun holds few => ?_, fun holds few => ?_⟩ ⟨fun holds enough => ?_, fun holds enough => ?_⟩
  · simpa [SdpPacket.updateReadBytes_short few] using holds (by omega)
  · have few : buffer.length + wire.available.length < v2gtpHeaderSize := by omega
    simpa [SdpPacket.updateReadBytes_short few] using holds few
  · have full : buffer.length + (wire.available.take (v2gtpHeaderSize - buffer.length)).length =
        v2gtpHeaderSize := by simp; omega
    simpa [SdpPacket.updateReadBytes_header full] using holds (by omega)
  · have full : buffer.length + (wire.available.take (v2gtpHeaderSize - buffer.length)).length =
        v2gtpHeaderSize := by simp; omega
    simpa [SdpPacket.updateReadBytes_header full] using holds (by omega)

theorem wp_readInto_header {buffer : List UInt8} {length : Nat} (more : buffer.length < length) :
    Act.wp (readInto Wire.read) post ⟨wire, { state := .headerRead, buffer, length }⟩ ↔
      (buffer.length + wire.available.length < length →
        post (.ok true)
          ⟨wire.after wire.available.length,
            { state := .headerRead, buffer := buffer ++ wire.available, length }⟩
          [⟨{ state := .headerRead, buffer, length }, length - buffer.length,
            { state := .headerRead, buffer := buffer ++ wire.available, length },
            wire.after wire.available.length⟩]) ∧
      (length ≤ buffer.length + wire.available.length →
        post (.ok false)
          ⟨wire.after (length - buffer.length),
            { state := .complete, buffer := buffer ++ wire.available.take (length - buffer.length), length }⟩
          [⟨{ state := .headerRead, buffer, length }, length - buffer.length,
            { state := .complete, buffer := buffer ++ wire.available.take (length - buffer.length), length },
            wire.after (length - buffer.length)⟩]) := by
  rw [wp_readInto]
  simp only [SdpPacket.getRemainingBytesToRead]
  refine and_congr ⟨fun holds few => ?_, fun holds few => ?_⟩ ⟨fun holds enough => ?_, fun holds enough => ?_⟩
  · simpa [SdpPacket.updateReadBytes_more few] using holds (by omega)
  · have few : buffer.length + wire.available.length < length := by omega
    simpa [SdpPacket.updateReadBytes_more few] using holds few
  · have full : buffer.length + (wire.available.take (length - buffer.length)).length = length := by
      simp; omega
    simpa [SdpPacket.updateReadBytes_complete full] using holds (by omega)
  · have full : buffer.length + (wire.available.take (length - buffer.length)).length = length := by
      simp; omega
    simpa [SdpPacket.updateReadBytes_complete full] using holds (by omega)

end ReadInto

def Reader.unread (reader : Reader Wire) : List UInt8 :=
  reader.packet.buffer ++ (reader.connection.available ++ reader.connection.arriving)

def Reader.base (reader : Reader Wire) : Nat :=
  reader.connection.position - reader.packet.buffer.length

/-- The header that `parse_header` gets to see in a call of `read`, and where it starts. -/
def ReadCall.header? (call : ReadCall Wire) : Option (Frame UInt8) :=
  if call.before.state = .empty ∧ call.after.state ≠ .empty then
    some ⟨call.connection.position - v2gtpHeaderSize, call.after.buffer⟩
  else none

def headers (log : List (ReadCall Wire)) : List (Frame UInt8) := log.filterMap ReadCall.header?

def ReadCall.Bounded (call : ReadCall Wire) : Prop :=
  call.before.buffer.length + call.size ≤ sdpBufferSize

def Reader.newHeader (reader : Reader Wire) : List (Frame UInt8) :=
  if reader.packet.state = .empty then [⟨reader.base, reader.unread.take v2gtpHeaderSize⟩] else []

def SdpPacket.ofFrame (bytes : List UInt8) : SdpPacket :=
  if (SdpPacket.ofHeader (bytes.take v2gtpHeaderSize)).state = .headerRead then
    { state := .complete, buffer := bytes, length := bytes.length }
  else {}

inductive Called (reader : Reader Wire) : Reader Wire → List (ReadCall Wire) → Prop
  | blocked (reader' : Reader Wire) (log : List (ReadCall Wire)) (waiting : reader'.packet.Waiting)
      (arrived : reader'.connection.arriving = [])
      (position : reader'.packet.buffer.length ≤ reader'.connection.position)
      (unread : reader'.unread = reader.unread) (base : reader'.base = reader.base)
      (parsed : reader'.packet.state = .empty ∧ reader.packet.state = .empty ∧ headers log = [] ∧
          (reader.connection.arriving = [] → reader.unread.length < v2gtpHeaderSize) ∨
        reader'.packet.state = .headerRead ∧ headers log = reader.newHeader ∧
          v2gtpHeaderSize ≤ reader.unread.length)
      (cut : reader.connection.arriving = [] → reader.unread.length < v2gtpFormat.sizeOf reader.unread)
      (bounded : ∀ call ∈ log, call.Bounded) : Called reader reader' log
  | finished (log : List (ReadCall Wire)) (header : v2gtpHeaderSize ≤ reader.unread.length)
      (complete : v2gtpFormat.sizeOf reader.unread ≤ reader.unread.length)
      (parsed : headers log = reader.newHeader) (bounded : ∀ call ∈ log, call.Bounded) :
      Called reader
        ⟨{ available := reader.unread.drop (v2gtpFormat.sizeOf reader.unread)
           position := reader.base + v2gtpFormat.sizeOf reader.unread },
          .ofFrame (reader.unread.take (v2gtpFormat.sizeOf reader.unread))⟩ log

theorem sizeOf_accepted {bytes : List UInt8} {packet : SdpPacket}
    (parsed : SdpPacket.ofHeader (bytes.take v2gtpHeaderSize) = packet) (state : packet.state = .headerRead) :
    v2gtpFormat.sizeOf bytes = packet.length := by
  simp [Format.sizeOf, v2gtpFormat, parsed, state]

theorem sizeOf_rejected {bytes : List UInt8}
    (rejected : (SdpPacket.ofHeader (bytes.take v2gtpHeaderSize)).state ≠ .headerRead) :
    v2gtpFormat.sizeOf bytes = v2gtpHeaderSize := by
  simp [Format.sizeOf, v2gtpFormat, rejected]

@[simp] theorem headers_append (log log' : List (ReadCall Wire)) :
    headers (log ++ log') = headers log ++ headers log' := List.filterMap_append

theorem readInto_payload {reader : Reader Wire} {wire : Wire} {buffer : List UInt8} {length : Nat}
    {log : List (ReadCall Wire)}
    (parsed : SdpPacket.ofHeader (buffer.take v2gtpHeaderSize) =
      { state := .headerRead, buffer := buffer.take v2gtpHeaderSize, length })
    (started : v2gtpHeaderSize ≤ buffer.length) (more : buffer.length < length)
    (position : buffer.length ≤ wire.position)
    (unread : reader.unread = buffer ++ (wire.available ++ wire.arriving))
    (base : reader.base = wire.position - buffer.length) (here : headers log = reader.newHeader)
    (inside : ∀ call ∈ log, call.Bounded) (last : reader.connection.arriving = [] → wire.arriving = [])
    {post : Except Exn Bool → Reader Wire → List (ReadCall Wire) → Prop}
    (blocked : ∀ reader' log', reader'.packet.state = .headerRead → Called reader reader' (log ++ log') →
      post (.ok true) reader' log')
    (finished : ∀ reader' log', reader'.packet.state = .complete → Called reader reader' (log ++ log') →
      post (.ok false) reader' log') :
    Act.wp (readInto Wire.read) post ⟨wire, { state := .headerRead, buffer, length }⟩ := by
  -- The payload is read once the header is there.
  have size : v2gtpFormat.sizeOf reader.unread = length := by
    refine @sizeOf_accepted _ ⟨.headerRead, buffer.take v2gtpHeaderSize, length⟩ ?_ rfl
    rw [unread, List.take_append_of_le_length started, parsed]
  have fits : length ≤ sdpBufferSize := by
    rcases SdpPacket.ofHeader_state (buffer.take v2gtpHeaderSize) with ⟨-, -, fits⟩ | state | state
    · simpa only [parsed] using fits
    · simp [parsed] at state
    · simp [parsed] at state
  have bounded (call : ReadCall Wire) (before : call.before = { state := .headerRead, buffer, length })
      (asked : call.size = length - buffer.length) : ∀ other ∈ log ++ [call], other.Bounded := by
    intro other member
    rcases List.mem_append.mp member with earlier | now
    · exact inside other earlier
    · rw [List.mem_singleton.mp now, ReadCall.Bounded, before, asked]
      simp only
      omega
  rw [wp_readInto_header more]
  constructor
  · intro few
    refine blocked _ _ rfl (.blocked _ _ ?_ rfl ?_ ?_ ?_ (.inr ⟨rfl, ?_, ?_⟩) ?_ (bounded _ rfl rfl))
    · refine .header _ _ ?_ ?_ (by simpa using few)
      · rw [List.take_append_of_le_length started, parsed]
      · simp; omega
    · simp [Wire.after]; omega
    · simp [Reader.unread, Wire.after, ← unread]
    · rw [base]
      simp only [Reader.base, Wire.after, List.length_append]
      omega
    · simp [headers, ReadCall.header?, ← here]
    · simp [unread]; omega
    · intro arrived
      rw [size, unread, last arrived]
      simpa using few
  · intro enough
    have taken : reader.unread.take length = buffer ++ wire.available.take (length - buffer.length) := by
      rw [unread, List.take_append, List.take_of_length_le (Nat.le_of_lt more),
        List.take_append_of_le_length (by omega)]
    have left : reader.unread.drop length = wire.available.drop (length - buffer.length) ++ wire.arriving := by
      rw [unread, List.drop_append, List.drop_eq_nil_of_le (Nat.le_of_lt more), List.nil_append,
        List.drop_append_of_le_length (by omega)]
    have packet : SdpPacket.ofFrame (reader.unread.take length) =
        { state := .complete, buffer := buffer ++ wire.available.take (length - buffer.length), length } := by
      have full : (buffer ++ wire.available.take (length - buffer.length)).length = length := by
        simp; omega
      rw [SdpPacket.ofFrame, taken, List.take_append_of_le_length started, parsed, full]
      rfl
    have wire' : wire.after (length - buffer.length) =
        { available := reader.unread.drop length, position := reader.base + length } := by
      rw [Wire.after, left, base]
      congr 1
      omega
    have called := @Called.finished reader (log ++
      [⟨{ state := .headerRead, buffer, length }, length - buffer.length,
        { state := .complete, buffer := buffer ++ wire.available.take (length - buffer.length), length },
        wire.after (length - buffer.length)⟩])
      (by simp [unread]; omega) (by rw [size, unread]; simp; omega)
      (by simp [headers, ReadCall.header?, ← here]) (bounded _ rfl rfl)
    rw [size, packet, ← wire'] at called
    exact finished _ _ rfl called

namespace SdpPacket

theorem withHeader_buffer (header : List UInt8) : (withHeader header).buffer = header := by
  simp only [withHeader]
  split <;> exact ofHeader_buffer header

theorem withHeader_state (header : List UInt8) : (withHeader header).state ≠ .empty := by
  simp only [withHeader]
  split
  · simp
  · rcases ofHeader_state header with ⟨state, -⟩ | state | state <;> simp [state]

theorem withHeader_cases (header : List UInt8) :
    withHeader header = { state := .complete, buffer := header, length := v2gtpHeaderSize } ∧
        (ofHeader header).state = .headerRead ∧ (ofHeader header).length = v2gtpHeaderSize ∨
      (∃ length, withHeader header = { state := .headerRead, buffer := header, length } ∧
        ofHeader header = { state := .headerRead, buffer := header, length } ∧
        v2gtpHeaderSize < length) ∨
      (withHeader header).state ≠ .complete ∧ (withHeader header).state ≠ .headerRead ∧
        (ofHeader header).state ≠ .headerRead := by
  have kept := ofHeader_buffer header
  rcases parsed : ofHeader header with ⟨state, buffer, length⟩
  rw [parsed] at kept
  obtain rfl : buffer = header := kept
  rcases ofHeader_state buffer with ⟨ok, le, -⟩ | rejected | rejected
  · rw [parsed] at ok le
    obtain rfl : state = .headerRead := ok
    rcases Nat.eq_or_lt_of_le le with rfl | lt
    · exact .inl ⟨by simp [withHeader, parsed], rfl, rfl⟩
    · exact .inr (.inl ⟨length, by simp [withHeader, parsed, Nat.ne_of_lt lt], rfl, lt⟩)
  all_goals
    rw [parsed] at rejected
    obtain rfl := rejected
    exact .inr (.inr (by simp [withHeader, parsed]))

end SdpPacket

section ReadSingle

variable {wire : Wire} {buffer : List UInt8} (short : buffer.length < v2gtpHeaderSize)
include short

theorem bounded_first (packet : SdpPacket) (wire' : Wire) :
    ∀ call ∈ [ReadCall.mk { buffer } (v2gtpHeaderSize - buffer.length) packet wire'], call.Bounded := by
  intro call member
  rw [List.mem_singleton.mp member, ReadCall.Bounded]
  simp only [v2gtpHeaderSize, sdpBufferSize] at short ⊢
  omega

variable (position : buffer.length ≤ wire.position)
include position

theorem readSingle_short (few : buffer.length + wire.available.length < v2gtpHeaderSize) :
    Act.wp (readSingleSdpPacket Wire.read) (fun _ reader' log => Called ⟨wire, { buffer }⟩ reader' log)
      ⟨wire, { buffer }⟩ := by
  have inHand (arrived : wire.arriving = []) :
      (Reader.unread ⟨wire, { buffer }⟩).length < v2gtpHeaderSize := by
    simpa [Reader.unread, arrived] using few
  simp only [readSingleSdpPacket, Act.wp_bind]
  rw [wp_readInto_empty short]
  refine ⟨fun _ => ?_, fun enough => absurd few (Nat.not_lt.mpr enough)⟩
  simp only [if_true, Act.wp_pure, List.append_nil]
  refine .blocked _ _ (.empty _ (by simpa using few)) rfl ?_ ?_ ?_ (.inl ⟨rfl, rfl, rfl, inHand⟩) ?_
    (bounded_first short _ _)
  · simp [Wire.after]; omega
  · simp [Reader.unread, Wire.after]
  · simp only [Reader.base, Wire.after, List.length_append]
    omega
  · exact fun arrived => Nat.lt_of_lt_of_le (inHand arrived) (v2gtpFormat.headerSize_le_sizeOf _)

theorem readSingle_header (enough : v2gtpHeaderSize ≤ buffer.length + wire.available.length) :
    Act.wp (readSingleSdpPacket Wire.read) (fun _ reader' log => Called ⟨wire, { buffer }⟩ reader' log)
      ⟨wire, { buffer }⟩ := by
  simp only [readSingleSdpPacket, Act.wp_bind]
  rw [wp_readInto_empty short]
  refine ⟨fun few => absurd few (Nat.not_lt.mpr enough), fun _ => ?_⟩
  have bounded := bounded_first short
    (.withHeader (buffer ++ wire.available.take (v2gtpHeaderSize - buffer.length)))
    (wire.after (v2gtpHeaderSize - buffer.length))
  generalize same : buffer ++ wire.available.take (v2gtpHeaderSize - buffer.length) = header at bounded ⊢
  have size : header.length = v2gtpHeaderSize := by simp [← same]; omega
  have whole : header.take v2gtpHeaderSize = header := List.take_of_length_le (Nat.le_of_eq size)
  have taken : (Reader.unread ⟨wire, { buffer }⟩).take v2gtpHeaderSize = header := by
    simp only [Reader.unread, ← same]
    rw [List.take_append, List.take_of_length_le (Nat.le_of_lt short),
      List.take_append_of_le_length (by omega)]
  have left : (Reader.unread ⟨wire, { buffer }⟩).drop v2gtpHeaderSize =
      (wire.after (v2gtpHeaderSize - buffer.length)).available := by
    simp only [Reader.unread, Wire.after]
    rw [List.drop_append, List.drop_eq_nil_of_le (Nat.le_of_lt short), List.nil_append,
      List.drop_append_of_le_length (by omega)]
  have started : v2gtpHeaderSize ≤ (Reader.unread ⟨wire, { buffer }⟩).length := by
    simp [Reader.unread]; omega
  have wire' : wire.after (v2gtpHeaderSize - buffer.length) =
      { available := (Reader.unread ⟨wire, { buffer }⟩).drop v2gtpHeaderSize
        position := Reader.base ⟨wire, { buffer }⟩ + v2gtpHeaderSize } := by
    rw [left]
    simp only [Wire.after, Reader.base]
    congr 1
    omega
  generalize call : ReadCall.mk { buffer } (v2gtpHeaderSize - buffer.length)
    (SdpPacket.withHeader header) (wire.after (v2gtpHeaderSize - buffer.length)) = first at bounded ⊢
  have parsed : headers [first] = Reader.newHeader ⟨wire, { buffer }⟩ := by
    simp [headers, ← call, ReadCall.header?, SdpPacket.withHeader_state, SdpPacket.withHeader_buffer,
      Reader.newHeader, taken, wire']
  -- the frame ends with its header
  have done (sized : v2gtpFormat.sizeOf (Reader.unread ⟨wire, { buffer }⟩) = v2gtpHeaderSize) :
      Called ⟨wire, { buffer }⟩
        ⟨wire.after (v2gtpHeaderSize - buffer.length), .ofFrame header⟩ [first] := by
    have called := @Called.finished ⟨wire, { buffer }⟩ [first] started (by rw [sized]; exact started)
      parsed bounded
    rwa [sized, taken, ← wire'] at called
  simp only [Bool.false_eq_true, if_false, Act.wp_bind, Act.wp_get, Act.wp_ite, Act.wp_pure,
    List.nil_append, List.append_nil]
  rcases SdpPacket.withHeader_cases header with ⟨packet, accepted, sized⟩ |
    ⟨length, packet, accepted, more⟩ | ⟨incomplete, unparsed, rejected⟩
  · rw [packet]
    refine ⟨fun _ => ?_, fun incomplete => absurd rfl incomplete⟩
    have called := done ((sizeOf_accepted (by rw [taken]) accepted).trans sized)
    rwa [SdpPacket.ofFrame, whole, if_pos accepted, size] at called
  · rw [packet]
    refine ⟨by simp, fun _ => ⟨fun other => absurd rfl other, fun _ => ?_⟩⟩
    have unread : Reader.unread ⟨wire, { buffer }⟩ =
        header ++ ((wire.after (v2gtpHeaderSize - buffer.length)).available ++ []) := by
      rw [List.append_nil, ← left, ← taken, List.take_append_drop]
    apply @readInto_payload ⟨wire, { buffer }⟩ _ _ _ [first] (by rw [whole, accepted])
      (by omega) (by omega) (by simp only [wire', size]; omega) unread (by simp [wire', size]) parsed
      bounded (fun _ => rfl)
    · intro reader' log' state called
      exact ⟨fun _ => called, fun other => absurd rfl other⟩
    · intro reader' log' state called
      exact ⟨by simp, fun _ => ⟨fun other => absurd state other, fun _ => called⟩⟩
  · refine ⟨fun complete => absurd complete incomplete, fun _ => ⟨fun _ => ?_, fun other => ?_⟩⟩
    · have called := done (sizeOf_rejected (by rw [taken]; exact rejected))
      rw [SdpPacket.ofFrame, whole, if_neg rejected] at called
      exact called
    · exact absurd (not_not.mp other) unparsed

end ReadSingle

theorem readSingle_called {reader : Reader Wire} (waiting : reader.packet.Waiting)
    (position : reader.packet.buffer.length ≤ reader.connection.position) :
    Act.wp (readSingleSdpPacket Wire.read) (fun _ reader' log => Called reader reader' log) reader := by
  obtain ⟨wire, packet⟩ := reader
  cases waiting with
  | empty buffer short =>
      rcases Nat.lt_or_ge (buffer.length + wire.available.length) v2gtpHeaderSize with few | enough
      · exact readSingle_short short position few
      · exact readSingle_header short position enough
  | header buffer length parsed started more =>
      simp only [readSingleSdpPacket, Act.wp_bind]
      apply @readInto_payload _ _ _ _ [] parsed started more position rfl rfl rfl (by simp) id
      · intro reader' log' state called
        simpa using called
      · intro reader' log' state called
        simpa [state] using called

namespace Receiver

structure Sound (reader : Reader Wire) : Prop where
  waiting : reader.packet.Waiting
  arrived : reader.connection.arriving = []
  position : reader.packet.buffer.length ≤ reader.connection.position

def ahead (reader : Reader Wire) (future : List UInt8) : List (Frame UInt8) :=
  v2gtpFormat.frames reader.base (reader.unread ++ future)

def header (frame : Frame UInt8) : Frame UInt8 :=
  { frame with bytes := frame.bytes.take v2gtpHeaderSize }

def headersAhead (reader : Reader Wire) (future : List UInt8) : List (Frame UInt8) :=
  ((ahead reader future).drop (if reader.packet.state = .headerRead then 1 else 0)).map header

def packet? (bytes : List UInt8) : Option (UInt16 × List UInt8) :=
  if (SdpPacket.ofFrame bytes).isComplete ∧ bytes.length = v2gtpFormat.sizeOf bytes then
    some ((SdpPacket.ofFrame bytes).getPayloadType, (SdpPacket.ofFrame bytes).getPayload)
  else none

def packetsAhead (reader : Reader Wire) (future : List UInt8) : List (UInt16 × List UInt8) :=
  (ahead reader future).filterMap fun frame => packet? frame.bytes

structure Exhausted (reader : Reader Wire) : Prop where
  cut : reader.unread.length < v2gtpFormat.sizeOf reader.unread
  parsed : v2gtpHeaderSize ≤ reader.unread.length → reader.packet.state = .headerRead

structure Receives (reader : Reader Wire) (arrival : Arrival) (reader' : Reader Wire)
    (log : List ReceiverOutput) (future : List UInt8) : Prop where
  sound : Sound reader'
  frames : ahead reader' future <:+ ahead reader (arrival.before ++ arrival.between ++ future)
  packets : packetsAhead reader (arrival.before ++ arrival.between ++ future) =
    log.filterMap ReceiverOutput.packet? ++ packetsAhead reader' future
  headers : headersAhead reader (arrival.before ++ arrival.between ++ future) =
    LibIso15118.headers (log.filterMap ReceiverOutput.read?) ++ headersAhead reader' future
  bounded : ∀ call ∈ log.filterMap ReceiverOutput.read?, call.Bounded
  progress : arrival.between = [] → Exhausted reader' ∨
    (ahead reader' future).length < (ahead reader (arrival.before ++ arrival.between ++ future)).length

theorem ahead_arrive {reader : Reader Wire} (arrived : reader.connection.arriving = [])
    (arrival : Arrival) (future : List UInt8) :
    ahead reader (arrival.before ++ arrival.between ++ future) = ahead (reader.arrive arrival) future := by
  simp [ahead, Reader.unread, Reader.base, Reader.arrive, arrived]

theorem filterMap_packet_read (log : List (ReadCall Wire)) :
    (log.map ReceiverOutput.read).filterMap ReceiverOutput.packet? = [] := by
  simp [List.filterMap_map, Function.comp_def, ReceiverOutput.packet?]

theorem filterMap_read_read (log : List (ReadCall Wire)) :
    (log.map ReceiverOutput.read).filterMap ReceiverOutput.read? = log := by
  simp [List.filterMap_map, Function.comp_def, ReceiverOutput.read?]

theorem SdpPacket.Waiting.incomplete {packet : SdpPacket} (waiting : packet.Waiting) :
    packet.isComplete = false := by
  cases waiting <;> rfl

theorem SdpPacket.Waiting.state {packet : SdpPacket} (waiting : packet.Waiting) :
    packet.state = .empty ∨ packet.state = .headerRead := by
  cases waiting
  · exact .inl rfl
  · exact .inr rfl

theorem headersAhead_eq {reader : Reader Wire} (waiting : reader.packet.Waiting)
    (started : v2gtpHeaderSize ≤ reader.unread.length) (future : List UInt8) :
    headersAhead reader future = reader.newHeader ++ ((ahead reader future).drop 1).map header := by
  -- The header of the current packet is ahead unless it has been parsed.
  rcases SdpPacket.Waiting.state waiting with empty | read
  · have long : v2gtpFormat.headerSize ≤ (reader.unread ++ future).length := by
      simp [v2gtpFormat]
      omega
    have le : v2gtpHeaderSize ≤ v2gtpFormat.sizeOf (reader.unread ++ future) :=
      v2gtpFormat.headerSize_le_sizeOf _
    have start : ((reader.unread ++ future).take (v2gtpFormat.sizeOf (reader.unread ++ future))).take
        v2gtpHeaderSize = reader.unread.take v2gtpHeaderSize := by
      rw [List.take_take, Nat.min_eq_left le, List.take_append_of_le_length started]
    simp only [headersAhead, empty, Reader.newHeader, ahead, Format.frames_header long]
    simp [start, header]
  · simp [headersAhead, read, Reader.newHeader]

theorem SdpPacket.ofFrame_incomplete {frame : List UInt8}
    (incomplete : (SdpPacket.ofFrame frame).isComplete ≠ true) : SdpPacket.ofFrame frame = {} := by
  unfold SdpPacket.ofFrame at incomplete ⊢
  split
  · rename_i accepted
    simp [accepted, SdpPacket.isComplete] at incomplete
  · rfl

theorem receives_frame {reader start : Reader Wire} {arrival : Arrival} {future frame : List UInt8}
    {wire : Wire} {log : List (ReadCall Wire)} (waiting : start.packet.Waiting)
    (started : v2gtpHeaderSize ≤ start.unread.length)
    (same : ahead reader (arrival.before ++ arrival.between ++ future) = ahead start future)
    (sameHeaders : headersAhead reader (arrival.before ++ arrival.between ++ future) =
      headersAhead start future)
    (first : ahead start future = ⟨start.base, frame⟩ :: ahead ⟨wire, {}⟩ future)
    (arrived : wire.arriving = []) (parsed : headers log = start.newHeader)
    (bounded : ∀ call ∈ log, call.Bounded) {outputs : List ReceiverOutput}
    (delivered : outputs.filterMap ReceiverOutput.packet? = (packet? frame).toList)
    (calls : outputs.filterMap ReceiverOutput.read? = log) :
    Receives reader arrival ⟨wire, {}⟩ outputs future where
  sound := ⟨.empty [] (by decide), arrived, Nat.zero_le _⟩
  frames := by
    rw [same, first]
    exact List.suffix_cons _ _
  packets := by
    rw [packetsAhead, packetsAhead, same, first, delivered, List.filterMap_cons]
    cases packet? frame <;> rfl
  headers := by
    rw [sameHeaders, headersAhead_eq waiting started, calls, parsed, first]
    rfl
  bounded := by rwa [calls]
  progress _ := by
    rw [same, first]
    exact .inr (Nat.lt_succ_self _)

theorem receivePacket_receives {reader : Reader Wire} (sound : Sound reader) (arrival : Arrival)
    (future : List UInt8) :
    Receives reader arrival (receivePacket arrival reader).state (receivePacket arrival reader).log future := by
  have called : Called (reader.arrive arrival) _ _ := readSingle_called sound.waiting sound.position
  have same := ahead_arrive sound.arrived arrival future
  have sameHeaders : headersAhead reader (arrival.before ++ arrival.between ++ future) =
      headersAhead (reader.arrive arrival) future := by
    simp only [headersAhead, same]
    rfl
  have waiting : (reader.arrive arrival).packet.Waiting := sound.waiting
  have between : (reader.arrive arrival).connection.arriving = arrival.between := rfl
  simp only [receivePacket]
  generalize readSingleSdpPacket Wire.read (reader.arrive arrival) = outcome at called ⊢
  generalize reader.arrive arrival = start at called same sameHeaders waiting between
  obtain ⟨result, reader', log⟩ := outcome
  simp only at called ⊢
  cases called with
  | blocked _ _ waiting' arrived position unread base parsed cut bounded =>
      have kept : ahead reader' future = ahead start future := by rw [ahead, ahead, unread, base]
      simp only [SdpPacket.Waiting.incomplete waiting', Bool.false_eq_true, if_false]
      rw [between] at cut parsed
      refine ⟨⟨waiting', arrived, position⟩, ?_, ?_, ?_, ?_, fun last => .inl ⟨?_, ?_⟩⟩
      · simp only [same, kept, List.suffix_rfl]
      · rw [packetsAhead, packetsAhead, same, kept, filterMap_packet_read, List.nil_append]
      · rw [sameHeaders, filterMap_read_read]
        rcases parsed with ⟨empty', empty, silent, -⟩ | ⟨read, parsed, started⟩
        · simp [headersAhead, empty', empty, silent, kept]
        · rw [headersAhead_eq waiting started, parsed, ← kept]
          simp [headersAhead, read]
      · rwa [filterMap_read_read]
      · rw [unread]
        exact cut last
      · intro started
        rw [unread] at started
        rcases parsed with ⟨-, -, -, short⟩ | ⟨read, -⟩
        · exact absurd (short last) (Nat.not_lt.mpr started)
        · exact read
  | finished _ started complete parsed bounded =>
      have le : v2gtpFormat.headerSize ≤ v2gtpFormat.sizeOf start.unread :=
        v2gtpFormat.headerSize_le_sizeOf _
      have sized : (start.unread.take (v2gtpFormat.sizeOf start.unread)).length =
          v2gtpFormat.sizeOf (start.unread.take (v2gtpFormat.sizeOf start.unread)) := by
        rw [List.length_take_of_le complete]
        conv_rhs => rw [Format.sizeOf, List.take_take, Nat.min_eq_left le]
        rfl
      have first : ahead start future =
          ⟨start.base, start.unread.take (v2gtpFormat.sizeOf start.unread)⟩ ::
            ahead ⟨{ available := start.unread.drop (v2gtpFormat.sizeOf start.unread)
                     position := start.base + v2gtpFormat.sizeOf start.unread }, {}⟩ future := by
        rw [ahead, Format.frames_complete started complete]
        simp [ahead, Reader.unread, Reader.base]
      have receives := @receives_frame reader start arrival future _ _ log waiting started same
        sameHeaders first rfl parsed bounded
      by_cases whole :
          (SdpPacket.ofFrame (start.unread.take (v2gtpFormat.sizeOf start.unread))).isComplete = true
      · rw [if_pos whole]
        apply receives
        · rw [List.filterMap_append, filterMap_packet_read, packet?, if_pos ⟨whole, sized⟩]
          rfl
        · rw [List.filterMap_append, filterMap_read_read]
          exact List.append_nil log
      · rw [if_neg whole, SdpPacket.ofFrame_incomplete whole]
        apply receives
        · rw [filterMap_packet_read, packet?, if_neg fun both => whole both.1]
          rfl
        · exact filterMap_read_read log

structure Received (reader : Reader Wire) (bytes : List UInt8) (reader' : Reader Wire)
    (steps : List ReceiverStep) (future : List UInt8) : Prop where
  sound : Sound reader'
  frames : ahead reader' future <:+ ahead reader (bytes ++ future)
  packets : packetsAhead reader (bytes ++ future) = packets steps ++ packetsAhead reader' future
  headers : headersAhead reader (bytes ++ future) =
    LibIso15118.headers (reads steps) ++ headersAhead reader' future
  bounded : ∀ record ∈ steps, record.before.packet.Waiting ∧
    ∀ call ∈ record.outputs.filterMap ReceiverOutput.read?, call.Bounded

theorem steps_received {reader : Reader Wire} (sound : Sound reader) (arrivals : List Arrival)
    (future : List UInt8) :
    Received reader (stream arrivals) (Machine.final receivePacket reader arrivals)
      (Machine.steps receivePacket reader arrivals) future := by
  induction arrivals generalizing reader with
  | nil => exact ⟨sound, List.suffix_rfl, rfl, rfl, by simp [Machine.steps]⟩
  | cons arrival rest hyp =>
      have now := receivePacket_receives sound arrival (stream rest ++ future)
      have later := hyp now.sound
      have bytes : stream (arrival :: rest) ++ future =
          arrival.before ++ arrival.between ++ (stream rest ++ future) := by
        simp [stream]
      simp only [Machine.final, Machine.steps]
      refine ⟨later.sound, ?_, ?_, ?_, ?_⟩
      · rw [bytes]
        exact later.frames.trans now.frames
      · rw [bytes, now.packets, later.packets, ← List.append_assoc]
        rfl
      · rw [bytes, now.headers, later.headers, ← List.append_assoc, ← headers_append]
        rfl
      · intro record member
        rcases List.mem_cons.mp member with rfl | after
        · exact ⟨sound.waiting, now.bounded⟩
        · exact later.bounded record after

theorem Exhausted.ahead {reader : Reader Wire} (exhausted : Exhausted reader) :
    packetsAhead reader [] = [] ∧ headersAhead reader [] = [] := by
  have cut := exhausted.cut
  rcases Nat.lt_or_ge reader.unread.length v2gtpHeaderSize with short | started
  · have none : Receiver.ahead reader [] = [] := by
      rw [Receiver.ahead, List.append_nil]
      exact Format.frames_short short
    simp [packetsAhead, headersAhead, none]
  · have one : Receiver.ahead reader [] = [⟨reader.base, reader.unread⟩] := by
      rw [Receiver.ahead, List.append_nil]
      exact Format.frames_cut started cut
    simp [packetsAhead, headersAhead, one, exhausted.parsed started, packet?, Nat.ne_of_lt cut]

theorem exhausted_of_ahead {reader : Reader Wire} (none : ahead reader [] = []) : Exhausted reader := by
  have short : reader.unread.length < v2gtpHeaderSize := by
    by_contra started
    rw [Receiver.ahead, List.append_nil, Format.frames_header (Nat.not_lt.mp started)] at none
    cases none
  exact ⟨Nat.lt_of_lt_of_le short (v2gtpFormat.headerSize_le_sizeOf _),
    fun started => absurd short (Nat.not_lt.mpr started)⟩

theorem Exhausted.ahead_length {reader : Reader Wire} (exhausted : Exhausted reader) :
    (Receiver.ahead reader []).length ≤ 1 := by
  rw [Receiver.ahead, List.append_nil]
  rcases Nat.lt_or_ge reader.unread.length v2gtpHeaderSize with short | started
  · rw [Format.frames_short short]
    exact Nat.zero_le _
  · rw [Format.frames_cut started exhausted.cut]
    exact le_rfl

theorem exhausted_of_calls {reader : Reader Wire} (sound : Sound reader) {count : Nat}
    (enough : Exhausted reader ∨ (ahead reader []).length ≤ count) :
    Exhausted (Machine.final receivePacket reader (idle count)) := by
  induction count generalizing reader with
  | zero =>
      rcases enough with exhausted | none
      · exact exhausted
      · exact exhausted_of_ahead (List.length_eq_zero_iff.mp (Nat.le_zero.mp none))
  | succ count hyp =>
      have now := receivePacket_receives sound {} []
      refine hyp now.sound ?_
      rcases now.progress rfl with exhausted | fewer
      · exact .inl exhausted
      · simp only [List.append_nil] at fewer
        rcases enough with exhausted | enough
        · have one := exhausted.ahead_length
          exact .inl (exhausted_of_ahead (List.length_eq_zero_iff.mp (by omega)))
        · exact .inr (by omega)

end Receiver

end LibIso15118
