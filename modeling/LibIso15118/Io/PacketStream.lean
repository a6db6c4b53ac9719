import LibIso15118.Io.Framing
import Mathlib.Data.List.Chain

set_option autoImplicit false

namespace LibIso15118

open Shared

/-- A packet as `setup_response_header` and the encoder of the payload write it. -/
def writePacket (packet : UInt16 × List UInt8) : List UInt8 :=
  setupResponseHeader packet.1 packet.2.length ++ packet.2

section Header

theorem bigEndian_fold (width n start : Nat) :
    (toBigEndian width n).foldl (fun n byte => n * 256 + byte.toNat) start =
      start * 256 ^ width + n % 256 ^ width := by
  induction width generalizing start with
  | zero => simp [toBigEndian, Nat.mod_one]
  | succ width hyp =>
      have split := @Nat.mod_pow_succ n 256 width
      simp only [toBigEndian, List.foldl_cons, hyp, UInt8.toNat_ofNat', Nat.reducePow, split]
      ring

theorem bigEndian_toBigEndian {width n : Nat} (fits : n < 256 ^ width) :
    bigEndian (toBigEndian width n) = n := by
  rw [bigEndian, bigEndian_fold, Nat.mod_eq_of_lt fits, Nat.zero_mul, Nat.zero_add]

@[simp] theorem toBigEndian_length (width n : Nat) : (toBigEndian width n).length = width := by
  induction width with
  | zero => rfl
  | succ width hyp => simp [toBigEndian, hyp]

@[simp] theorem setupResponseHeader_length (payloadType : UInt16) (size : Nat) :
    (setupResponseHeader payloadType size).length = v2gtpHeaderSize := by
  simp [setupResponseHeader, v2gtpHeaderSize]

variable (payloadType : UInt16) {size : Nat}

theorem setupResponseHeader_type (rest : List UInt8) :
    ((setupResponseHeader payloadType size ++ rest).drop 2).take 2 = toBigEndian 2 payloadType.toNat := by
  simp [setupResponseHeader]

theorem setupResponseHeader_size :
    ((setupResponseHeader payloadType size).drop 4).take 4 = toBigEndian 4 size := by
  simp [setupResponseHeader, toBigEndian]

theorem ofHeader_setupResponseHeader (small : size ≤ 2040) :
    SdpPacket.ofHeader (setupResponseHeader payloadType size) =
      { state := .headerRead
        buffer := setupResponseHeader payloadType size
        length := size + v2gtpHeaderSize } := by
  have declared : bigEndian (((setupResponseHeader payloadType size).drop 4).take 4) = size := by
    rw [setupResponseHeader_size, bigEndian_toBigEndian (by omega)]
  have first : (setupResponseHeader payloadType size)[0]? = some sdpProtocolVersion := rfl
  have second : (setupResponseHeader payloadType size)[1]? = some sdpInverseProtocolVersion := rfl
  simp only [SdpPacket.ofHeader, SdpPacket.parseHeader, first, second, declared, ne_eq, not_true_eq_false,
    or_self, if_false]
  rw [if_neg (by simp [v2gtpHeaderSize]; omega), if_neg (by simp [v2gtpHeaderSize, sdpBufferSize]; omega)]

end Header

namespace Receiver

theorem writePacket_take (packet : UInt16 × List UInt8) :
    (writePacket packet).take v2gtpHeaderSize = setupResponseHeader packet.1 packet.2.length := by
  rw [writePacket, List.take_append_of_le_length (by simp), List.take_of_length_le (by simp)]

section Encoded

variable {packet : UInt16 × List UInt8} (small : packet.2.length ≤ 2040)
include small

theorem writePacket_sizeOf : v2gtpFormat.sizeOf (writePacket packet) = (writePacket packet).length := by
  rw [sizeOf_accepted ((congrArg _ (writePacket_take packet)).trans
    (ofHeader_setupResponseHeader packet.1 small)) rfl]
  simp [writePacket, Nat.add_comm]

theorem packet?_writePacket : packet? (writePacket packet) = some packet := by
  have accepted := ofHeader_setupResponseHeader packet.1 small
  have complete : SdpPacket.ofFrame (writePacket packet) =
      { state := .complete, buffer := writePacket packet, length := (writePacket packet).length } := by
    rw [SdpPacket.ofFrame, writePacket_take packet, accepted]
    rfl
  have payloadType : bigEndian (((writePacket packet).drop 2).take 2) = packet.1.toNat := by
    rw [writePacket, setupResponseHeader_type, bigEndian_toBigEndian]
    exact packet.1.toNat_lt
  rw [packet?, complete, if_pos ⟨rfl, (writePacket_sizeOf small).symm⟩]
  simp only [SdpPacket.getPayloadType, SdpPacket.getPayload, SdpPacket.getPayloadLength, payloadType,
    if_true, Option.some.injEq]
  refine Prod.ext (by simp) ?_
  simp [writePacket]

end Encoded

def start : Reader Wire := { connection := {} }

theorem start_sound : Sound start := ⟨.empty [] (by decide), rfl, Nat.zero_le _⟩

theorem ahead_start (bytes : List UInt8) : ahead start bytes = v2gtpFormat.frames 0 bytes := rfl

theorem run_received (arrivals : List Arrival) (future : List UInt8) :
    Received start (stream arrivals) (Machine.final receivePacket start arrivals) (run arrivals) future :=
  steps_received start_sound arrivals future

theorem exhausted_run {arrivals : List Arrival} {count : Nat}
    (enough : (v2gtpFormat.frames 0 (stream arrivals)).length ≤ count) :
    Exhausted (Machine.final receivePacket start (arrivals ++ idle count)) := by
  have before := run_received arrivals []
  rw [Machine.final_append]
  refine exhausted_of_calls before.sound (.inr ?_)
  have fewer := before.frames.length_le
  rw [List.append_nil, ahead_start] at fewer
  omega

theorem stream_idle (arrivals : List Arrival) (count : Nat) :
    stream (arrivals ++ idle count) = stream arrivals := by
  simp [stream, idle]

theorem packets_written {sent : List (UInt16 × List UInt8)}
    (small : ∀ packet ∈ sent, packet.2.length ≤ 2040) :
    (v2gtpFormat.frames 0 (sent.flatMap writePacket)).length = sent.length ∧
      packetsAhead start (sent.flatMap writePacket) = sent := by
  have written := @Format.frames_encoded _ v2gtpFormat _ writePacket sent
    (fun packet member => writePacket_sizeOf (small packet member)) 0
  constructor
  · simpa using congrArg List.length written
  · calc packetsAhead start (sent.flatMap writePacket)
        = ((v2gtpFormat.frames 0 (sent.flatMap writePacket)).map Frame.bytes).filterMap packet? := by
          rw [List.filterMap_map]
          rfl
      _ = sent.filterMap fun packet => packet? (writePacket packet) := by
          rw [written, List.filterMap_map]
          rfl
      _ = sent.filterMap some :=
          List.filterMap_congr fun packet member => packet?_writePacket (small packet member)
      _ = sent := List.filterMap_some

/-- Whatever the fragmentation, the packets come out as they went in, and the reader stays within its
buffer whatever comes in. -/
theorem framing_round_trip (sent : List (UInt16 × List UInt8))
    (small : ∀ packet ∈ sent, packet.2.length ≤ 2040) (arrivals : List Arrival)
    (fragments : stream arrivals = sent.flatMap writePacket) :
    (∀ calls, packets (run (arrivals.take calls)) <+: sent) ∧
    (∀ count ≥ sent.length, packets (run (arrivals ++ idle count)) = sent) ∧
    ∀ (other : List Arrival), ∀ record ∈ run other,
      (record.before.packet.state = .empty ∨ record.before.packet.state = .headerRead) ∧
      ∀ call ∈ reads [record], call.before.buffer.length + call.size ≤ sdpBufferSize := by
  obtain ⟨length, all⟩ := packets_written small
  refine ⟨fun calls => ?_, fun count enough => ?_, fun other record member => ?_⟩
  · have received := (run_received (arrivals.take calls) (stream (arrivals.drop calls))).packets
    have joined : stream (arrivals.take calls) ++ stream (arrivals.drop calls) = stream arrivals := by
      rw [stream, stream, ← List.flatMap_append, List.take_append_drop]
      rfl
    rw [joined, fragments, all] at received
    exact ⟨_, received.symm⟩
  · have received := (run_received (arrivals ++ idle count) []).packets
    have exhausted := @exhausted_run arrivals count (by rw [fragments, length]; exact enough)
    rw [stream_idle, List.append_nil, fragments, all, exhausted.ahead.1, List.append_nil] at received
    exact received.symm
  · obtain ⟨waiting, bounded⟩ := (run_received other []).bounded record member
    refine ⟨SdpPacket.Waiting.state waiting, fun call asked => bounded call ?_⟩
    simpa [reads] using asked

/-- Two packets, cut in the middle of a header. -/
theorem framing_round_trip_cut :
    packets (run ([⟨[0x01, 0xFE, 0x80], []⟩, ⟨[0x01, 0, 0], [0, 2, 7]⟩,
      ⟨[8, 0x01, 0xFE, 0x80, 0x02, 0, 0, 0, 0], []⟩] ++ idle 2)) = [(0x8001, [7, 8]), (0x8002, [])] :=
  (framing_round_trip [(0x8001, [7, 8]), (0x8002, [])] (by decide) _ rfl).2.1 2 le_rfl

def declaredLength (header : List UInt8) : Nat := bigEndian ((header.drop 4).take 4)

def tooLong (header : List UInt8) : Bool :=
  header[0]? = some sdpProtocolVersion && header[1]? = some sdpInverseProtocolVersion &&
    2040 < declaredLength header

/-- The header that is parsed after that of a packet that is too long starts behind its payload. -/
def StaysRejected (parsed : List (Frame UInt8)) : Prop :=
  parsed.IsChain fun first next => tooLong first.bytes = true →
    next.offset = first.offset + v2gtpHeaderSize + declaredLength first.bytes

instance (parsed : List (Frame UInt8)) : Decidable (StaysRejected parsed) :=
  inferInstanceAs (Decidable (parsed.IsChain _))

def TooLongLast (bytes : List UInt8) : Prop :=
  ∀ frame ∈ v2gtpFormat.frames 0 bytes, tooLong (header frame).bytes = true →
    bytes.length < frame.offset + 2 * v2gtpHeaderSize

theorem tooLong_sizeOf {bytes : List UInt8} (long : tooLong (bytes.take v2gtpHeaderSize) = true) :
    v2gtpFormat.sizeOf bytes = v2gtpHeaderSize := by
  apply sizeOf_rejected
  simp only [tooLong, Bool.and_eq_true, decide_eq_true_eq] at long
  obtain ⟨⟨first, second⟩, length⟩ := long
  rw [declaredLength] at length
  simp only [SdpPacket.ofHeader, SdpPacket.parseHeader, first, second, ne_eq, not_true_eq_false, or_self,
    if_false]
  split_ifs with overflow fits
  · simp
  · simp
  · have header : v2gtpHeaderSize = 8 := rfl
    have buffer : sdpBufferSize = 2048 := rfl
    omega

theorem frames_head {offset : Nat} {bytes : List UInt8} {frame : Frame UInt8} {rest : List (Frame UInt8)}
    (frames : v2gtpFormat.frames offset bytes = frame :: rest) :
    v2gtpHeaderSize ≤ bytes.length ∧ frame = ⟨offset, bytes.take (v2gtpFormat.sizeOf bytes)⟩ ∧
      rest = v2gtpFormat.frames (offset + v2gtpFormat.sizeOf bytes) (bytes.drop (v2gtpFormat.sizeOf bytes)) := by
  rcases Nat.lt_or_ge bytes.length v2gtpHeaderSize with short | started
  · rw [Format.frames_short short] at frames
    cases frames
  · rw [Format.frames_header started] at frames
    obtain ⟨rfl, rfl⟩ := List.cons.inj frames
    exact ⟨started, rfl, rfl⟩

theorem header_bytes (offset : Nat) (bytes : List UInt8) :
    (header ⟨offset, bytes.take (v2gtpFormat.sizeOf bytes)⟩).bytes = bytes.take v2gtpHeaderSize := by
  have le : v2gtpHeaderSize ≤ v2gtpFormat.sizeOf bytes := v2gtpFormat.headerSize_le_sizeOf bytes
  rw [header, List.take_take, Nat.min_eq_left le]

theorem staysRejected_frames (offset : Nat) (bytes : List UInt8) :
    StaysRejected ((v2gtpFormat.frames offset bytes).map header) ↔
      ∀ frame ∈ v2gtpFormat.frames offset bytes, tooLong (header frame).bytes = true →
        offset + bytes.length < frame.offset + 2 * v2gtpHeaderSize := by
  -- Where the reader goes on is never behind the payload.
  generalize eq : v2gtpFormat.frames offset bytes = frames
  induction frames generalizing offset bytes with
  | nil => simp [StaysRejected]
  | cons frame rest hyp =>
      obtain ⟨started, rfl, tail⟩ := frames_head eq
      have bytes_eq := header_bytes offset bytes
      have size : v2gtpHeaderSize = 8 := rfl
      cases rest with
      | nil =>
          have few : (bytes.drop (v2gtpFormat.sizeOf bytes)).length < v2gtpHeaderSize := by
            by_contra more
            rw [Format.frames_header (Nat.not_lt.mp more)] at tail
            cases tail
          simp only [StaysRejected, List.map_cons, List.map_nil, List.isChain_singleton, List.mem_singleton,
            forall_eq, bytes_eq, true_iff]
          intro long
          rw [tooLong_sizeOf long, List.length_drop] at few
          omega
      | cons next later =>
          obtain ⟨more, rfl, -⟩ := frames_head tail.symm
          rw [List.length_drop] at more
          have within : offset + v2gtpFormat.sizeOf bytes + (bytes.drop (v2gtpFormat.sizeOf bytes)).length =
              offset + bytes.length := by
            rw [List.length_drop]
            omega
          have hyp := hyp _ _ tail.symm
          rw [within] at hyp
          simp only [StaysRejected, List.map_cons, List.isChain_cons_cons] at hyp ⊢
          rw [hyp, bytes_eq]
          conv_rhs => rw [List.forall_mem_cons, bytes_eq]
          refine and_congr_left fun _ => forall_congr' fun long => ?_
          have declared : 2040 < declaredLength (bytes.take v2gtpHeaderSize) := by
            simp only [tooLong, Bool.and_eq_true, decide_eq_true_eq] at long
            exact long.2
          rw [tooLong_sizeOf long] at more ⊢
          simp only [header]
          omega

/-- The payload of a packet that is too long is left alone exactly when the stream ends with its header,
or before the next eight bytes. -/
theorem stays_rejected_iff (arrivals : List Arrival) :
    (TooLongLast (stream arrivals) → StaysRejected (headers (reads (run arrivals)))) ∧
    ∀ count ≥ (v2gtpFormat.frames 0 (stream arrivals)).length,
      StaysRejected (headers (reads (run (arrivals ++ idle count)))) → TooLongLast (stream arrivals) := by
  have last : StaysRejected ((v2gtpFormat.frames 0 (stream arrivals)).map header) ↔
      TooLongLast (stream arrivals) := by
    rw [staysRejected_frames, TooLongLast, Nat.zero_add]
  constructor
  · intro long
    have received := (run_received arrivals []).headers
    rw [List.append_nil] at received
    have rejected : StaysRejected (headersAhead start (stream arrivals)) := last.mpr long
    rw [received] at rejected
    exact rejected.left_of_append
  · intro count enough rejected
    have received := (run_received (arrivals ++ idle count) []).headers
    rw [stream_idle, List.append_nil, (exhausted_run enough).ahead.2, List.append_nil] at received
    rw [← received] at rejected
    exact last.mp rejected

def nested : List Arrival := [⟨setupResponseHeader 0x8001 3000 ++ writePacket (0x8001, [7]), []⟩, {}]

/-- What is inside of a packet that is too long is delivered. -/
theorem stays_rejected_nested :
    ¬StaysRejected (headers (reads (run nested))) ∧ packets (run nested) = [(0x8001, [7])] := by
  constructor
  · decide +kernel
  · decide +kernel

end Receiver

end LibIso15118
