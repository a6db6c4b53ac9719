import LibIso15118.Io.Connections
import LibIso15118.Io.Framing
import LibIso15118.Session.Iso

set_option autoImplicit false

/-!
# What the connections read

Both connections say that a read would block exactly when fewer bytes came than were asked for. So a packet
that is not complete may be read into again.
-/

namespace LibIso15118

open Shared

/-- `ConnectionPlain::read`, from the bytes that `::read` returns; `none` stands for -1. -/
def ConnectionPlain.read (received : Nat → Option (List UInt8)) (size : Nat) : Except Exn ReadResult :=
  let bytes := ((received size).getD []).take size
  .ok { wouldBlock := 0 < size ∧ bytes.length ≠ size, bytes }

/-- What `SSL_read_ex` comes to. -/
inductive SslRead where
  | read (bytes : List UInt8)
  | wantsMore
  | failed

/-- `ConnectionSSL::read` -/
def ConnectionSsl.read (outcome : Nat → SslRead) (size : Nat) : Except Exn ReadResult :=
  match outcome size with
  | .read bytes => .ok { wouldBlock := (bytes.take size).length < size, bytes := bytes.take size }
  | .wantsMore => .ok {}
  | .failed => .error .runtimeError

abbrev Script := List (Nat → Except Exn ReadResult)

def FromConnection (read : Nat → Except Exn ReadResult) : Prop :=
  (∃ received, read = ConnectionPlain.read received) ∨ ∃ outcome, read = ConnectionSsl.read outcome

theorem FromConnection.blocks {read : Nat → Except Exn ReadResult} (real : FromConnection read) {size : Nat}
    (some : 0 < size) {result : ReadResult} (returned : read size = .ok result) :
    result.wouldBlock = true ↔ (result.bytes.take size).length < size := by
  rcases real with ⟨received, rfl⟩ | ⟨outcome, rfl⟩
  · obtain rfl := Except.ok.inj returned
    simp only [decide_eq_true_eq, List.take_take, Nat.min_self, List.length_take]
    omega
  · unfold ConnectionSsl.read at returned
    cases read : outcome size with
    | read bytes =>
        rw [read] at returned
        obtain rfl := Except.ok.inj returned
        simp
    | wantsMore =>
        rw [read] at returned
        obtain rfl := Except.ok.inj returned
        simpa using some
    | failed => simp [read] at returned

namespace IsoSession

theorem wp_readInto_scripted {reads : Script} (real : ∀ read ∈ reads, FromConnection read)
    {packet : SdpPacket} (some : 0 < packet.getRemainingBytesToRead)
    {post : Except Exn Bool → Reader Script → List (ReadCall Script) → Prop}
    (throws : ∀ e reader log, post (.error e) reader log)
    (blocks : ∀ (bytes : List UInt8) rest log, bytes.length < packet.getRemainingBytesToRead →
      (∀ read ∈ rest, FromConnection read) → post (.ok true) ⟨rest, packet.updateReadBytes bytes⟩ log)
    (reads' : ∀ (bytes : List UInt8) rest log, bytes.length = packet.getRemainingBytesToRead →
      (∀ read ∈ rest, FromConnection read) → post (.ok false) ⟨rest, packet.updateReadBytes bytes⟩ log) :
    Act.wp (readInto scripted) post ⟨reads, packet⟩ := by
  cases reads with
  | nil => simpa [Act.wp, readInto, scripted] using blocks [] [] _ some (by simp)
  | cons read rest =>
      have later : ∀ read ∈ rest, FromConnection read := fun other member =>
        real other (List.mem_cons_of_mem _ member)
      simp only [Act.wp, readInto, scripted]
      cases returned : read packet.getRemainingBytesToRead with
      | error e => exact throws _ _ _
      | ok result =>
          have honest := (real read List.mem_cons_self).blocks some returned
          dsimp only
          cases blocked : result.wouldBlock with
          | true => exact blocks _ rest _ (honest.mp blocked) later
          | false =>
              have enough : ¬(result.bytes.take packet.getRemainingBytesToRead).length <
                  packet.getRemainingBytesToRead := by
                intro few
                exact absurd (honest.mpr few) (by simp [blocked])
              refine reads' _ rest _ ?_ later
              rw [List.length_take] at enough ⊢
              omega

def Readable (packet : SdpPacket) : Prop := packet.Waiting ∨ packet.isComplete = true

theorem readSingle_readable {reads : Script} (real : ∀ read ∈ reads, FromConnection read)
    {packet : SdpPacket} (waiting : packet.Waiting) :
    Act.wp (readSingleSdpPacket scripted) (fun result reader _ => ∀ blocked, result = .ok blocked →
      Readable reader.packet) ⟨reads, packet⟩ := by
  have fresh : Readable {} := .inl (.empty [] (by decide))
  -- a try to read the rest of a packet whose header is there
  have rest (buffer : List UInt8) (length : Nat)
      (parsed : SdpPacket.ofHeader (buffer.take v2gtpHeaderSize) =
        { state := .headerRead, buffer := buffer.take v2gtpHeaderSize, length })
      (started : v2gtpHeaderSize ≤ buffer.length) (more : buffer.length < length)
      {reads : Script} (real : ∀ read ∈ reads, FromConnection read)
      {post : Except Exn Bool → Reader Script → List (ReadCall Script) → Prop}
      (throws : ∀ e reader log, post (.error e) reader log)
      (blocks : ∀ packet rest log, SdpPacket.Waiting packet → post (.ok true) ⟨rest, packet⟩ log)
      (completes : ∀ packet rest log, packet.state = .complete → post (.ok false) ⟨rest, packet⟩ log) :
      Act.wp (readInto scripted) post ⟨reads, { state := .headerRead, buffer, length }⟩ := by
    apply wp_readInto_scripted real
    · simp only [SdpPacket.getRemainingBytesToRead]
      omega
    · exact throws
    · intro bytes rest log few _
      simp only [SdpPacket.getRemainingBytesToRead] at few
      rw [SdpPacket.updateReadBytes_more (by omega)]
      refine blocks _ _ _ (.header _ _ ?_ ?_ ?_)
      · rw [List.take_append_of_le_length started]
        exact parsed
      · rw [List.length_append]
        omega
      · rw [List.length_append]
        omega
    · intro bytes rest log full _
      simp only [SdpPacket.getRemainingBytesToRead] at full
      rw [SdpPacket.updateReadBytes_complete (by omega)]
      exact completes _ _ _ rfl
  rw [readSingleSdpPacket, Act.wp_bind]
  cases waiting with
  | empty buffer short =>
      apply wp_readInto_scripted real
      · simp only [SdpPacket.getRemainingBytesToRead]
        omega
      · rintro e _ _ _ ⟨⟩
      · intro bytes later log few _
        simp only [SdpPacket.getRemainingBytesToRead] at few
        rw [SdpPacket.updateReadBytes_short (by omega)]
        simp only [if_true, Act.wp_pure]
        rintro _ -
        exact .inl (.empty _ (by rw [List.length_append]; omega))
      · intro bytes later log full real
        simp only [SdpPacket.getRemainingBytesToRead] at full
        rw [SdpPacket.updateReadBytes_header (by omega)]
        have size : (buffer ++ bytes).length = v2gtpHeaderSize := by rw [List.length_append]; omega
        simp only [Bool.false_eq_true, if_false, Act.wp_bind, Act.wp_get, Act.wp_ite, Act.wp_pure]
        rcases SdpPacket.withHeader_cases (buffer ++ bytes) with ⟨packet, -⟩ |
          ⟨length, packet, parsed, more⟩ |
          ⟨incomplete, unparsed, -⟩
        · rw [packet]
          refine ⟨fun _ => ?_, fun other => absurd rfl other⟩
          rintro _ -
          exact .inr rfl
        · rw [packet]
          refine ⟨fun other => absurd other (by simp), fun _ => ⟨fun other => absurd rfl other, fun _ => ?_⟩⟩
          have whole : (buffer ++ bytes).take v2gtpHeaderSize = buffer ++ bytes :=
            List.take_of_length_le (Nat.le_of_eq size)
          refine rest _ _ (by rw [whole, parsed]) (Nat.le_of_eq size.symm) (by omega) real ?_ ?_ ?_
          · rintro e _ _ _ ⟨⟩
          · intro packet _ _ waiting
            refine ⟨fun _ => ?_, fun other => absurd rfl other⟩
            rintro _ -
            exact .inl waiting
          · intro packet _ _ complete
            refine ⟨fun other => absurd other (by simp), fun _ =>
              ⟨fun other => absurd complete other, fun _ => ?_⟩⟩
            rintro _ -
            exact .inr (by simp [SdpPacket.isComplete, complete])
        · refine ⟨fun complete => absurd complete incomplete, fun _ => ⟨fun _ => ?_, fun other =>
            absurd (not_not.mp other) unparsed⟩⟩
          simp only [logInvalidPacketError, Act.wp_modify]
          rintro _ -
          exact fresh
  | header buffer length parsed started more =>
      refine rest buffer length parsed started more real ?_ ?_ ?_
      · rintro e _ _ _ ⟨⟩
      · intro packet _ _ waiting
        simp only [if_true, Act.wp_pure]
        rintro _ -
        exact .inl waiting
      · intro packet _ _ complete
        simp only [Bool.false_eq_true, if_false, Act.wp_bind, Act.wp_get, Act.wp_ite, Act.wp_pure]
        refine ⟨fun _ => ?_, fun other => absurd complete other⟩
        rintro _ -
        exact .inr (by simp [SdpPacket.isComplete, complete])

end IsoSession

end LibIso15118
