import Mathlib.Data.Vector.Basic
import Mathlib.Tactic.Common

set_option autoImplicit false

namespace LibIso15118.SdpServer

/-- The size of `udp_buffer`. -/
def udpBufferSize : Nat := 2048

abbrev UdpBuffer := Vector UInt8 udpBufferSize

abbrev Header := Vector UInt8 8

/-- A datagram with the address of its sender, of which the system tells the length. -/
structure Datagram (Address : Type) where
  bytes : List UInt8
  address : Address
  addressLength : Nat

/-- `sizeof(sockaddr_in6)` -/
def peerAddressSize : Nat := 28

/-- A `PeerRequestContext` that is valid. -/
structure PeerRequest (Address : Type) where
  security : UInt8
  transportProtocol : UInt8
  address : Address
  deriving DecidableEq

/-- The number of bytes that `recvfrom` stores; what does not fit is dropped. -/
def readResult (bytes : List UInt8) : Nat := min bytes.length udpBufferSize

/-- `recvfrom` overwrites the front of the buffer. -/
def receive (udpBuffer : UdpBuffer) (bytes : List UInt8) : UdpBuffer :=
  Vector.ofFn fun index => bytes[index.val]?.getD udpBuffer[index]

def header (udpBuffer : UdpBuffer) : Header :=
  Vector.ofFn fun index => udpBuffer.get ⟨index.val, by
    have small := index.isLt
    have size : udpBufferSize = 2048 := rfl
    omega⟩

section Server

variable {Address : Type}

/-- `get_peer_request`, which answers `none` for an invalid context. `readHeader` says whether
`V2GTP20_ReadHeader` accepts the header. -/
def getPeerRequest (readHeader : Header → Bool) (udpBuffer : UdpBuffer) (datagram : Datagram Address) :
    Option (PeerRequest Address) × UdpBuffer :=
  let udpBuffer := receive udpBuffer datagram.bytes
  if readResult datagram.bytes = 0 then (none, udpBuffer)
  else if datagram.addressLength > peerAddressSize then (none, udpBuffer)
  else if readResult datagram.bytes = udpBufferSize then (none, udpBuffer)
  else if readHeader (header udpBuffer) = false then (none, udpBuffer)
  else
    (some
      { security := udpBuffer[8]
        transportProtocol := udpBuffer[9]
        address := datagram.address }, udpBuffer)

def after (readHeader : Header → Bool) (udpBuffer : UdpBuffer) (history : List (Datagram Address)) : UdpBuffer :=
  history.foldl (fun udpBuffer datagram => (getPeerRequest readHeader udpBuffer datagram).2) udpBuffer

variable (readHeader : Header → Bool) (udpBuffer : UdpBuffer)

/-- The answer to a datagram is the same after every history, and it is valid only when the datagram holds
the header and both bytes of the payload. -/
def OwnDatagram (datagram : Datagram Address) : Prop :=
  ∀ history history' : List (Datagram Address),
    (getPeerRequest readHeader (after readHeader udpBuffer history) datagram).1 =
        (getPeerRequest readHeader (after readHeader udpBuffer history') datagram).1 ∧
      ((getPeerRequest readHeader (after readHeader udpBuffer history) datagram).1.isSome = true →
        10 ≤ datagram.bytes.length)

def Begins (bytes : List UInt8) (header : Header) : Prop :=
  ∀ index : Fin 8, ∀ byte, bytes[index.val]? = some byte → header.get index = byte

/-- The datagram is empty, has an address that is too long, is complete, or is no beginning of an accepted
header. -/
def SelfContained (datagram : Datagram Address) : Prop :=
  datagram.bytes = [] ∨ peerAddressSize < datagram.addressLength ∨ 10 ≤ datagram.bytes.length ∨
    ∀ header, Begins datagram.bytes header → readHeader header = false

theorem getPeerRequest_buffer (datagram : Datagram Address) :
    (getPeerRequest readHeader udpBuffer datagram).2 = receive udpBuffer datagram.bytes := by
  simp only [getPeerRequest]
  repeat' split
  all_goals rfl

theorem receive_get (bytes : List UInt8) (index : Fin udpBufferSize) :
    (receive udpBuffer bytes)[index] = bytes[index.val]?.getD udpBuffer[index] := by
  simp [receive]

theorem receive_eq_some {bytes : List UInt8} {index : Fin udpBufferSize} {byte : UInt8}
    (stored : bytes[index.val]? = some byte) : (receive udpBuffer bytes)[index] = byte := by
  rw [receive_get, stored]
  rfl

theorem header_get (index : Fin 8) (inside : index.val < udpBufferSize) :
    (header udpBuffer).get index = udpBuffer[(⟨index.val, inside⟩ : Fin udpBufferSize)] := by
  simp [header, Vector.get]
  rfl

theorem inside_buffer (index : Fin 8) : index.val < udpBufferSize := by
  have size : udpBufferSize = 2048 := rfl
  omega

theorem header_begins (bytes : List UInt8) : Begins bytes (header (receive udpBuffer bytes)) := by
  intro index byte stored
  rw [header_get _ index (inside_buffer index)]
  exact receive_eq_some udpBuffer stored

theorem receive_complete {bytes : List UInt8} (complete : 10 ≤ bytes.length) (other : UdpBuffer)
    (index : Nat) (small : index < 10) (inside : index < udpBufferSize) :
    (receive udpBuffer bytes)[(⟨index, inside⟩ : Fin udpBufferSize)] =
      (receive other bytes)[(⟨index, inside⟩ : Fin udpBufferSize)] := by
  have within : index < bytes.length := by omega
  have stored : bytes[index]? = some bytes[index] := List.getElem?_eq_getElem within
  rw [receive_eq_some udpBuffer stored, receive_eq_some other stored]

theorem header_complete {bytes : List UInt8} (complete : 10 ≤ bytes.length) (other : UdpBuffer) :
    header (receive udpBuffer bytes) = header (receive other bytes) := by
  apply Vector.ext
  intro index small
  have left := header_get (receive udpBuffer bytes) ⟨index, small⟩ (inside_buffer ⟨index, small⟩)
  have right := header_get (receive other bytes) ⟨index, small⟩ (inside_buffer ⟨index, small⟩)
  exact left.trans ((receive_complete udpBuffer complete other index (by omega) _).trans right.symm)

theorem getPeerRequest_complete {datagram : Datagram Address} (complete : 10 ≤ datagram.bytes.length)
    (other : UdpBuffer) :
    (getPeerRequest readHeader udpBuffer datagram).1 = (getPeerRequest readHeader other datagram).1 := by
  have eighth := receive_complete udpBuffer complete other 8 (by omega) (by decide)
  have ninth := receive_complete udpBuffer complete other 9 (by omega) (by decide)
  simp only [Fin.getElem_fin] at eighth ninth
  simp only [getPeerRequest, header_complete udpBuffer complete other, eighth, ninth]
  repeat' split
  all_goals rfl

theorem getPeerRequest_refused (datagram : Datagram Address)
    (refused : datagram.bytes = [] ∨ peerAddressSize < datagram.addressLength ∨
      readHeader (header (receive udpBuffer datagram.bytes)) = false) :
    (getPeerRequest readHeader udpBuffer datagram).1 = none := by
  simp only [getPeerRequest]
  rcases refused with empty | long | refused
  · simp [empty, readResult]
  · rw [if_pos (show datagram.addressLength > peerAddressSize from long)]
    split <;> rfl
  · rw [if_pos refused]
    repeat' split
    all_goals rfl

theorem getPeerRequest_accepted {datagram : Datagram Address} (some : datagram.bytes ≠ [])
    (known : datagram.addressLength ≤ peerAddressSize) (short : datagram.bytes.length < 10)
    (accepted : readHeader (header (receive udpBuffer datagram.bytes)) = true) :
    (getPeerRequest readHeader udpBuffer datagram).1.isSome = true := by
  have size : udpBufferSize = 2048 := rfl
  have length := List.length_pos_iff.mpr some
  have result : readResult datagram.bytes = datagram.bytes.length := by
    unfold readResult
    omega
  simp only [getPeerRequest, result, accepted]
  rw [if_neg (by omega), if_neg (by omega), if_neg (by omega), if_neg (by simp)]
  rfl

/-- The answer depends on nothing but the datagram, exactly when the datagram is self-contained. -/
theorem own_datagram_iff (datagram : Datagram Address) :
    OwnDatagram readHeader udpBuffer datagram ↔ SelfContained readHeader datagram := by
  constructor
  · intro own
    by_contra open_
    simp only [SelfContained, not_or, not_lt, not_le, not_forall] at open_
    obtain ⟨some, known, short, begun, begins, accepts⟩ := open_
    -- the header that the datagram begins comes before it
    have stored : header (receive (receive udpBuffer begun.toList) datagram.bytes) = begun := by
      apply Vector.ext
      intro index small
      have get := header_get (receive (receive udpBuffer begun.toList) datagram.bytes) ⟨index, small⟩
        (inside_buffer ⟨index, small⟩)
      refine get.trans ?_
      cases own : datagram.bytes[index]? with
      | some byte => exact (receive_eq_some _ own).trans (begins ⟨index, small⟩ byte own).symm
      | none =>
          rw [receive_get, own, Option.getD_none]
          exact receive_eq_some _ (by simp [small])
    have valid := getPeerRequest_accepted readHeader (receive udpBuffer begun.toList) some known short
      (by simpa [stored] using accepts)
    have left := own [⟨begun.toList, datagram.address, 0⟩] []
    simp only [after, List.foldl_cons, List.foldl_nil, getPeerRequest_buffer] at left
    exact absurd (left.2 valid) (by omega)
  · intro contained history history'
    rcases contained with empty | long | complete | refused
    · rw [getPeerRequest_refused _ _ _ (.inl empty), getPeerRequest_refused _ _ _ (.inl empty)]
      simp
    · rw [getPeerRequest_refused _ _ _ (.inr (.inl long)), getPeerRequest_refused _ _ _ (.inr (.inl long))]
      simp
    · exact ⟨getPeerRequest_complete _ _ complete _, fun _ => complete⟩
    · have none (buffer : UdpBuffer) := getPeerRequest_refused readHeader buffer datagram
        (.inr (.inr (refused _ (header_begins buffer datagram.bytes))))
      rw [none, none]
      simp

end Server

/-- The check of the version and of the payload type of an SDP request. -/
def readSdpRequestHeader (header : Header) : Bool :=
  header.get 0 = 0x01 ∧ header.get 1 = 0xFE ∧ header.get 2 = 0x90 ∧ header.get 3 = 0x00

/-- Eight bytes that are only a header are answered with the security of the datagram before. -/
theorem own_datagram_inherited :
    ¬∀ (readHeader : Header → Bool) (udpBuffer : UdpBuffer) (datagram : Datagram Unit),
      datagram.bytes.length < udpBufferSize → OwnDatagram readHeader udpBuffer datagram := by
  intro own
  have begins := header_begins (Vector.replicate udpBufferSize 0) [0x01, 0xFE, 0x90, 0x00, 0, 0, 0, 2]
  have accepted : readSdpRequestHeader
      (header (receive (Vector.replicate udpBufferSize 0) [0x01, 0xFE, 0x90, 0x00, 0, 0, 0, 2])) = true :=
    decide_eq_true ⟨begins 0 _ rfl, begins 1 _ rfl, begins 2 _ rfl, begins 3 _ rfl⟩
  have short := (own readSdpRequestHeader (Vector.replicate udpBufferSize 0)
    ⟨[0x01, 0xFE, 0x90, 0x00, 0, 0, 0, 2], (), 28⟩ (by decide) [] []).2
  exact absurd (short (getPeerRequest_accepted _ _ (by simp) (by decide) (by decide) accepted)) (by decide)

end LibIso15118.SdpServer
