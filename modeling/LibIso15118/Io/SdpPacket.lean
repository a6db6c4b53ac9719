import LibIso15118.D20.Context

set_option autoImplicit false

namespace LibIso15118

open Shared

def sdpProtocolVersion : UInt8 := 0x01
def sdpInverseProtocolVersion : UInt8 := 0xFE
def v2gtpHeaderSize : Nat := 8

/-- The size of the buffer of an `SdpPacket`. -/
def sdpBufferSize : Nat := 2048

/-- `be16toh` and `be32toh` -/
def bigEndian (bytes : List UInt8) : Nat := bytes.foldl (fun n byte => n * 256 + byte.toNat) 0

namespace SdpPacket

inductive State where
  | empty
  | headerRead
  | complete
  | invalidHeader
  | payloadToLong
  deriving DecidableEq

end SdpPacket

-- `buffer` holds the bytes read so far, so that its length is `bytes_read`. `length` counts the header
-- too, and nothing reads it before the header is parsed.
structure SdpPacket where
  state : SdpPacket.State := .empty
  buffer : List UInt8 := []
  length : Nat := 0

namespace SdpPacket

def isComplete (packet : SdpPacket) : Bool := packet.state = .complete

def getPayloadType (packet : SdpPacket) : UInt16 :=
  UInt16.ofNat (bigEndian ((packet.buffer.drop 2).take 2))

def getPayloadLength (packet : SdpPacket) : Nat :=
  if packet.state = .complete then packet.length - v2gtpHeaderSize else 0

def getPayload (packet : SdpPacket) : List UInt8 :=
  (packet.buffer.drop v2gtpHeaderSize).take packet.getPayloadLength

def getRemainingBytesToRead (packet : SdpPacket) : Nat :=
  match packet.state with
  | .empty => v2gtpHeaderSize - packet.buffer.length
  | .headerRead => packet.length - packet.buffer.length
  | _ => 0

def parseHeader (packet : SdpPacket) : SdpPacket :=
  if packet.buffer[0]? ≠ some sdpProtocolVersion ∨
      packet.buffer[1]? ≠ some sdpInverseProtocolVersion then
    { packet with state := .invalidHeader }
  else
    let lenInBuffer := bigEndian ((packet.buffer.drop 4).take 4)
    -- the sum would not fit into 32 bits
    if lenInBuffer > 2 ^ 32 - 1 - v2gtpHeaderSize then { packet with state := .invalidHeader }
    else
      let length := lenInBuffer + v2gtpHeaderSize
      if length > sdpBufferSize then { packet with length, state := .payloadToLong }
      else { packet with length, state := .headerRead }

def updateReadBytes (packet : SdpPacket) (bytes : List UInt8) : SdpPacket :=
  if packet.state = .complete ∨ packet.state = .invalidHeader ∨ packet.state = .payloadToLong then packet
  else
    let packet := { packet with buffer := packet.buffer ++ bytes }
    let packet :=
      if packet.state = .empty ∧ packet.buffer.length = v2gtpHeaderSize then packet.parseHeader
      else packet
    if packet.state = .headerRead ∧ packet.buffer.length = packet.length then
      { packet with state := .complete }
    else packet

end SdpPacket

/-- What `IConnection::read` returns, with the bytes it has put into the buffer. -/
structure ReadResult where
  wouldBlock : Bool := true
  bytes : List UInt8 := []

/-- `IConnection::read` of a connection in state `σ`, asked for a number of bytes; over TLS it may
throw. -/
abbrev Read (σ : Type) := Nat → σ → Except Exn ReadResult × σ

/-- What `read_single_sdp_packet` works on. -/
structure Reader (σ : Type) where
  connection : σ
  packet : SdpPacket := {}

/-- One call of `read`: the packet before and after it, the number of bytes asked for, and the
connection after it. -/
structure ReadCall (σ : Type) where
  before : SdpPacket
  size : Nat
  after : SdpPacket
  connection : σ

abbrev ReadAct (σ : Type) := Act (Reader σ) (ReadCall σ) Exn

section Reading

variable {σ : Type} (read : Read σ)

/-- One try to get on with the packet: `read`, then `update_read_bytes`. -/
def readInto : ReadAct σ Bool := fun reader =>
  let size := reader.packet.getRemainingBytesToRead
  match read size reader.connection with
  | (.error e, connection) =>
      ⟨.error e, { reader with connection }, [⟨reader.packet, size, reader.packet, connection⟩]⟩
  | (.ok result, connection) =>
      let packet := reader.packet.updateReadBytes (result.bytes.take size)
      ⟨.ok result.wouldBlock, ⟨connection, packet⟩, [⟨reader.packet, size, packet, connection⟩]⟩

/-- The packet is discarded. -/
def logInvalidPacketError : ReadAct σ Unit := Act.modify fun reader => { reader with packet := {} }

/-- `read_single_sdp_packet`: whether it would block to read a complete packet. -/
def readSingleSdpPacket : ReadAct σ Bool := do
  if ← readInto read then return true
  let reader ← Act.get
  if reader.packet.state = .complete then return false
  if reader.packet.state ≠ .headerRead then
    logInvalidPacketError
    return false
  if ← readInto read then return true
  let reader ← Act.get
  if reader.packet.state ≠ .complete then logInvalidPacketError
  return false

end Reading

/-- `v2gtp::PayloadType` of a response, from `PayloadTypeTrait`. -/
def Response.payloadType : Response → UInt16
  | .supportedAppProtocol _ => 0x8001
  | .acChargeParameterDiscovery _ | .acChargeLoop _ => 0x8003
  | .dcChargeParameterDiscovery _ | .dcCableCheck _ | .dcPreCharge _ | .dcChargeLoop _
  | .dcWeldingDetection _ => 0x8004
  | _ => 0x8002

/-- `htobe16` and `htobe32`: the low bytes of a number, the highest one first. -/
def toBigEndian : Nat → Nat → List UInt8
  | 0, _ => []
  | width + 1, n => UInt8.ofNat (n / 256 ^ width) :: toBigEndian width n

/-- The header that `setup_response_header` writes in front of a payload. -/
def setupResponseHeader (payloadType : UInt16) (size : Nat) : List UInt8 :=
  [sdpProtocolVersion, sdpInverseProtocolVersion] ++ toBigEndian 2 payloadType.toNat ++ toBigEndian 4 size

end LibIso15118
