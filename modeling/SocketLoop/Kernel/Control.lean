import SocketLoop.Address.Basic

/-!
# Control messages

A datagram can be accompanied by a control area: messages laid out back to back. Each message is a
header of sixteen bytes (its length with the header, eight bytes; a level, four bytes; a kind, four
bytes; all with the low byte first), a payload, and padding up to a multiple of eight.

The area is walked by its headers: the first one is there if the area has room for a header, the
next one stands at the padded length of the one before, and the walk stops where the next message
does not fit.

Two kinds of message tell the local address of a datagram. Received ones hold its destination; a
sent one asks for a source address. The layouts of the two payloads differ for IPv4: the destination
stands behind the source.
-/

namespace SocketLoop

/-- A number in `width` bytes, low byte first; higher bytes are dropped. -/
def littleEndian : Nat → Nat → List UInt8
  | 0, _ => []
  | width + 1, n => UInt8.ofNat (n % 256) :: littleEndian width (n / 256)

/-- The number held in bytes, low byte first. -/
def ofLittleEndian : List UInt8 → Nat
  | [] => 0
  | b :: bs => b.toNat + 256 * ofLittleEndian bs

/-- The next multiple of eight. -/
def alignEight (n : Nat) : Nat :=
  (n + 7) / 8 * 8

/-- A control message. -/
structure ControlMessage where
  level : UInt32
  kind : UInt32
  payload : List UInt8
  deriving DecidableEq, Repr

namespace ControlMessage

/-- The number of bytes of a header. -/
def headerLength : Nat := 16

/-- The number of bytes that a message takes, padding included. -/
def space (message : ControlMessage) : Nat :=
  headerLength + alignEight message.payload.length

/-- A message in bytes. -/
def encode (message : ControlMessage) : List UInt8 :=
  littleEndian 8 (headerLength + message.payload.length) ++ littleEndian 4 message.level.toNat ++
    littleEndian 4 message.kind.toNat ++ message.payload ++
    List.replicate (alignEight message.payload.length - message.payload.length) 0

end ControlMessage

/-! ## Walking an area -/

/-- A message as it is found in an area: its header, and all bytes that follow the header. -/
structure FoundMessage where
  length : Nat
  level : UInt32
  kind : UInt32
  following : List UInt8
  deriving DecidableEq, Repr

namespace FoundMessage

/-- The message whose header stands at the front of some bytes. -/
def ofBytes (bytes : List UInt8) : FoundMessage where
  length := ofLittleEndian (bytes.take 8)
  level := UInt32.ofNat (ofLittleEndian ((bytes.drop 8).take 4))
  kind := UInt32.ofNat (ofLittleEndian ((bytes.drop 12).take 4))
  following := bytes.drop ControlMessage.headerLength

/-- A byte of the payload; beyond the area there are zeros. -/
def payloadByte (found : FoundMessage) (i : Nat) : UInt8 :=
  found.following.getD i 0

/-- The message with the payload that its length states. -/
def message (found : FoundMessage) : ControlMessage :=
  ⟨found.level, found.kind, found.following.take (found.length - ControlMessage.headerLength)⟩

end FoundMessage

/-- Where the message after the one at the front of `bytes` starts. -/
def afterMessage (bytes : List UInt8) : List UInt8 :=
  bytes.drop (alignEight (FoundMessage.ofBytes bytes).length)

/-- Whether some bytes have room for a header and for the message that it announces. -/
def holdsMessage (bytes : List UInt8) : Bool :=
  ControlMessage.headerLength ≤ bytes.length &&
    alignEight (FoundMessage.ofBytes bytes).length ≤ bytes.length

theorem le_alignEight (n : Nat) : n ≤ alignEight n := by
  unfold alignEight
  omega

/-- The messages from the header at the front of `bytes` on. -/
def walkMessages (bytes : List UInt8) : List FoundMessage :=
  if _h : ControlMessage.headerLength ≤ (FoundMessage.ofBytes bytes).length ∧
      holdsMessage (afterMessage bytes) = true then
    FoundMessage.ofBytes bytes :: walkMessages (afterMessage bytes)
  else [FoundMessage.ofBytes bytes]
termination_by bytes.length
decreasing_by
  -- the front message takes at least a header, and a header is left after it
  obtain ⟨hlen, hnext⟩ := _h
  have hle := le_alignEight (FoundMessage.ofBytes bytes).length
  simp only [holdsMessage, Bool.and_eq_true, decide_eq_true_eq] at hnext
  have hroom := hnext.1
  simp only [afterMessage, List.length_drop, ControlMessage.headerLength] at *
  omega

/-- The messages of a control area. -/
def controlMessages (area : List UInt8) : List FoundMessage :=
  if area.length < ControlMessage.headerLength then [] else walkMessages area

/-! ## Local addresses -/

/-- Level and kind of a message with a local IPv4 address. -/
def ipv4InfoKind : UInt32 × UInt32 := (0, 8)

/-- Level and kind of a message with a local IPv6 address. -/
def ipv6InfoKind : UInt32 × UInt32 := (41, 50)

/-- The destination address that a message tells, if it is of either kind. -/
def FoundMessage.destination? (found : FoundMessage) : Option IpAddress :=
  let byte := found.payloadByte
  if (found.level, found.kind) = ipv4InfoKind then some (.v4 ⟨byte 8, byte 9, byte 10, byte 11⟩)
  else if (found.level, found.kind) = ipv6InfoKind then
    some (.v6 (IPv6.ofOctets byte))
  else none

/-- The destination address of a datagram: what the last telling message says. -/
def destinationOf (area : List UInt8) : IpAddress :=
  (controlMessages area).foldl (fun local_ found => found.destination?.getD local_) .invalid

/-- The message that asks for a source address; the invalid address asks for none. -/
def sourceMessage? : IpAddress → Option ControlMessage
  | .invalid => none
  | .v4 ip =>
    some ⟨ipv4InfoKind.1, ipv4InfoKind.2, List.replicate 4 0 ++ ip.octets ++ List.replicate 4 0⟩
  | .v6 ip => some ⟨ipv6InfoKind.1, ipv6InfoKind.2, ip.octets ++ List.replicate 4 0⟩

/-- The control area that asks for a source address. -/
def sourceArea (source : IpAddress) : List UInt8 :=
  (sourceMessage? source).elim [] ControlMessage.encode

/-! ## Areas of limited size -/

/-- The room for control messages of a received datagram. -/
def controlRoom : Nat := 64

/-- Messages laid out in order; the first one that does not fit is lost with all that follow. -/
def layOutControl (room : Nat) : List ControlMessage → List UInt8
  | [] => []
  | message :: messages =>
    if message.space ≤ room then message.encode ++ layOutControl (room - message.space) messages
    else []

end SocketLoop
