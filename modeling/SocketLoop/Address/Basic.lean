/-!
# Transport addresses

An address is an IPv4 or IPv6 host address with a port, or nothing at all. Host addresses are
records of their octets or groups, so that equality is decidable and a well-formed value has the
right number of parts by construction; `IPv4.octets`, `IPv6.groups` and `IPv6.octets` are the list
views that the text and the byte layouts are stated over.
-/

namespace SocketLoop

/-- An IPv4 host address, first octet first. -/
structure IPv4 where
  a : UInt8
  b : UInt8
  c : UInt8
  d : UInt8
  deriving DecidableEq, Repr

/-- An IPv6 host address, first group first. -/
structure IPv6 where
  g0 : UInt16
  g1 : UInt16
  g2 : UInt16
  g3 : UInt16
  g4 : UInt16
  g5 : UInt16
  g6 : UInt16
  g7 : UInt16
  deriving DecidableEq, Repr

/-- The two address families that sockets are opened in. -/
inductive AddressFamily
  | ipv4
  | ipv6
  deriving DecidableEq, Repr

/-! ## Big-endian pairs of bytes -/

/-- The high and the low byte of a 16-bit word. -/
def wordBytes (w : UInt16) : List UInt8 :=
  [UInt8.ofNat (w.toNat / 256), UInt8.ofNat (w.toNat % 256)]

/-- The 16-bit word with the given high and low byte. -/
def wordOfBytes (high low : UInt8) : UInt16 :=
  UInt16.ofNat (high.toNat * 256 + low.toNat)

theorem wordOfBytes_wordBytes (w : UInt16) :
    wordOfBytes (UInt8.ofNat (w.toNat / 256)) (UInt8.ofNat (w.toNat % 256)) = w := by
  have h := w.toNat_lt
  apply UInt16.toNat_inj.1
  simp only [wordOfBytes, UInt16.toNat_ofNat', UInt8.toNat_ofNat']
  omega

theorem wordBytes_wordOfBytes (high low : UInt8) :
    wordBytes (wordOfBytes high low) = [high, low] := by
  have hh := high.toNat_lt
  have hl := low.toNat_lt
  simp only [wordBytes, wordOfBytes, UInt16.toNat_ofNat', List.cons.injEq, and_true]
  constructor <;> (apply UInt8.toNat_inj.1; simp only [UInt8.toNat_ofNat']; omega)

/-! ## List views -/

namespace IPv4

/-- The octets in the order in which they are written and sent. -/
def octets (ip : IPv4) : List UInt8 :=
  [ip.a, ip.b, ip.c, ip.d]

/-- The address as the last two groups of an IPv6 address. -/
def groups (ip : IPv4) : List UInt16 :=
  [wordOfBytes ip.a ip.b, wordOfBytes ip.c ip.d]

/-- The IPv4 address held in two groups. -/
def ofGroups (high low : UInt16) : IPv4 where
  a := UInt8.ofNat (high.toNat / 256)
  b := UInt8.ofNat (high.toNat % 256)
  c := UInt8.ofNat (low.toNat / 256)
  d := UInt8.ofNat (low.toNat % 256)

end IPv4

namespace IPv6

/-- The eight groups in the order in which they are written. -/
def groups (ip : IPv6) : List UInt16 :=
  [ip.g0, ip.g1, ip.g2, ip.g3, ip.g4, ip.g5, ip.g6, ip.g7]

/-- The address with exactly these groups, if there are eight. -/
def ofGroups? : List UInt16 → Option IPv6
  | [g0, g1, g2, g3, g4, g5, g6, g7] => some ⟨g0, g1, g2, g3, g4, g5, g6, g7⟩
  | _ => none

theorem ofGroups?_groups (ip : IPv6) : ofGroups? ip.groups = some ip := rfl

/-- The sixteen octets in network order. -/
def octets (ip : IPv6) : List UInt8 :=
  ip.groups.flatMap wordBytes

/-- The address whose octets are read by `byte`, from position zero on. -/
def ofOctets (byte : Nat → UInt8) : IPv6 where
  g0 := wordOfBytes (byte 0) (byte 1)
  g1 := wordOfBytes (byte 2) (byte 3)
  g2 := wordOfBytes (byte 4) (byte 5)
  g3 := wordOfBytes (byte 6) (byte 7)
  g4 := wordOfBytes (byte 8) (byte 9)
  g5 := wordOfBytes (byte 10) (byte 11)
  g6 := wordOfBytes (byte 12) (byte 13)
  g7 := wordOfBytes (byte 14) (byte 15)

/-- The embedded IPv4 address, if this is an IPv4-mapped address. -/
def mapped? (ip : IPv6) : Option IPv4 :=
  if ip.g0 = 0 ∧ ip.g1 = 0 ∧ ip.g2 = 0 ∧ ip.g3 = 0 ∧ ip.g4 = 0 ∧ ip.g5 = 0xffff then
    some (IPv4.ofGroups ip.g6 ip.g7)
  else none

end IPv6

/-! ## Host and transport addresses -/

/-- A host address of either family, or the invalid one. -/
inductive IpAddress
  | invalid
  | v4 (ip : IPv4)
  | v6 (ip : IPv6)
  deriving DecidableEq, Repr

/-- A host address with a port, or no address. -/
inductive Address
  | none
  | v4 (ip : IPv4) (port : UInt16)
  | v6 (ip : IPv6) (port : UInt16)
  deriving DecidableEq, Repr

namespace IpAddress

/-- The family, if the address is valid. -/
def family? : IpAddress → Option AddressFamily
  | invalid => none
  | v4 _ => some .ipv4
  | v6 _ => some .ipv6

/-- Whether there is a host address. -/
def isValid (ip : IpAddress) : Bool :=
  ip.family?.isSome

/-- The transport address of a port on this host; the invalid host has none. -/
def withPort (ip : IpAddress) (port : UInt16) : Address :=
  match ip with
  | invalid => .none
  | v4 ip => .v4 ip port
  | v6 ip => .v6 ip port

end IpAddress

namespace Address

/-- The host part. -/
def ip : Address → IpAddress
  | none => .invalid
  | v4 ip _ => .v4 ip
  | v6 ip _ => .v6 ip

/-- The port, if there is an address. -/
def port? : Address → Option UInt16
  | none => .none
  | v4 _ port => some port
  | v6 _ port => some port

/-- The family, if there is an address. -/
def family? (addr : Address) : Option AddressFamily :=
  addr.ip.family?

/-- Whether there is no address. -/
def isNone (addr : Address) : Bool :=
  addr.port?.isNone

/-- An IPv6 endpoint that also carries a flow label and a scope; neither is kept. -/
def ofScoped (ip : IPv6) (port : UInt16) (_flowInfo _scopeId : UInt32) : Address :=
  .v6 ip port

end Address

end SocketLoop
