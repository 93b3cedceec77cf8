import SocketLoop.Address.Basic

/-!
# Addresses in the layout of the kernel

The kernel takes and returns an address as a block of bytes together with the length that it
reports. The first two bytes hold the family, low byte first, whatever the length says.

* IPv4, 16 bytes: family 2, port (high byte first), four octets, eight bytes of padding.
* IPv6, 28 bytes: family 10, port (high byte first), four bytes of flow label, sixteen octets, four
  bytes of scope.

Reading ignores padding, flow label and scope, and writing sets them to zero, so a block survives
reading and writing up to exactly those bytes. A block of another family, or with a length that does
not fit its family, is refused.
-/

namespace SocketLoop

/-- A block of bytes from the kernel. Bytes that `storage` does not list are zero; `length` is the
length that was reported, which need not be the number of bytes listed. -/
structure NativeAddress where
  storage : List UInt8
  length : Nat
  deriving DecidableEq, Repr

namespace NativeAddress

/-- A block with the reported length that its bytes have. -/
def ofBytes (bytes : List UInt8) : NativeAddress :=
  ⟨bytes, bytes.length⟩

/-- The byte at a position. -/
def byteAt (native : NativeAddress) (i : Nat) : UInt8 :=
  native.storage.getD i 0

/-- The bytes within the reported length. -/
def octets (native : NativeAddress) : List UInt8 :=
  (List.range native.length).map native.byteAt

/-- The number of the family. -/
def family (native : NativeAddress) : Nat :=
  (native.byteAt 0).toNat + 256 * (native.byteAt 1).toNat

/-- The port, which both layouts keep in the same place. -/
def port (native : NativeAddress) : UInt16 :=
  wordOfBytes (native.byteAt 2) (native.byteAt 3)

end NativeAddress

/-- The family number of IPv4. -/
def ipv4FamilyNumber : Nat := 2

/-- The family number of IPv6. -/
def ipv6FamilyNumber : Nat := 10

/-- The number of bytes of an IPv4 block. -/
def ipv4NativeLength : Nat := 16

/-- The number of bytes of an IPv6 block. -/
def ipv6NativeLength : Nat := 28

/-- The name of a family number in messages; families without a name show the number. -/
def familyNumberName (number : Nat) : String :=
  match number with
  | 0 => "AF_UNSPEC"
  | 1 => "AF_UNIX"
  | 2 => "AF_INET"
  | 10 => "AF_INET6"
  | 17 => "AF_PACKET"
  | 40 => "AF_VSOCK"
  | number => toString number

/-- Why a block is no transport address. -/
inductive NativeFault
  | wrongLength (family : AddressFamily) (length : Nat)
  | unsupportedFamily (number : Nat)
  deriving DecidableEq, Repr

namespace Address

/-- The block of an address; there is none for the absent address. -/
def toNative : Address → Option NativeAddress
  | none => Option.none
  | v4 ip port =>
    some (.ofBytes ([2, 0] ++ wordBytes port ++ ip.octets ++ List.replicate 8 0))
  | v6 ip port =>
    some (.ofBytes
      ([10, 0] ++ wordBytes port ++ List.replicate 4 0 ++ ip.octets ++ List.replicate 4 0))

/-- The address in a block. -/
def ofNative (native : NativeAddress) : Except NativeFault Address :=
  if native.family = ipv4FamilyNumber then
    if native.length = ipv4NativeLength then
      .ok (.v4 ⟨native.byteAt 4, native.byteAt 5, native.byteAt 6, native.byteAt 7⟩ native.port)
    else .error (.wrongLength .ipv4 native.length)
  else if native.family = ipv6FamilyNumber then
    if native.length = ipv6NativeLength then
      .ok (.v6 (IPv6.ofOctets fun i => native.byteAt (8 + i)) native.port)
    else .error (.wrongLength .ipv6 native.length)
  else .error (.unsupportedFamily native.family)

end Address

end SocketLoop
