import SocketLoop.Address.Basic
import SocketLoop.Text.Number

/-!
# The text of an address

* IPv4: four decimal octets separated by dots.
* IPv6: an IPv4-mapped address shows its IPv4 part in dotted form. Every other address shows its
  groups in hexadecimal; of the runs of two or more zero groups the longest, and among equals the
  first, is written as a gap `::`. A single zero group is never a gap.
* With a port: `a.b.c.d:port` and `[v6]:port`, and `none` where there is no address.

`longestRun` finds the gap by recursion on the groups: at equal length the run that starts earlier
wins, so a run beats its own tails.
-/

namespace SocketLoop

open Text

/-! ## IPv4 -/

/-- Dotted decimal octets. -/
def IPv4.text (ip : IPv4) : List Char :=
  ['.'].intercalate (ip.octets.map fun o => digits 10 o.toNat)

/-! ## IPv6 -/

namespace IPv6

/-- How many zero groups the list starts with. -/
def zeroRun (groups : List UInt16) : Nat :=
  (groups.takeWhile (· == 0)).length

/-- The start and the length of the longest run of zero groups, the first one among equals. -/
def longestRun : List UInt16 → Nat × Nat
  | [] => (0, 0)
  | g :: gs =>
    let here := zeroRun (g :: gs)
    let later := longestRun gs
    if later.2 ≤ here then (0, here) else (later.1 + 1, later.2)

/-- Groups in hexadecimal, separated by colons. -/
def groupsText (groups : List UInt16) : List Char :=
  [':'].intercalate (groups.map fun g => digits 16 g.toNat)

/-- Groups with the longest run of zeros left out, if that run has at least two groups. -/
def compressedText (groups : List UInt16) : List Char :=
  let run := longestRun groups
  if 2 ≤ run.2 then
    groupsText (groups.take run.1) ++ "::".toList ++ groupsText (groups.drop (run.1 + run.2))
  else groupsText groups

/-- The text of a host address, without brackets. -/
def text (ip : IPv6) : List Char :=
  match ip.mapped? with
  | some v4 => "::ffff:".toList ++ v4.text
  | none => compressedText ip.groups

end IPv6

/-! ## Host and transport addresses -/

/-- The text of a host address; the invalid one is written as a word. -/
def IpAddress.text : IpAddress → List Char
  | .invalid => "invalid".toList
  | .v4 ip => ip.text
  | .v6 ip => ip.text

namespace Address

/-- The text of a transport address. -/
def text : Address → List Char
  | .none => "none".toList
  | .v4 ip port => ip.text ++ ':' :: digits 10 port.toNat
  | .v6 ip port => '[' :: ip.text ++ "]:".toList ++ digits 10 port.toNat

/-- The text as a string. -/
def display (addr : Address) : String :=
  String.ofList addr.text

/-- The text of the socket address that stands behind this one, if there is an address. -/
def socketText? (addr : Address) : Option String :=
  if addr.isNone then Option.none else some addr.display

end Address

/-- The text as a string. -/
def IpAddress.display (ip : IpAddress) : String :=
  String.ofList ip.text

/-- The text of the host address that stands behind this one, if it is valid. -/
def IpAddress.hostText? (ip : IpAddress) : Option String :=
  if ip.isValid then some ip.display else none

/-- The name of a family in lower case. -/
def AddressFamily.name : AddressFamily → String
  | .ipv4 => "ipv4"
  | .ipv6 => "ipv6"

end SocketLoop
