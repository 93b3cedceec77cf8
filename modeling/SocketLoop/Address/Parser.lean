import SocketLoop.Address.Basic
import SocketLoop.Text.Number
import SocketLoop.Text.Quoted

/-!
# Reading addresses

The whole text has to be an address: `none`, `v4:port`, `[v6]:port` or `[v6%scope]:port`.

* An IPv4 text is four octets separated by dots; an octet has at most three digits and no leading
  zero.
* A port has any number of decimal digits and is at most 65535; a scope is at most 4294967295 and is
  checked, then dropped.
* An IPv6 text is eight groups separated by colons, or fewer groups with one gap `::` that stands
  for at least one zero group. The last two groups may be written as an IPv4 text.

The reader cuts the text at its separators and reads the pieces. Cutting is unambiguous because no
piece contains its separator, and a gap is cut at the first `::`, so that a second one leaves an
empty piece behind, which no group matches.
-/

namespace SocketLoop

open Text

/-! ## IPv4 -/

namespace IPv4

/-- One octet: at most three digits, without a leading zero. -/
def readOctet (cs : List Char) : Option UInt8 :=
  if 3 < cs.length ∨ (cs.head? = some '0' ∧ cs ≠ ['0']) then none
  else (readNumber 10 cs).bind fun n => if n < 256 then some (UInt8.ofNat n) else none

/-- Four octets separated by dots. -/
def read (cs : List Char) : Option IPv4 :=
  match (cs.splitOn '.').mapM readOctet with
  | some [a, b, c, d] => some ⟨a, b, c, d⟩
  | _ => none

end IPv4

/-! ## IPv6 -/

namespace IPv6

/-- One group: at most four hexadecimal digits. -/
def readGroup (cs : List Char) : Option UInt16 :=
  if 4 < cs.length then none else (readNumber 16 cs).map UInt16.ofNat

/-- The groups written by a list of pieces. Where `dotted` allows it, the last piece may be an IPv4
text, which stands for two groups. -/
def readPieces (dotted : Bool) : List (List Char) → Option (List UInt16)
  | [] => some []
  | [piece] =>
    match readGroup piece with
    | some g => some [g]
    | none => if dotted then (IPv4.read piece).map IPv4.groups else none
  | piece :: pieces => do
    let g ← readGroup piece
    let gs ← readPieces dotted pieces
    return g :: gs

/-- The groups on one side of a gap; a side may be empty. -/
def readSide (dotted : Bool) (cs : List Char) : Option (List UInt16) :=
  if cs.isEmpty then some [] else readPieces dotted (cs.splitOn ':')

/-- What stands before and after the first `::`, if there is one. -/
def cutAtGap : List Char → Option (List Char × List Char)
  | ':' :: ':' :: rest => some ([], rest)
  | c :: rest => (cutAtGap rest).map fun (left, right) => (c :: left, right)
  | [] => none

/-- The eight groups made of both sides of a gap; the gap has room for at least one group. -/
def fillGap (left right : List UInt16) : Option IPv6 :=
  let given := left.length + right.length
  if given ≤ 7 then ofGroups? (left ++ List.replicate (8 - given) 0 ++ right) else none

/-- A host address without brackets. -/
def read (cs : List Char) : Option IPv6 :=
  match cutAtGap cs with
  | none => (readPieces true (cs.splitOn ':')).bind ofGroups?
  | some (left, right) => do
    let left ← readSide false left
    let right ← readSide true right
    fillGap left right

end IPv6

/-! ## Host and transport addresses -/

/-- A port: any number of digits, at most 65535. -/
def readPort (cs : List Char) : Option UInt16 :=
  (readNumber 10 cs).bind fun n => if n < 65536 then some (UInt16.ofNat n) else none

/-- A scope: any number of digits, at most 4294967295. -/
def readScope (cs : List Char) : Option UInt32 :=
  (readNumber 10 cs).bind fun n => if n < 4294967296 then some (UInt32.ofNat n) else none

/-- What stands between the brackets: a host address, with or without a scope. -/
def readBracketed (cs : List Char) : Option IPv6 :=
  match cs.splitOn '%' with
  | [host] => IPv6.read host
  | [host, scope] => (readScope scope).bind fun _ => IPv6.read host
  | _ => none

namespace Address

/-- An IPv4 address and a port. -/
def readV4 (cs : List Char) : Option Address :=
  match cs.splitOn ':' with
  | [host, port] => do
    let ip ← IPv4.read host
    let port ← readPort port
    return .v4 ip port
  | _ => Option.none

/-- A bracketed IPv6 address and a port. -/
def readV6 (cs : List Char) : Option Address :=
  match cs with
  | '[' :: rest =>
    match rest.splitOn ']' with
    | [inside, ':' :: port] => do
      let ip ← readBracketed inside
      let port ← readPort port
      return .v6 ip port
    | _ => Option.none
  | _ => Option.none

/-- Any transport address. -/
def read (cs : List Char) : Option Address :=
  if cs = "none".toList then some .none
  else match readV4 cs with
    | some addr => some addr
    | Option.none => readV6 cs

/-- A text that is no transport address; the text is kept as it was given. -/
structure SyntaxFailure where
  text : String
  deriving DecidableEq, Repr

/-- The message quotes the offending text. -/
def SyntaxFailure.message (failure : SyntaxFailure) : String :=
  "invalid transport address syntax: " ++ quote failure.text

/-- Reads a transport address, or reports the text it could not read. -/
def parse (text : String) : Except SyntaxFailure Address :=
  match read text.toList with
  | some addr => .ok addr
  | Option.none => .error ⟨text⟩

end Address

end SocketLoop
