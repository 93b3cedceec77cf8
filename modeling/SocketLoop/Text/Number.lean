/-!
# Numbers in positional notation

Addresses are written with decimal and hexadecimal numbers. Both directions work on lists of
characters, so that the reader and the writer can be compared by induction:

* `digits base n` writes `n` without leading zeros, in lower case;
* `readNumber base cs` reads a non-empty list of digits of either case and refuses everything else,
  digits outside ASCII included. It accepts leading zeros and any length; the bounds that a field
  sets are checked by the reader of that field.
-/

namespace SocketLoop.Text

/-- The value of a character as a digit of `base`; letters count from ten, in either case. -/
def digitValue? (base : Nat) (c : Char) : Option Nat :=
  let value? :=
    if '0' ≤ c ∧ c ≤ '9' then some (c.toNat - '0'.toNat)
    else if 'a' ≤ c ∧ c ≤ 'f' then some (c.toNat - 'a'.toNat + 10)
    else if 'A' ≤ c ∧ c ≤ 'F' then some (c.toNat - 'A'.toNat + 10)
    else none
  value?.filter (· < base)

/-- Continues a number `acc` by further digits, the most significant first. -/
def readDigits (base acc : Nat) : List Char → Option Nat
  | [] => some acc
  | c :: cs => (digitValue? base c).bind fun d => readDigits base (acc * base + d) cs

/-- Reads one or more digits. -/
def readNumber (base : Nat) : List Char → Option Nat
  | [] => none
  | c :: cs => readDigits base 0 (c :: cs)

/-- Writes a number without leading zeros; zero itself is one digit. -/
def digits (base n : Nat) : List Char :=
  Nat.toDigits base n

/-- A number in lower-case hexadecimal. -/
def hex (n : Nat) : String :=
  String.ofList (digits 16 n)

end SocketLoop.Text
