import SocketLoop.Address.Basic
import SocketLoop.Proofs.Text.Numeral

/-!
# The grammar of addresses

Which texts denote an address, and which one, said by what the texts are made of. A text is put
together from numerals and separators; nothing is said about how it is to be read.

* `IPv4.Spells`: four octets with dots between them.
* `IPv6.Spells`: eight groups with colons between them, of which the last two may be written as an
  IPv4 text; or groups with one gap `::` among them, which stands for one zero group at least.
* `IPv6.Bracketed`: an IPv6 text that may carry a scope, which does not belong to the address.
* `Address.Spells`: `none`, or a host and a port, where an IPv6 host stands in brackets.

A text can be cut at a character that does not occur in its pieces: the `subset` lemmas say which
ones do.
-/

namespace SocketLoop

open Text

/-! ## IPv4 -/

namespace IPv4

/-- An octet in decimal: at most three digits, and no zero in front of others. -/
structure OctetText (cs : List Char) (octet : UInt8) : Prop where
  numeral : Numeral 10 cs octet.toNat
  short : cs.length ≤ 3
  unpadded : cs.head? = some '0' → cs = ['0']

/-- Four octets with dots between them. -/
inductive Spells : List Char → IPv4 → Prop
  | dotted {a b c d : List Char} {ip : IPv4} (first : OctetText a ip.a) (second : OctetText b ip.b)
      (third : OctetText c ip.c) (fourth : OctetText d ip.d) :
      Spells (a ++ '.' :: (b ++ '.' :: (c ++ '.' :: d))) ip

/-- An IPv4 text has nothing but digits and dots. -/
theorem Spells.subset {cs : List Char} {ip : IPv4} (h : Spells cs ip) : cs ⊆ '.' :: digitChars := by
  obtain ⟨first, second, third, fourth⟩ := h
  have hoctet {text later : List Char} {octet : UInt8} (htext : OctetText text octet)
      (hlater : later ⊆ '.' :: digitChars) : text ++ '.' :: later ⊆ '.' :: digitChars := by
    apply List.append_subset.2
    constructor
    · exact List.Subset.trans htext.numeral.subset (List.subset_cons_self _ _)
    · exact List.cons_subset.2 ⟨List.mem_cons_self, hlater⟩
  apply hoctet first
  apply hoctet second
  apply hoctet third
  exact List.Subset.trans fourth.numeral.subset (List.subset_cons_self _ _)

/-- An IPv4 text has a dot. -/
theorem Spells.dot_mem {cs : List Char} {ip : IPv4} (h : Spells cs ip) : '.' ∈ cs := by
  obtain ⟨_, _, _, _⟩ := h
  exact List.mem_append_right _ List.mem_cons_self

end IPv4

/-! ## IPv6 -/

namespace IPv6

/-- A group in hexadecimal: at most four digits. -/
structure GroupText (cs : List Char) (group : UInt16) : Prop where
  numeral : Numeral 16 cs group.toNat
  short : cs.length ≤ 4

/-- Groups with colons between them. Where `dotted` allows it, the last two may be written as an
IPv4 text. -/
inductive GroupsText (dotted : Bool) : List Char → List UInt16 → Prop
  | single {cs : List Char} {group : UInt16} (text : GroupText cs group) :
      GroupsText dotted cs [group]
  | pair {cs : List Char} {ip : IPv4} (isAllowed : dotted = true) (text : IPv4.Spells cs ip) :
      GroupsText dotted cs ip.groups
  | cons {cs later : List Char} {group : UInt16} {groups : List UInt16}
      (text : GroupText cs group) (rest : GroupsText dotted later groups) :
      GroupsText dotted (cs ++ ':' :: later) (group :: groups)

/-- The groups on one side of a gap, which may be none. -/
inductive SideText (dotted : Bool) : List Char → List UInt16 → Prop
  | empty : SideText dotted [] []
  | groups {cs : List Char} {groups : List UInt16} (text : GroupsText dotted cs groups) :
      SideText dotted cs groups

/-- Eight groups, all of them written, or with a gap that stands for some zero groups. -/
inductive Spells : List Char → IPv6 → Prop
  | full {cs : List Char} {ip : IPv6} (text : GroupsText true cs ip.groups) : Spells cs ip
  | gap {left right : List Char} {before after : List UInt16} {zeros : Nat} {ip : IPv6}
      (leftText : SideText false left before) (rightText : SideText true right after)
      (isFilled : 1 ≤ zeros) (groups_eq : ip.groups = before ++ List.replicate zeros 0 ++ after) :
      Spells (left ++ ':' :: ':' :: right) ip

/-- All characters that occur in IPv6 texts. -/
def textChars : List Char :=
  ':' :: '.' :: digitChars

/-- Numerals have their characters among them. -/
theorem GroupText.subset {cs : List Char} {group : UInt16} (h : GroupText cs group) :
    cs ⊆ textChars :=
  List.Subset.trans h.numeral.subset fun _ hc => List.mem_cons_of_mem _ (List.mem_cons_of_mem _ hc)

/-- Groups have nothing but digits, dots and colons. -/
theorem GroupsText.subset {dotted : Bool} {cs : List Char} {groups : List UInt16}
    (h : GroupsText dotted cs groups) : cs ⊆ textChars := by
  induction h with
  | single text => exact text.subset
  | pair isAllowed text => exact List.Subset.trans text.subset (List.subset_cons_self _ _)
  | cons text rest ih =>
    exact List.append_subset.2 ⟨text.subset, List.cons_subset.2 ⟨List.mem_cons_self, ih⟩⟩

/-- Neither has one side of a gap. -/
theorem SideText.subset {dotted : Bool} {cs : List Char} {groups : List UInt16}
    (h : SideText dotted cs groups) : cs ⊆ textChars := by
  cases h with
  | empty => exact List.nil_subset _
  | groups text => exact text.subset

/-- An IPv6 text has nothing but digits, dots and colons. -/
theorem Spells.subset {cs : List Char} {ip : IPv6} (h : Spells cs ip) : cs ⊆ textChars := by
  cases h with
  | full text => exact text.subset
  | gap leftText rightText isFilled groups_eq =>
    apply List.append_subset.2 ⟨leftText.subset, ?_⟩
    apply List.cons_subset.2 ⟨List.mem_cons_self, ?_⟩
    exact List.cons_subset.2 ⟨List.mem_cons_self, rightText.subset⟩

/-- What stands between the brackets: an IPv6 text, which may carry a scope. A scope is below
4294967296, however many digits it is written with. -/
inductive Bracketed : List Char → IPv6 → Prop
  | plain {cs : List Char} {ip : IPv6} (text : Spells cs ip) : Bracketed cs ip
  | withScope {host scopeText : List Char} {ip : IPv6} {scope : Nat} (hostText : Spells host ip)
      (isScope : Numeral 10 scopeText scope) (scope_lt : scope < 4294967296) :
      Bracketed (host ++ '%' :: scopeText) ip

/-- The text between the brackets has no bracket. -/
theorem Bracketed.subset {cs : List Char} {ip : IPv6} (h : Bracketed cs ip) :
    cs ⊆ '%' :: textChars := by
  cases h with
  | plain text => exact List.Subset.trans text.subset (List.subset_cons_self _ _)
  | withScope hostText isScope scope_lt =>
    apply List.append_subset.2 ⟨List.Subset.trans hostText.subset (List.subset_cons_self _ _), ?_⟩
    apply List.cons_subset.2 ⟨List.mem_cons_self, fun c hc => ?_⟩
    exact List.mem_cons_of_mem _ (List.mem_cons_of_mem _ (List.mem_cons_of_mem _
      (isScope.subset hc)))

end IPv6

/-! ## Transport addresses -/

/-- A host and a port, or the word for no address. A port is below 65536, however many digits it is
written with. -/
inductive Address.Spells : List Char → Address → Prop
  | absent : Spells "none".toList .none
  | v4 {host portText : List Char} {ip : IPv4} {port : UInt16} (hostText : IPv4.Spells host ip)
      (isPort : Numeral 10 portText port.toNat) :
      Spells (host ++ ':' :: portText) (.v4 ip port)
  | v6 {inside portText : List Char} {ip : IPv6} {port : UInt16}
      (insideText : IPv6.Bracketed inside ip) (isPort : Numeral 10 portText port.toNat) :
      Spells ('[' :: (inside ++ ']' :: ':' :: portText)) (.v6 ip port)

end SocketLoop
