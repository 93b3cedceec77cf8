import SocketLoop.Address.Printer
import SocketLoop.Proofs.Address.Reading

/-!
# Addresses survive being written and read

The writer is compared with the grammar and not with the reader: what is written for an address
spells it (`Address.spells_text`), and the reader accepts whatever spells an address.

* Numerals are written without leading zeros, so that octets and groups are short enough.
* `IPv6.take_longestRun`: the run that a gap is written for consists of zero groups, wherever it
  stands. The groups before it, as many zeros as it is long, and the groups behind it are all
  groups, and that is what the grammar asks of a gap.
* An IPv4-mapped address is written with a gap for its five zero groups and its last two groups in
  dotted form.

**`Address.parse_display`**: the text of an address is parsed as that address, and so different
addresses have different texts.
-/

namespace SocketLoop

open Text

/-! ## IPv4 -/

namespace IPv4

/-- An octet is written as a text of it. -/
theorem octetText_digits (octet : UInt8) : OctetText (digits 10 octet.toNat) octet := by
  have hlt := octet.toNat_lt
  refine ⟨numeral_digits (by decide) (by decide) _, ?_, fun hzero => ?_⟩
  · exact (Nat.length_toDigits_le_iff (by decide) (by decide)).2 (by omega)
  · by_cases hpos : 0 < octet.toNat
    · exact absurd hzero (head?_digits_ne_zero (by decide) hpos)
    · rw [Nat.eq_zero_of_not_pos hpos]
      rfl

/-- **An IPv4 address is written** as a text that spells it. -/
theorem spells_text (ip : IPv4) : Spells ip.text ip := by
  have hspells : Spells _ ip := .dotted (octetText_digits ip.a) (octetText_digits ip.b)
    (octetText_digits ip.c) (octetText_digits ip.d)
  simpa [text, octets, List.intercalate_cons_cons] using hspells

end IPv4

/-! ## IPv6 -/

namespace IPv6

/-- A group is written as a text of it. -/
theorem groupText_digits (group : UInt16) : GroupText (digits 16 group.toNat) group := by
  have hlt := group.toNat_lt
  refine ⟨numeral_digits (by decide) (by decide) _, ?_⟩
  exact (Nat.length_toDigits_le_iff (by decide) (by decide)).2 (by omega)

/-- Groups are written as a text of them. -/
theorem groupsText_of_ne_nil {dotted : Bool} {groups : List UInt16} (hne : groups ≠ []) :
    GroupsText dotted (groupsText groups) groups := by
  induction groups with
  | nil => exact absurd rfl hne
  | cons group later ih =>
    unfold groupsText at ih ⊢
    rw [List.map_cons]
    by_cases hlater : later = []
    · rw [hlater, List.map_nil, List.intercalate_singleton]
      exact .single (groupText_digits group)
    · rw [List.intercalate_cons_of_ne_nil (mt List.map_eq_nil_iff.1 hlater), List.append_assoc]
      exact .cons (groupText_digits group) (ih hlater)

/-- So is one side of a gap. -/
theorem sideText_groupsText (dotted : Bool) (groups : List UInt16) :
    SideText dotted (groupsText groups) groups := by
  by_cases hnil : groups = []
  · rw [hnil]
    exact .empty
  · exact .groups (groupsText_of_ne_nil hnil)

/-! ### The longest run -/

/-- A list starts with as many zero groups as are counted. -/
theorem take_zeroRun (groups : List UInt16) :
    groups.take (zeroRun groups) = List.replicate (zeroRun groups) 0 := by
  unfold zeroRun
  induction groups with
  | nil => rfl
  | cons group later ih =>
    rw [List.takeWhile_cons]
    by_cases hzero : (group == 0) = true
    · rw [if_pos hzero, List.length_cons, List.take_succ_cons, ih, eq_of_beq hzero]
      rfl
    · rw [if_neg hzero]
      rfl

/-- **The longest run consists of zero groups**, wherever it starts. -/
theorem take_longestRun (groups : List UInt16) :
    (groups.drop (longestRun groups).1).take (longestRun groups).2 =
      List.replicate (longestRun groups).2 0 := by
  induction groups with
  | nil => rfl
  | cons group later ih =>
    unfold longestRun
    dsimp only
    split
    · exact take_zeroRun (group :: later)
    · exact ih

/-- All groups are those before the longest run, its zeros, and those behind it. -/
theorem around_longestRun (groups : List UInt16) :
    groups = groups.take (longestRun groups).1 ++ List.replicate (longestRun groups).2 0 ++
      groups.drop ((longestRun groups).1 + (longestRun groups).2) := by
  rw [← take_longestRun, ← List.drop_drop, List.append_assoc, List.take_append_drop,
    List.take_append_drop]

/-- Groups with a gap, or without one, spell the address that has them. -/
theorem spells_compressedText (ip : IPv6) : Spells (compressedText ip.groups) ip := by
  have haround := around_longestRun ip.groups
  unfold compressedText
  dsimp only
  -- What matters is what stands around the run, not how it is found.
  generalize longestRun ip.groups = run at haround ⊢
  split
  · rename_i hrun
    have hfilled : 1 ≤ run.2 := Nat.le_of_succ_le hrun
    rw [List.append_assoc]
    exact .gap (sideText_groupsText false _) (sideText_groupsText true _) hfilled haround
  · exact .full (groupsText_of_ne_nil (List.cons_ne_nil _ _))

/-! ### Mapped addresses -/

/-- Two groups are the groups of the IPv4 address that they hold. -/
theorem groups_ofGroups (high low : UInt16) : (IPv4.ofGroups high low).groups = [high, low] := by
  unfold IPv4.groups IPv4.ofGroups
  rw [wordOfBytes_wordBytes, wordOfBytes_wordBytes]

/-- A mapped address is five zero groups, a group of ones, and its IPv4 address. -/
theorem groups_of_mapped? {ip : IPv6} {v4 : IPv4} (h : ip.mapped? = some v4) :
    ip.groups = [] ++ List.replicate 5 0 ++ 0xffff :: v4.groups := by
  unfold mapped? at h
  split at h
  · rename_i hzeros
    obtain ⟨h0, h1, h2, h3, h4, h5⟩ := hzeros
    rw [← Option.some.inj h, groups_ofGroups, groups, h0, h1, h2, h3, h4, h5]
    rfl
  · simp at h

/-- **An IPv6 address is written** as a text that spells it. -/
theorem spells_text (ip : IPv6) : Spells ip.text ip := by
  unfold text
  split
  · rename_i v4 hmapped
    have hones : GroupText "ffff".toList 0xffff := groupText_digits 0xffff
    have hright : GroupsText true ("ffff".toList ++ ':' :: v4.text) (0xffff :: v4.groups) :=
      .cons hones (.pair rfl (IPv4.spells_text v4))
    have hfilled : 1 ≤ 5 := by decide
    exact .gap .empty (.groups hright) hfilled (groups_of_mapped? hmapped)
  · exact spells_compressedText ip

end IPv6

/-! ## Transport addresses -/

namespace Address

/-- **An address is written** as a text that spells it. -/
theorem spells_text (addr : Address) : Spells addr.text addr := by
  have hport (port : UInt16) : Numeral 10 (digits 10 port.toNat) port.toNat :=
    numeral_digits (by decide) (by decide) _
  cases addr with
  | none => exact .absent
  | v4 ip port => exact .v4 (IPv4.spells_text ip) (hport port)
  | v6 ip port =>
    have hspells := Spells.v6 (.plain (IPv6.spells_text ip)) (hport port)
    simpa [text] using hspells

/-- **Writing an address and parsing the text** gives the address back, for every address. So no
two addresses have the same text. -/
theorem parse_display :
    (∀ addr : Address, parse addr.display = .ok addr) ∧
      ∀ a b : Address, a.display = b.display → a = b := by
  have hparse (addr : Address) : parse addr.display = .ok addr := by
    unfold parse display
    rw [String.toList_ofList, read_eq_some_iff.2 (spells_text addr)]
  refine ⟨hparse, fun a b hsame => ?_⟩
  have hboth : parse a.display = parse b.display := congrArg parse hsame
  rw [hparse a, hparse b] at hboth
  exact Except.ok.inj hboth

end Address

end SocketLoop
