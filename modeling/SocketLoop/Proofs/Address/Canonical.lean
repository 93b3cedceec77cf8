import SocketLoop.Proofs.Address.RoundTrip

/-!
# The canonical text of an IPv6 address

The grammar allows many texts for one address: a gap may be written for any zero groups or for none,
and digits may be in either case, with zeros in front. One of these texts is the canonical one, and
it is described here by what it consists of, without reference to the writer.

* `Text.PlainNumeral`: a number in lower case without zeros in front. There is one for each number
  (`Text.plainNumeral_iff`).
* `IPv6.IsLongestRun`: some zero groups in a row, of which there are nowhere more, and not as many
  further to the left. `IPv6.isLongestRun_longestRun`: the search finds them.
* `IPv6.Canonical`: an IPv4-mapped address has its IPv4 part in dotted form; another one has a gap
  for its longest run, if there are two zero groups in a row anywhere, and all other groups as plain
  numerals.
* **`IPv6.display_canonical`**: every address has exactly one canonical text, and that is the one
  that is displayed, alone or in the brackets in front of a port.
-/

namespace SocketLoop

/-! ## Plain numerals -/

namespace Text

variable {base : Nat}

/-- A numeral in lower case, with no zero in front of other digits. -/
structure PlainNumeral (base : Nat) (cs : List Char) (n : Nat) : Prop where
  numeral : Numeral base cs n
  isLower : cs ⊆ lowerDigits
  unpadded : cs.head? = some '0' → cs = ['0']

/-- A digit in lower case is the one that the writer writes. -/
theorem IsDigit.eq_digitChar {c : Char} {d : Nat} (h : IsDigit base c d) (hbase : base ≤ 16)
    (hlower : c ∈ lowerDigits) : c = d.digitChar := by
  have hlt : d < 16 := Nat.lt_of_lt_of_le h.lt_base hbase
  have hlowerDigits : ∀ d < 16, lowerDigits[d]? = some d.digitChar := by decide
  have hupperDigits : ∀ d < 16,
      upperDigits[d]? = some d.digitChar ∨ upperDigits[d]?.all (· ∉ lowerDigits) = true := by
    decide
  rcases h.listed with hlisted | hlisted
  · exact Option.some.inj (hlisted.symm.trans (hlowerDigits d hlt))
  · rcases hupperDigits d hlt with hsame | hother
    · exact Option.some.inj (hlisted.symm.trans hsame)
    · rw [hlisted, Option.all_some, decide_eq_true_eq] at hother
      exact absurd hlower hother

/-- Zero is written as one digit. -/
theorem digits_zero (hbase : 1 < base) : digits base 0 = ['0'] := by
  unfold digits
  rw [Nat.toDigits_eq_if hbase, if_pos (Nat.lt_trans Nat.zero_lt_one hbase)]
  rfl

/-- One more digit behind a number that is not zero. -/
theorem digits_snoc (hbase : 1 < base) {n d : Nat} (hn : 0 < n) (hd : d < base) :
    digits base (n * base + d) = digits base n ++ [d.digitChar] := by
  have hpos : 0 < base := Nat.lt_trans Nat.zero_lt_one hbase
  have hlarge : ¬ n * base + d < base := by
    have hle : base ≤ n * base := Nat.le_mul_of_pos_left base hn
    omega
  have hdiv : (n * base + d) / base = n := by
    rw [Nat.mul_comm, Nat.mul_add_div hpos, Nat.div_eq_of_lt hd, Nat.add_zero]
  have hmod : (n * base + d) % base = d := by
    rw [Nat.mul_add_mod_self_right, Nat.mod_eq_of_lt hd]
  unfold digits
  rw [Nat.toDigits_eq_if hbase, if_neg hlarge, hdiv, hmod]

/-- **A plain numeral is what the writer writes** for its number. -/
theorem PlainNumeral.eq_digits {cs : List Char} {n : Nat} (h : PlainNumeral base cs n)
    (hbase : 1 < base) (hlisted : base ≤ 16) : cs = digits base n := by
  obtain ⟨hnumeral, hlower, hunpadded⟩ := h
  induction hnumeral with
  | @digit c d isDigit =>
    have hc := isDigit.eq_digitChar hlisted (hlower List.mem_cons_self)
    unfold digits
    rw [Nat.toDigits_eq_if hbase, if_pos isDigit.lt_base, hc]
  | @snoc front c n d hfront isDigit ih =>
    have hc := isDigit.eq_digitChar hlisted (hlower (List.mem_append_right _ List.mem_cons_self))
    -- A zero in front would have a digit behind it.
    have hhead : front.head? ≠ some '0' := by
      intro hzero
      have hone : front ++ [c] = ['0'] := by
        apply hunpadded
        rw [List.head?_append, hzero, Option.some_or]
      have hlength := congrArg List.length hone
      have hpos := List.length_pos_iff.2 hfront.ne_nil
      rw [List.length_append, List.length_singleton, List.length_singleton] at hlength
      omega
    have hfrontText : front = digits base n :=
      ih (fun c hmem => hlower (List.mem_append_left _ hmem)) fun hzero => absurd hzero hhead
    have hn : 0 < n := by
      apply Nat.pos_of_ne_zero
      rintro rfl
      rw [hfrontText, digits_zero hbase] at hhead
      exact hhead rfl
    rw [digits_snoc hbase hn isDigit.lt_base, ← hfrontText, hc]

/-- The writer writes in lower case. -/
theorem digits_subset_lowerDigits (hbase : 1 < base) (hlisted : base ≤ 16) (n : Nat) :
    digits base n ⊆ lowerDigits := by
  have hone {d : Nat} (hd : d < base) : [d.digitChar] ⊆ lowerDigits := by
    have hdigit : ∀ d < 16, d.digitChar ∈ lowerDigits := by decide
    exact List.cons_subset.2 ⟨hdigit d (Nat.lt_of_lt_of_le hd hlisted), List.nil_subset _⟩
  induction n using Nat.strongRecOn with
  | ind n ih =>
    unfold digits at ih ⊢
    rw [Nat.toDigits_eq_if hbase]
    by_cases hlt : n < base
    · rw [if_pos hlt]
      exact hone hlt
    · rw [if_neg hlt]
      have hpos : 0 < base := Nat.lt_trans Nat.zero_lt_one hbase
      have hfront := ih (n / base) (Nat.div_lt_self (by omega) hbase)
      exact List.append_subset.2 ⟨hfront, hone (Nat.mod_lt n hpos)⟩

/-- **Every number has one plain numeral.** -/
theorem plainNumeral_iff (hbase : 1 < base) (hlisted : base ≤ 16) {cs : List Char} {n : Nat} :
    PlainNumeral base cs n ↔ cs = digits base n := by
  constructor
  · exact fun h => h.eq_digits hbase hlisted
  · rintro rfl
    refine ⟨numeral_digits hbase hlisted n, digits_subset_lowerDigits hbase hlisted n, ?_⟩
    intro hzero
    by_cases hn : 0 < n
    · exact absurd hzero (head?_digits_ne_zero hbase hn)
    · rw [Nat.eq_zero_of_not_pos hn, digits_zero hbase]

/-- Decimal digits have no case. -/
theorem Numeral.subset_lowerDigits {cs : List Char} {n : Nat} (h : Numeral 10 cs n) :
    cs ⊆ lowerDigits := by
  have hone {c : Char} {d : Nat} (isDigit : IsDigit 10 c d) : [c] ⊆ lowerDigits := by
    have hsame : ∀ d < 10, upperDigits[d]? = lowerDigits[d]? := by decide
    have hlisted : lowerDigits[d]? = some c := by
      rcases isDigit.listed with hlower | hupper
      · exact hlower
      · exact (hsame d isDigit.lt_base).symm.trans hupper
    exact List.cons_subset.2 ⟨List.mem_of_getElem? hlisted, List.nil_subset _⟩
  induction h with
  | digit isDigit => exact hone isDigit
  | snoc front isDigit ih => exact List.append_subset.2 ⟨ih, hone isDigit⟩

end Text

open Text

/-! ## IPv4 -/

namespace IPv4

/-- An octet has one text. -/
theorem OctetText.eq_digits {cs : List Char} {octet : UInt8} (h : OctetText cs octet) :
    cs = digits 10 octet.toNat := by
  have hplain : PlainNumeral 10 cs octet.toNat :=
    ⟨h.numeral, h.numeral.subset_lowerDigits, h.unpadded⟩
  exact hplain.eq_digits (by decide) (by decide)

/-- **An IPv4 address has one text.** -/
theorem spells_iff {cs : List Char} {ip : IPv4} : Spells cs ip ↔ cs = ip.text := by
  constructor
  · rintro ⟨first, second, third, fourth⟩
    rw [first.eq_digits, second.eq_digits, third.eq_digits, fourth.eq_digits]
    simp [text, octets, List.intercalate_cons_cons]
  · rintro rfl
    exact spells_text ip

/-- An IPv4 address is known by its groups. -/
theorem eq_of_groups_eq {a b : IPv4} (h : a.groups = b.groups) : a = b := by
  have hoctets (ip : IPv4) : ip.groups.flatMap wordBytes = ip.octets := by
    simp only [groups, List.flatMap_cons, List.flatMap_nil, wordBytes_wordOfBytes]
    rfl
  have hsame : a.octets = b.octets := by
    rw [← hoctets a, h, hoctets b]
  obtain ⟨a0, a1, a2, a3⟩ := a
  obtain ⟨b0, b1, b2, b3⟩ := b
  simpa [octets] using hsame

end IPv4

/-! ## The longest run of zero groups -/

namespace IPv6

/-- From `start` on there are `length` zero groups. -/
def IsZeroRun (groups : List UInt16) (start length : Nat) : Prop :=
  ∀ i, start ≤ i → i < start + length → groups[i]? = some 0

/-- A run of zero groups that is as long as any other, and the first one of its length. -/
structure IsLongestRun (groups : List UInt16) (start length : Nat) : Prop where
  isRun : IsZeroRun groups start length
  longest : ∀ otherStart otherLength, IsZeroRun groups otherStart otherLength →
    otherLength ≤ length
  first : ∀ otherStart, IsZeroRun groups otherStart length → start ≤ otherStart

/-- There is only one. -/
theorem IsLongestRun.unique {groups : List UInt16} {start length start' length' : Nat}
    (h : IsLongestRun groups start length) (h' : IsLongestRun groups start' length') :
    start = start' ∧ length = length' := by
  have hlength : length = length' :=
    Nat.le_antisymm (h'.longest _ _ h.isRun) (h.longest _ _ h'.isRun)
  subst hlength
  exact ⟨Nat.le_antisymm (h.first _ h'.isRun) (h'.first _ h.isRun), rfl⟩

variable {group : UInt16} {groups : List UInt16} {start length : Nat}

/-- No groups, no run. -/
theorem IsZeroRun.eq_zero_of_nil (h : IsZeroRun [] start length) : length = 0 := by
  apply Nat.eq_zero_of_not_pos
  intro hpos
  have hgroup := h start (Nat.le_refl start) (Nat.lt_add_of_pos_right hpos)
  rw [List.getElem?_nil] at hgroup
  exact Option.some_ne_none 0 hgroup.symm

/-- A run behind the first group is a run of the groups behind it. -/
theorem isZeroRun_cons_succ :
    IsZeroRun (group :: groups) (start + 1) length ↔ IsZeroRun groups start length := by
  constructor
  · intro h i hfrom hto
    exact h (i + 1) (by omega) (by omega)
  · intro h i hfrom hto
    obtain ⟨j, rfl⟩ : ∃ j, i = j + 1 := ⟨i - 1, by omega⟩
    exact h j (by omega) (by omega)

/-- A run at the first group is one more zero group in front of a run. -/
theorem isZeroRun_cons_zero :
    IsZeroRun (group :: groups) 0 (length + 1) ↔ group = 0 ∧ IsZeroRun groups 0 length := by
  constructor
  · intro h
    have hgroup := h 0 (Nat.le_refl 0) (by omega)
    exact ⟨Option.some.inj hgroup, fun i hfrom hto => h (i + 1) (by omega) (by omega)⟩
  · rintro ⟨rfl, h⟩ i hfrom hto
    cases i with
    | zero => rfl
    | succ i => exact h i (by omega) (by omega)

/-- The runs at the start are those that are no longer than the zero groups counted there. -/
theorem isZeroRun_zero_iff : IsZeroRun groups 0 length ↔ length ≤ zeroRun groups := by
  unfold zeroRun
  induction groups generalizing length with
  | nil =>
    rw [List.takeWhile_nil, List.length_nil, Nat.le_zero]
    constructor
    · exact IsZeroRun.eq_zero_of_nil
    · rintro rfl i hfrom hto
      omega
  | cons group later ih =>
    cases length with
    | zero => exact iff_of_true (fun i hfrom hto => by omega) (Nat.zero_le _)
    | succ length =>
      rw [isZeroRun_cons_zero, ih, List.takeWhile_cons]
      by_cases hzero : group = 0
      · rw [if_pos (beq_iff_eq.2 hzero), List.length_cons, Nat.succ_le_succ_iff]
        exact and_iff_right hzero
      · rw [if_neg (mt beq_iff_eq.1 hzero)]
        exact iff_of_false (fun h => hzero h.1) (Nat.not_succ_le_zero _)

/-- A run starts at the first group, or it is a run of the groups behind it. -/
theorem IsZeroRun.here_or_later (h : IsZeroRun (group :: groups) start length) :
    start = 0 ∧ length ≤ zeroRun (group :: groups) ∨
      ∃ later, start = later + 1 ∧ IsZeroRun groups later length := by
  cases start with
  | zero => exact .inl ⟨rfl, isZeroRun_zero_iff.1 h⟩
  | succ later => exact .inr ⟨later, rfl, isZeroRun_cons_succ.1 h⟩

/-- **The search finds the longest run.** -/
theorem isLongestRun_longestRun (groups : List UInt16) :
    IsLongestRun groups (longestRun groups).1 (longestRun groups).2 := by
  induction groups with
  | nil =>
    constructor
    · exact fun i hfrom hto => absurd hto (Nat.not_lt_zero _)
    · exact fun start length hrun => Nat.le_of_eq hrun.eq_zero_of_nil
    · exact fun start _ => Nat.zero_le start
  | cons group groups ih =>
    unfold longestRun
    dsimp only
    split
    · rename_i hhere
      -- No run further right is longer than the one at the start.
      constructor
      · exact isZeroRun_zero_iff.2 (Nat.le_refl _)
      · intro start length hrun
        rcases hrun.here_or_later with ⟨-, hle⟩ | ⟨later, -, hlater⟩
        · exact hle
        · exact Nat.le_trans (ih.longest later length hlater) hhere
      · exact fun start _ => Nat.zero_le start
    · rename_i hbehind
      -- The run at the start is shorter than the longest one behind it.
      constructor
      · exact isZeroRun_cons_succ.2 ih.isRun
      · intro start length hrun
        rcases hrun.here_or_later with ⟨-, hle⟩ | ⟨later, -, hlater⟩
        · exact Nat.le_trans hle (Nat.le_of_not_le hbehind)
        · exact ih.longest later length hlater
      · intro start hrun
        rcases hrun.here_or_later with ⟨-, hle⟩ | ⟨later, rfl, hlater⟩
        · exact absurd hle hbehind
        · exact Nat.succ_le_succ (ih.first later hlater)

/-! ## The canonical text -/

/-- Groups as plain numerals with colons between them. -/
inductive Joined : List Char → List UInt16 → Prop
  | none : Joined [] []
  | single {cs : List Char} {group : UInt16} (text : PlainNumeral 16 cs group.toNat) :
      Joined cs [group]
  | cons {cs later : List Char} {group next : UInt16} {groups : List UInt16}
      (text : PlainNumeral 16 cs group.toNat) (rest : Joined later (next :: groups)) :
      Joined (cs ++ ':' :: later) (group :: next :: groups)

/-- The first five groups are zero and the sixth has all bits. -/
def IsMapped (ip : IPv6) : Prop :=
  ip.groups.take 6 = [0, 0, 0, 0, 0, 0xffff]

/-- The canonical text of an address. -/
inductive Canonical : List Char → IPv6 → Prop
  | mapped {cs : List Char} {v4 : IPv4} {ip : IPv6} (isMapped : IsMapped ip)
      (lastTwo : v4.groups = ip.groups.drop 6) (text : IPv4.Spells cs v4) :
      Canonical ("::ffff:".toList ++ cs) ip
  | gap {before after : List Char} {start length : Nat} {ip : IPv6} (notMapped : ¬ IsMapped ip)
      (isLongest : IsLongestRun ip.groups start length) (isLong : 2 ≤ length)
      (beforeText : Joined before (ip.groups.take start))
      (afterText : Joined after (ip.groups.drop (start + length))) :
      Canonical (before ++ "::".toList ++ after) ip
  | full {cs : List Char} {ip : IPv6} (notMapped : ¬ IsMapped ip)
      (noGap : ∀ start length, IsZeroRun ip.groups start length → length < 2)
      (text : Joined cs ip.groups) : Canonical cs ip

/-- Groups have one text. -/
theorem joined_iff {cs : List Char} {groups : List UInt16} :
    Joined cs groups ↔ cs = groupsText groups := by
  have hgroup {cs : List Char} {group : UInt16} :
      PlainNumeral 16 cs group.toNat ↔ cs = digits 16 group.toNat :=
    plainNumeral_iff (by decide) (by decide)
  have hsingle (group : UInt16) : groupsText [group] = digits 16 group.toNat :=
    List.intercalate_singleton
  have hcons (group next : UInt16) (later : List UInt16) : groupsText (group :: next :: later) =
      digits 16 group.toNat ++ ':' :: groupsText (next :: later) := by
    simp [groupsText, List.intercalate_cons_cons]
  constructor
  · intro h
    induction h with
    | none => rfl
    | single text => rw [hsingle, ← hgroup.1 text]
    | cons text rest ih => rw [hcons, ← hgroup.1 text, ← ih]
  · rintro rfl
    induction groups with
    | nil => exact .none
    | cons group later ih =>
      match later with
      | [] =>
        rw [hsingle]
        exact .single (hgroup.2 rfl)
      | next :: later =>
        rw [hcons]
        exact .cons (hgroup.2 rfl) ih

/-- The embedded IPv4 address has the last two groups of a mapped address. -/
theorem mapped?_eq_some_iff {ip : IPv6} {v4 : IPv4} :
    ip.mapped? = some v4 ↔ IsMapped ip ∧ v4.groups = ip.groups.drop 6 := by
  constructor
  · intro h
    unfold IsMapped
    rw [groups_of_mapped? h]
    exact ⟨rfl, rfl⟩
  · rintro ⟨hmapped, hlast⟩
    have hzeros : ip.g0 = 0 ∧ ip.g1 = 0 ∧ ip.g2 = 0 ∧ ip.g3 = 0 ∧ ip.g4 = 0 ∧ ip.g5 = 0xffff := by
      simpa [IsMapped, groups] using hmapped
    have hv4 : IPv4.ofGroups ip.g6 ip.g7 = v4 :=
      IPv4.eq_of_groups_eq ((groups_ofGroups ip.g6 ip.g7).trans hlast.symm)
    unfold mapped?
    rw [if_pos hzeros, hv4]

/-- An address that is not mapped embeds no IPv4 address. -/
theorem mapped?_eq_none_iff {ip : IPv6} : ip.mapped? = none ↔ ¬ IsMapped ip := by
  rw [Option.eq_none_iff_forall_ne_some]
  constructor
  · intro h hmapped
    exact h _ (mapped?_eq_some_iff.2 ⟨hmapped, groups_ofGroups ip.g6 ip.g7⟩)
  · intro hnot v4 h
    exact hnot (mapped?_eq_some_iff.1 h).1

/-- The text of an address is canonical. -/
theorem canonical_text (ip : IPv6) : Canonical ip.text ip := by
  unfold text
  split
  · rename_i v4 hv4
    obtain ⟨hmapped, hlast⟩ := mapped?_eq_some_iff.1 hv4
    exact .mapped hmapped hlast (IPv4.spells_text v4)
  · rename_i hnone
    have hnot := mapped?_eq_none_iff.1 hnone
    have hlongest := isLongestRun_longestRun ip.groups
    unfold compressedText
    dsimp only
    split
    · rename_i hlong
      exact .gap hnot hlongest hlong (joined_iff.2 rfl) (joined_iff.2 rfl)
    · rename_i hshort
      refine .full hnot (fun start length hrun => ?_) (joined_iff.2 rfl)
      have hle := hlongest.longest start length hrun
      omega

/-- **Every address has one canonical text**, and the writer writes it. -/
theorem canonical_iff {cs : List Char} {ip : IPv6} : Canonical cs ip ↔ cs = ip.text := by
  constructor
  · intro h
    have hfound := isLongestRun_longestRun ip.groups
    unfold text
    cases h with
    | mapped isMapped lastTwo text =>
      rw [mapped?_eq_some_iff.2 ⟨isMapped, lastTwo⟩]
      dsimp only
      rw [IPv4.spells_iff.1 text]
    | gap notMapped isLongest isLong beforeText afterText =>
      obtain ⟨hstart, hlength⟩ := hfound.unique isLongest
      rw [mapped?_eq_none_iff.2 notMapped]
      unfold compressedText
      dsimp only
      rw [hstart, hlength, if_pos isLong, joined_iff.1 beforeText, joined_iff.1 afterText]
    | full notMapped noGap text =>
      have hshort := noGap _ _ hfound.isRun
      rw [mapped?_eq_none_iff.2 notMapped]
      unfold compressedText
      dsimp only
      rw [if_neg (Nat.not_le_of_lt hshort), joined_iff.1 text]
  · rintro rfl
    exact canonical_text ip

/-- **The displayed text of an address is its canonical text**, of which there is exactly one: alone
for a host address, and in brackets in front of a port. -/
theorem display_canonical (ip : IPv6) : ∃ cs, (∀ text, Canonical text ip ↔ text = cs) ∧
    (IpAddress.v6 ip).display = String.ofList cs ∧
    ∀ port : UInt16, (Address.v6 ip port).display =
      String.ofList ('[' :: cs ++ "]:".toList ++ digits 10 port.toNat) :=
  ⟨ip.text, fun _ => canonical_iff, rfl, fun _ => rfl⟩

/-- Of two runs of equal length the first one is left out, and a zero group alone is written. -/
example : (IPv6.mk 0 0 1 0 0 2 0 3).text = "::1:0:0:2:0:3".toList := by decide

end IPv6

end SocketLoop
