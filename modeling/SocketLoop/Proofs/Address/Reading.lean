import SocketLoop.Address.Parser
import SocketLoop.Proofs.Address.Grammar

/-!
# The reader of addresses and its grammar

The reader cuts a text at its separators; the grammar puts one together. They meet because no piece
contains the separator that it is cut at, so that the pieces of a text are the only ones that it can
be put together from. One statement for each part of an address says that its reader accepts what
the grammar spells, and nothing else:

* `IPv4.readOctet_eq_some_iff`, `IPv4.read_eq_some_iff`;
* `IPv6.readGroup_eq_some_iff`, `IPv6.readPieces_splitOn_eq_some_iff`,
  `IPv6.readSide_eq_some_iff`, `IPv6.fillGap_eq_some_iff`, `IPv6.read_eq_some_iff`,
  `IPv6.readBracketed_eq_some_iff`;
* `readPort_eq_some_iff`, `Address.read_eq_some_iff`.

A gap is looked for from the left, and `IPv6.GroupsText.cutAtGap_append` is why this finds it:
groups neither contain a gap nor make one with what stands behind them.

**`Address.parse_spells`** is the result for whole texts: a text is parsed as an address if and only
if it spells that address, and every text that spells none is handed back as it was given.
-/

namespace SocketLoop

open Text

/-! ## Pieces -/

section pieces

variable {cs front back : List Char} {c : Char}

/-- What is cut into two pieces was put together from them. -/
theorem eq_of_splitOn_pair (h : cs.splitOn c = [front, back]) : cs = front ++ c :: back := by
  have hjoin : [c].intercalate (cs.splitOn c) = cs := List.intercalate_splitOn c
  rw [h, List.intercalate_cons_cons, List.intercalate_singleton] at hjoin
  rw [← hjoin, List.append_assoc, List.singleton_append]

/-- Two pieces without the separator are what their text is cut into. -/
theorem splitOn_pair (hfront : c ∉ front) (hback : c ∉ back) :
    (front ++ c :: back).splitOn c = [front, back] := by
  rw [List.splitOn_append_cons_self_of_not_mem hfront, List.splitOn_eq_singleton hback]

/-- The first of several values comes from the first of as many texts. -/
theorem exists_of_mapM_eq_cons {α : Type} {read : List Char → Option α} {texts : List (List Char)}
    {a : α} {as : List α} (h : texts.mapM read = some (a :: as)) :
    ∃ text later, texts = text :: later ∧ read text = some a ∧ later.mapM read = some as := by
  cases texts with
  | nil => simp at h
  | cons text later =>
    rw [List.mapM_cons] at h
    obtain ⟨b, hb, hrest⟩ := Option.bind_eq_some_iff.1 h
    obtain ⟨bs, hbs, hcons⟩ := Option.bind_eq_some_iff.1 hrest
    obtain ⟨rfl, rfl⟩ := List.cons.inj (Option.some.inj hcons)
    exact ⟨text, later, rfl, hb, hbs⟩

/-- No values come from no texts. -/
theorem eq_nil_of_mapM_eq_nil {α : Type} {read : List Char → Option α} {texts : List (List Char)}
    (h : texts.mapM read = some []) : texts = [] := by
  cases texts with
  | nil => rfl
  | cons text later =>
    rw [List.mapM_cons] at h
    obtain ⟨b, hb, hrest⟩ := Option.bind_eq_some_iff.1 h
    obtain ⟨bs, hbs, hcons⟩ := Option.bind_eq_some_iff.1 hrest
    exact absurd (Option.some.inj hcons) (List.cons_ne_nil _ _)

/-- What is made of a number below a bound comes from such a number. -/
theorem exists_of_bounded {α : Type} {n? : Option Nat} {bound : Nat} {f : Nat → α} {a : α}
    (h : (n?.bind fun n => if n < bound then some (f n) else none) = some a) :
    ∃ n, n? = some n ∧ n < bound ∧ f n = a := by
  obtain ⟨n, hn, hfits⟩ := Option.bind_eq_some_iff.1 h
  by_cases hlt : n < bound
  · rw [if_pos hlt] at hfits
    exact ⟨n, hn, hlt, Option.some.inj hfits⟩
  · rw [if_neg hlt] at hfits
    simp at hfits

end pieces

/-! ## IPv4 -/

namespace IPv4

variable {cs : List Char}

/-- One octet is read from the texts of it. -/
theorem readOctet_eq_some_iff {octet : UInt8} :
    readOctet cs = some octet ↔ OctetText cs octet := by
  unfold readOctet
  constructor
  · intro h
    by_cases hshape : 3 < cs.length ∨ (cs.head? = some '0' ∧ cs ≠ ['0'])
    · rw [if_pos hshape] at h
      simp at h
    · rw [if_neg hshape] at h
      obtain ⟨n, hn, hlt, rfl⟩ := exists_of_bounded h
      have htoNat : (UInt8.ofNat n).toNat = n := UInt8.toNat_ofNat_of_lt' hlt
      refine ⟨?_, by omega, fun hzero => ?_⟩
      · rw [htoNat]
        exact readNumber_eq_some_iff.1 hn
      · apply Classical.byContradiction
        intro hmore
        exact hshape (.inr ⟨hzero, hmore⟩)
  · intro h
    have hshape : ¬(3 < cs.length ∨ (cs.head? = some '0' ∧ cs ≠ ['0'])) := by
      rintro (hlong | ⟨hzero, hmore⟩)
      · exact absurd h.short (by omega)
      · exact hmore (h.unpadded hzero)
    rw [if_neg hshape, readNumber_eq_some_iff.2 h.numeral, Option.bind_some,
      if_pos octet.toNat_lt, UInt8.ofNat_toNat]

/-- An octet has no dot. -/
theorem OctetText.dot_not_mem {octet : UInt8} (h : OctetText cs octet) : '.' ∉ cs :=
  fun hdot => absurd (h.numeral.subset hdot) (by decide)

/-- **An IPv4 address is read** from the texts that spell it. -/
theorem read_eq_some_iff {ip : IPv4} : read cs = some ip ↔ Spells cs ip := by
  constructor
  · intro h
    unfold read at h
    split at h
    · rename_i a b c d hoctets
      obtain rfl := Option.some.inj h
      have hjoin : ['.'].intercalate (cs.splitOn '.') = cs := List.intercalate_splitOn '.'
      obtain ⟨ta, more, htexts, ha, hoctets⟩ := exists_of_mapM_eq_cons hoctets
      obtain ⟨tb, more, rfl, hb, hoctets⟩ := exists_of_mapM_eq_cons hoctets
      obtain ⟨tc, more, rfl, hc, hoctets⟩ := exists_of_mapM_eq_cons hoctets
      obtain ⟨td, more, rfl, hd, hoctets⟩ := exists_of_mapM_eq_cons hoctets
      obtain rfl := eq_nil_of_mapM_eq_nil hoctets
      rw [htexts] at hjoin
      simp only [List.intercalate_cons_cons, List.intercalate_singleton, List.append_assoc,
        List.singleton_append] at hjoin
      rw [← hjoin]
      exact .dotted (readOctet_eq_some_iff.1 ha) (readOctet_eq_some_iff.1 hb)
        (readOctet_eq_some_iff.1 hc) (readOctet_eq_some_iff.1 hd)
    · simp at h
  · rintro ⟨first, second, third, fourth⟩
    unfold read
    rw [List.splitOn_append_cons_self_of_not_mem first.dot_not_mem,
      List.splitOn_append_cons_self_of_not_mem second.dot_not_mem,
      splitOn_pair third.dot_not_mem fourth.dot_not_mem]
    simp only [List.mapM_cons, List.mapM_nil, readOctet_eq_some_iff.2 first,
      readOctet_eq_some_iff.2 second, readOctet_eq_some_iff.2 third,
      readOctet_eq_some_iff.2 fourth, Option.pure_def, Option.bind_eq_bind, Option.bind_some]

end IPv4

/-! ## IPv6 -/

namespace IPv6

variable {cs : List Char} {dotted : Bool} {groups : List UInt16}

/-- At most four hexadecimal digits denote a number that fits a group. -/
theorem lt_of_numeral {n : Nat} (h : Numeral 16 cs n) (hshort : cs.length ≤ 4) : n < 65536 := by
  have hlt : n < 16 ^ cs.length := by
    clear hshort
    induction h with
    | digit isDigit =>
      rw [List.length_singleton, Nat.pow_one]
      exact isDigit.lt_base
    | snoc front isDigit ih =>
      rename_i cs c n d
      rw [List.length_append, List.length_singleton, Nat.pow_succ]
      calc n * 16 + d < n * 16 + 16 := Nat.add_lt_add_left isDigit.lt_base _
        _ = (n + 1) * 16 := (Nat.succ_mul n 16).symm
        _ ≤ 16 ^ cs.length * 16 := Nat.mul_le_mul_right 16 ih
  calc n < 16 ^ cs.length := hlt
    _ ≤ 16 ^ 4 := Nat.pow_le_pow_right (by decide) hshort

/-- One group is read from the texts of it. -/
theorem readGroup_eq_some_iff {group : UInt16} :
    readGroup cs = some group ↔ GroupText cs group := by
  unfold readGroup
  constructor
  · intro h
    by_cases hlong : 4 < cs.length
    · rw [if_pos hlong] at h
      simp at h
    · rw [if_neg hlong] at h
      obtain ⟨n, hn, rfl⟩ := Option.map_eq_some_iff.1 h
      have hnumeral := readNumber_eq_some_iff.1 hn
      have hlt := lt_of_numeral hnumeral (Nat.le_of_not_lt hlong)
      have htoNat : (UInt16.ofNat n).toNat = n := UInt16.toNat_ofNat_of_lt' hlt
      refine ⟨?_, Nat.le_of_not_lt hlong⟩
      rw [htoNat]
      exact hnumeral
  · intro h
    rw [if_neg (Nat.not_lt.2 h.short), readNumber_eq_some_iff.2 h.numeral, Option.map_some,
      UInt16.ofNat_toNat]

/-- A group has no colon. -/
theorem GroupText.colon_not_mem {group : UInt16} (h : GroupText cs group) : ':' ∉ cs :=
  fun hcolon => absurd (h.numeral.subset hcolon) (by decide)

/-- A group has no dot. -/
theorem GroupText.dot_not_mem {group : UInt16} (h : GroupText cs group) : '.' ∉ cs :=
  fun hdot => absurd (h.numeral.subset hdot) (by decide)

/-- An IPv4 text has no colon. -/
theorem colon_not_mem_of_spells {ip : IPv4} (h : IPv4.Spells cs ip) : ':' ∉ cs :=
  fun hcolon => absurd (h.subset hcolon) (by decide)

/-- An IPv4 text is no group. -/
theorem readGroup_eq_none_of_spells {ip : IPv4} (h : IPv4.Spells cs ip) : readGroup cs = none := by
  rw [Option.eq_none_iff_forall_ne_some]
  intro group hgroup
  exact (readGroup_eq_some_iff.1 hgroup).dot_not_mem h.dot_mem

/-- Groups begin with a character that is no colon. -/
theorem GroupsText.exists_cons (h : GroupsText dotted cs groups) :
    ∃ c later, cs = c :: later ∧ c ≠ ':' := by
  have hpiece {piece : List Char} (hne : piece ≠ []) (hcolon : ':' ∉ piece) (later : List Char) :
      ∃ c rest, piece ++ later = c :: rest ∧ c ≠ ':' := by
    obtain ⟨c, rest, rfl⟩ := List.exists_cons_of_ne_nil hne
    refine ⟨c, rest ++ later, rfl, fun hc => ?_⟩
    exact hcolon (hc ▸ List.mem_cons_self)
  cases h with
  | single text =>
    have hcons := hpiece text.numeral.ne_nil text.colon_not_mem []
    rwa [List.append_nil] at hcons
  | pair isAllowed text =>
    have hcons := hpiece (List.ne_nil_of_mem text.dot_mem) (colon_not_mem_of_spells text) []
    rwa [List.append_nil] at hcons
  | cons text rest => exact hpiece text.numeral.ne_nil text.colon_not_mem _

/-- What is read from pieces is spelled by the text that they make. -/
theorem groupsText_of_readPieces {pieces : List (List Char)} (hne : pieces ≠ [])
    (h : readPieces dotted pieces = some groups) :
    GroupsText dotted ([':'].intercalate pieces) groups := by
  induction pieces generalizing groups with
  | nil => exact absurd rfl hne
  | cons piece pieces ih =>
    cases pieces with
    | nil =>
      rw [List.intercalate_singleton]
      unfold readPieces at h
      split at h
      · rename_i group hgroup
        rw [← Option.some.inj h]
        exact .single (readGroup_eq_some_iff.1 hgroup)
      · by_cases hdotted : dotted = true
        · rw [if_pos hdotted] at h
          obtain ⟨ip, hip, rfl⟩ := Option.map_eq_some_iff.1 h
          exact .pair hdotted (IPv4.read_eq_some_iff.1 hip)
        · rw [if_neg hdotted] at h
          simp at h
    | cons next pieces =>
      rw [List.intercalate_cons_cons, List.append_assoc, List.singleton_append]
      obtain ⟨group, hgroup, hlater⟩ := Option.bind_eq_some_iff.1 h
      obtain ⟨later, hread, hcons⟩ := Option.bind_eq_some_iff.1 hlater
      rw [← Option.some.inj hcons]
      exact .cons (readGroup_eq_some_iff.1 hgroup) (ih (List.cons_ne_nil _ _) hread)

/-- Groups are read from the texts of them. -/
theorem readPieces_splitOn_eq_some_iff :
    readPieces dotted (cs.splitOn ':') = some groups ↔ GroupsText dotted cs groups := by
  constructor
  · intro h
    have htext := groupsText_of_readPieces (List.splitOn_ne_nil ':' cs) h
    rwa [List.intercalate_splitOn] at htext
  · intro h
    induction h with
    | single text =>
      rw [List.splitOn_eq_singleton text.colon_not_mem, readPieces, readGroup_eq_some_iff.2 text]
    | pair isAllowed text =>
      rw [List.splitOn_eq_singleton (colon_not_mem_of_spells text), readPieces,
        readGroup_eq_none_of_spells text]
      dsimp only
      rw [if_pos isAllowed, IPv4.read_eq_some_iff.2 text, Option.map_some]
    | cons text rest ih =>
      rename_i piece later group groups
      obtain ⟨next, pieces, hpieces⟩ := List.exists_cons_of_ne_nil (List.splitOn_ne_nil ':' later)
      rw [hpieces] at ih
      rw [List.splitOn_append_cons_self_of_not_mem text.colon_not_mem, hpieces, readPieces,
        readGroup_eq_some_iff.2 text, ih]
      · rfl
      · exact List.cons_ne_nil _ _

/-- One side of a gap is read from the texts of it. -/
theorem readSide_eq_some_iff : readSide dotted cs = some groups ↔ SideText dotted cs groups := by
  unfold readSide
  constructor
  · intro h
    by_cases hempty : cs.isEmpty = true
    · rw [if_pos hempty] at h
      rw [List.isEmpty_iff.1 hempty, ← Option.some.inj h]
      exact .empty
    · rw [if_neg hempty] at h
      exact .groups (readPieces_splitOn_eq_some_iff.1 h)
  · intro h
    cases h with
    | empty => rfl
    | groups text =>
      obtain ⟨c, later, rfl, -⟩ := text.exists_cons
      exact readPieces_splitOn_eq_some_iff.2 text

/-! ### The gap -/

/-- What is cut at a gap was put together around one. -/
theorem eq_of_cutAtGap {left right : List Char} (h : cutAtGap cs = some (left, right)) :
    cs = left ++ ':' :: ':' :: right := by
  fun_induction cutAtGap cs generalizing left with
  | case1 rest =>
    obtain ⟨rfl, rfl⟩ := Prod.mk.inj (Option.some.inj h)
    rfl
  | case2 c rest hno ih =>
    obtain ⟨⟨front, back⟩, hcut, hpair⟩ := Option.map_eq_some_iff.1 h
    obtain ⟨rfl, rfl⟩ := Prod.mk.inj hpair
    rw [ih hcut, List.cons_append]
  | case3 => simp at h

/-- A character that does not begin a gap is passed over. -/
theorem cutAtGap_cons {c next : Char} {rest : List Char} (h : c ≠ ':' ∨ next ≠ ':') :
    cutAtGap (c :: next :: rest) =
      (cutAtGap (next :: rest)).map fun (left, right) => (c :: left, right) := by
  rw [cutAtGap]
  rintro rest rfl heq
  obtain ⟨rfl, -⟩ := List.cons.inj heq
  exact h.elim (absurd rfl) (absurd rfl)

/-- A piece without a colon is passed over. -/
theorem cutAtGap_append {piece : List Char} (hcolon : ':' ∉ piece) (rest : List Char) :
    cutAtGap (piece ++ rest) =
      (cutAtGap rest).map fun (left, right) => (piece ++ left, right) := by
  induction piece with
  | nil => simp
  | cons c piece ih =>
    have hpiece : ':' ∉ piece := fun hmem => hcolon (List.mem_cons_of_mem _ hmem)
    rw [List.cons_append, cutAtGap, ih hpiece, Option.map_map]
    · rfl
    · rintro later rfl
      exact absurd List.mem_cons_self hcolon

/-- **Groups are passed over**: they neither contain a gap nor make one with what stands behind
them. -/
theorem GroupsText.cutAtGap_append (h : GroupsText dotted cs groups) (rest : List Char) :
    cutAtGap (cs ++ rest) = (cutAtGap rest).map fun (left, right) => (cs ++ left, right) := by
  induction h with
  | single text => exact IPv6.cutAtGap_append text.colon_not_mem rest
  | pair isAllowed text => exact IPv6.cutAtGap_append (colon_not_mem_of_spells text) rest
  | cons text later ih =>
    obtain ⟨c, more, hmore, hc⟩ := later.exists_cons
    rw [hmore, List.cons_append] at ih
    rw [List.append_assoc, IPv6.cutAtGap_append text.colon_not_mem, List.cons_append, hmore,
      List.cons_append, cutAtGap_cons (.inr hc), ih, Option.map_map, Option.map_map]
    congr 1
    funext pair
    show (_ ++ ':' :: _, _) = (_, _)
    simp

/-- Groups alone have no gap. -/
theorem GroupsText.cutAtGap_eq_none (h : GroupsText dotted cs groups) : cutAtGap cs = none := by
  have hcut := h.cutAtGap_append []
  rwa [List.append_nil] at hcut

/-- The gap behind one side is found. -/
theorem SideText.cutAtGap_gap (h : SideText dotted cs groups) (right : List Char) :
    cutAtGap (cs ++ ':' :: ':' :: right) = some (cs, right) := by
  cases h with
  | empty => rfl
  | groups text =>
    rw [text.cutAtGap_append, cutAtGap, Option.map_some]
    dsimp only
    rw [List.append_nil]

/-- Eight groups make the address that has them. -/
theorem ofGroups?_eq_some_iff {ip : IPv6} : ofGroups? groups = some ip ↔ ip.groups = groups := by
  constructor
  · intro h
    unfold ofGroups? at h
    split at h
    · rw [← Option.some.inj h]
      rfl
    · simp at h
  · rintro rfl
    rfl

/-- A gap is filled with at least one zero group, up to eight groups. -/
theorem fillGap_eq_some_iff {left right : List UInt16} {ip : IPv6} :
    fillGap left right = some ip ↔
      ∃ zeros, 1 ≤ zeros ∧ ip.groups = left ++ List.replicate zeros 0 ++ right := by
  unfold fillGap
  constructor
  · intro h
    by_cases hroom : left.length + right.length ≤ 7
    · rw [if_pos hroom] at h
      exact ⟨8 - (left.length + right.length), by omega, ofGroups?_eq_some_iff.1 h⟩
    · rw [if_neg hroom] at h
      simp at h
  · rintro ⟨zeros, hpos, hgroups⟩
    have hlength : 8 = left.length + zeros + right.length := by
      have hcount := congrArg List.length hgroups
      rwa [List.length_append, List.length_append, List.length_replicate] at hcount
    have hzeros : 8 - (left.length + right.length) = zeros := by omega
    rw [if_pos (by omega), hzeros]
    exact ofGroups?_eq_some_iff.2 hgroups

/-- **An IPv6 address is read** from the texts that spell it. -/
theorem read_eq_some_iff {ip : IPv6} : read cs = some ip ↔ Spells cs ip := by
  constructor
  · intro h
    unfold read at h
    split at h
    · obtain ⟨groups, hread, hgroups⟩ := Option.bind_eq_some_iff.1 h
      rw [← ofGroups?_eq_some_iff.1 hgroups] at hread
      exact .full (readPieces_splitOn_eq_some_iff.1 hread)
    · rename_i left right hcut
      obtain ⟨before, hbefore, hrest⟩ := Option.bind_eq_some_iff.1 h
      obtain ⟨after, hafter, hfill⟩ := Option.bind_eq_some_iff.1 hrest
      obtain ⟨zeros, hpos, hgroups⟩ := fillGap_eq_some_iff.1 hfill
      rw [eq_of_cutAtGap hcut]
      exact .gap (readSide_eq_some_iff.1 hbefore) (readSide_eq_some_iff.1 hafter) hpos hgroups
  · intro h
    unfold read
    cases h with
    | full text =>
      rw [text.cutAtGap_eq_none]
      dsimp only
      rw [readPieces_splitOn_eq_some_iff.2 text, Option.bind_some, ofGroups?_groups]
    | gap leftText rightText isFilled groups_eq =>
      rw [leftText.cutAtGap_gap]
      dsimp only
      rw [readSide_eq_some_iff.2 leftText, readSide_eq_some_iff.2 rightText]
      exact fillGap_eq_some_iff.2 ⟨_, isFilled, groups_eq⟩

end IPv6

/-! ## Ports and scopes -/

/-- A port is read from the numerals of it. -/
theorem readPort_eq_some_iff {cs : List Char} {port : UInt16} :
    readPort cs = some port ↔ Numeral 10 cs port.toNat := by
  unfold readPort
  constructor
  · intro h
    obtain ⟨n, hn, hlt, rfl⟩ := exists_of_bounded h
    rw [UInt16.toNat_ofNat_of_lt' hlt]
    exact readNumber_eq_some_iff.1 hn
  · intro h
    rw [readNumber_eq_some_iff.2 h, Option.bind_some, if_pos port.toNat_lt, UInt16.ofNat_toNat]

/-- A scope is read from the numerals of numbers that it can be. -/
theorem exists_readScope_iff {cs : List Char} :
    (∃ scope, readScope cs = some scope) ↔ ∃ n, Numeral 10 cs n ∧ n < 4294967296 := by
  unfold readScope
  constructor
  · rintro ⟨scope, h⟩
    obtain ⟨n, hn, hlt, -⟩ := exists_of_bounded h
    exact ⟨n, readNumber_eq_some_iff.1 hn, hlt⟩
  · rintro ⟨n, hn, hlt⟩
    refine ⟨UInt32.ofNat n, ?_⟩
    rw [readNumber_eq_some_iff.2 hn, Option.bind_some, if_pos hlt]

/-- **What stands between the brackets** is read from the texts of it. -/
theorem IPv6.readBracketed_eq_some_iff {cs : List Char} {ip : IPv6} :
    readBracketed cs = some ip ↔ IPv6.Bracketed cs ip := by
  constructor
  · intro h
    unfold readBracketed at h
    split at h
    · rename_i host hsplit
      have hjoin : ['%'].intercalate (cs.splitOn '%') = cs := List.intercalate_splitOn '%'
      rw [hsplit, List.intercalate_singleton] at hjoin
      rw [← hjoin]
      exact .plain (IPv6.read_eq_some_iff.1 h)
    · rename_i host scopeText hsplit
      obtain ⟨scope, hscope, hread⟩ := Option.bind_eq_some_iff.1 h
      obtain ⟨n, hn, hlt⟩ := exists_readScope_iff.1 ⟨scope, hscope⟩
      rw [eq_of_splitOn_pair hsplit]
      exact .withScope (IPv6.read_eq_some_iff.1 hread) hn hlt
    · simp at h
  · intro h
    have hpercent {host : List Char} (text : IPv6.Spells host ip) : '%' ∉ host :=
      fun hmem => absurd (text.subset hmem) (by decide)
    unfold readBracketed
    cases h with
    | plain text =>
      rw [List.splitOn_eq_singleton (hpercent text)]
      exact IPv6.read_eq_some_iff.2 text
    | withScope hostText isScope scope_lt =>
      have hscope : '%' ∉ _ := fun hmem => absurd (isScope.subset hmem) (by decide)
      obtain ⟨scope, hread⟩ := exists_readScope_iff.2 ⟨_, isScope, scope_lt⟩
      rw [splitOn_pair (hpercent hostText) hscope]
      dsimp only
      rw [hread, Option.bind_some]
      exact IPv6.read_eq_some_iff.2 hostText

/-! ## Transport addresses -/

namespace Address

variable {cs : List Char} {addr : Address}

/-- What is read as an IPv4 host and a port. -/
theorem readV4_eq_some_iff :
    readV4 cs = some addr ↔ ∃ host portText ip port, cs = host ++ ':' :: portText ∧
      addr = .v4 ip port ∧ IPv4.Spells host ip ∧ Numeral 10 portText port.toNat := by
  constructor
  · intro h
    unfold readV4 at h
    split at h
    · rename_i host portText hsplit
      obtain ⟨ip, hip, hrest⟩ := Option.bind_eq_some_iff.1 h
      obtain ⟨port, hport, haddr⟩ := Option.bind_eq_some_iff.1 hrest
      exact ⟨host, portText, ip, port, eq_of_splitOn_pair hsplit, (Option.some.inj haddr).symm,
        IPv4.read_eq_some_iff.1 hip, readPort_eq_some_iff.1 hport⟩
    · simp at h
  · rintro ⟨host, portText, ip, port, rfl, rfl, hostText, isPort⟩
    have hport : ':' ∉ portText := fun hmem => absurd (isPort.subset hmem) (by decide)
    unfold readV4
    rw [splitOn_pair (IPv6.colon_not_mem_of_spells hostText) hport]
    dsimp only
    rw [IPv4.read_eq_some_iff.2 hostText, readPort_eq_some_iff.2 isPort]
    rfl

/-- What is read as an IPv6 host in brackets and a port. -/
theorem readV6_eq_some_iff :
    readV6 cs = some addr ↔ ∃ inside portText ip port,
      cs = '[' :: (inside ++ ']' :: ':' :: portText) ∧ addr = .v6 ip port ∧
        IPv6.Bracketed inside ip ∧ Numeral 10 portText port.toNat := by
  constructor
  · intro h
    unfold readV6 at h
    split at h
    · split at h
      · rename_i rest inside portText hsplit
        obtain ⟨ip, hip, hrest⟩ := Option.bind_eq_some_iff.1 h
        obtain ⟨port, hport, haddr⟩ := Option.bind_eq_some_iff.1 hrest
        exact ⟨inside, portText, ip, port, congrArg _ (eq_of_splitOn_pair hsplit),
          (Option.some.inj haddr).symm, IPv6.readBracketed_eq_some_iff.1 hip,
          readPort_eq_some_iff.1 hport⟩
      · simp at h
    · simp at h
  · rintro ⟨inside, portText, ip, port, rfl, rfl, insideText, isPort⟩
    have hinside : ']' ∉ inside := fun hmem => absurd (insideText.subset hmem) (by decide)
    have hport : ']' ∉ ':' :: portText := by
      intro hmem
      rcases List.mem_cons.1 hmem with heq | hmem
      · exact absurd heq (by decide)
      · exact absurd (isPort.subset hmem) (by decide)
    simp only [readV6, splitOn_pair hinside hport]
    rw [IPv6.readBracketed_eq_some_iff.2 insideText, readPort_eq_some_iff.2 isPort]
    rfl

/-- **An address is read** from the texts that spell it, and from no others. -/
theorem read_eq_some_iff : read cs = some addr ↔ Spells cs addr := by
  unfold read
  constructor
  · intro h
    by_cases hnone : cs = "none".toList
    · rw [if_pos hnone] at h
      rw [hnone, ← Option.some.inj h]
      exact .absent
    rw [if_neg hnone] at h
    split at h
    · rename_i other hv4
      obtain ⟨host, portText, ip, port, rfl, rfl, hostText, isPort⟩ := readV4_eq_some_iff.1 hv4
      rw [← Option.some.inj h]
      exact .v4 hostText isPort
    · obtain ⟨inside, portText, ip, port, rfl, rfl, insideText, isPort⟩ := readV6_eq_some_iff.1 h
      exact .v6 insideText isPort
  · intro h
    cases h with
    | absent => rfl
    | v4 hostText isPort =>
      have hv4 := readV4_eq_some_iff.2 ⟨_, _, _, _, rfl, rfl, hostText, isPort⟩
      rw [if_neg, hv4]
      -- The word has no colon.
      intro hword
      have hcolon : ':' ∈ "none".toList := hword ▸ List.mem_append_right _ List.mem_cons_self
      exact absurd hcolon (by decide)
    | v6 insideText isPort =>
      have hv4 {text : List Char} : readV4 ('[' :: text) = Option.none := by
        rw [Option.eq_none_iff_forall_ne_some]
        intro addr hread
        obtain ⟨host, portText, ip, port, heq, -, hostText, -⟩ := readV4_eq_some_iff.1 hread
        cases host with
        | nil => exact absurd hostText.dot_mem List.not_mem_nil
        | cons c host =>
          obtain ⟨rfl, -⟩ := List.cons.inj heq
          exact absurd (hostText.subset List.mem_cons_self) (by decide)
      rw [if_neg, hv4]
      · exact readV6_eq_some_iff.2 ⟨_, _, _, _, rfl, rfl, insideText, isPort⟩
      · intro hword
        exact absurd (Option.some.inj (congrArg List.head? hword)) (by decide)

/-- **Parsing follows the grammar.** A text is parsed as an address if and only if it spells that
address. Every text that spells no address is handed back unchanged in the error. -/
theorem parse_spells (text : String) :
    (∀ addr, parse text = .ok addr ↔ Spells text.toList addr) ∧
      ((¬∃ addr, Spells text.toList addr) ↔ parse text = .error ⟨text⟩) := by
  unfold parse
  constructor
  · intro addr
    rw [← read_eq_some_iff]
    split
    · rename_i other hread
      rw [hread, Except.ok.injEq, Option.some.injEq]
    · rename_i hread
      simp [hread]
  · split
    · rename_i addr hread
      simp only [reduceCtorEq, iff_false]
      exact not_not_intro ⟨addr, read_eq_some_iff.1 hread⟩
    · rename_i hread
      simp only [iff_true]
      rintro ⟨addr, hspells⟩
      rw [read_eq_some_iff.2 hspells] at hread
      simp at hread

end Address

end SocketLoop
