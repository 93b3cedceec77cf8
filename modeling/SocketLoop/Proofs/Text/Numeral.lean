import SocketLoop.Text.Number

/-!
# Numerals

What it is for a text to denote a number, said without reference to a reader: a digit is a character
of one of two rows, and a numeral is a digit, or a numeral with one more digit behind it.

* **`readNumber_eq_some_iff`**: the reader accepts the numerals, and nothing else, and yields the
  number that they denote.
* **`numeral_digits`**: the writer writes a numeral of its number, and puts no zero in front of
  other digits (`head?_digits_ne_zero`).
-/

namespace SocketLoop.Text

variable {base : Nat}

/-! ## Digits -/

/-- The digits in the order of their values, letters in lower case. -/
def lowerDigits : List Char :=
  "0123456789abcdef".toList

/-- The digits in the order of their values, letters in upper case. -/
def upperDigits : List Char :=
  "0123456789ABCDEF".toList

/-- All characters that are digits of some base. -/
def digitChars : List Char :=
  lowerDigits ++ upperDigits

/-- A character is the digit of a base that has this value. -/
structure IsDigit (base : Nat) (c : Char) (d : Nat) : Prop where
  lt_base : d < base
  listed : lowerDigits[d]? = some c ∨ upperDigits[d]? = some c

/-- A digit is one of the characters that are digits. -/
theorem IsDigit.mem {c : Char} {d : Nat} (h : IsDigit base c d) : c ∈ digitChars := by
  apply List.mem_append.2
  rcases h.listed with hlisted | hlisted
  · exact .inl (List.mem_of_getElem? hlisted)
  · exact .inr (List.mem_of_getElem? hlisted)

/-- The character at some distance behind another one. -/
theorem eq_ofNat_of_between {a b c : Char} (h : a ≤ c ∧ c ≤ b) :
    c.toNat - a.toNat ≤ b.toNat - a.toNat ∧ c = Char.ofNat (a.toNat + (c.toNat - a.toNat)) := by
  have hlow : a.toNat ≤ c.toNat := UInt32.le_iff_toNat_le.1 (Char.le_def.1 h.1)
  have hhigh : c.toNat ≤ b.toNat := UInt32.le_iff_toNat_le.1 (Char.le_def.1 h.2)
  constructor
  · omega
  · rw [Nat.add_sub_cancel' hlow, Char.ofNat_toNat]

/-- The value of a digit is below its base, and it is listed there. -/
theorem IsDigit.of_digitValue? {c : Char} {d : Nat} (h : digitValue? base c = some d) :
    IsDigit base c d := by
  have hdigits : ∀ d ≤ 9, lowerDigits[d]? = some (Char.ofNat ('0'.toNat + d)) := by decide
  have hlower : ∀ d ≤ 5, lowerDigits[d + 10]? = some (Char.ofNat ('a'.toNat + d)) := by decide
  have hupper : ∀ d ≤ 5, upperDigits[d + 10]? = some (Char.ofNat ('A'.toNat + d)) := by decide
  obtain ⟨hvalue, hlt⟩ := Option.filter_eq_some_iff.1 h
  refine ⟨of_decide_eq_true hlt, ?_⟩
  split at hvalue
  · rename_i hc
    obtain ⟨hle, heq⟩ := eq_ofNat_of_between hc
    rw [← Option.some.inj hvalue, hdigits _ hle, ← heq]
    exact .inl rfl
  split at hvalue
  · rename_i hc
    obtain ⟨hle, heq⟩ := eq_ofNat_of_between hc
    rw [← Option.some.inj hvalue, hlower _ hle, ← heq]
    exact .inl rfl
  split at hvalue
  · rename_i hc
    obtain ⟨hle, heq⟩ := eq_ofNat_of_between hc
    rw [← Option.some.inj hvalue, hupper _ hle, ← heq]
    exact .inr rfl
  · simp at hvalue

/-- **A character has a value in a base** if and only if it is listed with it. -/
theorem digitValue?_eq_some_iff {c : Char} {d : Nat} :
    digitValue? base c = some d ↔ IsDigit base c d := by
  constructor
  · exact IsDigit.of_digitValue?
  · intro h
    have hlower : ∀ d < 16, lowerDigits[d]?.bind (digitValue? 16) = some d := by decide
    have hupper : ∀ d < 16, upperDigits[d]?.bind (digitValue? 16) = some d := by decide
    have hvalue : digitValue? 16 c = some d := by
      rcases h.listed with hlisted | hlisted
      · have hread := hlower d (List.getElem?_eq_some_iff.1 hlisted).1
        rwa [hlisted] at hread
      · have hread := hupper d (List.getElem?_eq_some_iff.1 hlisted).1
        rwa [hlisted] at hread
    exact Option.filter_eq_some_iff.2
      ⟨(Option.filter_eq_some_iff.1 hvalue).1, decide_eq_true h.lt_base⟩

/-! ## Numerals -/

/-- One or more digits, the most significant first, with the number that they denote. -/
inductive Numeral (base : Nat) : List Char → Nat → Prop
  | digit {c : Char} {d : Nat} (isDigit : IsDigit base c d) : Numeral base [c] d
  | snoc {cs : List Char} {c : Char} {n d : Nat} (front : Numeral base cs n)
      (isDigit : IsDigit base c d) : Numeral base (cs ++ [c]) (n * base + d)

namespace Numeral

variable {cs : List Char} {n : Nat}

/-- A numeral has digits. -/
theorem ne_nil (h : Numeral base cs n) : cs ≠ [] := by
  cases h with
  | digit isDigit => exact List.cons_ne_nil _ _
  | snoc front isDigit => exact List.concat_ne_nil _ _

/-- A numeral has nothing but digits. -/
theorem subset (h : Numeral base cs n) : cs ⊆ digitChars := by
  have hone {c : Char} {d : Nat} (isDigit : IsDigit base c d) : [c] ⊆ digitChars :=
    List.cons_subset.2 ⟨isDigit.mem, List.nil_subset _⟩
  induction h with
  | digit isDigit => exact hone isDigit
  | snoc front isDigit ih => exact List.append_subset.2 ⟨ih, hone isDigit⟩

end Numeral

/-! ## Reading -/

/-- Digits are read one part after the other. -/
theorem readDigits_append (acc : Nat) (cs ts : List Char) :
    readDigits base acc (cs ++ ts) =
      (readDigits base acc cs).bind fun n => readDigits base n ts := by
  induction cs generalizing acc with
  | nil => rfl
  | cons c cs ih =>
    simp only [List.cons_append, readDigits, Option.bind_assoc, ih]

/-- Reading on from a numeral leads to a numeral: the number so far is what was read so far. -/
theorem Numeral.of_readDigits {front cs : List Char} {acc n : Nat} (hfront : Numeral base front acc)
    (h : readDigits base acc cs = some n) : Numeral base (front ++ cs) n := by
  induction cs generalizing front acc with
  | nil =>
    rw [← Option.some.inj h, List.append_nil]
    exact hfront
  | cons c cs ih =>
    obtain ⟨d, hd, hrest⟩ := Option.bind_eq_some_iff.1 h
    have hmore := ih (hfront.snoc (digitValue?_eq_some_iff.1 hd)) hrest
    rwa [List.append_assoc] at hmore

/-- **The reader accepts the numerals** and nothing else, and yields what they denote. -/
theorem readNumber_eq_some_iff {cs : List Char} {n : Nat} :
    readNumber base cs = some n ↔ Numeral base cs n := by
  constructor
  · intro h
    cases cs with
    | nil => simp [readNumber] at h
    | cons c cs =>
      obtain ⟨d, hd, hrest⟩ := Option.bind_eq_some_iff.1 h
      rw [Nat.zero_mul, Nat.zero_add] at hrest
      exact (Numeral.digit (digitValue?_eq_some_iff.1 hd)).of_readDigits hrest
  · intro h
    have hread : readDigits base 0 cs = some n := by
      induction h with
      | digit isDigit =>
        rw [readDigits, digitValue?_eq_some_iff.2 isDigit, Option.bind_some, readDigits,
          Nat.zero_mul, Nat.zero_add]
      | snoc front isDigit ih =>
        rw [readDigits_append, ih, Option.bind_some, readDigits,
          digitValue?_eq_some_iff.2 isDigit]
        rfl
    cases cs with
    | nil => exact absurd rfl h.ne_nil
    | cons c cs => exact hread

/-! ## Writing -/

/-- The writer's digits are listed. -/
theorem isDigit_digitChar {d : Nat} (hlt : d < base) (hbase : base ≤ 16) :
    IsDigit base d.digitChar d := by
  have hlisted : ∀ d < 16, lowerDigits[d]? = some d.digitChar := by decide
  exact ⟨hlt, .inl (hlisted d (Nat.lt_of_lt_of_le hlt hbase))⟩

/-- **The writer writes a numeral** of its number. -/
theorem numeral_digits (hbase : 1 < base) (hlisted : base ≤ 16) (n : Nat) :
    Numeral base (digits base n) n := by
  induction n using Nat.strongRecOn with
  | ind n ih =>
    unfold digits at ih ⊢
    rw [Nat.toDigits_eq_if hbase]
    by_cases hlt : n < base
    · rw [if_pos hlt]
      exact .digit (isDigit_digitChar hlt hlisted)
    · rw [if_neg hlt]
      have hpos : 0 < base := Nat.lt_trans Nat.zero_lt_one hbase
      have hfront := ih (n / base) (Nat.div_lt_self (by omega) hbase)
      have hlast := isDigit_digitChar (Nat.mod_lt n hpos) hlisted
      have hall := hfront.snoc hlast
      rwa [Nat.div_add_mod'] at hall

/-- The writer puts no zero in front of other digits. -/
theorem head?_digits_ne_zero (hbase : 1 < base) {n : Nat} (hn : 0 < n) :
    (digits base n).head? ≠ some '0' := by
  induction n using Nat.strongRecOn with
  | ind n ih =>
    unfold digits at ih ⊢
    rw [Nat.toDigits_eq_if hbase]
    by_cases hlt : n < base
    · rw [if_pos hlt, List.head?_cons, ne_eq, Option.some.injEq, Nat.digitChar_eq_zero]
      exact Nat.ne_of_gt hn
    · rw [if_neg hlt]
      have hfront : 0 < n / base := Nat.div_pos (Nat.le_of_not_lt hlt) (by omega)
      have hhead := ih (n / base) (Nat.div_lt_self hn hbase) hfront
      have hne : Nat.toDigits base (n / base) ≠ [] := Nat.toDigits_ne_nil
      obtain ⟨c, cs, hcs⟩ := List.exists_cons_of_ne_nil hne
      rw [hcs] at hhead ⊢
      exact hhead

end SocketLoop.Text
