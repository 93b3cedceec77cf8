import SocketLoop.Text.Quoted
import SocketLoop.Proofs.Text.Numeral

/-!
# What a quoted text shows

Whatever a text holds, its quotation can be shown as it is: a hidden character leaves nothing behind
but printable characters of ASCII, and these are never hidden.

* **`isHidden_of_isPrintable`**: no range of hidden characters reaches into the printable ones.
* **`isHidden_of_mem_quote`**: a quotation has no hidden character.
-/

namespace SocketLoop.Text

variable {c d : Char}

/-! ## Printable characters -/

/-- Whether a character is one of those of ASCII from the space to the tilde. -/
def isPrintable (c : Char) : Bool :=
  0x20 ≤ c.toNat && c.toNat < 0x7f

/-- **Printable characters are shown as they are.** -/
theorem isHidden_of_isPrintable (h : isPrintable c = true) : isHidden c = false := by
  have hranges : ∀ range ∈ hiddenRanges, range.2 < 0x20 ∨ 0x7f ≤ range.1 := by decide +kernel
  simp only [isPrintable, Bool.and_eq_true, decide_eq_true_eq] at h
  apply List.any_eq_false.2
  intro range hrange hwithin
  simp only [Bool.and_eq_true, decide_eq_true_eq] at hwithin
  have hoff := hranges range hrange
  omega

/-- What is in a list of printable characters is printable. -/
theorem isPrintable_of_mem {cs : List Char} (hall : cs.all isPrintable = true) (h : d ∈ cs) :
    isPrintable d = true :=
  List.all_eq_true.1 hall d h

/-- The digits of a code point are printable. -/
theorem isPrintable_of_mem_digits {n : Nat} (h : d ∈ digits 16 n) : isPrintable d = true := by
  have hdigits : digitChars.all isPrintable = true := by decide
  exact isPrintable_of_mem hdigits ((numeral_digits (by decide) (by decide) n).subset h)

/-! ## Quotations -/

/-- Whatever stands for a character is printable, or it is that character itself and is visible. -/
theorem isPrintable_or_of_mem_quoteChar (h : d ∈ quoteChar c) :
    isPrintable d = true ∨ d = c ∧ isHidden c = false := by
  unfold quoteChar at h
  split at h
  case h_7 =>
    -- There is no short form: a hidden character is written by its code point.
    split at h
    · apply Or.inl
      rw [List.mem_append, List.mem_append] at h
      obtain (hd | hd) | hd := h
      · exact isPrintable_of_mem (by decide) hd
      · exact isPrintable_of_mem_digits hd
      · exact isPrintable_of_mem (by decide) hd
    · rename_i hshown
      exact .inr ⟨List.mem_singleton.1 h, Bool.eq_false_iff.2 hshown⟩
  -- Every short form is a fixed list.
  all_goals exact .inl (isPrintable_of_mem (by decide) h)

/-- **A quotation has no hidden character.** -/
theorem isHidden_of_mem_quote {text : String} (h : d ∈ (quote text).toList) :
    isHidden d = false := by
  have hmark : isHidden '"' = false := isHidden_of_isPrintable (by decide)
  rw [quote, String.toList_ofList, List.mem_append, List.mem_cons, List.mem_flatMap,
    List.mem_singleton] at h
  obtain (rfl | ⟨c, -, hd⟩) | rfl := h
  · exact hmark
  · obtain hprintable | ⟨rfl, hshown⟩ := isPrintable_or_of_mem_quoteChar hd
    · exact isHidden_of_isPrintable hprintable
    · exact hshown
  · exact hmark

end SocketLoop.Text
