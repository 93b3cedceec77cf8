/-!
# Tables with numbered rows

Sockets, registrations and handlers are kept in tables whose rows are numbered when they are added,
with growing numbers, so that the order of the rows is the order of their numbers. A row keeps its
number for ever, and the number of a removed row is not used again by whoever hands out the numbers.

`get?` is the view that everything else is stated over: each operation comes with the equation that
says what it does to `get?`.
-/

namespace SocketLoop

/-- Rows in the order in which they were added. -/
structure Table (α : Type) where
  rows : List (Nat × α)

namespace Table

variable {α : Type}

/-- The table without rows. -/
def empty : Table α := ⟨[]⟩

instance : EmptyCollection (Table α) := ⟨empty⟩

/-- The row with a number. -/
def get? (t : Table α) (n : Nat) : Option α :=
  t.rows.lookup n

/-- The numbers of the rows, in order. -/
def keys (t : Table α) : List Nat :=
  t.rows.map Prod.fst

/-- The number of rows. -/
def size (t : Table α) : Nat :=
  t.rows.length

/-- Adds a row at the end. -/
def push (t : Table α) (n : Nat) (a : α) : Table α :=
  ⟨t.rows ++ [(n, a)]⟩

/-- Changes the row with a number, if there is one. -/
def modify (t : Table α) (n : Nat) (f : α → α) : Table α :=
  ⟨t.rows.map fun row => if row.1 = n then (row.1, f row.2) else row⟩

/-- Replaces the row with a number, if there is one. -/
def set (t : Table α) (n : Nat) (a : α) : Table α :=
  t.modify n fun _ => a

/-- Removes the row with a number. -/
def erase (t : Table α) (n : Nat) : Table α :=
  ⟨t.rows.filter fun row => row.1 ≠ n⟩

/-! ## Laws -/

@[simp] theorem get?_empty (n : Nat) : (∅ : Table α).get? n = none := rfl

@[simp] theorem keys_modify (t : Table α) (n : Nat) (f : α → α) : (t.modify n f).keys = t.keys := by
  simp only [keys, modify, List.map_map]
  apply List.map_congr_left
  intro row _
  by_cases h : row.1 = n <;> simp [h]

@[simp] theorem keys_push (t : Table α) (n : Nat) (a : α) : (t.push n a).keys = t.keys ++ [n] := by
  simp [keys, push]

theorem get?_modify (t : Table α) (n m : Nat) (f : α → α) :
    (t.modify n f).get? m = if m = n then (t.get? m).map f else t.get? m := by
  obtain ⟨rows⟩ := t
  simp only [get?, modify]
  induction rows with
  | nil => simp
  | cons row rows ih =>
    obtain ⟨k, a⟩ := row
    by_cases hk : k = n
    · subst hk
      by_cases hm : m = k
      · subst hm
        simp
      · simp only [List.map_cons, ↓reduceIte, List.lookup_cons, beq_eq_false_iff_ne.2 hm]
        simpa [hm] using ih
    · by_cases hm : m = k
      · subst hm
        simp [hk]
      · simp only [List.map_cons, hk, ↓reduceIte, List.lookup_cons, beq_eq_false_iff_ne.2 hm]
        simpa using ih

theorem get?_set (t : Table α) (n m : Nat) (a : α) :
    (t.set n a).get? m = if m = n then (t.get? m).map (fun _ => a) else t.get? m :=
  get?_modify t n m _

theorem get?_erase (t : Table α) (n m : Nat) :
    (t.erase n).get? m = if m = n then none else t.get? m := by
  obtain ⟨rows⟩ := t
  simp only [get?, erase]
  induction rows with
  | nil => simp
  | cons row rows ih =>
    obtain ⟨k, a⟩ := row
    by_cases hk : k = n
    · subst hk
      by_cases hm : m = k
      · subst hm
        simpa using ih
      · simp only [List.lookup_cons, beq_eq_false_iff_ne.2 hm]
        simpa [hm] using ih
    · by_cases hm : m = k
      · subst hm
        simp [hk]
      · simp only [List.lookup_cons, beq_eq_false_iff_ne.2 hm]
        simpa [hk, List.lookup_cons, beq_eq_false_iff_ne.2 hm] using ih

theorem get?_eq_none_iff (t : Table α) (n : Nat) : t.get? n = none ↔ n ∉ t.keys := by
  obtain ⟨rows⟩ := t
  simp only [get?, keys]
  induction rows with
  | nil => simp
  | cons row rows ih =>
    obtain ⟨k, a⟩ := row
    by_cases h : n = k
    · subst h
      simp
    · simp [List.lookup_cons, beq_eq_false_iff_ne.2 h, h, ih]

theorem get?_push (t : Table α) (n m : Nat) (a : α) :
    (t.push n a).get? m = (t.get? m).or (if m = n then some a else none) := by
  obtain ⟨rows⟩ := t
  simp only [get?, push]
  induction rows with
  | nil =>
    by_cases h : m = n
    · simp [h]
    · simp [h, List.lookup_cons, beq_eq_false_iff_ne.2 h]
  | cons row rows ih =>
    obtain ⟨k, b⟩ := row
    by_cases h : m = k
    · subst h
      simp
    · simp only [List.cons_append, List.lookup_cons, beq_eq_false_iff_ne.2 h]
      exact ih

end Table

end SocketLoop
