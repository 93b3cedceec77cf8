import SocketLoop.Reactor.Basic

/-!
# Rows of the registration table

What the operations of a reactor do to its rows. Kind and next token are touched by `add` only, and
only by counting up. A row comes in by `add` with an empty interest and keeps its descriptor and its
callback for good (`get?_of_setInterest`, `get?_of_remove`); a retaining reactor neither changes nor
loses a row.
-/

namespace SocketLoop

/-! ## Numbers that count up -/

/-- The next number goes on with numbers that count up. -/
theorem pairwise_lt_concat {l : List Nat} {n : Nat} (h : l.Pairwise (· < ·))
    (hlt : ∀ m ∈ l, m < n) : (l ++ [n]).Pairwise (· < ·) := by
  rw [List.pairwise_append]
  refine ⟨h, List.pairwise_singleton _ _, fun m hm k hk => ?_⟩
  rw [List.mem_singleton.1 hk]
  exact hlt m hm

/-- The number after the next one is above all of them. -/
theorem lt_succ_concat {l : List Nat} {n : Nat} (hlt : ∀ m ∈ l, m < n) :
    ∀ m ∈ l ++ [n], m < n + 1 := by
  intro m hm
  rcases List.mem_append.1 hm with hm | hm
  · exact Nat.lt_succ_of_lt (hlt m hm)
  · rw [List.mem_singleton.1 hm]
    exact Nat.lt_succ_self n

/-! ## Tables -/

namespace Table

variable {α : Type}

/-- Erasing takes one number away. -/
theorem keys_erase (t : Table α) (n : Nat) : (t.erase n).keys = t.keys.filter (· ≠ n) := by
  simp only [keys, erase, List.filter_map]
  rfl

/-- A number stands for a row as long as it is listed. -/
theorem exists_of_mem_keys {t : Table α} {n : Nat} (h : n ∈ t.keys) : ∃ a, t.get? n = some a := by
  rw [← Option.isSome_iff_exists, Option.isSome_iff_ne_none]
  exact fun hnone => (get?_eq_none_iff t n).1 hnone h

/-- A row is listed under its number. -/
theorem mem_keys_of_get? {t : Table α} {n : Nat} {a : α} (h : t.get? n = some a) :
    n ∈ t.keys := by
  refine Decidable.byContradiction fun hnot => ?_
  rw [(get?_eq_none_iff t n).2 hnot] at h
  simp at h

/-- A row that is found is there. -/
theorem mem_rows_of_get? {t : Table α} {n : Nat} {a : α} (h : t.get? n = some a) :
    (n, a) ∈ t.rows := by
  obtain ⟨before, behind, heq, -⟩ := List.lookup_eq_some_iff.1 h
  rw [heq]
  exact List.mem_append_right _ List.mem_cons_self

/-- Where every number stands for one row, a row is found under its number. -/
theorem get?_of_mem_rows {t : Table α} (h : t.keys.Pairwise (· < ·)) {n : Nat} {a : α}
    (hmem : (n, a) ∈ t.rows) : t.get? n = some a := by
  obtain ⟨rows⟩ := t
  simp only [keys, get?] at h hmem ⊢
  induction rows with
  | nil => exact absurd hmem List.not_mem_nil
  | cons row rows ih =>
    obtain ⟨m, b⟩ := row
    rw [List.map_cons, List.pairwise_cons] at h
    rcases List.mem_cons.1 hmem with heq | hrest
    · obtain ⟨rfl, rfl⟩ := Prod.mk.inj heq
      simp
    · have hlt : m < n := h.1 n (List.mem_map_of_mem hrest)
      rw [List.lookup_cons, beq_eq_false_iff_ne.2 (Nat.ne_of_gt hlt)]
      exact ih h.2 hrest

/-- A change that leaves the row as it is changes nothing. -/
theorem modify_eq_self {t : Table α} {n : Nat} {f : α → α}
    (h : ∀ a, (n, a) ∈ t.rows → f a = a) : t.modify n f = t := by
  obtain ⟨rows⟩ := t
  refine congrArg Table.mk ((List.map_congr_left fun row hrow => ?_).trans (List.map_id rows))
  split
  · rename_i heq
    subst heq
    exact Prod.ext rfl (h row.2 hrow)
  · rfl

/-- Putting a row back where it is changes nothing. -/
theorem set_eq_self {t : Table α} (h : t.keys.Pairwise (· < ·)) {n : Nat} {a : α}
    (hget : t.get? n = some a) : t.set n a = t :=
  modify_eq_self fun _ hrow => Option.some.inj (hget.symm.trans (get?_of_mem_rows h hrow))

/-- Taking away a row that is not there changes nothing. -/
theorem erase_eq_self {t : Table α} {n : Nat} (h : t.get? n = none) : t.erase n = t := by
  refine congrArg Table.mk (List.filter_eq_self.2 fun row hrow => decide_eq_true fun heq => ?_)
  have hmem : n ∈ t.keys := heq ▸ List.mem_map_of_mem hrow
  exact (get?_eq_none_iff t n).1 h hmem

/-- A row that is not found is not there. -/
theorem not_mem_rows_of_get? {t : Table α} {n : Nat} (h : t.get? n = none) (a : α) :
    (n, a) ∉ t.rows :=
  fun hrow => (get?_eq_none_iff t n).1 h (List.mem_map_of_mem hrow)

end Table

/-! ## Reactors -/

namespace Reactor

variable (reactor : Reactor) (token : Token) (interest : Readiness)

@[simp] theorem kind_add (fd : Fd) (callback : Callback) :
    (reactor.add fd callback).kind = reactor.kind := rfl

@[simp] theorem nextToken_add (fd : Fd) (callback : Callback) :
    (reactor.add fd callback).nextToken = reactor.nextToken + 1 := rfl

@[simp] theorem keys_add (fd : Fd) (callback : Callback) :
    (reactor.add fd callback).table.keys = reactor.table.keys ++ [reactor.nextToken] :=
  Table.keys_push _ _ _

/-- An addition adds one row. -/
theorem get?_add (fd : Fd) (callback : Callback) :
    (reactor.add fd callback).table.get? token =
      (reactor.table.get? token).or
        (if token = reactor.nextToken then some ⟨fd, ∅, callback⟩ else none) :=
  Table.get?_push _ _ _ _

/-- A row that is there after an addition was there before, or is the new one. -/
theorem get?_of_add {fd : Fd} {callback : Callback} {row : Registration}
    (h : (reactor.add fd callback).table.get? token = some row) :
    reactor.table.get? token = some row ∨
      token = reactor.nextToken ∧ row = ⟨fd, ∅, callback⟩ := by
  rw [get?_add, Option.or_eq_some_iff] at h
  rcases h with hold | ⟨-, hnew⟩
  · exact .inl hold
  · obtain ⟨htoken, hrow⟩ := Option.ite_none_right_eq_some.1 hnew
    exact .inr ⟨htoken, (Option.some.inj hrow).symm⟩

@[simp] theorem kind_setInterest : (reactor.setInterest token interest).kind = reactor.kind := by
  unfold setInterest
  split <;> rfl

@[simp] theorem nextToken_setInterest :
    (reactor.setInterest token interest).nextToken = reactor.nextToken := by
  unfold setInterest
  split <;> rfl

@[simp] theorem keys_setInterest :
    (reactor.setInterest token interest).table.keys = reactor.table.keys := by
  unfold setInterest
  split
  · rfl
  · exact Table.keys_modify _ _ _

/-- A new row has no interest yet, so that it changes nothing to say so. -/
theorem setInterest_add (h : reactor.table.get? reactor.nextToken = none) (fd : Fd)
    (callback : Callback) :
    (reactor.add fd callback).setInterest reactor.nextToken ∅ = reactor.add fd callback := by
  unfold setInterest
  split
  · rfl
  · refine congrArg (Reactor.mk _ _ · _) (Table.modify_eq_self fun row hrow => ?_)
    rcases List.mem_append.1 hrow with hold | hnew
    · exact absurd hold (Table.not_mem_rows_of_get? h row)
    · obtain ⟨-, rfl⟩ := Prod.mk.inj (List.mem_singleton.1 hnew)
      rfl

/-- Setting an interest leaves the other rows alone. -/
theorem get?_setInterest_of_ne {token' : Token} (h : token' ≠ token) :
    (reactor.setInterest token interest).table.get? token' = reactor.table.get? token' := by
  unfold setInterest
  split
  · rfl
  · simp only [Table.get?_modify, if_neg h]

/-- Setting an interest changes the interest of a row and nothing else. -/
theorem get?_of_setInterest {token' : Token} {row : Registration}
    (h : (reactor.setInterest token interest).table.get? token' = some row) :
    ∃ old, reactor.table.get? token' = some old ∧ row.fd = old.fd ∧
      row.callback = old.callback := by
  unfold setInterest at h
  split at h
  · exact ⟨row, h, rfl, rfl⟩
  · simp only [Table.get?_modify] at h
    split at h
    · obtain ⟨old, hold, rfl⟩ := Option.map_eq_some_iff.1 h
      exact ⟨old, hold, rfl, rfl⟩
    · exact ⟨row, h, rfl, rfl⟩

@[simp] theorem kind_remove : (reactor.remove token).kind = reactor.kind := by
  unfold remove
  split <;> rfl

@[simp] theorem nextToken_remove : (reactor.remove token).nextToken = reactor.nextToken := by
  unfold remove
  split <;> rfl

/-- A removal adds no row. -/
theorem keys_remove_sublist :
    (reactor.remove token).table.keys.Sublist reactor.table.keys := by
  unfold remove
  split
  · exact List.Sublist.refl _
  · simp only [Table.keys_erase]
    exact List.filter_sublist

/-- A row that is there after a removal was there before. -/
theorem get?_of_remove {token' : Token} {row : Registration}
    (h : (reactor.remove token).table.get? token' = some row) :
    reactor.table.get? token' = some row := by
  unfold remove at h
  split at h
  · exact h
  · simp only [Table.get?_erase] at h
    split at h
    · simp at h
    · exact h

/-- A removal leaves the other rows alone. -/
theorem get?_remove_of_ne {token' : Token} (h : token' ≠ token) :
    (reactor.remove token).table.get? token' = reactor.table.get? token' := by
  unfold remove
  split
  · rfl
  · simp only [Table.get?_erase, if_neg h]

/-- A polling reactor forgets what it removes. -/
theorem get?_remove_self {limit : Nat} (h : reactor.kind = .polling limit) :
    (reactor.remove token).table.get? token = none := by
  simp only [remove, h, Table.get?_erase, ↓reduceIte]

end Reactor

end SocketLoop
