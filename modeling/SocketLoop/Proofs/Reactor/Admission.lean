import SocketLoop.Proofs.Reactor.Rows

/-!
# Admission to the registration table

A polling reactor admits a descriptor if there is room for it and it is not in the table yet.

* `Admits` says what becomes of one request to register, and `Answers` what the library may do to
  the table in one moment: there are no other ways to change it.
* `InOrder` is what the table keeps to: its size, descriptors that occur once, tokens below the next
  one, and tokens that were handed out counting from one.
* **`InOrder.answers`**: whatever the library does to the table, it stays in order.
-/

namespace SocketLoop

namespace Reactor

/-- The descriptors that are registered. -/
def fds (reactor : Reactor) : List Fd :=
  reactor.table.rows.map fun row => row.2.fd

/-- A descriptor is looked for among those that are registered. -/
theorem hasFd_iff (reactor : Reactor) (fd : Fd) : reactor.hasFd fd = true ↔ fd ∈ reactor.fds := by
  simp [hasFd, fds]

/-- What becomes of a request to register a descriptor: the result, and the reactor afterwards. A
full table refuses everything, so that a descriptor that is in it counts only where there is room.
-/
inductive Admits (limit : Nat) (reactor : Reactor) (fd : Fd) (callback : Callback) :
    Except ReactorError Token → Reactor → Prop
  | full (full : limit ≤ reactor.table.size) :
      Admits limit reactor fd callback (.error (.tooManyRegistrations limit)) reactor
  | taken (room : reactor.table.size < limit) (taken : fd ∈ reactor.fds) :
      Admits limit reactor fd callback (.error (.alreadyRegistered fd)) reactor
  /-- The registration gets the next token and an empty interest. -/
  | added (room : reactor.table.size < limit) (free : fd ∉ reactor.fds) :
      Admits limit reactor fd callback (.ok reactor.nextToken) (reactor.add fd callback)

/-- What is done to the registrations in one moment, with the requests to register and their
results. -/
inductive Answers (limit : Nat) (reactor : Reactor) :
    List (Fd × Except ReactorError Token) → Reactor → Prop
  | untouched : Answers limit reactor [] reactor
  | set {token : Token} {interest : Readiness} :
      Answers limit reactor [] (reactor.setInterest token interest)
  | removed {token : Token} : Answers limit reactor [] (reactor.remove token)
  | asked {fd : Fd} {callback : Callback} {result : Except ReactorError Token} {after : Reactor}
      (admits : reactor.Admits limit fd callback result after) :
      Answers limit reactor [(fd, result)] after

/-- The tokens that requests to register were answered with. -/
def grants (requests : List (Fd × Except ReactorError Token)) : List Token :=
  requests.filterMap fun request => request.2.toOption

/-- What a table keeps to, after these tokens were handed out. -/
structure InOrder (limit : Nat) (reactor : Reactor) (granted : List Token) : Prop where
  size_le : reactor.table.size ≤ limit
  fds_nodup : reactor.fds.Nodup
  token_lt : ∀ token ∈ reactor.table.keys, token < reactor.nextToken
  /-- The first token is one, and each further one is the next. -/
  counted : granted = List.range' 1 granted.length
  nextToken : reactor.nextToken = granted.length + 1

variable {limit : Nat} {reactor after : Reactor} {granted : List Token}
  {requests : List (Fd × Except ReactorError Token)}

/-- A new registration has no interest yet, so that it changes nothing to say so. -/
theorem Admits.setInterest_eq_self {fd : Fd} {callback : Callback} {token : Token}
    (h : reactor.Admits limit fd callback (.ok token) after)
    (hfresh : reactor.table.get? reactor.nextToken = none) :
    after.setInterest token ∅ = after := by
  cases h with
  | added room free => exact reactor.setInterest_add hfresh fd callback

/-- The interest of a registration that is gone cannot be set. -/
theorem setInterest_eq_self {token : Token} (h : reactor.table.get? token = none)
    (interest : Readiness) : reactor.setInterest token interest = reactor := by
  unfold setInterest
  split
  · rfl
  · exact congrArg (Reactor.mk _ _ · _)
      (Table.modify_eq_self fun row hrow => absurd hrow (Table.not_mem_rows_of_get? h row))

/-- A registration that is gone cannot be removed again. -/
theorem remove_eq_self {token : Token} (h : reactor.table.get? token = none) :
    reactor.remove token = reactor := by
  unfold remove
  split
  · rfl
  · exact congrArg (Reactor.mk _ _ · _) (Table.erase_eq_self h)

/-! ### Marks -/

/-- The reactor without the marks of running callbacks. -/
def unmarked (reactor : Reactor) : Reactor :=
  { reactor with active := [] }

theorem unmarked_setInterest (reactor : Reactor) (token : Token) (interest : Readiness) :
    (reactor.setInterest token interest).unmarked =
      reactor.unmarked.setInterest token interest := by
  obtain ⟨_ | _, _, _, _⟩ := reactor <;> rfl

theorem unmarked_remove (reactor : Reactor) (token : Token) :
    (reactor.remove token).unmarked = reactor.unmarked.remove token := by
  obtain ⟨_ | _, _, _, _⟩ := reactor <;> rfl

/-- Marks do not matter for admission. -/
theorem Admits.unmarked {fd : Fd} {callback : Callback} {result : Except ReactorError Token}
    (h : reactor.Admits limit fd callback result after) :
    reactor.unmarked.Admits limit fd callback result after.unmarked := by
  cases h with
  | full full => exact .full full
  | taken room taken => exact .taken room taken
  | added room free => exact .added room free

/-- Marks do not matter for what is done to the table. -/
theorem Answers.unmarked (h : reactor.Answers limit requests after) :
    reactor.unmarked.Answers limit requests after.unmarked := by
  cases h with
  | untouched => exact .untouched
  | set =>
    rw [unmarked_setInterest]
    exact .set
  | removed =>
    rw [unmarked_remove]
    exact .removed
  | asked admits => exact .asked admits.unmarked

/-- Nothing that is done to the table touches the marks. -/
theorem Answers.active (h : reactor.Answers limit requests after) :
    after.active = reactor.active := by
  cases h with
  | untouched => rfl
  | set =>
    unfold setInterest
    split <;> rfl
  | removed =>
    unfold remove
    split <;> rfl
  | asked admits => cases admits <;> rfl

/-! ### Keeping a table in order -/

/-- Setting an interest moves no descriptor. -/
theorem fds_setInterest (reactor : Reactor) (token : Token) (interest : Readiness) :
    (reactor.setInterest token interest).fds = reactor.fds := by
  unfold setInterest fds
  split
  · rfl
  · simp only [Table.modify, List.map_map]
    refine List.map_congr_left fun row _ => ?_
    by_cases h : row.1 = token <;> simp [h]

/-- A removal leaves rows of the table in their order. -/
theorem rows_remove_sublist (reactor : Reactor) (token : Token) :
    (reactor.remove token).table.rows.Sublist reactor.table.rows := by
  unfold remove
  split
  · exact List.Sublist.refl _
  · exact List.filter_sublist

/-- An empty table is in order before any token is handed out. -/
theorem inOrder_initial (limit : Nat) : (initial (.polling limit)).InOrder limit [] where
  size_le := Nat.zero_le _
  fds_nodup := List.nodup_nil
  token_lt := fun _ hmem => absurd hmem List.not_mem_nil
  counted := rfl
  nextToken := rfl

namespace InOrder

/-- Setting an interest keeps a table in order. -/
theorem setInterest (h : reactor.InOrder limit granted) (token : Token) (interest : Readiness) :
    (reactor.setInterest token interest).InOrder limit granted where
  size_le := by
    have hsize := congrArg List.length (fds_setInterest reactor token interest)
    simp only [fds, List.length_map] at hsize
    exact Nat.le_trans (Nat.le_of_eq hsize) h.size_le
  fds_nodup := by
    rw [fds_setInterest]
    exact h.fds_nodup
  token_lt := by
    rw [keys_setInterest, nextToken_setInterest]
    exact h.token_lt
  counted := h.counted
  nextToken := (nextToken_setInterest ..).trans h.nextToken

/-- A removal keeps a table in order. -/
theorem remove (h : reactor.InOrder limit granted) (token : Token) :
    (reactor.remove token).InOrder limit granted where
  size_le := Nat.le_trans (rows_remove_sublist reactor token).length_le h.size_le
  fds_nodup := h.fds_nodup.sublist ((rows_remove_sublist reactor token).map _)
  token_lt := by
    rw [nextToken_remove]
    exact fun t ht => h.token_lt t ((keys_remove_sublist reactor token).subset ht)
  counted := h.counted
  nextToken := (nextToken_remove ..).trans h.nextToken

/-- A registration keeps a table in order, where there is room and the descriptor is new. -/
theorem add (h : reactor.InOrder limit granted) {fd : Fd} (callback : Callback)
    (hroom : reactor.table.size < limit) (hfree : fd ∉ reactor.fds) :
    (reactor.add fd callback).InOrder limit (granted ++ [reactor.nextToken]) where
  size_le := by
    simp only [Reactor.add, Table.size, Table.push, List.length_append, List.length_singleton]
    exact hroom
  fds_nodup := by
    have hfds : (reactor.add fd callback).fds = reactor.fds ++ [fd] := List.map_append
    rw [hfds, List.nodup_append]
    refine ⟨h.fds_nodup, List.pairwise_singleton _ _, fun a ha b hb => ?_⟩
    rw [List.mem_singleton.1 hb]
    rintro rfl
    exact hfree ha
  token_lt := by
    rw [keys_add, nextToken_add]
    exact lt_succ_concat h.token_lt
  counted := by
    rw [List.length_append, List.length_singleton, List.range'_concat, ← h.counted, h.nextToken,
      Nat.one_mul, Nat.add_comm]
  nextToken := by
    rw [nextToken_add, h.nextToken, List.length_append, List.length_singleton]

/-- **Whatever is done to a table that is in order, it stays in order**, and the tokens that are
handed out go on counting. -/
theorem answers (h : reactor.InOrder limit granted)
    (hanswers : reactor.Answers limit requests after) :
    after.InOrder limit (granted ++ grants requests) := by
  have hnone : granted ++ grants [] = granted := List.append_nil granted
  cases hanswers with
  | untouched => rwa [hnone]
  | set =>
    rw [hnone]
    exact h.setInterest _ _
  | removed =>
    rw [hnone]
    exact h.remove _
  | asked hadmits =>
    cases hadmits with
    | full _ | taken _ _ =>
      rwa [grants, List.filterMap_cons_none rfl, List.filterMap_nil, List.append_nil]
    | added hroom hfree => exact h.add _ hroom hfree

/-- Marks do not matter for the order. -/
theorem marked (h : reactor.unmarked.InOrder limit granted) : reactor.InOrder limit granted :=
  ⟨h.size_le, h.fds_nodup, h.token_lt, h.counted, h.nextToken⟩

/-- A token that was handed out is below the next one. -/
theorem lt_of_granted (h : reactor.InOrder limit granted) {token : Token}
    (hgranted : token ∈ granted) : token < reactor.nextToken := by
  rw [h.counted, List.mem_range'_1, Nat.add_comm] at hgranted
  rw [h.nextToken]
  exact hgranted.2

end InOrder

end Reactor

end SocketLoop
