import SocketLoop.Event.Network
import SocketLoop.Event.Readiness
import SocketLoop.Proofs.Socket.Subscription

/-!
# What a backend asks for, and what it can use

A backend stands between a socket and what the system reports. It has two tables: one says which
conditions to ask for, given the enabled events, and the other which of the enabled events the
reported conditions signal. The tables are written down apart from each other, for network events
and for readiness alike, and nothing in them says that they fit.

They fit because both go by the same thing, which stands in neither of them: which conditions signal
which event. A condition may signal several events, as a close does, and an event may be signalled
by several conditions.

* `GoesBy`: both tables of a backend go by one relation of conditions and events.
* `GoesBy.isExact`: what follows for any two tables that do.
* `EventSet.goesBy_networkMask`, `EventSet.goesBy_interest`: the tables of the two backends do, each
  by its own relation.
* **`EventSet.backends_exact`**: whatever is enabled, and whatever is reported, a backend asks for
  what it can use and for nothing else.
-/

namespace SocketLoop

/-! ## Tables that fit -/

section Tables

variable {σ : Type} {ask : EventSet → σ} {translate : EventSet → σ → EventSet}

/-- What a backend asks for is what it can use. Sets of conditions are given by `σ` with its
operations. -/
structure IsExact (inter union : σ → σ → σ) (none : σ) (ask : EventSet → σ)
    (translate : EventSet → σ → EventSet) : Prop where
  /-- Only enabled events come out. -/
  subset : ∀ enabled reported, translate enabled reported ⊆ enabled
  /-- An event comes out if and only if a condition is reported that was asked for. -/
  ne_empty_iff : ∀ enabled reported,
    translate enabled reported ≠ ∅ ↔ inter reported (ask enabled) ≠ none
  /-- Conditions that were not asked for do not matter. -/
  asked : ∀ enabled reported,
    translate enabled (inter reported (ask enabled)) = translate enabled reported
  /-- What is reported in two parts signals what the parts signal. -/
  parts : ∀ enabled reported more, translate enabled (union reported more) =
    translate enabled reported ∪ translate enabled more

/-- Both tables of a backend go by the same relation: a condition is asked for if and only if it
signals an enabled event, and an event comes out if and only if it is enabled and one of its
conditions is reported. -/
structure GoesBy {κ : Type} (Holds : σ → κ → Prop) (Signals : κ → SocketEvent → Prop)
    (ask : EventSet → σ) (translate : EventSet → σ → EventSet) : Prop where
  holds_ask : ∀ enabled condition,
    Holds (ask enabled) condition ↔ ∃ event ∈ enabled, Signals condition event
  mem_translate : ∀ enabled reported event, event ∈ translate enabled reported ↔
    event ∈ enabled ∧ ∃ condition, Holds reported condition ∧ Signals condition event
  other_translate : ∀ enabled reported, (translate enabled reported).other = 0

/-- There are four events. -/
theorem SocketEvent.exists_iff {p : SocketEvent → Prop} :
    (∃ event, p event) ↔ p .read ∨ p .write ∨ p .accept ∨ p .connect := by
  constructor
  · rintro ⟨event, hevent⟩
    cases event with
    | read => exact .inl hevent
    | write => exact .inr (.inl hevent)
    | accept => exact .inr (.inr (.inl hevent))
    | connect => exact .inr (.inr (.inr hevent))
  · rintro (hevent | hevent | hevent | hevent)
    · exact ⟨.read, hevent⟩
    · exact ⟨.write, hevent⟩
    · exact ⟨.accept, hevent⟩
    · exact ⟨.connect, hevent⟩

/-- Two sets without unnamed bits that have the same events are the same. -/
theorem EventSet.ext_of_mem {s t : EventSet} (hmem : ∀ event, event ∈ s ↔ event ∈ t)
    (hs : s.other = 0) (ht : t.other = 0) : s = t := by
  have hcontains (event : SocketEvent) : s.contains event = t.contains event :=
    Bool.eq_iff_iff.2 (hmem event)
  exact EventSet.ext (hcontains .read) (hcontains .write) (hcontains .accept) (hcontains .connect)
    (hs.trans ht.symm)

/-- A set with events is not empty, nor is any other, if it has no unnamed bits. -/
theorem EventSet.ne_empty_iff {s : EventSet} (hs : s.other = 0) :
    s ≠ ∅ ↔ ∃ event, event ∈ s := by
  constructor
  · intro hne
    refine Classical.byContradiction fun hnone => hne (EventSet.eq_empty ?_ hs)
    exact fun event hevent => hnone ⟨event, hevent⟩
  · rintro ⟨event, hevent⟩ rfl
    rw [EventSet.mem_iff, EventSet.contains_empty] at hevent
    exact absurd hevent Bool.false_ne_true

/-- **Tables that go by the same relation fit.** -/
theorem GoesBy.isExact {κ : Type} {Holds : σ → κ → Prop} {Signals : κ → SocketEvent → Prop}
    {inter union : σ → σ → σ} {none : σ} (h : GoesBy Holds Signals ask translate)
    (holds_inter : ∀ s t condition,
      Holds (inter s t) condition ↔ Holds s condition ∧ Holds t condition)
    (holds_union : ∀ s t condition,
      Holds (union s t) condition ↔ Holds s condition ∨ Holds t condition)
    (ne_none_iff : ∀ s, s ≠ none ↔ ∃ condition, Holds s condition) :
    IsExact inter union none ask translate where
  subset enabled reported := by
    apply EventSet.ext_of_mem
    · intro event
      rw [EventSet.mem_iff, EventSet.contains_inter, Bool.and_eq_true]
      exact and_iff_left_of_imp fun hevent => ((h.mem_translate _ _ _).1 hevent).1
    · show (translate enabled reported).other &&& enabled.other = 0
      rw [h.other_translate]
      exact BitVec.zero_and
    · exact h.other_translate enabled reported
  ne_empty_iff enabled reported := by
    rw [EventSet.ne_empty_iff (h.other_translate enabled reported), ne_none_iff]
    constructor
    · rintro ⟨event, hevent⟩
      obtain ⟨henabled, condition, hreported, hsignals⟩ := (h.mem_translate _ _ _).1 hevent
      have hasked := (h.holds_ask enabled condition).2 ⟨event, henabled, hsignals⟩
      exact ⟨condition, (holds_inter _ _ _).2 ⟨hreported, hasked⟩⟩
    · rintro ⟨condition, hcondition⟩
      obtain ⟨hreported, hasked⟩ := (holds_inter _ _ _).1 hcondition
      obtain ⟨event, henabled, hsignals⟩ := (h.holds_ask _ _).1 hasked
      exact ⟨event, (h.mem_translate _ _ _).2 ⟨henabled, condition, hreported, hsignals⟩⟩
  asked enabled reported := by
    refine EventSet.ext_of_mem (fun event => ?_) (h.other_translate _ _) (h.other_translate _ _)
    rw [h.mem_translate, h.mem_translate]
    apply and_congr_right
    intro henabled
    apply exists_congr
    intro condition
    rw [holds_inter]
    constructor
    · rintro ⟨⟨hreported, -⟩, hsignals⟩
      exact ⟨hreported, hsignals⟩
    · rintro ⟨hreported, hsignals⟩
      have hasked := (h.holds_ask enabled condition).2 ⟨event, henabled, hsignals⟩
      exact ⟨⟨hreported, hasked⟩, hsignals⟩
  parts enabled reported more := by
    apply EventSet.ext_of_mem
    · intro event
      rw [EventSet.mem_iff (s := _ ∪ _), EventSet.contains_union, Bool.or_eq_true,
        ← EventSet.mem_iff, ← EventSet.mem_iff, h.mem_translate, h.mem_translate, h.mem_translate,
        ← and_or_left, ← exists_or]
      apply and_congr_right
      intro _
      apply exists_congr
      intro condition
      rw [holds_union, or_and_right]
    · exact h.other_translate _ _
    · show (translate enabled reported).other ||| (translate enabled more).other = 0
      rw [h.other_translate, h.other_translate]
      exact BitVec.or_zero

end Tables

/-! ## Network events -/

namespace NetworkMask

/-- The bits that signal an event, by position. A close, which is bit five, signals both reading and
writing. -/
def positions : SocketEvent → List Nat
  | .read => [0, 5]
  | .write => [1, 5]
  | .accept => [3]
  | .connect => [4]

/-- The mask of one event. -/
def ofEvent : SocketEvent → NetworkMask
  | .read => 1 ||| 32
  | .write => 2 ||| 32
  | .accept => 8
  | .connect => 16

/-- The mask of one event has the bits that signal it. -/
theorem getLsbD_ofEvent (event : SocketEvent) (i : Nat) :
    (ofEvent event).getLsbD i = true ↔ i ∈ positions event := by
  by_cases hi : i < 32
  · have hbits : ∀ i < 32, (ofEvent event).getLsbD i = decide (i ∈ positions event) := by
      cases event <;> decide
    rw [hbits i hi, decide_eq_true_eq]
  · have hsmall : ∀ position ∈ positions event, position < 32 := by
      cases event <;> decide
    rw [BitVec.getLsbD_of_ge _ _ (Nat.le_of_not_lt hi)]
    exact iff_of_false Bool.false_ne_true fun hmem => hi (hsmall i hmem)

theorem getLsbD_given (present : Bool) (mask : NetworkMask) (i : Nat) :
    (given present mask).getLsbD i = (present && mask.getLsbD i) := by
  cases present
  · exact BitVec.getLsbD_zero
  · rfl

/-- A mask with a bit is not zero. -/
theorem ne_zero_iff (mask : NetworkMask) : mask ≠ 0 ↔ ∃ i, mask.getLsbD i = true := by
  constructor
  · intro hne
    refine Classical.byContradiction fun hnone => hne (BitVec.eq_of_getLsbD_eq fun i _ => ?_)
    rw [Bool.eq_false_iff.2 fun hi => hnone ⟨i, hi⟩]
    exact BitVec.getLsbD_zero.symm
  · rintro ⟨i, hi⟩ rfl
    exact Bool.false_ne_true (BitVec.getLsbD_zero.symm.trans hi)

end NetworkMask

namespace EventSet

/-- The tables of network events go by the bits that signal each event. -/
theorem goesBy_networkMask : GoesBy (fun (mask : NetworkMask) i => mask.getLsbD i = true)
    (fun i event => i ∈ NetworkMask.positions event) networkMask fired where
  holds_ask enabled i := by
    have hmask : networkMask enabled = .given enabled.read (.ofEvent .read) |||
        .given enabled.write (.ofEvent .write) ||| .given enabled.accept (.ofEvent .accept) |||
        .given enabled.connect (.ofEvent .connect) := rfl
    rw [hmask, SocketEvent.exists_iff]
    simp only [BitVec.getLsbD_or, NetworkMask.getLsbD_given, Bool.or_eq_true, Bool.and_eq_true,
      NetworkMask.getLsbD_ofEvent, or_assoc]
    rfl
  mem_translate enabled mask event := by
    have hpair (i j : Nat) : (∃ k, mask.getLsbD k = true ∧ k ∈ [i, j]) ↔
        mask.getLsbD i = true ∨ mask.getLsbD j = true := by
      simp only [List.mem_cons, List.not_mem_nil, or_false, and_or_left, exists_or,
        exists_eq_right]
    have hsingle (i : Nat) : (∃ k, mask.getLsbD k = true ∧ k ∈ [i]) ↔ mask.getLsbD i = true := by
      simp only [List.mem_singleton, exists_eq_right]
    rw [mem_iff, mem_iff, and_comm]
    cases event with
    | read =>
      have hreading := Bool.or_eq_true_iff.trans (hpair 0 5).symm
      exact Bool.and_eq_true_iff.trans (and_congr_left' hreading)
    | write =>
      have hwriting := Bool.or_eq_true_iff.trans (hpair 1 5).symm
      exact Bool.and_eq_true_iff.trans (and_congr_left' hwriting)
    | accept => exact Bool.and_eq_true_iff.trans (and_congr_left' (hsingle 3).symm)
    | connect => exact Bool.and_eq_true_iff.trans (and_congr_left' (hsingle 4).symm)
  other_translate _ _ := rfl

end EventSet

/-! ## Readiness -/

namespace Readiness

/-- Whether a set has a bit: the two directions come first, and then the unnamed bits. -/
def hasBit (s : Readiness) : Nat → Bool
  | 0 => s.read
  | 1 => s.write
  | i + 2 => s.other.getLsbD i

theorem hasBit_inter (s t : Readiness) (i : Nat) :
    (s ∩ t).hasBit i = (s.hasBit i && t.hasBit i) := by
  match i with
  | 0 => rfl
  | 1 => rfl
  | i + 2 => exact BitVec.getLsbD_and

theorem hasBit_union (s t : Readiness) (i : Nat) :
    (s ∪ t).hasBit i = (s.hasBit i || t.hasBit i) := by
  match i with
  | 0 => rfl
  | 1 => rfl
  | i + 2 => exact BitVec.getLsbD_or

/-- A set with a bit is not empty. -/
theorem ne_empty_iff (s : Readiness) : s ≠ ∅ ↔ ∃ i, s.hasBit i = true := by
  constructor
  · intro hne
    refine Classical.byContradiction fun hnone => hne ?_
    have hbit (i : Nat) : s.hasBit i = false :=
      Bool.eq_false_iff.2 fun hi => hnone ⟨i, hi⟩
    have hother : s.other = 0 :=
      BitVec.eq_of_getLsbD_eq fun i _ => (hbit (i + 2)).trans BitVec.getLsbD_zero.symm
    exact Readiness.ext (hbit 0) (hbit 1) hother
  · rintro ⟨i, hi⟩ rfl
    match i with
    | 0 => exact Bool.false_ne_true hi
    | 1 => exact Bool.false_ne_true hi
    | i + 2 => exact Bool.false_ne_true (BitVec.getLsbD_zero.symm.trans hi)

/-- The direction that signals an event. -/
def position : SocketEvent → Nat
  | .read => 0
  | .accept => 0
  | .write => 1
  | .connect => 1

end Readiness

namespace EventSet

/-- The tables of readiness go by the direction that signals each event. -/
theorem goesBy_interest : GoesBy (fun (ready : Readiness) i => ready.hasBit i = true)
    (fun i event => i = Readiness.position event) interest signalled where
  holds_ask enabled i := by
    rw [SocketEvent.exists_iff]
    match i with
    | 0 =>
      show (enabled.read || enabled.accept) = true ↔ _
      simp [Readiness.position, mem_iff, contains]
    | 1 =>
      show (enabled.write || enabled.connect) = true ↔ _
      simp [Readiness.position, mem_iff, contains]
    | i + 2 =>
      have hnone : (interest enabled).hasBit (i + 2) = false := BitVec.getLsbD_zero
      simp [hnone, Readiness.position]
  mem_translate enabled ready event := by
    simp only [exists_eq_right]
    rw [mem_iff, mem_iff, and_comm]
    cases event <;> exact Bool.and_eq_true_iff
  other_translate _ _ := rfl

/-- **What a backend asks for is what it can use**, for the backend of network events and for that
of readiness. -/
theorem backends_exact :
    IsExact (· &&& ·) (· ||| ·) (0 : NetworkMask) networkMask fired ∧
      IsExact (· ∩ ·) (· ∪ ·) (∅ : Readiness) interest signalled := by
  constructor
  · apply goesBy_networkMask.isExact
    · intro s t i
      rw [BitVec.getLsbD_and, Bool.and_eq_true]
    · intro s t i
      rw [BitVec.getLsbD_or, Bool.or_eq_true]
    · exact NetworkMask.ne_zero_iff
  · apply goesBy_interest.isExact
    · intro s t i
      rw [Readiness.hasBit_inter, Bool.and_eq_true]
    · intro s t i
      rw [Readiness.hasBit_union, Bool.or_eq_true]
    · exact Readiness.ne_empty_iff

end EventSet

end SocketLoop
