import SocketLoop.Event.Basic

/-!
# Readiness

A reactor knows two directions, readable and writable. It is asked for directions (an interest) and
reports directions. The bits above the two are kept as they were given.

This module also holds the tables between directions and the conditions of a wait, and between
directions and socket events:

* A wait asks for readable or writable input. A hang-up or an error signals both directions, so that
  the owner finds out by its next operation.
* Reading and accepting need the readable direction; writing and connecting need the writable one.
-/

namespace SocketLoop

/-- A set of directions, with the six unnamed bits above them. -/
@[ext] structure Readiness where
  read : Bool
  write : Bool
  other : BitVec 6
  deriving DecidableEq, Repr

namespace Readiness

/-- The set with no bit at all. -/
def empty : Readiness :=
  ⟨false, false, 0⟩

instance : EmptyCollection Readiness := ⟨empty⟩

instance : Union Readiness where
  union s t := ⟨s.read || t.read, s.write || t.write, s.other ||| t.other⟩

instance : Inter Readiness where
  inter s t := ⟨s.read && t.read, s.write && t.write, s.other &&& t.other⟩

instance : HasSubset Readiness := ⟨fun s t => s ∩ t = s⟩

/-- Whether there is no bit at all, an unnamed one included. -/
def isEmpty (s : Readiness) : Bool :=
  s == empty

/-- The set as a number: `read` is the lowest bit. -/
def bits (s : Readiness) : Nat :=
  s.read.toNat + 2 * s.write.toNat + 4 * s.other.toNat

/-- The set with the lowest eight bits of a number. -/
def ofBits (n : Nat) : Readiness :=
  ⟨n.testBit 0, n.testBit 1, BitVec.ofNat 6 (n / 4)⟩

theorem isEmpty_iff (s : Readiness) : s.isEmpty = true ↔ s = ∅ := by
  simp [isEmpty, EmptyCollection.emptyCollection]

end Readiness

/-! ## Conditions of a wait -/

/-- The conditions that a wait reports for one descriptor. -/
abbrev Revents := BitVec 16

namespace Revents

/-- Input can be read. -/
def input (r : Revents) : Bool := r.getLsbD 0

/-- Output can be written. -/
def output (r : Revents) : Bool := r.getLsbD 2

/-- The descriptor is in error. -/
def failure (r : Revents) : Bool := r.getLsbD 3

/-- The other end has hung up. -/
def hangUp (r : Revents) : Bool := r.getLsbD 4

/-- The directions that the conditions signal. -/
def readiness (r : Revents) : Readiness :=
  ⟨r.input || r.hangUp || r.failure, r.output || r.hangUp || r.failure, 0⟩

end Revents

/-- The conditions to ask for in a wait: 1 for input, 4 for output. -/
def Readiness.waitMask (interest : Readiness) : Nat :=
  interest.read.toNat + 4 * interest.write.toNat

/-! ## Directions and events -/

namespace EventSet

/-- The directions that the events of a set need. -/
def interest (enabled : EventSet) : Readiness :=
  ⟨enabled.read || enabled.accept, enabled.write || enabled.connect, 0⟩

/-- The events of a set that ready directions signal. -/
def signalled (enabled : EventSet) (ready : Readiness) : EventSet :=
  ⟨ready.read && enabled.read, ready.write && enabled.write, ready.read && enabled.accept,
    ready.write && enabled.connect, 0⟩

end EventSet

end SocketLoop
