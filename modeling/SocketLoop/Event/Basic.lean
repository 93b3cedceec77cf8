import SocketLoop.Text.Number

/-!
# Socket events

Four events can be delivered to a socket, and a set of them is what handlers subscribe to. A set is
a byte: the four lowest bits are the events, and the bits above them have no meaning but are kept,
so that a set that was given is the set that is shown. Operations on sets work field by field.

The roles of a socket exclude each other: data (`read`, `write`), listening (`accept`) and
connecting (`connect`). A set is coherent if at most one role is present.
-/

namespace SocketLoop

/-- The events in the order in which one batch delivers them. -/
inductive SocketEvent
  | read
  | write
  | accept
  | connect
  deriving DecidableEq, Repr

namespace SocketEvent

/-- The name of an event in messages. -/
def name : SocketEvent → String
  | read => "read"
  | write => "write"
  | accept => "accept"
  | connect => "connect"

/-- All events in the order of delivery. -/
def deliveryOrder : List SocketEvent :=
  [read, write, accept, connect]

end SocketEvent

/-- A set of events, with the four unnamed bits above them. -/
@[ext] structure EventSet where
  read : Bool
  write : Bool
  accept : Bool
  connect : Bool
  other : BitVec 4
  deriving DecidableEq, Repr

namespace EventSet

/-- The set with no bit at all. -/
def empty : EventSet :=
  ⟨false, false, false, false, 0⟩

instance : EmptyCollection EventSet := ⟨empty⟩

/-- The set of one event. -/
def single : SocketEvent → EventSet
  | .read => ⟨true, false, false, false, 0⟩
  | .write => ⟨false, true, false, false, 0⟩
  | .accept => ⟨false, false, true, false, 0⟩
  | .connect => ⟨false, false, false, true, 0⟩

/-- Whether an event is in the set. -/
def contains (s : EventSet) : SocketEvent → Bool
  | .read => s.read
  | .write => s.write
  | .accept => s.accept
  | .connect => s.connect

instance : Membership SocketEvent EventSet := ⟨fun s e => s.contains e = true⟩

instance (e : SocketEvent) (s : EventSet) : Decidable (e ∈ s) :=
  inferInstanceAs (Decidable (s.contains e = true))

instance : Union EventSet where
  union s t :=
    ⟨s.read || t.read, s.write || t.write, s.accept || t.accept, s.connect || t.connect,
      s.other ||| t.other⟩

instance : Inter EventSet where
  inter s t :=
    ⟨s.read && t.read, s.write && t.write, s.accept && t.accept, s.connect && t.connect,
      s.other &&& t.other⟩

instance : HasSubset EventSet := ⟨fun s t => s ∩ t = s⟩

instance (s t : EventSet) : Decidable (s ⊆ t) :=
  inferInstanceAs (Decidable (s ∩ t = s))

/-- The set with one more event. -/
def insert (s : EventSet) (e : SocketEvent) : EventSet :=
  s ∪ single e

/-- The set without an event. -/
def erase (s : EventSet) : SocketEvent → EventSet
  | .read => { s with read := false }
  | .write => { s with write := false }
  | .accept => { s with accept := false }
  | .connect => { s with connect := false }

/-- Whether the set has no bit at all, an unnamed one included. -/
def isEmpty (s : EventSet) : Bool :=
  s == empty

/-- Whether at most one role is present. -/
def isCoherent (s : EventSet) : Bool :=
  let data := s.read || s.write
  !(data && s.accept) && !(data && s.connect) && !(s.accept && s.connect)

/-- The events of the set in the order of delivery. -/
def events (s : EventSet) : List SocketEvent :=
  SocketEvent.deliveryOrder.filter s.contains

/-! ## Bits -/

/-- The set as a number: `read` is the lowest bit. -/
def bits (s : EventSet) : Nat :=
  s.read.toNat + 2 * s.write.toNat + 4 * s.accept.toNat + 8 * s.connect.toNat + 16 * s.other.toNat

/-- The set with the lowest eight bits of a number. -/
def ofBits (n : Nat) : EventSet :=
  ⟨n.testBit 0, n.testBit 1, n.testBit 2, n.testBit 3, BitVec.ofNat 4 (n / 16)⟩

/-- The set in messages: the names of its events, then the unnamed bits as one number. A set without
names shows its bits. -/
def describe (s : EventSet) : String :=
  let names := s.events.map fun
    | .read => "READ"
    | .write => "WRITE"
    | .accept => "ACCEPT"
    | .connect => "CONNECT"
  let rest := if s.other = 0 then [] else ["0x" ++ Text.hex (16 * s.other.toNat)]
  let parts := names ++ rest
  "EventSet(" ++ (if parts.isEmpty then "0x0" else " | ".intercalate parts) ++ ")"

/-! ## Laws -/

theorem mem_iff {e : SocketEvent} {s : EventSet} : e ∈ s ↔ s.contains e = true := Iff.rfl

@[simp] theorem contains_empty (e : SocketEvent) : (∅ : EventSet).contains e = false := by
  cases e <;> rfl

@[simp] theorem contains_union (s t : EventSet) (e : SocketEvent) :
    (s ∪ t).contains e = (s.contains e || t.contains e) := by
  cases e <;> rfl

@[simp] theorem contains_inter (s t : EventSet) (e : SocketEvent) :
    (s ∩ t).contains e = (s.contains e && t.contains e) := by
  cases e <;> rfl

theorem contains_single (d e : SocketEvent) : (single d).contains e = decide (d = e) := by
  cases d <;> cases e <;> rfl

theorem contains_erase (s : EventSet) (d e : SocketEvent) :
    (s.erase d).contains e = (s.contains e && !decide (d = e)) := by
  cases d <;> cases e <;> simp [erase, contains]

theorem mem_events {s : EventSet} {e : SocketEvent} : e ∈ s.events ↔ e ∈ s := by
  cases e <;> simp [events, SocketEvent.deliveryOrder, mem_iff]

theorem isEmpty_iff (s : EventSet) : s.isEmpty = true ↔ s = ∅ := by
  simp [isEmpty, EmptyCollection.emptyCollection]

end EventSet

end SocketLoop
