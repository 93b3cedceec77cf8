import SocketLoop.Event.Basic

/-!
# Network-event masks

Some systems report network events by a mask of their own: 1 for reading, 2 for writing, 8 for
accepting, 16 for connecting and 32 for a close. A close is reported both as reading and as writing,
so that the owner finds out by its next operation; whoever asks for one of the two therefore asks
for the close as well.
-/

namespace SocketLoop

/-- A mask of network events. -/
abbrev NetworkMask := BitVec 32

namespace NetworkMask

/-- Data can be read. -/
def reading (mask : NetworkMask) : Bool := mask.getLsbD 0

/-- Data can be written. -/
def writing (mask : NetworkMask) : Bool := mask.getLsbD 1

/-- A connection can be accepted. -/
def accepting (mask : NetworkMask) : Bool := mask.getLsbD 3

/-- A connect has ended. -/
def connecting (mask : NetworkMask) : Bool := mask.getLsbD 4

/-- The connection was closed. -/
def closing (mask : NetworkMask) : Bool := mask.getLsbD 5

/-- The bits of a mask that are present under a condition. -/
def given (present : Bool) (mask : NetworkMask) : NetworkMask :=
  if present then mask else 0

end NetworkMask

namespace EventSet

/-- The mask to ask for. -/
def networkMask (enabled : EventSet) : NetworkMask :=
  NetworkMask.given enabled.read (1 ||| 32) ||| NetworkMask.given enabled.write (2 ||| 32) |||
    NetworkMask.given enabled.accept 8 ||| NetworkMask.given enabled.connect 16

/-- The events of a set that a fired mask signals. -/
def fired (enabled : EventSet) (mask : NetworkMask) : EventSet :=
  ⟨(mask.reading || mask.closing) && enabled.read,
    (mask.writing || mask.closing) && enabled.write,
    mask.accepting && enabled.accept, mask.connecting && enabled.connect, 0⟩

end EventSet

end SocketLoop
