import SocketLoop.History
import SocketLoop.Table

/-!
# The registration table of a reactor

A registration has a token, a descriptor, an interest and a callback. Tokens are numbered from one
and never used again, so a stale token cannot reach a later registration of the same descriptor.

There are two kinds of reactors. A polling reactor waits for the descriptors in its table and holds
a limited number of registrations, each descriptor at most once. A retaining one keeps every
callback for ever, whatever it is told later, and calls it when it is told to: it stands for a
reactor that reports readiness which nobody asked for any more.

A callback that is running is marked as active.
-/

namespace SocketLoop

/-- What is called when a registration is ready. -/
inductive Callback
  | socket (id : SocketId)
  | direct (handler : HandlerRef)
  deriving DecidableEq, Repr

/-- A row of the table. -/
structure Registration where
  fd : Fd
  interest : Readiness
  callback : Callback
  deriving DecidableEq, Repr

/-- The kinds of reactors. -/
inductive ReactorKind
  | polling (limit : Nat)
  | retaining
  deriving DecidableEq, Repr

/-- The number of registrations that a reactor holds unless told otherwise. -/
def defaultRegistrationLimit : Nat := 1024

/-- A reactor between two things that happen to it. -/
structure Reactor where
  kind : ReactorKind
  nextToken : Token
  table : Table Registration
  /-- The tokens whose callbacks are running. -/
  active : List Token

namespace Reactor

/-- A reactor without registrations. -/
def initial (kind : ReactorKind) : Reactor :=
  ⟨kind, 1, ∅, []⟩

/-- Whether a descriptor is registered. -/
def hasFd (reactor : Reactor) (fd : Fd) : Bool :=
  reactor.table.rows.any fun row => row.2.fd = fd

/-- Why a registration is refused by the table itself. -/
def refusal? (reactor : Reactor) (fd : Fd) : Option ReactorError :=
  match reactor.kind with
  | .retaining => none
  | .polling limit =>
    if limit ≤ reactor.table.size then some (.tooManyRegistrations limit)
    else if reactor.hasFd fd then some (.alreadyRegistered fd)
    else none

/-- Adds a registration with an empty interest under the next token. -/
def add (reactor : Reactor) (fd : Fd) (callback : Callback) : Reactor :=
  { reactor with
    nextToken := reactor.nextToken + 1
    table := reactor.table.push reactor.nextToken ⟨fd, ∅, callback⟩ }

/-- Sets the interest of a registration, if there is one. A retaining reactor has no use for it. -/
def setInterest (reactor : Reactor) (token : Token) (interest : Readiness) : Reactor :=
  match reactor.kind with
  | .retaining => reactor
  | .polling _ =>
    { reactor with
      table := reactor.table.modify token fun registration => { registration with interest } }

/-- Removes a registration, if there is one. A retaining reactor keeps it. -/
def remove (reactor : Reactor) (token : Token) : Reactor :=
  match reactor.kind with
  | .retaining => reactor
  | .polling _ => { reactor with table := reactor.table.erase token }

/-- The registrations that a wait is about: those with an interest, in the order of their tokens. -/
def watched (reactor : Reactor) : List (Token × Registration) :=
  reactor.table.rows.filter fun row => !row.2.interest.isEmpty

/-- The wait entry of a registration. -/
def waitEntry (registration : Registration) : WaitEntry :=
  ⟨registration.fd, registration.interest.waitMask⟩

/-- Whether the callback of a token is running. -/
def isActive (reactor : Reactor) (token : Token) : Bool :=
  reactor.active.contains token

/-- Marks the callback of a token as running. -/
def activate (reactor : Reactor) (token : Token) : Reactor :=
  { reactor with active := token :: reactor.active }

/-- Takes the mark of a token away. -/
def deactivate (reactor : Reactor) (token : Token) : Reactor :=
  { reactor with active := reactor.active.erase token }

/-- What the reactor tells about itself. -/
def info (reactor : Reactor) (limit : Nat) : ReactorInfo where
  limit
  registrations := reactor.table.size
  active := reactor.watched.length

end Reactor

/-! ## Time-outs -/

/-- A span of time. -/
structure Duration where
  seconds : Nat
  nanoseconds : Nat
  deriving DecidableEq, Repr

/-- The longest time-out of a wait, in milliseconds. -/
def maxTimeout : Nat := 2147483647

/-- The time-out of a wait in whole milliseconds, rounded down; -1 waits without end. -/
def waitTimeout : Option Duration → Int
  | none => -1
  | some d => (min (d.seconds * 1000 + d.nanoseconds / 1000000) maxTimeout : Nat)

end SocketLoop
