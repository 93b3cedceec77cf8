import SocketLoop.Address.Native
import SocketLoop.Event.Basic
import SocketLoop.Socket.Error

/-!
# Breaches of contract

Some requests must not be made in some states: they are mistakes of the caller and not failures of
the system, and no socket error stands for them. A breach names what was broken and carries what its
message shows.
-/

namespace SocketLoop

/-- Where the connect of a socket stands. -/
inductive ConnectState
  | idle
  | pending
  | resolved (outcome : ConnectOutcome)
  deriving DecidableEq, Repr

/-- The state in messages. -/
def ConnectState.describe : ConnectState → String
  | idle => "Idle"
  | pending => "Pending"
  | resolved none => "Resolved(Ok(()))"
  | resolved (some e) => s!"Resolved(Err({e.name}))"

/-- The ways to break the contract. -/
inductive Breach
  /-- A remote or local address was needed and none was given. -/
  | addressMissing
  /-- The kernel returned an address that is none of ours. -/
  | nativeAddress (fault : NativeFault)
  /-- A connect was requested in a state other than idle. -/
  | connectNotIdle (state : ConnectState)
  /-- A result was requested in a state other than resolved. -/
  | connectNotResolved (state : ConnectState)
  /-- A connect was reported ready that was never started. -/
  | connectNotPending
  /-- The pending error of a socket could not be read. -/
  | pendingErrorUnreadable (code : Errno)
  /-- A global handler is in the way of another one. -/
  | globalPresent
  /-- Per-event handlers are in the way of a global one. -/
  | eventHandlersPresent
  /-- There is no global handler to remove. -/
  | globalAbsent
  /-- The event has a handler already. -/
  | handlerPresent (event : SocketEvent)
  /-- A global handler is in the way of a per-event one. -/
  | globalInTheWay (event : SocketEvent)
  /-- The event has no handler to remove. -/
  | handlerAbsent (event : SocketEvent)
  /-- Events were set without a global handler. -/
  | setWithoutGlobal
  /-- Events of more than one role were set. -/
  | mixedRoles (events : EventSet)
  /-- An event without a handler was enabled. -/
  | enableWithoutHandler (event : SocketEvent)
  /-- An enabled event was enabled. -/
  | alreadyEnabled (event : SocketEvent)
  /-- An event of another role was enabled. -/
  | conflictingRole (event : SocketEvent) (enabled : EventSet)
  /-- An event without a handler was disabled. -/
  | disableWithoutHandler (event : SocketEvent)
  /-- An event that is not enabled was disabled. -/
  | notEnabled (event : SocketEvent)
  /-- A callback was called while it was running. -/
  | callbackRunning
  deriving DecidableEq, Repr

/-- The message about a block of bytes that is no address. -/
def NativeFault.message : NativeFault → String
  | wrongLength .ipv4 length => mismatch "IPv4" length ipv4NativeLength
  | wrongLength .ipv6 length => mismatch "IPv6" length ipv6NativeLength
  | unsupportedFamily number => s!"unsupported native address family {familyNumberName number}"
where
  mismatch (family : String) (length expected : Nat) : String :=
    s!"assertion \x60left == right\x60 failed: {family} native address has unexpected length" ++
      s!"\n  left: {length}\n right: {expected}"

/-- The message about a breach. -/
def Breach.message : Breach → String
  | addressMissing => "address translation requires an IPv4 or IPv6 address, got none"
  | nativeAddress fault => fault.message
  | connectNotIdle state => s!"connect requested while a previous connect is {state.describe}"
  | connectNotResolved state => s!"connect result requested while connect is {state.describe}"
  | connectNotPending => "connect readiness reported without a pending connect"
  | pendingErrorUnreadable code => s!"reading the pending socket error failed: {code.message}"
  | globalPresent => "a global handler is already installed"
  | eventHandlersPresent => "cannot install a global handler while per-event handlers are installed"
  | globalAbsent => "no global handler is installed"
  | handlerPresent e => s!"a {e.name} handler is already installed"
  | globalInTheWay e => s!"cannot install a {e.name} handler while a global handler is installed"
  | handlerAbsent e => s!"no {e.name} handler is installed"
  | setWithoutGlobal => "global events require a global handler"
  | mixedRoles events => s!"event set {events.describe} mixes socket roles"
  | enableWithoutHandler e => s!"enabling {e.name} requires a {e.name} handler"
  | alreadyEnabled e => s!"{e.name} is already enabled"
  | conflictingRole e enabled =>
    s!"enabling {e.name} conflicts with enabled events {enabled.describe}"
  | disableWithoutHandler e => s!"disabling {e.name} requires a {e.name} handler"
  | notEnabled e => s!"{e.name} is not enabled"
  | callbackRunning => "RefCell already borrowed"

end SocketLoop
