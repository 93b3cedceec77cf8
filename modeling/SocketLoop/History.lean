import SocketLoop.Kernel.Call
import SocketLoop.Reactor.Error
import SocketLoop.Socket.Breach
import SocketLoop.Socket.Config

/-!
# The history of a run

A run is recorded event by event in the order in which things happen: every call of the operating
system with its return value, every change of a registration, and the brackets around steps and
around calls of handlers. Whatever is said about the order or the number of things in a run is said
about its history.

A step ends with a reply. Replies of different requests have different shapes, which `Value` and
`Reply` list.
-/

namespace SocketLoop

/-- The identity of a socket; it is never used twice. It stands for a 64-bit counter that begins at
one, and is exact while fewer than 2^64 identities are handed out. -/
abbrev SocketId := Nat

/-- The identity of a registration; it is never used twice. It stands for a 64-bit counter too. The
counter is one ahead of the last token, so it is exact while fewer than 2^64 - 1 are handed out. -/
abbrev Token := Nat

/-- The identity of a handler. -/
abbrev HandlerRef := Nat

/-! ## Replies -/

/-- The result of a request that succeeded. -/
inductive Value
  | done
  | opened (id : SocketId)
  | accepted (id : SocketId) (peer : Address)
  | address (addr : Address)
  | sent (count : Int)
  | received (data : List UInt8)
  | receivedFrom (data : List UInt8) (sender : Address)
  | datagram (data : List UInt8) (sender : Address) (destination : IpAddress) (viaPacketInfo : Bool)
  | token (token : Token)
  | callbacksRun (count : Nat)
  deriving DecidableEq, Repr

/-- What a socket tells about itself. -/
structure SocketInfo where
  id : SocketId
  family : AddressFamily
  cls : SocketClass
  packetInfo : Bool
  enabled : EventSet
  connect : ConnectState
  deriving DecidableEq, Repr

/-- What a reactor tells about itself. -/
structure ReactorInfo where
  limit : Nat
  registrations : Nat
  active : Nat
  deriving DecidableEq, Repr

/-- The answer to a step. -/
inductive Reply
  | ok (value : Value)
  | failed (error : SocketError)
  | reactorFailed (error : ReactorError)
  | notRegistered (error : ReactorError)
  | breached (breach : Breach)
  /-- The socket is not open. -/
  | gone
  /-- The name for a new socket belongs to an open one. -/
  | nameTaken
  /-- The step makes no sense with this kind of reactor. -/
  | wrongReactor
  /-- There is no registration with this token. -/
  | noToken
  /-- The callback of this token is running. -/
  | busy
  | socketInfo (info : SocketInfo)
  | reactorInfo (info : ReactorInfo)
  | liveness (live : Option Bool)
  | order (order : Option Ordering)
  deriving DecidableEq

/-- What is seen of a socket after a step. -/
structure Status where
  lastError : Option SocketError
  enabled : EventSet
  connect : ConnectState
  deriving DecidableEq, Repr

/-! ## Events -/

/-- Why a handler is called. -/
inductive Notice
  /-- An event of a socket, for its handler for this event. -/
  | event (id : SocketId) (event : SocketEvent)
  /-- Events of a socket, for its global handler. -/
  | events (id : SocketId) (events : EventSet)
  /-- Readiness of a plain descriptor. -/
  | ready (token : Token) (ready : Readiness)
  deriving DecidableEq, Repr

/-- One thing that happened. -/
inductive Event
  /-- A call returned a value or failed. -/
  | called (call : Syscall) (result : Except Errno Int)
  /-- A descriptor was closed. -/
  | closed (fd : Fd)
  /-- A registration was made or refused. -/
  | registered (fd : Fd) (result : Except ReactorError Token)
  /-- The interest of a registration was set. -/
  | interestSet (token : Token) (interest : Readiness)
  /-- A registration was removed. -/
  | deregistered (token : Token)
  /-- A step began. -/
  | began
  /-- The innermost open step ended. -/
  | ended (reply : Reply) (status : Option Status)
  /-- A handler was called. -/
  | entered (handler : HandlerRef) (label : String) (notice : Notice)
  /-- The innermost running handler returned, or was left by a breach. -/
  | left

/-- The events of a run, the first one first. -/
abbrev History := List Event

end SocketLoop
