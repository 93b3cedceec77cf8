import SocketLoop.Address.Native
import SocketLoop.Kernel.Control
import SocketLoop.Kernel.Errno
import SocketLoop.Event.Readiness
import SocketLoop.Socket.Error

/-!
# Calls of the operating system

All that the library asks of the operating system is a `Syscall`, and all that it learns is the
answer: an error number, or a `Completion`. What a particular system answers is not part of the
library; an `Answer` is what one is told to answer next, and `Syscall.complete` says what such an
answer means for a given call. Fields that an answer leaves out have the usual meaning: a send takes
everything, a pending error is zero, a descriptor is the next unused number.

Received data is cut to the room that the caller has, and control messages to the room that the
caller has for them; the rest is lost.
-/

namespace SocketLoop

/-- A descriptor. -/
abbrev Fd := Int

/-- The options that are ever switched on. -/
inductive SocketOption
  | reuseAddress
  | packetInfo (family : AddressFamily)
  deriving DecidableEq, Repr

namespace SocketOption

/-- The protocol level of an option. -/
def level : SocketOption → Nat
  | reuseAddress => 1
  | packetInfo .ipv4 => 0
  | packetInfo .ipv6 => 41

/-- The number of an option within its level. -/
def number : SocketOption → Nat
  | reuseAddress => 2
  | packetInfo .ipv4 => 8
  | packetInfo .ipv6 => 49

end SocketOption

/-- The number of an address family in calls. -/
def AddressFamily.number : AddressFamily → Nat
  | .ipv4 => ipv4FamilyNumber
  | .ipv6 => ipv6FamilyNumber

/-- The number of a socket class in calls. -/
def SocketClass.number : SocketClass → Nat
  | .stream => 1
  | .datagram => 2

/-- The flag of a send that keeps a broken connection from raising a signal. -/
def noSignalFlag : Nat := 16384

/-- One registration in a wait: its descriptor and the conditions asked for. -/
structure WaitEntry where
  fd : Fd
  mask : Nat
  deriving DecidableEq, Repr

/-- A call with its arguments. -/
inductive Syscall
  | socket (family : AddressFamily) (cls : SocketClass)
  | setNonblocking (fd : Fd)
  | enableOption (fd : Fd) (option : SocketOption)
  | pendingError (fd : Fd)
  | bind (fd : Fd) (addr : NativeAddress)
  | connect (fd : Fd) (addr : NativeAddress)
  | listen (fd : Fd) (backlog : Int)
  | accept (fd : Fd)
  | peerName (fd : Fd)
  | ownName (fd : Fd)
  | send (fd : Fd) (data : List UInt8) (flags : Nat)
  | sendTo (fd : Fd) (data : List UInt8) (addr : NativeAddress) (flags : Nat)
  | sendMessage (fd : Fd) (data : List UInt8) (addr : NativeAddress) (control : List UInt8)
    (flags : Nat)
  | receive (fd : Fd) (room : Nat)
  | receiveFrom (fd : Fd) (room : Nat)
  | receiveMessage (fd : Fd) (room : Nat)
  | poll (entries : List WaitEntry) (timeout : Int)
  deriving DecidableEq, Repr

/-- The kinds of calls. -/
inductive CallKind
  | socket
  | setNonblocking
  | enableOption
  | pendingError
  | bind
  | connect
  | listen
  | accept
  | peerName
  | ownName
  | send
  | sendTo
  | sendMessage
  | receive
  | receiveFrom
  | receiveMessage
  | poll
  deriving DecidableEq, Repr

/-- The kind of a call. -/
def Syscall.kind : Syscall → CallKind
  | socket .. => .socket
  | setNonblocking .. => .setNonblocking
  | enableOption .. => .enableOption
  | pendingError .. => .pendingError
  | bind .. => .bind
  | connect .. => .connect
  | listen .. => .listen
  | accept .. => .accept
  | peerName .. => .peerName
  | ownName .. => .ownName
  | send .. => .send
  | sendTo .. => .sendTo
  | sendMessage .. => .sendMessage
  | receive .. => .receive
  | receiveFrom .. => .receiveFrom
  | receiveMessage .. => .receiveMessage
  | poll .. => .poll

/-! ## Answers -/

/-- What a successful call is told to deliver. Calls look only at the fields that concern them. -/
structure Delivery where
  /-- The descriptor to hand out, if not the next unused one. -/
  fd? : Option Fd := none
  /-- The pending error of a socket. -/
  pendingError : Errno := 0
  /-- The number of bytes taken by a send, if not all of them. -/
  count? : Option Nat := none
  /-- The bytes that have arrived. -/
  data : List UInt8 := []
  /-- The address of the other end, or the own one. -/
  address : NativeAddress := ⟨[], 0⟩
  /-- The control messages that have arrived. -/
  control : List ControlMessage := []
  /-- The conditions of a wait, by position. -/
  revents : List Revents := []

/-- What a call is told to do. -/
inductive Answer
  | failure (code : Errno)
  | success (delivery : Delivery)

/-- The answer of a call that was told nothing: accepting and receiving find nothing, addresses are
unknown, and all else succeeds. -/
def CallKind.unscripted : CallKind → Answer
  | accept => .failure Errno.wouldBlock
  | receive => .failure Errno.wouldBlock
  | receiveFrom => .failure Errno.wouldBlock
  | receiveMessage => .failure Errno.wouldBlock
  | peerName => .failure Errno.notConnected
  | ownName => .failure Errno.invalidArgument
  | _ => .success {}

/-- What a call delivers: its return value, and what it wrote into the memory of the caller. -/
structure Completion where
  value : Int := 0
  data : List UInt8 := []
  address : NativeAddress := ⟨[], 0⟩
  control : List UInt8 := []
  revents : List Revents := []

/-- The conditions for each of `n` entries of a wait; those not mentioned are clear. -/
def Delivery.reventsFor (delivery : Delivery) (n : Nat) : List Revents :=
  (List.range n).map fun i => delivery.revents.getD i 0

/-- What a delivery means for a call, where `nextFd` is the next unused descriptor. -/
def Syscall.complete (nextFd : Fd) (delivery : Delivery) : Syscall → Completion
  | socket .. => { value := delivery.fd?.getD nextFd }
  | accept .. => { value := delivery.fd?.getD nextFd, address := delivery.address }
  | pendingError .. => { value := delivery.pendingError }
  | peerName .. => { address := delivery.address }
  | ownName .. => { address := delivery.address }
  | send _ data _ => { value := delivery.count?.getD data.length }
  | sendTo _ data _ _ => { value := delivery.count?.getD data.length }
  | sendMessage _ data _ _ _ => { value := delivery.count?.getD data.length }
  | receive _ room =>
    let data := delivery.data.take room
    { value := data.length, data }
  | receiveFrom _ room =>
    let data := delivery.data.take room
    { value := data.length, data, address := delivery.address }
  | receiveMessage _ room =>
    let data := delivery.data.take room
    { value := data.length, data, address := delivery.address,
      control := layOutControl controlRoom delivery.control }
  | poll entries _ =>
    let revents := delivery.reventsFor entries.length
    { value := revents.countP (· != 0), revents }
  | _ => {}

/-- Whether a delivery makes a call hand out the next unused descriptor. -/
def Syscall.usesNextFd (delivery : Delivery) : Syscall → Bool
  | socket .. => delivery.fd?.isNone
  | accept .. => delivery.fd?.isNone
  | _ => false

end SocketLoop
