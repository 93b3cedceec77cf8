import SocketLoop.Socket.Operation

/-!
# Requests

The operations on one open socket as data, so that a statement about every operation is a statement
about every `Request`. Accepting is not among them, because it makes a second socket; nor are
changes of the subscription, of which the reactor is told.
-/

namespace SocketLoop

/-- An operation with its arguments. -/
inductive Request
  | bind (addr : Address)
  | listen (backlog : Int)
  | connect (addr : Address)
  | connectResult
  | drainAccept
  | peerAddress
  | ownAddress
  | send (data : List UInt8)
  | sendTo (data : List UInt8) (remote : Address)
  | sendToFrom (data : List UInt8) (remote : Address) (source : IpAddress)
  | receive (room : Nat)
  | receiveFrom (room : Nat)
  | receiveFromTo (room : Nat)
  | setReceiveLimit (limit : ReceiveLimit)
  deriving DecidableEq, Repr

/-- Carries out a request. -/
def Request.run : Request → SocketM Value
  | bind addr => do SocketM.bindTo addr; return .done
  | listen backlog => do SocketM.listen backlog; return .done
  | connect addr => do SocketM.connect addr; return .done
  | connectResult => do SocketM.connectResult; return .done
  | drainAccept => return .address (← SocketM.drainAccept)
  | peerAddress => return .address (← SocketM.peerAddress)
  | ownAddress => return .address (← SocketM.ownAddress)
  | send data => return .sent (← SocketM.send data)
  | sendTo data remote => return .sent (← SocketM.sendTo data remote)
  | sendToFrom data remote source => return .sent (← SocketM.sendToFrom data remote source)
  | receive room => return .received (← SocketM.receive room)
  | receiveFrom room => do
    let (data, sender) ← SocketM.receiveFrom room
    return .receivedFrom data sender
  | receiveFromTo room => do
    let d ← SocketM.receiveFromTo room
    return .datagram d.data d.sender d.destination d.viaPacketInfo
  | setReceiveLimit limit => do SocketM.setReceiveLimit limit; return .done

end SocketLoop
