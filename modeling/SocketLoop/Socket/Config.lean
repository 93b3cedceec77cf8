/-!
# Socket configuration

A receive limit bounds how many receives one socket may make between two readiness reports, so that
a busy socket cannot starve the others. The counter that is compared with it stops at
`maxReceiveCount`.
-/

namespace SocketLoop

/-- The bound on receives between two readiness reports. -/
inductive ReceiveLimit
  | unlimited
  | perDispatch (most : Nat)
  deriving DecidableEq, Repr

namespace ReceiveLimit

/-- Any number that is not positive means no limit. -/
def ofInt (n : Int) : ReceiveLimit :=
  if 0 < n then perDispatch n.toNat else unlimited

/-- Whether `count` receives use up the limit. -/
def isReached (limit : ReceiveLimit) (count : Nat) : Bool :=
  match limit with
  | unlimited => false
  | perDispatch most => most ≤ count

end ReceiveLimit

/-- The largest value of the receive counter, which then stays there. -/
def maxReceiveCount : Nat := 4294967295

/-- The backlog that stands in for one that is not positive. -/
def defaultBacklog : Int := 128

/-- The receives allowed between two readiness reports unless told otherwise. -/
def defaultReceiveMax : Nat := 2

/-- What is fixed when a socket is opened. A connection takes the configuration of its listener. -/
structure SocketConfig where
  receiveLimit : ReceiveLimit
  backlog : Int
  reuseAddress : Bool
  packetInfo : Bool
  deriving DecidableEq, Repr

/-- Reuse of addresses and packet information are wanted, and receives are limited. -/
def SocketConfig.standard : SocketConfig where
  receiveLimit := .perDispatch defaultReceiveMax
  backlog := defaultBacklog
  reuseAddress := true
  packetInfo := true

end SocketLoop
