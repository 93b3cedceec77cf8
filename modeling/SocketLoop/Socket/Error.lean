import SocketLoop.Kernel.Errno

/-!
# Socket errors

Callers see few errors. A failure is classified in two steps: an error number is first turned into a
neutral condition, and then the table of the failed operation decides which of the conditions it
recognises. Everything else is `unknown`.
-/

namespace SocketLoop

/-- The class of a socket. -/
inductive SocketClass
  | stream
  | datagram
  deriving DecidableEq, Repr

/-- What a failed operation reports. Success is no error. -/
inductive SocketError
  | later
  | inProgress
  | addressNotAvailable
  | addressInUse
  | accessDenied
  | connectionRefused
  | connectionReset
  | connectionTimedOut
  | unknown
  deriving DecidableEq, Repr

namespace SocketError

/-- The name of an error, as messages about states show it. -/
def name : SocketError → String
  | later => "Later"
  | inProgress => "InProgress"
  | addressNotAvailable => "AddressNotAvailable"
  | addressInUse => "AddressInUse"
  | accessDenied => "AccessDenied"
  | connectionRefused => "ConnectionRefused"
  | connectionReset => "ConnectionReset"
  | connectionTimedOut => "ConnectionTimedOut"
  | unknown => "Unknown"

/-- The error in words. -/
def message : SocketError → String
  | later => "operation would block"
  | inProgress => "connect in progress"
  | addressNotAvailable => "address not available"
  | addressInUse => "address in use"
  | accessDenied => "access denied"
  | connectionRefused => "connection refused"
  | connectionReset => "connection reset"
  | connectionTimedOut => "connection timed out"
  | unknown => "unknown socket error"

end SocketError

/-- The operations that have a table of their own. All sends share one, and so do all receives. -/
inductive Operation
  | connect
  | connectResult
  | bind
  | listen
  | accept
  | send
  | recv
  | addressQuery
  deriving DecidableEq, Repr

/-- The conditions that at least one operation recognises. -/
inductive Condition
  | wouldBlock
  | inProgress
  | addressNotAvailable
  | addressInUse
  | accessDenied
  | connectionRefused
  | connectionReset
  | timedOut
  deriving DecidableEq, Repr

/-- The condition that an error number stands for. -/
def Condition.ofErrno? (code : Errno) : Option Condition :=
  if code = Errno.wouldBlock then some .wouldBlock
  else if code = Errno.inProgress then some .inProgress
  else if code = Errno.addressNotAvailable then some .addressNotAvailable
  else if code = Errno.addressInUse then some .addressInUse
  else if code = Errno.accessDenied then some .accessDenied
  else if code = Errno.connectionRefused then some .connectionRefused
  else if code = Errno.connectionReset then some .connectionReset
  else if code = Errno.timedOut then some .timedOut
  else none

/-- The table of each operation. A datagram socket has no connection to reset, so there a reset is a
refusal. -/
def Operation.classify (op : Operation) (cls : SocketClass) : Option Condition → SocketError
  | none => .unknown
  | some condition =>
    match op, condition with
    | .connect, .inProgress => .inProgress
    | .connectResult, .timedOut => .connectionTimedOut
    | .connectResult, .connectionRefused => .connectionRefused
    | .bind, .addressNotAvailable => .addressNotAvailable
    | .bind, .addressInUse => .addressInUse
    | .bind, .accessDenied => .accessDenied
    | .listen, .addressInUse => .addressInUse
    | .accept, .wouldBlock => .later
    | .send, .wouldBlock => .later
    | .recv, .wouldBlock => .later
    | .send, .connectionRefused => .connectionRefused
    | .recv, .connectionRefused => .connectionRefused
    | .send, .connectionReset
    | .recv, .connectionReset =>
      match cls with
      | .datagram => .connectionRefused
      | .stream => .connectionReset
    | _, _ => .unknown

/-- The error for a failure that carries an error number. -/
def Operation.classifyErrno (op : Operation) (cls : SocketClass) (code : Errno) : SocketError :=
  op.classify cls (Condition.ofErrno? code)

/-- The error for any failure; one without an error number is never recognised. -/
def Operation.classifyFailure (op : Operation) (cls : SocketClass) (failure : Failure) :
    SocketError :=
  match failure.errno? with
  | none => .unknown
  | some code => op.classifyErrno cls code

/-- How a connect ended: the failure, or nothing if the socket is connected. -/
abbrev ConnectOutcome := Option SocketError

/-- The outcome told by the pending error of a socket; zero is success. -/
def ConnectOutcome.ofPendingError (code : Errno) : ConnectOutcome :=
  if code = 0 then none else some (Operation.classifyErrno .connectResult .stream code)

end SocketLoop
