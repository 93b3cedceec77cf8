/-!
# Error numbers of the operating system

A failed call carries an error number. Only the numbers below have a meaning here; the message of
any number is the one that the system prints for it, followed by the number.
-/

namespace SocketLoop

/-- An error number. -/
abbrev Errno := Int

namespace Errno

/-- A call was interrupted by a signal. -/
def interrupted : Errno := 4

/-- The operation would have to wait. -/
def wouldBlock : Errno := 11

/-- The caller lacks a permission. -/
def accessDenied : Errno := 13

/-- The argument makes no sense for the call. -/
def invalidArgument : Errno := 22

/-- The local address is taken. -/
def addressInUse : Errno := 98

/-- The local address does not exist on this host. -/
def addressNotAvailable : Errno := 99

/-- The peer reset the connection. -/
def connectionReset : Errno := 104

/-- The socket has no peer. -/
def notConnected : Errno := 107

/-- The peer did not answer in time. -/
def timedOut : Errno := 110

/-- The peer refused the connection. -/
def connectionRefused : Errno := 111

/-- A connect was started and is not finished. -/
def inProgress : Errno := 115

/-- The phrase that the system has for a number. -/
def phrase (code : Errno) : String :=
  match code with
  | 0 => "Success"
  | 1 => "Operation not permitted"
  | 4 => "Interrupted system call"
  | 5 => "Input/output error"
  | 9 => "Bad file descriptor"
  | 11 => "Resource temporarily unavailable"
  | 12 => "Cannot allocate memory"
  | 13 => "Permission denied"
  | 14 => "Bad address"
  | 22 => "Invalid argument"
  | 23 => "Too many open files in system"
  | 24 => "Too many open files"
  | 32 => "Broken pipe"
  | 88 => "Socket operation on non-socket"
  | 92 => "Protocol not available"
  | 95 => "Operation not supported"
  | 97 => "Address family not supported by protocol"
  | 98 => "Address already in use"
  | 99 => "Cannot assign requested address"
  | 100 => "Network is down"
  | 101 => "Network is unreachable"
  | 104 => "Connection reset by peer"
  | 105 => "No buffer space available"
  | 106 => "Transport endpoint is already connected"
  | 107 => "Transport endpoint is not connected"
  | 110 => "Connection timed out"
  | 111 => "Connection refused"
  | 113 => "No route to host"
  | 114 => "Operation already in progress"
  | 115 => "Operation now in progress"
  | code => s!"Unknown error {code}"

/-- The phrase and the number, as messages show them. -/
def message (code : Errno) : String :=
  s!"{phrase code} (os error {code})"

end Errno

/-- A failure of the system: an error number, or a description where there is no number. -/
inductive Failure
  | errno (code : Errno)
  | described (text : String)
  deriving DecidableEq, Repr

namespace Failure

/-- The error number, if there is one. -/
def errno? : Failure → Option Errno
  | errno code => some code
  | described _ => none

/-- The failure in words. -/
def message : Failure → String
  | errno code => code.message
  | described text => text

end Failure

end SocketLoop
