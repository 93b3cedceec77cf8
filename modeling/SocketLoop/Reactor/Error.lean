import SocketLoop.Kernel.Errno

/-!
# Failures of a reactor

A registration is refused if the table is full or the descriptor is in it already. The other two
failures carry their cause.
-/

namespace SocketLoop

/-- What a reactor reports. -/
inductive ReactorError
  | tooManyRegistrations (limit : Nat)
  | alreadyRegistered (descriptor : Int)
  | wait (cause : Failure)
  | io (cause : Failure)
  deriving DecidableEq, Repr

namespace ReactorError

/-- The failure in words. -/
def message : ReactorError → String
  | tooManyRegistrations limit => s!"registration limit of {limit} reached"
  | alreadyRegistered descriptor => s!"native handle {descriptor} is already registered"
  | wait cause => s!"waiting for events failed: {cause.message}"
  | io cause => s!"native reactor operation failed: {cause.message}"

/-- The failure behind this one, if there is one. -/
def cause? : ReactorError → Option Failure
  | tooManyRegistrations _ => none
  | alreadyRegistered _ => none
  | wait cause => some cause
  | io cause => some cause

end ReactorError

end SocketLoop
