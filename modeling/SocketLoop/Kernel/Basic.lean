import SocketLoop.History

/-!
# A scripted operating system

The operating system is given by a script: for each kind of call, the answers that are still to
come. A call takes the next answer of its kind, or the usual one if none is left, and is recorded.
As a script can hold any answers, a statement about all scripts is a statement about all operating
systems.
-/

namespace SocketLoop

/-- How a registration is told to fail, where the reactor asks the script. -/
inductive Refusal
  | tooManyRegistrations
  | alreadyRegistered
  | wait
  | io
  deriving DecidableEq, Repr

/-- The error that a refused registration reports. -/
def Refusal.error (fd : Fd) : Refusal → ReactorError
  | tooManyRegistrations => .tooManyRegistrations 1
  | alreadyRegistered => .alreadyRegistered fd
  | wait => .wait (.errno 0)
  | io => .io (.errno 0)

/-- The answers to come, by kind of call, and the registrations to come. -/
structure Script where
  answers : CallKind → List Answer
  registrations : List (Option Refusal)

namespace Script

/-- The script that leaves everything to the usual answers. -/
def blank : Script where
  answers := fun _ => []
  registrations := []

/-- The next answer to a kind of call, and the script without it. -/
def next (script : Script) (kind : CallKind) : Answer × Script :=
  match script.answers kind with
  | [] => (kind.unscripted, script)
  | answer :: later =>
    (answer, { script with answers := fun k => if k = kind then later else script.answers k })

/-- Whether the next registration is refused, and the script without it. -/
def nextRegistration (script : Script) : Option Refusal × Script :=
  match script.registrations with
  | [] => (none, script)
  | refusal? :: later => (refusal?, { script with registrations := later })

end Script

/-- The operating system as the library sees it, with the record of what was done. -/
structure Kernel where
  script : Script
  nextFd : Fd
  history : History

namespace Kernel

/-- The first descriptor that is handed out. -/
def firstFd : Fd := 100

/-- The state before anything was done. -/
def initial : Kernel :=
  ⟨.blank, firstFd, []⟩

/-- Records an event. -/
def record (kernel : Kernel) (event : Event) : Kernel :=
  { kernel with history := kernel.history ++ [event] }

/-- Makes a call and records it with its return value. -/
def call (kernel : Kernel) (syscall : Syscall) : Except Errno Completion × Kernel :=
  match kernel.script.next syscall.kind with
  | (.failure code, script) =>
    (.error code, { kernel with script }.record (.called syscall (.error code)))
  | (.success delivery, script) =>
    let completion := syscall.complete kernel.nextFd delivery
    let nextFd := if syscall.usesNextFd delivery then kernel.nextFd + 1 else kernel.nextFd
    (.ok completion, { kernel with script, nextFd }.record (.called syscall (.ok completion.value)))

/-- Closes a descriptor, which always succeeds. -/
def close (kernel : Kernel) (fd : Fd) : Kernel :=
  kernel.record (.closed fd)

end Kernel

end SocketLoop
