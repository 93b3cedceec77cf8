import SocketLoop.Reactor.Basic
import SocketLoop.Kernel.Basic
import SocketLoop.Socket.Request

/-!
# Programs

What an embedder does with the library, written down: a program is a list of steps, and a step is an
action together with the answers that the operating system gives to the calls it makes. Sockets are
called by names, and a name stands for the last socket that was kept under it. A step can also name
a socket to be looked at when it has ended.

Handlers are programs too. The code of a handler lists what it does at its first call, at its
second, and so on; when the list is used up it does nothing. As commands and answers are arbitrary,
so are handlers: any behaviour in a given run, however it came about, is some list of steps.
-/

namespace SocketLoop

/-- The name of a socket within a program. -/
abbrev SocketName := String

/-- A command that ends at once, where the code of handlers is given by `β`. -/
inductive Command (β : Type)
  /-- Opens a socket and keeps it under a name that no open socket has. -/
  | openSocket (name : SocketName) (family : AddressFamily) (cls : SocketClass)
    (config : SocketConfig)
  /-- Frees a socket. -/
  | free (name : SocketName)
  /-- Asks a socket about itself. -/
  | info (name : SocketName)
  /-- Asks whether the last socket under a name is still open. -/
  | isLive (name : SocketName)
  /-- Carries out an operation on a socket. -/
  | request (name : SocketName) (request : Request)
  /-- Accepts a connection and keeps it under a name that no open socket has. -/
  | accept (name newName : SocketName)
  /-- Changes the subscription of a socket. -/
  | change (name : SocketName) (change : Change β)
  /-- Compares the identities of two sockets. -/
  | compareIds (first second : SocketName)
  /-- Asks the reactor about itself. -/
  | reactorInfo
  /-- Registers a plain descriptor. -/
  | addDescriptor (fd : Fd) (label : String) (handler : β)
  /-- Sets the interest of a registration. -/
  | setDescriptor (token : Token) (interest : Readiness)
  /-- Removes a registration. -/
  | removeDescriptor (token : Token)

/-- What a step does: a command, or one of the two things that call callbacks and end when these
have ended. -/
inductive Action (β : Type)
  | command (command : Command β)
  /-- Waits once and calls the callbacks of what is ready. -/
  | run (timeout : Option Duration)
  /-- Makes a retaining reactor call a callback. -/
  | fire (token : Token) (ready : Readiness)

/-- How a step ends, whatever it does. -/
structure StepEnding where
  /-- The socket that is looked at when the step has ended; the action need not be about it. -/
  watched : Option SocketName
  /-- Whether a breach stops with the step. A breach of any other step also ends the handler in
  which the step was taken, and so on outwards. -/
  contained : Bool
  deriving DecidableEq, Repr

/-- An action with the answers to its calls. -/
structure Step where
  action : Action (List (List Step))
  script : Script
  ending : StepEnding

/-- The code of a handler, call by call. -/
abbrev HandlerCode := List (List Step)

end SocketLoop
