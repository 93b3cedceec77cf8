import SocketLoop.Program
import SocketLoop.World

/-!
# The state of a run

A run is a stack of activities, the innermost first. A handler that runs a step, which waits, which
calls a callback, which dispatches a batch, which calls a handler: each of these is a frame.
Everything that a run will still do is in the stack and in the code of the installed handlers.

While a handler runs, the answers of the step that led to it are put aside in its frame, because the
steps of the handler bring their own.
-/

namespace SocketLoop

/-- An activity that is not finished. -/
inductive Frame
  /-- The steps that the program, or a handler, has still to take, with the answers put aside. -/
  | steps (steps : List Step) (script : Script) (isHandler : Bool)
  /-- The events of a batch that have still to be dispatched to single handlers of a socket. -/
  | batch (id : SocketId) (events : List SocketEvent)
  /-- A callback that is running. -/
  | callback (token : Token)
  /-- A wake: what was reported and not yet looked at, and the callbacks called so far. -/
  | wake (pending : List (Token × Revents)) (count : Nat) (ending : StepEnding)
  /-- A call of one callback of a retaining reactor. -/
  | fire (ending : StepEnding)

/-- A handler that was installed at some time: its label, and its code for the calls to come. -/
structure InstalledHandler where
  label : String
  code : HandlerCode

namespace InstalledHandler

/-- What the handler does when it is called next. -/
def nextSteps (handler : InstalledHandler) : List Step :=
  handler.code.headD []

/-- The handler with one call used up. -/
def afterCall (handler : InstalledHandler) : InstalledHandler :=
  { handler with code := handler.code.tail }

end InstalledHandler

/-- A run between two moments. -/
structure Config where
  world : World
  /-- The sockets kept under names, the latest first. -/
  names : List (SocketName × SocketId)
  /-- All handlers that were ever installed; a reference is a position in this list. -/
  handlers : List InstalledHandler
  stack : List Frame

namespace Config

/-- The start of a program. -/
def initial (kind : ReactorKind) (program : List Step) : Config where
  world := .initial kind
  names := []
  handlers := []
  stack := [.steps program .blank false]

/-- What has happened so far. -/
def history (c : Config) : History :=
  c.world.kernel.history

/-- Records an event. -/
def record (c : Config) (event : Event) : Config :=
  { c with world := c.world.record event }

/-- The answers for the calls to come. -/
def script (c : Config) : Script :=
  c.world.kernel.script

/-- Replaces the answers for the calls to come. -/
def withScript (c : Config) (script : Script) : Config :=
  { c with world := { c.world with kernel := { c.world.kernel with script } } }

/-- The identity of the last socket under a name. -/
def idOf? (c : Config) (name : SocketName) : Option SocketId :=
  c.names.lookup name

/-- The open socket under a name. -/
def socketOf? (c : Config) (name : SocketName) : Option Socket :=
  (c.idOf? name).bind c.world.socket?

/-- Keeps a socket under a name. -/
def keep (c : Config) (name : SocketName) (id : SocketId) : Config :=
  { c with names := (name, id) :: c.names }

/-- The reference of the next handler that is installed. -/
def nextHandler (c : Config) : HandlerRef :=
  c.handlers.length

/-- The handler with a reference. -/
def handlerOf (c : Config) (handler : HandlerRef) : InstalledHandler :=
  c.handlers[handler]?.getD ⟨"", []⟩

/-- Installs a handler under the next reference. -/
def install (c : Config) (label : String) (code : HandlerCode) : Config :=
  { c with handlers := c.handlers ++ [⟨label, code⟩] }

end Config

end SocketLoop
