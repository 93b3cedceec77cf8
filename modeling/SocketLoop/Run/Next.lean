import SocketLoop.Run.Config

/-!
# What happens next

`Config.next` takes the innermost activity one moment further:

* a program or a handler takes its next step, or ends;
* a batch gives the next event its turn, which is decided by the socket as it is at that moment;
* a wake looks at the next reported registration as it is in the table at that moment;
* a callback ends.

A step that waits leaves a wake on the stack and ends with it; every other step ends at once. A
breach ends the step in which it happened; what a breach leaves behind is unwound by
`Config.unwind`, which takes away the marks of the callbacks that it leaves.
-/

namespace SocketLoop

namespace Config

/-! ## Ending steps -/

/-- What is seen of the socket that a step watches, if it is open. -/
def statusOf? (c : Config) (watched : Option SocketName) : Option Status :=
  (watched.bind c.socketOf?).map Socket.status

/-- Takes the mark of a callback away. -/
def leaveCallback (c : Config) (token : Token) : Config :=
  { c with world := { c.world with reactor := c.world.reactor.deactivate token } }

/-- Ends the steps of a handler, if it was one, and takes the answers up again that it had put
aside. -/
def leaveSteps (c : Config) (script : Script) (isHandler : Bool) : Config :=
  if isHandler then (c.withScript script).record .left else c

/-- Leaves the frames of a stack on account of a breach, up to and with the first wake that contains
it. A wake that does not contain it ends as well. -/
def unwind (breach : Breach) (c : Config) : List Frame → Config
  | [] => { c with stack := [] }
  | .steps _ script isHandler :: rest => unwind breach (c.leaveSteps script isHandler) rest
  | .batch _ _ :: rest => unwind breach c rest
  | .callback token :: rest => unwind breach (c.leaveCallback token) rest
  | .wake _ _ ending :: rest | .fire ending :: rest =>
    let ended := c.record (.ended (.breached breach) (c.statusOf? ending.watched))
    if ending.contained then { ended with stack := rest } else unwind breach ended rest

/-- Ends a step with a reply. -/
def endStep (c : Config) (reply : Reply) (ending : StepEnding) : Config :=
  let ended := c.record (.ended reply (c.statusOf? ending.watched))
  match reply with
  | .breached breach => if ending.contained then ended else ended.unwind breach c.stack
  | _ => ended

/-! ## Calling handlers -/

/-- Calls a handler, which puts the present answers aside. -/
def invoke (c : Config) (handler : HandlerRef) (notice : Notice) : Config :=
  let installed := c.handlerOf handler
  { c with
    handlers := c.handlers.set handler installed.afterCall
    stack := .steps installed.nextSteps c.script true :: c.stack
    }.record (.entered handler installed.label notice)

/-- Dispatches the events that a readiness report led to. -/
def dispatch (c : Config) (id : SocketId) (events : EventSet) : Config :=
  if events.isEmpty then c
  else match c.world.globalHandler? id with
    | some handler => c.invoke handler (.events id events)
    | none => { c with stack := .batch id events.events :: c.stack }

/-- Marks a callback as running and puts it on the stack. -/
def enterCallback (c : Config) (token : Token) : Config :=
  { c with
    world := { c.world with reactor := c.world.reactor.activate token }
    stack := .callback token :: c.stack }

/-- Reports readiness to a socket and dispatches what it leads to. -/
def report (c : Config) (id : SocketId) (ready : Readiness) : Config :=
  match c.world.deliver id ready with
  | (.ok events, world) => { c with world }.dispatch id events
  | (.error breach, world) => { c with world }.unwind breach c.stack

/-- Calls the callback of a registration. -/
def callBack (c : Config) (token : Token) (callback : Callback) (ready : Readiness) : Config :=
  match callback with
  | .direct handler => (c.enterCallback token).invoke handler (.ready token ready)
  | .socket id => (c.enterCallback token).report id ready

/-! ## Commands -/

/-- Carries out an operation and takes its result over. -/
def carryOut (c : Config) (op : WorldM Value) : Reply × Config :=
  match op c.world with
  | .ok value world => (.ok value, { c with world })
  | .error halt world => (.ofHalt halt, { c with world })

/-- Does something with the open socket under a name. -/
def withSocket (c : Config) (name : SocketName) (f : Socket → Reply × Config) :
    Reply × Config :=
  match c.socketOf? name with
  | none => (.gone, c)
  | some s => f s

/-- Opens a socket and keeps it. -/
def openSocket (c : Config) (name : SocketName) (family : AddressFamily) (cls : SocketClass)
    (config : SocketConfig) : Reply × Config :=
  if (c.socketOf? name).isSome then (.nameTaken, c)
  else match World.openSocket family cls config c.world with
    | .ok id world => (.ok (.opened id), { c with world }.keep name id)
    | .error halt world => (.ofHalt halt, { c with world })

/-- Accepts a connection and keeps it. -/
def accept (c : Config) (listener : Socket) (newName : SocketName) : Reply × Config :=
  if (c.socketOf? newName).isSome then (.nameTaken, c)
  else match World.accept listener c.world with
    | .ok (id, peer) world => (.ok (.accepted id peer), { c with world }.keep newName id)
    | .error halt world => (.ofHalt halt, { c with world })

/-- Changes a subscription. A handler that comes with the change is installed if the change is made;
its label is the name of the socket. -/
def change (c : Config) (name : SocketName) (s : Socket) (change : Change HandlerCode) :
    Reply × Config :=
  match World.subscribe s (change.map fun _ => c.nextHandler) c.world with
  | .ok _ world =>
    let c := { c with world }
    (.ok .done, change.handler?.elim c fun code => c.install name code)
  | .error halt world => (.ofHalt halt, { c with world })

/-- Registers a plain descriptor. The handler is installed if the registration is made. -/
def addDescriptor (c : Config) (fd : Fd) (label : String) (code : HandlerCode) : Reply × Config :=
  match c.world.register fd (.direct c.nextHandler) with
  | (.ok token, world) => (.ok (.token token), { c with world }.install label code)
  | (.error error, world) => (.notRegistered error, { c with world })

/-- What a polling reactor tells about itself. -/
def reactorInfo (c : Config) : Reply :=
  match c.world.reactor.kind with
  | .polling limit => .reactorInfo (c.world.reactor.info limit)
  | .retaining => .wrongReactor

/-- Carries out a command. -/
def execute (c : Config) : Command HandlerCode → Reply × Config
  | .openSocket name family cls config => c.openSocket name family cls config
  | .free name => c.withSocket name fun s => (.ok .done, { c with world := c.world.free s })
  | .info name => c.withSocket name fun s => (.socketInfo s.info, c)
  | .isLive name => (.liveness ((c.idOf? name).map c.world.registry.isLive), c)
  | .request name request =>
    c.withSocket name fun s => c.carryOut (World.perform s request.run)
  | .accept name newName => c.withSocket name fun s => c.accept s newName
  | .change name change => c.withSocket name fun s => c.change name s change
  | .compareIds first second =>
    (.order (do return compare (← c.idOf? first) (← c.idOf? second)), c)
  | .reactorInfo => (c.reactorInfo, c)
  | .addDescriptor fd label code => c.addDescriptor fd label code
  | .setDescriptor token interest =>
    (.ok .done, { c with world := c.world.setInterest token interest })
  | .removeDescriptor token => (.ok .done, { c with world := c.world.deregister token })

/-- Waits once. What was reported is left on the stack as a wake. -/
def runOnce (c : Config) (timeout : Option Duration) (ending : StepEnding) : Config :=
  match c.world.reactor.kind with
  | .retaining => c.endStep .wrongReactor ending
  | .polling _ =>
    match c.world.wait timeout with
    | (.ok pending, world) => { c with world, stack := .wake pending 0 ending :: c.stack }
    | (.error error, world) => { c with world }.endStep (.reactorFailed error) ending

/-- Makes a retaining reactor call a callback that is not running. -/
def fire (c : Config) (token : Token) (ready : Readiness) (ending : StepEnding) : Config :=
  match c.world.reactor.kind with
  | .polling _ => c.endStep .wrongReactor ending
  | .retaining =>
    match c.world.reactor.table.get? token with
    | none => c.endStep .noToken ending
    | some registration =>
      if c.world.reactor.isActive token then c.endStep .busy ending
      else { c with stack := .fire ending :: c.stack }.callBack token registration.callback ready

/-- Takes a step. -/
def takeStep (c : Config) (step : Step) : Config :=
  let c := (c.withScript step.script).record .began
  match step.action with
  | .command command =>
    let (reply, c) := c.execute command
    c.endStep reply step.ending
  | .run timeout => c.runOnce timeout step.ending
  | .fire token ready => c.fire token ready step.ending

/-! ## The next moment -/

/-- Gives the next reported registration its turn. -/
def wakeTurn (c : Config) (token : Token) (revents : Revents) (pending : List (Token × Revents))
    (count : Nat) (ending : StepEnding) (rest : List Frame) : Config :=
  match c.world.readyCallback? token revents with
  | none => { c with stack := .wake pending count ending :: rest }
  | some (callback, ready) =>
    if c.world.reactor.isActive token then c.unwind .callbackRunning c.stack
    else
      { c with stack := .wake pending (count + 1) ending :: rest }.callBack token callback ready

/-- Gives the next event of a batch its turn. -/
def batchTurn (c : Config) (id : SocketId) (event : SocketEvent) (events : List SocketEvent)
    (rest : List Frame) : Config :=
  match c.world.turn id event with
  | .abandoned => { c with stack := rest }
  | .skipped => { c with stack := .batch id events :: rest }
  | .handled handler =>
    { c with stack := .batch id events :: rest }.invoke handler (.event id event)

/-- The run one moment later, unless nothing is left to do. -/
def next (c : Config) : Option Config :=
  match c.stack with
  | [] => none
  | .steps [] script isHandler :: rest =>
    some ({ c with stack := rest }.leaveSteps script isHandler)
  | .steps (step :: steps) script isHandler :: rest =>
    some ({ c with stack := .steps steps script isHandler :: rest }.takeStep step)
  | .batch _ [] :: rest => some { c with stack := rest }
  | .batch id (event :: events) :: rest => some (c.batchTurn id event events rest)
  | .callback token :: rest => some ({ c with stack := rest }.leaveCallback token)
  | .wake [] count ending :: rest =>
    some ({ c with stack := rest }.endStep (.ok (.callbacksRun count)) ending)
  | .wake ((token, revents) :: pending) count ending :: rest =>
    some (c.wakeTurn token revents pending count ending rest)
  | .fire ending :: rest => some ({ c with stack := rest }.endStep (.ok .done) ending)

end Config

end SocketLoop
