import SocketLoop.Reactor.Basic
import SocketLoop.Socket.Operation

/-!
# Sockets, their reactor and their registry

A `World` is everything that the library keeps: the open sockets, the reactor that they are
registered with, the registry of identities, and the operating system. The parts are updated
separately, and the operations below are the only ones that touch more than one of them:

* opening and accepting make a descriptor, an identity, a registration and a socket, or undo what
  was made;
* freeing retires the identity, removes the registration and closes the descriptor, in this order;
* a change of the subscription tells the reactor the new interest;
* delivering readiness starts a new count of receives, settles a pending connect and says which
  events are to be dispatched.

Dispatching itself calls handlers, which may do anything, and is therefore not an operation but part
of a run.
-/

namespace SocketLoop

/-! ## The registry -/

/-- The identities handed out and those still in use. -/
structure Registry where
  nextId : SocketId
  live : List SocketId
  deriving DecidableEq, Repr

namespace Registry

/-- Nothing was handed out yet. -/
def initial : Registry :=
  ⟨1, []⟩

/-- Whether an identity is in use. -/
def isLive (registry : Registry) (id : SocketId) : Bool :=
  registry.live.contains id

/-- Hands out the next identity. -/
def allocate (registry : Registry) : Registry :=
  ⟨registry.nextId + 1, registry.live ++ [registry.nextId]⟩

/-- Takes an identity out of use. -/
def retire (registry : Registry) (id : SocketId) : Registry :=
  { registry with live := registry.live.filter (· ≠ id) }

end Registry

/-! ## The world -/

/-- All that the library keeps. -/
structure World where
  kernel : Kernel
  reactor : Reactor
  registry : Registry
  sockets : Table Socket

/-- Operations on the world. -/
abbrev WorldM := EStateM Halt World

/-- The reply to an operation that did not return. -/
def Reply.ofHalt : Halt → Reply
  | .failed error => .failed error
  | .breached breach => .breached breach

namespace World

/-- A world in which nothing happened yet. -/
def initial (kind : ReactorKind) : World :=
  ⟨.initial, .initial kind, .initial, ∅⟩

/-- The open socket with an identity. -/
def socket? (w : World) (id : SocketId) : Option Socket :=
  w.sockets.get? id

/-- Records an event. -/
def record (w : World) (event : Event) : World :=
  { w with kernel := w.kernel.record event }

/-- Makes a call that belongs to no open socket. -/
def call (w : World) (syscall : Syscall) : Except Errno Completion × World :=
  let (result, kernel) := w.kernel.call syscall
  (result, { w with kernel })

/-- Closes a descriptor. -/
def close (w : World) (fd : Fd) : World :=
  { w with kernel := w.kernel.close fd }

/-! ## Registrations -/

/-- Whether a registration is refused, by the table or, for a retaining reactor, by the script. -/
def refuses (w : World) (fd : Fd) : Option ReactorError × World :=
  match w.reactor.kind with
  | .polling _ => (w.reactor.refusal? fd, w)
  | .retaining =>
    let (refusal?, script) := w.kernel.script.nextRegistration
    (refusal?.map (·.error fd), { w with kernel := { w.kernel with script } })

/-- Registers a descriptor. -/
def register (w : World) (fd : Fd) (callback : Callback) : Except ReactorError Token × World :=
  match w.refuses fd with
  | (some error, w) => (.error error, w.record (.registered fd (.error error)))
  | (none, w) =>
    let token := w.reactor.nextToken
    (.ok token,
      { w with reactor := w.reactor.add fd callback }.record (.registered fd (.ok token)))

/-- Sets the interest of a registration. -/
def setInterest (w : World) (token : Token) (interest : Readiness) : World :=
  { w with reactor := w.reactor.setInterest token interest }.record (.interestSet token interest)

/-- Removes a registration. -/
def deregister (w : World) (token : Token) : World :=
  { w with reactor := w.reactor.remove token }.record (.deregistered token)

/-! ## Operations on one socket -/

/-- Puts a changed socket and the operating system back. -/
def restore (w : World) (session : Session) : World :=
  { w with kernel := session.kernel, sockets := w.sockets.set session.socket.id session.socket }

/-- Carries out an operation on an open socket. -/
def perform {α : Type} (s : Socket) (op : SocketM α) : WorldM α := fun w =>
  match op ⟨s, w.kernel⟩ with
  | .ok a session => .ok a (w.restore session)
  | .error halt session => .error halt (w.restore session)

/-- Changes the subscription of a socket and, where needed, tells the reactor. -/
def subscribe (s : Socket) (change : Change HandlerRef) : WorldM Unit := fun w =>
  match s.subscription.apply change with
  | .error breach => .error (.breached breach) w
  | .ok subscription =>
    let w := { w with sockets := w.sockets.set s.id { s with subscription } }
    let pushed := change.isPushed s.subscription.enabled
    .ok () (if pushed then w.setInterest s.token subscription.enabled.interest else w)

/-! ## Opening, accepting and freeing -/

/-- What a new socket is made of. -/
structure Origin where
  fd : Fd
  family : AddressFamily
  cls : SocketClass
  config : SocketConfig
  packetInfo : Bool

/-- The state in which a socket starts. -/
def Origin.socket (origin : Origin) (id : SocketId) (token : Token) : Socket where
  id
  fd := origin.fd
  token
  family := origin.family
  cls := origin.cls
  config := origin.config
  packetInfo := origin.packetInfo
  lastError := none
  subscription := .initial
  connect := .idle
  receiveLimit := origin.config.receiveLimit
  receiveCount := 0

/-- Makes a socket of a non-blocking descriptor and registers it without an interest. If the reactor
refuses, the identity is retired and the descriptor closed. -/
def adopt (origin : Origin) : WorldM SocketId := fun w =>
  let id := w.registry.nextId
  let w := { w with registry := w.registry.allocate }
  match w.register origin.fd (.socket id) with
  | (.ok token, w) =>
    let w := w.setInterest token ∅
    .ok id { w with sockets := w.sockets.push id (origin.socket id token) }
  | (.error _, w) =>
    .error (.failed .unknown) ({ w with registry := w.registry.retire id }.close origin.fd)

/-- Switches packet information on for a datagram socket that wants it, and says whether it is on.
-/
def enablePacketInfo (w : World) (fd : Fd) (family : AddressFamily) (cls : SocketClass)
    (config : SocketConfig) : Bool × World :=
  if cls = .datagram ∧ config.packetInfo = true then
    match w.call (.enableOption fd (.packetInfo family)) with
    | (.ok _, w) => (true, w)
    | (.error _, w) => (false, w)
  else (false, w)

/-- Opens a socket. -/
def openSocket (family : AddressFamily) (cls : SocketClass) (config : SocketConfig) :
    WorldM SocketId := fun w =>
  match w.call (.socket family cls) with
  | (.error _, w) => .error (.failed .unknown) w
  | (.ok completion, w) =>
    let fd := completion.value
    match w.call (.setNonblocking fd) with
    | (.error _, w) => .error (.failed .unknown) (w.close fd)
    | (.ok _, w) =>
      let (packetInfo, w) := w.enablePacketInfo fd family cls config
      adopt ⟨fd, family, cls, config, packetInfo⟩ w

/-- Stores an error as the last one of an open socket. -/
def recordError (w : World) (id : SocketId) (error : SocketError) : World :=
  { w with sockets := w.sockets.modify id fun s => { s with lastError := some error } }

/-- Accepts a connection as a new socket. It has the family, the class and the configuration of the
listener, and no packet information. -/
def accept (listener : Socket) : WorldM (SocketId × Address) := fun w =>
  match perform listener SocketM.acceptReady w with
  | .error halt w => .error halt w
  | .ok (fd, peer) w =>
    match adopt ⟨fd, listener.family, listener.cls, listener.config, false⟩ w with
    | .ok id w => .ok (id, peer) w
    | .error halt w => .error halt (w.recordError listener.id .unknown)

/-- Frees a socket. -/
def free (w : World) (s : Socket) : World :=
  let w := { w with registry := w.registry.retire s.id, sockets := w.sockets.erase s.id }
  (w.deregister s.token).close s.fd

/-! ## Delivering readiness -/

/-- Reports readiness to a socket and yields the events to dispatch. A socket that was freed gets
nothing. -/
def deliver (w : World) (id : SocketId) (ready : Readiness) : Except Breach EventSet × World :=
  if !w.registry.isLive id then (.ok ∅, w)
  else match w.socket? id with
    | none => (.ok ∅, w)
    | some s =>
      let events := s.subscription.enabled.signalled ready
      let session : Session := ⟨{ s with receiveCount := 0 }, w.kernel⟩
      if SocketEvent.connect ∈ events then
        match session.settleConnect with
        | (.ok _, session) => (.ok events, w.restore session)
        | (.error breach, session) => (.error breach, w.restore session)
      else (.ok events, w.restore session)

/-- The global handler of a socket, if the socket is open and has one. -/
def globalHandler? (w : World) (id : SocketId) : Option HandlerRef :=
  if w.registry.isLive id then (w.socket? id).bind (·.subscription.handlers.global?) else none

/-- What the turn of an event in a batch leads to. -/
inductive Turn
  /-- The socket was freed: the rest of the batch is given up. -/
  | abandoned
  /-- The event is not enabled any more, or has no handler. -/
  | skipped
  | handled (handler : HandlerRef)
  deriving DecidableEq, Repr

/-- What the turn of an event of a socket leads to at this moment. -/
def turn (w : World) (id : SocketId) (event : SocketEvent) : Turn :=
  if !w.registry.isLive id then .abandoned
  else match w.socket? id with
    | none => .abandoned
    | some s =>
      if event ∈ s.subscription.enabled then
        match s.subscription.handlers.get? event with
        | some handler => .handled handler
        | none => .skipped
      else .skipped

/-! ## Waiting -/

/-- One wait: the registrations that were asked about, with the conditions reported for them.
Nothing is asked if there is no interest, and an interrupted wait reports nothing. -/
def wait (w : World) (timeout : Option Duration) :
    Except ReactorError (List (Token × Revents)) × World :=
  let watched := w.reactor.watched
  if watched.isEmpty then (.ok [], w)
  else
    let entries := watched.map fun row => Reactor.waitEntry row.2
    match w.call (.poll entries (waitTimeout timeout)) with
    | (.ok completion, w) => (.ok ((watched.map Prod.fst).zip completion.revents), w)
    | (.error code, w) =>
      if code = Errno.interrupted then (.ok [], w) else (.error (.wait (.errno code)), w)

/-- What a reported registration leads to when its turn comes: the callback to call with the
directions that are ready and still of interest, or nothing if the registration is gone or nothing
of interest is ready. -/
def readyCallback? (w : World) (token : Token) (revents : Revents) :
    Option (Callback × Readiness) :=
  if revents = 0 then none
  else match w.reactor.table.get? token with
    | none => none
    | some registration =>
      let ready := revents.readiness ∩ registration.interest
      if ready.isEmpty then none else some (registration.callback, ready)

end World

end SocketLoop
