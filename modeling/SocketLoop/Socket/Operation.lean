import SocketLoop.Kernel.Basic
import SocketLoop.Socket.Basic

/-!
# Operations on one socket

An operation on an open socket sees that socket and the operating system, and nothing else:
`SocketM` threads a `Session` of the two. An operation stops early in one of two ways, with a socket
error or with a breach of contract; in both cases the session is kept as it was at that moment.

* `complete` is how every call ends: the last error becomes what the call reported.
* A call whose address cannot be read has succeeded by then, and ends in a breach.
* A receive first takes a slot. If the limit is reached it reports `later` and makes no call.
-/

namespace SocketLoop

/-- Why an operation did not return. -/
inductive Halt
  | failed (error : SocketError)
  | breached (breach : Breach)
  deriving DecidableEq, Repr

/-- An open socket together with the operating system. -/
structure Session where
  socket : Socket
  kernel : Kernel

/-- Operations on one socket. -/
abbrev SocketM := EStateM Halt Session

namespace SocketM

/-! ## Steps that operations are made of -/

/-- The socket as it is now. -/
def socket : SocketM Socket :=
  return (← get).socket

/-- Changes the socket. -/
def update (f : Socket → Socket) : SocketM Unit :=
  modify fun session => { session with socket := f session.socket }

/-- Ends the operation with a breach. -/
def breach {α : Type} (breach : Breach) : SocketM α :=
  throw (.breached breach)

/-- Makes a call. -/
def call (syscall : Syscall) : SocketM (Except Errno Completion) :=
  modifyGet fun session =>
    let (result, kernel) := session.kernel.call syscall
    (result, { session with kernel })

/-- Closes a descriptor. -/
def close (fd : Fd) : SocketM Unit :=
  modify fun session => { session with kernel := session.kernel.close fd }

/-- Stores an error as the last one and ends the operation with it. -/
def fail {α : Type} (error : SocketError) : SocketM α := do
  update fun s => { s with lastError := some error }
  throw (.failed error)

/-- Ends a call: the last error is cleared, or becomes the class of the failure. -/
def complete (op : Operation) (result : Except Errno Completion) : SocketM Completion := do
  match result with
  | .ok completion =>
    update fun s => { s with lastError := none }
    return completion
  | .error code => fail (op.classifyErrno (← socket).cls code)

/-- Makes a call and ends it. -/
def attempt (op : Operation) (syscall : Syscall) : SocketM Completion := do
  complete op (← call syscall)

/-- The kernel layout of an address that has to be there. -/
def native (addr : Address) : SocketM NativeAddress :=
  match addr.toNative with
  | some native => return native
  | none => breach .addressMissing

/-- The address that a call returned. -/
def decoded (native : NativeAddress) : SocketM Address :=
  match Address.ofNative native with
  | .ok addr => return addr
  | .error fault => breach (.nativeAddress fault)

/-! ### What the parts do to a session -/

section Run

variable {α β : Type} (session : Session)

@[simp] theorem run_pure (a : α) : (pure a : SocketM α) session = .ok a session := rfl

@[simp] theorem run_bind (op : SocketM α) (next : α → SocketM β) :
    (op >>= next) session = match op session with
      | .ok a session => next a session
      | .error halt session => .error halt session := by
  change EStateM.bind op next session = _
  unfold EStateM.bind
  cases op session <;> rfl

@[simp] theorem run_discard (op : SocketM α) :
    (discard op) session = match op session with
      | .ok _ session => .ok () session
      | .error halt session => .error halt session := by
  change EStateM.map (fun _ => ()) op session = _
  unfold EStateM.map
  cases op session <;> rfl

@[simp] theorem run_map (f : α → β) (op : SocketM α) :
    (f <$> op) session = match op session with
      | .ok a session => .ok (f a) session
      | .error halt session => .error halt session := by
  change EStateM.map f op session = _
  unfold EStateM.map
  cases op session <;> rfl

@[simp] theorem run_throw (halt : Halt) :
    (throw halt : SocketM α) session = .error halt session := rfl

@[simp] theorem run_socket : socket session = .ok session.socket session := rfl

@[simp] theorem run_update (f : Socket → Socket) :
    update f session = .ok () ⟨f session.socket, session.kernel⟩ := rfl

@[simp] theorem run_breach (b : Breach) :
    (breach b : SocketM α) session = .error (.breached b) session := rfl

@[simp] theorem run_fail (error : SocketError) :
    (fail error : SocketM α) session =
      .error (.failed error)
        ⟨{ session.socket with lastError := some error }, session.kernel⟩ := rfl

@[simp] theorem run_call (syscall : Syscall) :
    call syscall session =
      .ok (session.kernel.call syscall).1 ⟨session.socket, (session.kernel.call syscall).2⟩ := rfl

@[simp] theorem run_close (fd : Fd) :
    close fd session = .ok () ⟨session.socket, session.kernel.close fd⟩ := rfl

@[simp] theorem run_complete_ok (op : Operation) (completion : Completion) :
    complete op (.ok completion) session =
      .ok completion ⟨{ session.socket with lastError := none }, session.kernel⟩ := rfl

@[simp] theorem run_complete_error (op : Operation) (code : Errno) :
    complete op (.error code) session =
      .error (.failed (op.classifyErrno session.socket.cls code))
        ⟨{ session.socket with lastError := some (op.classifyErrno session.socket.cls code) },
          session.kernel⟩ := rfl

end Run

/-! ## Addresses and connections -/

/-- Binds to a local address. A stream socket first asks for reuse of the address if its
configuration says so; whether that is granted does not matter. -/
def bindTo (addr : Address) : SocketM Unit := do
  let native ← native addr
  let s ← socket
  if s.cls = .stream ∧ s.config.reuseAddress = true then
    discard <| call (.enableOption s.fd .reuseAddress)
  discard <| attempt .bind (.bind s.fd native)

/-- Starts listening. A backlog that is not positive is replaced by the configured one. -/
def listen (backlog : Int) : SocketM Unit := do
  let s ← socket
  let backlog := if backlog ≤ 0 then s.config.backlog else backlog
  discard <| attempt .listen (.listen s.fd backlog)

/-- Starts connecting, which only an idle socket may do. A connect that is left in progress makes
the socket pending. -/
def connect (addr : Address) : SocketM Unit := do
  let native ← native addr
  let s ← socket
  if s.connect ≠ .idle then
    breach (.connectNotIdle s.connect)
  match ← call (.connect s.fd native) with
  | .ok completion => discard <| complete .connect (.ok completion)
  | .error code =>
    if Operation.connect.classifyErrno s.cls code = .inProgress then
      update fun s => { s with connect := .pending }
    discard <| complete .connect (.error code)

/-- Takes the outcome of a connect, which makes the socket idle again. -/
def connectResult : SocketM Unit := do
  let s ← socket
  match s.connect with
  | .resolved outcome =>
    update fun s => { s with connect := .idle, lastError := outcome }
    match outcome with
    | none => return ()
    | some error => throw (.failed error)
  | state => breach (.connectNotResolved state)

/-- Accepts a connection: its descriptor and its peer. If the peer cannot be read the connection is
closed. -/
def acceptConnection : SocketM (Fd × Address) := do
  let s ← socket
  let completion ← attempt .accept (.accept s.fd)
  match Address.ofNative completion.address with
  | .ok peer => return (completion.value, peer)
  | .error fault =>
    close completion.value
    breach (.nativeAddress fault)

/-- Accepts a connection and makes it non-blocking; if that fails it is closed. -/
def acceptReady : SocketM (Fd × Address) := do
  let (fd, peer) ← acceptConnection
  match ← call (.setNonblocking fd) with
  | .ok _ => return (fd, peer)
  | .error _ =>
    close fd
    fail .unknown

/-- Accepts a connection and closes it at once. -/
def drainAccept : SocketM Address := do
  let (fd, peer) ← acceptConnection
  close fd
  return peer

/-- The address of the other end. -/
def peerAddress : SocketM Address := do
  let s ← socket
  let completion ← attempt .addressQuery (.peerName s.fd)
  decoded completion.address

/-- The own address. -/
def ownAddress : SocketM Address := do
  let s ← socket
  let completion ← attempt .addressQuery (.ownName s.fd)
  decoded completion.address

/-! ## Sending -/

/-- Sends to the other end. -/
def send (data : List UInt8) : SocketM Int := do
  let s ← socket
  let completion ← attempt .send (.send s.fd data noSignalFlag)
  return completion.value

/-- Sends to an address. -/
def sendTo (data : List UInt8) (remote : Address) : SocketM Int := do
  let native ← native remote
  let s ← socket
  let completion ← attempt .send (.sendTo s.fd data native noSignalFlag)
  return completion.value

/-- Sends to an address, from a given local one if packet information is available. -/
def sendToFrom (data : List UInt8) (remote : Address) (source : IpAddress) : SocketM Int := do
  let native ← native remote
  let s ← socket
  if s.packetInfo = true then
    let completion ←
      attempt .send (.sendMessage s.fd data native (sourceArea source) noSignalFlag)
    return completion.value
  let completion ← attempt .send (.sendTo s.fd data native noSignalFlag)
  return completion.value

/-! ## Receiving -/

/-- Takes a slot for one receive, or refuses it. -/
def takeSlot : SocketM Unit := do
  let s ← socket
  if s.receiveLimit.isReached s.receiveCount = true then
    fail .later
  update fun s => { s with receiveCount := min (s.receiveCount + 1) maxReceiveCount }

/-- Receives from the other end into `room` bytes. -/
def receive (room : Nat) : SocketM (List UInt8) := do
  takeSlot
  let s ← socket
  let completion ← attempt .recv (.receive s.fd room)
  return completion.data

/-- Receives a datagram and its sender, without taking a slot. -/
def receiveDatagram (room : Nat) : SocketM (List UInt8 × Address) := do
  let s ← socket
  let completion ← attempt .recv (.receiveFrom s.fd room)
  let sender ← decoded completion.address
  return (completion.data, sender)

/-- Receives a datagram and its sender. -/
def receiveFrom (room : Nat) : SocketM (List UInt8 × Address) := do
  takeSlot
  receiveDatagram room

/-- A datagram with its sender and, where it is known, its destination. -/
structure Datagram where
  data : List UInt8
  sender : Address
  destination : IpAddress
  viaPacketInfo : Bool
  deriving DecidableEq, Repr

/-- Receives a datagram with its sender and, if packet information is available, its destination. -/
def receiveFromTo (room : Nat) : SocketM Datagram := do
  takeSlot
  let s ← socket
  if s.packetInfo = true then
    let completion ← attempt .recv (.receiveMessage s.fd room)
    let sender ← decoded completion.address
    return ⟨completion.data, sender, destinationOf completion.control, true⟩
  let (data, sender) ← receiveDatagram room
  return ⟨data, sender, .invalid, false⟩

/-- Replaces the receive limit and starts counting anew. -/
def setReceiveLimit (limit : ReceiveLimit) : SocketM Unit :=
  update fun s => { s with receiveLimit := limit, receiveCount := 0 }

end SocketM

/-! ## Settling a connect -/

/-- Learns the outcome of a pending connect from the pending error of the socket. An outcome that
was not taken yet is kept. This is no request: it happens when a socket is reported ready to
connect. -/
def Session.settleConnect (session : Session) : Except Breach Unit × Session :=
  let s := session.socket
  match s.connect with
  | .idle => (.error .connectNotPending, session)
  | .resolved _ => (.ok (), session)
  | .pending =>
    match session.kernel.call (.pendingError s.fd) with
    | (.ok completion, kernel) =>
      let outcome := ConnectOutcome.ofPendingError completion.value
      (.ok (), ⟨{ s with connect := .resolved outcome }, kernel⟩)
    | (.error code, kernel) => (.error (.pendingErrorUnreadable code), { session with kernel })

end SocketLoop
