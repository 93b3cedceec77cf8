import SocketLoop.Proofs.Run.Calls

/-!
# What an operation does to its session

An operation on a socket never touches what was fixed when the socket was opened, nor its
subscription (`Socket.Kept`), and apart from the two that accept a connection, it makes calls with
the descriptor of the socket only (`SocketM.Uses`). More than that, only some operations touch the
connect state or the count of receives, and each makes calls of a few kinds only
(`Request.keeps_run`). The parts of operations have these properties (`SocketM.Keeps`), and
sequences inherit them.
-/

namespace SocketLoop

/-- The fixed part of a socket and its subscription are the same. -/
structure Socket.Kept (s t : Socket) : Prop where
  id : t.id = s.id
  fd : t.fd = s.fd
  token : t.token = s.token
  family : t.family = s.family
  cls : t.cls = s.cls
  config : t.config = s.config
  packetInfo : t.packetInfo = s.packetInfo
  subscription : t.subscription = s.subscription

namespace Socket.Kept

/-- A socket is kept by doing nothing. -/
theorem refl (s : Socket) : s.Kept s :=
  ⟨rfl, rfl, rfl, rfl, rfl, rfl, rfl, rfl⟩

/-- What is kept twice is kept. -/
theorem trans {s t u : Socket} (h : s.Kept t) (h' : t.Kept u) : s.Kept u where
  id := h'.id.trans h.id
  fd := h'.fd.trans h.fd
  token := h'.token.trans h.token
  family := h'.family.trans h.family
  cls := h'.cls.trans h.cls
  config := h'.config.trans h.config
  packetInfo := h'.packetInfo.trans h.packetInfo
  subscription := h'.subscription.trans h.subscription

end Socket.Kept

/-- A call with a given descriptor. -/
def Event.IsCallWith (fd : Fd) : Event → Prop
  | .called call _ => call.fd? = some fd
  | _ => False

/-- A call with a descriptor names it. -/
theorem Event.IsCallWith.fd?_eq {fd : Fd} {e : Event} (h : e.IsCallWith fd) : e.fd? = some fd := by
  cases e with
  | called _ _ => exact h
  | _ => exact h.elim

namespace Kernel

variable (kernel : Kernel) (syscall : Syscall)

/-- A call is recorded with its value, or with its failure. -/
theorem history_call : (kernel.call syscall).2.history =
    kernel.history ++ [.called syscall ((kernel.call syscall).1.map (·.value))] := by
  unfold call
  split <;> rfl

/-- The history goes on with the call. -/
theorem grows_call {P : Event → Prop} (h : ∀ result, P (.called syscall result)) :
    Grows P kernel.history (kernel.call syscall).2.history := by
  rw [history_call]
  exact Grows.single _ (h _)

end Kernel

/-! ## Operations that use one descriptor -/

/-- Between two sessions the socket was kept and calls were made with one descriptor only. -/
structure Session.Uses (fd : Fd) (a b : Session) : Prop where
  kept : a.socket.Kept b.socket
  calls : Grows (Event.IsCallWith fd) a.kernel.history b.kernel.history

/-- A call of one of a few kinds with a given descriptor. -/
def Event.IsCallAmong (fd : Fd) (kinds : List CallKind) : Event → Prop
  | .called call _ => call.fd? = some fd ∧ call.kind ∈ kinds
  | _ => False

/-- A call of any kind with a descriptor is a call with it. -/
theorem Event.IsCallAmong.isCallWith {fd : Fd} {kinds : List CallKind} {e : Event}
    (h : e.IsCallAmong fd kinds) : e.IsCallWith fd := by
  cases e with
  | called call result => exact h.1
  | _ => exact h.elim

/-- A relation between what a socket was and what it is that can be followed from operation to
operation: changes add up, the descriptor stays, and the last error may be any. -/
structure Socket.Lasting (K : Socket → Socket → Prop) : Prop where
  refl : ∀ s, K s s
  trans : ∀ {s t u}, K s t → K t u → K s u
  fd : ∀ {s t}, K s t → t.fd = s.fd
  lastError : ∀ s error?, K s { s with lastError := error? }

/-- Between two sessions the socket changed as a relation says, and calls of a few kinds were made
with one descriptor only. -/
structure Session.Keeps (K : Socket → Socket → Prop) (fd : Fd) (kinds : List CallKind)
    (a b : Session) : Prop where
  socket : K a.socket b.socket
  calls : Grows (Event.IsCallAmong fd kinds) a.kernel.history b.kernel.history

namespace SocketM

variable {α β : Type} {K : Socket → Socket → Prop} {fd : Fd} {kinds : List CallKind}

/-- The session in which an operation ends, whether it returns or not. -/
def after (op : SocketM α) (session : Session) : Session :=
  match op session with
  | .ok _ session => session
  | .error _ session => session

/-- On a socket with this descriptor, the operation keeps the socket and makes calls with the
descriptor only. -/
def Uses (fd : Fd) (op : SocketM α) : Prop :=
  ∀ session : Session, session.socket.fd = fd → session.Uses fd (op.after session)

/-- On a socket with this descriptor, the operation changes the socket as a relation says, and makes
calls of a few kinds with the descriptor only. -/
def Keeps (K : Socket → Socket → Prop) (fd : Fd) (kinds : List CallKind) (op : SocketM α) : Prop :=
  ∀ session : Session, session.socket.fd = fd → session.Keeps K fd kinds (op.after session)

section Lasting

variable (hK : Socket.Lasting K)

include hK

/-- An operation that leaves the session alone. -/
theorem keeps_of_after_eq {op : SocketM α} (h : ∀ session, op.after session = session) :
    Keeps K fd kinds op := by
  intro session _
  rw [h session]
  exact ⟨hK.refl _, Grows.refl _⟩

theorem keeps_pure (a : α) : Keeps K fd kinds (pure a) :=
  keeps_of_after_eq hK fun _ => rfl

theorem keeps_breach (b : Breach) : Keeps K fd kinds (breach b : SocketM α) :=
  keeps_of_after_eq hK fun _ => rfl

theorem keeps_throw (halt : Halt) : Keeps K fd kinds (throw halt : SocketM α) :=
  keeps_of_after_eq hK fun _ => rfl

/-- A sequence keeps what its parts keep. -/
theorem keeps_bind {op : SocketM α} {next : α → SocketM β} (h : Keeps K fd kinds op)
    (hnext : ∀ a, Keeps K fd kinds (next a)) : Keeps K fd kinds (op >>= next) := by
  intro session hfd
  have hop := h session hfd
  rcases heq : op session with ⟨a, session'⟩ | ⟨halt, session'⟩
  · simp only [after, run_bind, heq] at hop ⊢
    have hthen := hnext a session' ((hK.fd hop.socket).trans hfd)
    exact ⟨hK.trans hop.socket hthen.socket, hop.calls.trans hthen.calls⟩
  · simpa only [after, run_bind, heq] using hop

omit hK in
/-- Whoever looks at the socket sees its descriptor. -/
theorem keeps_socket {next : Socket → SocketM β}
    (hnext : ∀ s, s.fd = fd → Keeps K fd kinds (next s)) :
    Keeps K fd kinds (socket >>= next) := by
  intro session hfd
  have hthen := hnext session.socket hfd session hfd
  simpa only [after, run_bind, run_socket] using hthen

omit hK in
theorem keeps_update {f : Socket → Socket} (h : ∀ s : Socket, K s (f s)) :
    Keeps K fd kinds (update f) :=
  fun session _ => ⟨h session.socket, Grows.refl _⟩

theorem keeps_fail (error : SocketError) : Keeps K fd kinds (fail error : SocketM α) :=
  keeps_bind hK (keeps_update fun s => hK.lastError s _) fun _ => keeps_throw hK _

theorem keeps_call {syscall : Syscall} (hfd : syscall.fd? = some fd)
    (hkind : syscall.kind ∈ kinds) : Keeps K fd kinds (call syscall) :=
  fun session _ =>
    ⟨hK.refl _, Kernel.grows_call session.kernel syscall fun _ => ⟨hfd, hkind⟩⟩

omit hK in
theorem keeps_discard {op : SocketM α} (h : Keeps K fd kinds op) :
    Keeps K fd kinds (discard op) := by
  intro session hfd
  have hop := h session hfd
  rcases heq : op session with ⟨a, session'⟩ | ⟨halt, session'⟩ <;>
    simpa only [after, run_discard, heq] using hop

theorem keeps_complete (op : Operation) (result : Except Errno Completion) :
    Keeps K fd kinds (complete op result) := by
  cases result with
  | ok completion =>
    exact keeps_bind hK (keeps_update fun s => hK.lastError s none) fun _ => keeps_pure hK _
  | error code => exact keeps_socket fun s _ => keeps_fail hK _

theorem keeps_attempt (op : Operation) {syscall : Syscall} (hfd : syscall.fd? = some fd)
    (hkind : syscall.kind ∈ kinds) : Keeps K fd kinds (attempt op syscall) :=
  keeps_bind hK (keeps_call hK hfd hkind) fun _ => keeps_complete hK op _

/-- A breach that comes first, under some condition, changes nothing. -/
theorem keeps_guarded {p : Prop} [Decidable p] {b : Breach} {next : PUnit → SocketM β}
    (hnext : ∀ u, Keeps K fd kinds (next u)) :
    Keeps K fd kinds (if p then breach b >>= next else next ⟨⟩) := by
  split
  · exact keeps_bind hK (keeps_breach hK b) hnext
  · exact hnext ⟨⟩

theorem keeps_native (addr : Address) : Keeps K fd kinds (native addr) := by
  unfold native
  split
  · exact keeps_pure hK _
  · exact keeps_breach hK _

theorem keeps_decoded (addr : NativeAddress) : Keeps K fd kinds (decoded addr) := by
  unfold decoded
  split
  · exact keeps_pure hK _
  · exact keeps_breach hK _

/-! ## The operations -/

theorem keeps_bindTo (addr : Address) : Keeps K fd [.enableOption, .bind] (bindTo addr) := by
  refine keeps_bind hK (keeps_native hK addr) fun native => keeps_socket fun s hs => ?_
  have hbind : Keeps K fd [.enableOption, .bind] (discard <| attempt .bind (.bind s.fd native)) :=
    keeps_discard (keeps_attempt hK _ (congrArg some hs) (by simp [Syscall.kind]))
  split
  · have hreuse : Keeps K fd [.enableOption, .bind]
        (discard <| call (.enableOption s.fd .reuseAddress)) :=
      keeps_discard (keeps_call hK (congrArg some hs) (by simp [Syscall.kind]))
    exact keeps_bind hK hreuse fun _ => hbind
  · exact hbind

theorem keeps_listen (backlog : Int) : Keeps K fd [.listen] (listen backlog) :=
  keeps_socket fun _ hs =>
    keeps_discard (keeps_attempt hK _ (congrArg some hs) (by simp [Syscall.kind]))

theorem keeps_connect (addr : Address) (hpending : ∀ s, K s { s with connect := .pending }) :
    Keeps K fd [.connect] (connect addr) := by
  refine keeps_bind hK (keeps_native hK addr) fun native => keeps_socket fun s hs =>
    keeps_guarded hK fun _ => ?_
  refine keeps_bind hK (keeps_call hK (congrArg some hs) (by simp [Syscall.kind])) fun result => ?_
  cases result with
  | ok completion => exact keeps_discard (keeps_complete hK _ _)
  | error code =>
    dsimp only
    split
    · exact keeps_bind hK (keeps_update hpending) fun _ => keeps_discard (keeps_complete hK _ _)
    · exact keeps_discard (keeps_complete hK _ _)

theorem keeps_connectResult
    (hidle : ∀ s outcome, K s { s with connect := .idle, lastError := outcome }) :
    Keeps K fd [] connectResult := by
  refine keeps_socket fun s _ => ?_
  split
  · refine keeps_bind hK (keeps_update fun s => hidle s _) fun _ => ?_
    split
    · exact keeps_pure hK _
    · exact keeps_throw hK _
  · exact keeps_breach hK _

theorem keeps_peerAddress : Keeps K fd [.peerName] peerAddress :=
  keeps_socket fun _ hs =>
    keeps_bind hK (keeps_attempt hK _ (congrArg some hs) (by simp [Syscall.kind])) fun _ =>
      keeps_decoded hK _

theorem keeps_ownAddress : Keeps K fd [.ownName] ownAddress :=
  keeps_socket fun _ hs =>
    keeps_bind hK (keeps_attempt hK _ (congrArg some hs) (by simp [Syscall.kind])) fun _ =>
      keeps_decoded hK _

theorem keeps_send (data : List UInt8) : Keeps K fd [.send] (send data) :=
  keeps_socket fun _ hs =>
    keeps_bind hK (keeps_attempt hK _ (congrArg some hs) (by simp [Syscall.kind])) fun _ =>
      keeps_pure hK _

theorem keeps_sendTo (data : List UInt8) (remote : Address) :
    Keeps K fd [.sendTo] (sendTo data remote) :=
  keeps_bind hK (keeps_native hK remote) fun _ => keeps_socket fun _ hs =>
    keeps_bind hK (keeps_attempt hK _ (congrArg some hs) (by simp [Syscall.kind])) fun _ =>
      keeps_pure hK _

theorem keeps_sendToFrom (data : List UInt8) (remote : Address) (source : IpAddress) :
    Keeps K fd [.sendMessage, .sendTo] (sendToFrom data remote source) := by
  refine keeps_bind hK (keeps_native hK remote) fun native => keeps_socket fun s hs => ?_
  split
  · exact keeps_bind hK (keeps_attempt hK _ (congrArg some hs) (by simp [Syscall.kind])) fun _ =>
      keeps_pure hK _
  · exact keeps_bind hK (keeps_attempt hK _ (congrArg some hs) (by simp [Syscall.kind])) fun _ =>
      keeps_pure hK _

omit hK in
theorem keeps_setReceiveLimit (limit : ReceiveLimit)
    (hreset : ∀ s, K s { s with receiveLimit := limit, receiveCount := 0 }) :
    Keeps K fd [] (setReceiveLimit limit) :=
  keeps_update hreset

section Slots

variable (htaken : ∀ s, K s { s with receiveCount := min (s.receiveCount + 1) maxReceiveCount })

include htaken

theorem keeps_takeSlot : Keeps K fd kinds takeSlot := by
  refine keeps_socket fun s _ => ?_
  split
  · exact keeps_bind hK (keeps_fail hK _) fun _ => keeps_update htaken
  · exact keeps_update htaken

theorem keeps_receive (room : Nat) : Keeps K fd [.receive] (receive room) :=
  keeps_bind hK (keeps_takeSlot hK htaken) fun _ => keeps_socket fun _ hs =>
    keeps_bind hK (keeps_attempt hK _ (congrArg some hs) (by simp [Syscall.kind])) fun _ =>
      keeps_pure hK _

omit htaken in
theorem keeps_receiveDatagram (room : Nat) (hkind : .receiveFrom ∈ kinds) :
    Keeps K fd kinds (receiveDatagram room) :=
  keeps_socket fun _ hs => keeps_bind hK (keeps_attempt hK _ (congrArg some hs) hkind) fun _ =>
    keeps_bind hK (keeps_decoded hK _) fun _ => keeps_pure hK _

theorem keeps_receiveFrom (room : Nat) : Keeps K fd [.receiveFrom] (receiveFrom room) :=
  keeps_bind hK (keeps_takeSlot hK htaken) fun _ => keeps_receiveDatagram hK room (by decide)

theorem keeps_receiveFromTo (room : Nat) :
    Keeps K fd [.receiveMessage, .receiveFrom] (receiveFromTo room) := by
  refine keeps_bind hK (keeps_takeSlot hK htaken) fun _ => keeps_socket fun s hs => ?_
  split
  · exact keeps_bind hK (keeps_attempt hK _ (congrArg some hs) (by simp [Syscall.kind])) fun _ =>
      keeps_bind hK (keeps_decoded hK _) fun _ => keeps_pure hK _
  · exact keeps_bind hK (keeps_receiveDatagram hK room (by decide)) fun _ => keeps_pure hK _

end Slots

end Lasting

end SocketM

/-! ## Requests -/

namespace Request

/-- The kinds of calls that a request makes. -/
def kinds : Request → List CallKind
  | bind _ => [.enableOption, .bind]
  | listen _ => [.listen]
  | connect _ => [.connect]
  | connectResult => []
  | drainAccept => [.accept]
  | peerAddress => [.peerName]
  | ownAddress => [.ownName]
  | send _ => [.send]
  | sendTo _ _ => [.sendTo]
  | sendToFrom _ _ _ => [.sendMessage, .sendTo]
  | receive _ => [.receive]
  | receiveFrom _ => [.receiveFrom]
  | receiveFromTo _ => [.receiveMessage, .receiveFrom]
  | setReceiveLimit _ => []

/-- Whether a request can change the connect state. -/
def isConnecting : Request → Bool
  | connect _ => true
  | connectResult => true
  | _ => false

/-- Whether a request takes a slot for a receive. -/
def isReceive : Request → Bool
  | receive _ => true
  | receiveFrom _ => true
  | receiveFromTo _ => true
  | _ => false

/-- Whether a request replaces the receive limit. -/
def isLimiting : Request → Bool
  | setReceiveLimit _ => true
  | _ => false

/-- What a request leaves alone: the fixed part and the subscription, the connect state unless it is
about connecting, and the count and the limit of receives unless it is about those. -/
structure Spares (request : Request) (s t : Socket) : Prop extends s.Kept t where
  connect : request.isConnecting = false → t.connect = s.connect
  receiveLimit : request.isLimiting = false → t.receiveLimit = s.receiveLimit
  receiveCount : request.isLimiting = false → request.isReceive = false →
    t.receiveCount = s.receiveCount

/-- What is spared step by step is spared. -/
theorem lasting_spares (request : Request) : Socket.Lasting request.Spares where
  refl s := ⟨Socket.Kept.refl s, fun _ => rfl, fun _ => rfl, fun _ _ => rfl⟩
  trans h h' := by
    refine ⟨h.toKept.trans h'.toKept, fun hr => ?_, fun hr => ?_, fun hr hr' => ?_⟩
    · exact (h'.connect hr).trans (h.connect hr)
    · exact (h'.receiveLimit hr).trans (h.receiveLimit hr)
    · exact (h'.receiveCount hr hr').trans (h.receiveCount hr hr')
  fd h := h.fd
  lastError _ _ :=
    ⟨⟨rfl, rfl, rfl, rfl, rfl, rfl, rfl, rfl⟩, fun _ => rfl, fun _ => rfl, fun _ _ => rfl⟩

/-- **A request that accepts no connection spares what is not its business**, and makes calls of its
kinds with the descriptor of its socket only. -/
theorem keeps_run {fd : Fd} (request : Request) (h : request ≠ .drainAccept) :
    SocketM.Keeps request.Spares fd request.kinds request.run := by
  open SocketM in
  have hK := lasting_spares request
  cases request with
  | bind addr => exact keeps_bind hK (keeps_bindTo hK addr) fun _ => keeps_pure hK _
  | listen backlog => exact keeps_bind hK (keeps_listen hK backlog) fun _ => keeps_pure hK _
  | connect addr =>
    refine keeps_bind hK (keeps_connect hK addr fun s => ?_) fun _ => keeps_pure hK _
    exact ⟨⟨rfl, rfl, rfl, rfl, rfl, rfl, rfl, rfl⟩, by simp [isConnecting], fun _ => rfl,
      fun _ _ => rfl⟩
  | connectResult =>
    refine keeps_bind hK (keeps_connectResult hK fun s outcome => ?_) fun _ => keeps_pure hK _
    exact ⟨⟨rfl, rfl, rfl, rfl, rfl, rfl, rfl, rfl⟩, by simp [isConnecting], fun _ => rfl,
      fun _ _ => rfl⟩
  | drainAccept => exact absurd rfl h
  | peerAddress => exact keeps_bind hK (keeps_peerAddress hK) fun _ => keeps_pure hK _
  | ownAddress => exact keeps_bind hK (keeps_ownAddress hK) fun _ => keeps_pure hK _
  | send data => exact keeps_bind hK (keeps_send hK data) fun _ => keeps_pure hK _
  | sendTo data remote => exact keeps_bind hK (keeps_sendTo hK data remote) fun _ => keeps_pure hK _
  | sendToFrom data remote source =>
    exact keeps_bind hK (keeps_sendToFrom hK data remote source) fun _ => keeps_pure hK _
  | receive room =>
    refine keeps_bind hK (keeps_receive hK (fun s => ?_) room) fun _ => keeps_pure hK _
    exact ⟨⟨rfl, rfl, rfl, rfl, rfl, rfl, rfl, rfl⟩, fun _ => rfl, fun _ => rfl,
      by simp [isReceive]⟩
  | receiveFrom room =>
    refine keeps_bind hK (keeps_receiveFrom hK (fun s => ?_) room) fun _ => keeps_pure hK _
    exact ⟨⟨rfl, rfl, rfl, rfl, rfl, rfl, rfl, rfl⟩, fun _ => rfl, fun _ => rfl,
      by simp [isReceive]⟩
  | receiveFromTo room =>
    refine keeps_bind hK (keeps_receiveFromTo hK (fun s => ?_) room) fun _ => keeps_pure hK _
    exact ⟨⟨rfl, rfl, rfl, rfl, rfl, rfl, rfl, rfl⟩, fun _ => rfl, fun _ => rfl,
      by simp [isReceive]⟩
  | setReceiveLimit limit =>
    refine keeps_bind hK (keeps_setReceiveLimit limit fun s => ?_) fun _ => keeps_pure hK _
    exact ⟨⟨rfl, rfl, rfl, rfl, rfl, rfl, rfl, rfl⟩, fun _ => rfl, by simp [isLimiting],
      by simp [isLimiting]⟩

/-- A request that accepts no connection keeps its socket and uses its descriptor only. -/
theorem uses_run {fd : Fd} (request : Request) (h : request ≠ .drainAccept) :
    SocketM.Uses fd request.run := by
  intro session hfd
  obtain ⟨hspares, hcalls⟩ := request.keeps_run h session hfd
  exact ⟨hspares.toKept, hcalls.mono fun _ he => he.isCallWith⟩

end Request

/-! ## Accepting -/

/-- A call or a close: what an operation on one socket records. -/
def Event.IsSystem : Event → Prop
  | .called .. => True
  | .closed _ => True
  | _ => False

/-- A call or a close changes no registration. -/
theorem Event.IsSystem.token?_eq_none {e : Event} (h : e.IsSystem) : e.token? = none := by
  cases e with
  | interestSet _ _ | deregistered _ => exact h.elim
  | _ => rfl

/-- Between two sessions the socket was kept, and these calls and closes were made, with its
descriptor and with descriptors that were handed out in between. -/
structure Session.Serves (a b : Session) (later : History) : Prop where
  kept : a.socket.Kept b.socket
  history : b.kernel.history = a.kernel.history ++ later
  calls : CallsWith [a.socket.fd] later
  system : ∀ e ∈ later, e.IsSystem

/-- Whoever uses one descriptor needs no other. -/
theorem Session.Uses.serves {a b : Session} (h : a.Uses a.socket.fd b) :
    ∃ later, a.Serves b later := by
  obtain ⟨kept, later, heq, hlater⟩ := h
  refine ⟨later, kept, heq, ?_, ?_⟩
  · refine CallsWith.of_forall fun e he fd hfd => ?_
    rw [(hlater e he).fd?_eq] at hfd
    exact List.mem_singleton.2 (Option.some.inj hfd).symm
  · intro e he
    have hcall := hlater e he
    cases e with
    | called _ _ => trivial
    | _ => exact hcall.elim

/-- What accepting a connection records, and the descriptor that is left when it has ended. -/
inductive Accepted (listener : Fd) : Option Fd → History → Prop
  | refused {code : Errno} : Accepted listener none [.called (.accept listener) (.error code)]
  /-- The connection is closed again. -/
  | dropped {fd : Fd} {between : History}
      (calls : ∀ e ∈ between, e.IsCallAmong fd [.setNonblocking]) :
      Accepted listener none
        (.called (.accept listener) (.ok fd) :: (between ++ [.closed fd]))
  | taken {fd : Fd} {later : History} (calls : ∀ e ∈ later, e.IsCallAmong fd [.setNonblocking]) :
      Accepted listener (some fd) (.called (.accept listener) (.ok fd) :: later)

/-- Between two sessions a connection was accepted, of which this descriptor is left. Nothing of the
listener changed but its last error. -/
structure Session.Accepts (a b : Session) (fd? : Option Fd) : Prop where
  socket : b.socket = { a.socket with lastError := b.socket.lastError }
  calls : ∃ later, b.kernel.history = a.kernel.history ++ later ∧ Accepted a.socket.fd fd? later

/-- Calls for a connection need its descriptor only. -/
theorem callsWith_of_among {fd : Fd} {fds : List Fd} {kinds : List CallKind} {h : History}
    (hcalls : ∀ e ∈ h, e.IsCallAmong fd kinds) (hfd : fd ∈ fds) : CallsWith fds h := by
  refine CallsWith.of_forall fun e he fd' hfd' => ?_
  rw [(hcalls e he).isCallWith.fd?_eq] at hfd'
  rwa [← Option.some.inj hfd']

/-- Such calls are among what an operation records. -/
theorem isSystem_of_among {fd : Fd} {kinds : List CallKind} {e : Event}
    (h : e.IsCallAmong fd kinds) : e.IsSystem := by
  cases e with
  | called _ _ => trivial
  | _ => exact h.elim

/-- Accepting a connection keeps the listener. -/
theorem Session.Accepts.kept {a b : Session} {fd? : Option Fd} (h : a.Accepts b fd?) :
    a.socket.Kept b.socket := by
  rw [h.socket]
  exact ⟨rfl, rfl, rfl, rfl, rfl, rfl, rfl, rfl⟩

/-- Accepting a connection serves the listener, and what is left was handed out. -/
theorem Session.Accepts.serves {a b : Session} {fd? : Option Fd} (h : a.Accepts b fd?) :
    ∃ later, a.Serves b later ∧ ∀ fd ∈ fd?, fd ∈ later.filterMap Event.handsOut? := by
  have hkept := h.kept
  obtain ⟨-, later, hhistory, haccepted⟩ := h
  refine ⟨later, ⟨hkept, hhistory, ?_, ?_⟩, ?_⟩
  · cases haccepted with
    | refused => simp [CallsWith, Event.fd?, Syscall.fd?]
    | @dropped fd between hcalls =>
      refine ⟨by simp [Event.fd?, Syscall.fd?], ?_⟩
      have hmem : fd ∈ [fd, a.socket.fd] := List.mem_cons_self
      refine (callsWith_of_among hcalls hmem).append ⟨?_, trivial⟩
      rintro _ ⟨⟩
      exact List.mem_append_right _ hmem
    | @taken fd calls hcalls =>
      exact ⟨by simp [Event.fd?, Syscall.fd?], callsWith_of_among hcalls List.mem_cons_self⟩
  · cases haccepted with
    | refused => simp [Event.IsSystem]
    | dropped hcalls =>
      simp only [List.mem_cons, List.mem_append, List.not_mem_nil, or_false]
      rintro e (rfl | he | rfl)
      · trivial
      · exact isSystem_of_among (hcalls e he)
      · trivial
    | taken hcalls =>
      simp only [List.mem_cons]
      rintro e (rfl | he)
      · trivial
      · exact isSystem_of_among (hcalls e he)
  · cases haccepted with
    | taken hcalls => simp [Event.handsOut?]
    | _ => simp

/-- A connection that was taken can be closed at once. -/
theorem Session.Accepts.close {a b : Session} {fd : Fd} (h : a.Accepts b (some fd)) :
    a.Accepts ⟨b.socket, b.kernel.close fd⟩ none := by
  obtain ⟨hsocket, later, hhistory, haccepted⟩ := h
  cases haccepted with
  | @taken _ calls hcalls =>
    refine ⟨hsocket, _, ?_, .dropped hcalls⟩
    exact (congrArg (· ++ [Event.closed fd]) hhistory).trans (List.append_assoc _ _ _)

namespace SocketM

variable (session : Session)

/-- Accepting a connection: it fails, or its peer cannot be read and it is closed, or it is there.
-/
theorem run_acceptConnection :
    acceptConnection session =
      match session.kernel.call (.accept session.socket.fd) with
      | (.error code, kernel) =>
        let error := Operation.accept.classifyErrno session.socket.cls code
        .error (.failed error) ⟨{ session.socket with lastError := some error }, kernel⟩
      | (.ok completion, kernel) =>
        let socket := { session.socket with lastError := none }
        match Address.ofNative completion.address with
        | .error fault =>
          .error (.breached (.nativeAddress fault)) ⟨socket, kernel.close completion.value⟩
        | .ok peer => .ok (completion.value, peer) ⟨socket, kernel⟩ := by
  simp only [acceptConnection, attempt, run_bind, run_socket, run_call]
  rcases session.kernel.call (.accept session.socket.fd) with ⟨code | completion, kernel⟩
  · simp only [run_complete_error]
  · simp only [run_complete_ok]
    cases Address.ofNative completion.address with
    | error fault => simp only [run_bind, run_close, run_breach]
    | ok peer => simp only [run_pure]

/-- Accepting a connection leaves no descriptor, or that of the connection. -/
theorem acceptConnection_cases :
    (∃ halt b, acceptConnection session = .error halt b ∧ session.Accepts b none) ∨
      ∃ fd peer b, acceptConnection session = .ok (fd, peer) b ∧ session.Accepts b (some fd) := by
  have hhistory := Kernel.history_call session.kernel (.accept session.socket.fd)
  rw [run_acceptConnection]
  rcases hcall : session.kernel.call (.accept session.socket.fd) with
    ⟨code | completion, kernel⟩ <;> rw [hcall] at hhistory
  · exact .inl ⟨_, _, rfl, rfl, _, hhistory, .refused⟩
  · have htaken : session.Accepts ⟨{ session.socket with lastError := none }, kernel⟩
        (some completion.value) :=
      ⟨rfl, _, hhistory, .taken fun e he => absurd he List.not_mem_nil⟩
    cases hpeer : Address.ofNative completion.address with
    | error fault =>
      left
      simp only [hpeer]
      exact ⟨_, _, rfl, htaken.close⟩
    | ok peer =>
      right
      simp only [hpeer]
      exact ⟨_, _, _, rfl, htaken⟩

/-- Draining a connection leaves no descriptor. -/
theorem accepts_drainAccept : session.Accepts (drainAccept.after session) none := by
  rcases acceptConnection_cases session with ⟨halt, b, heq, haccepts⟩ | ⟨fd, peer, b, heq, haccepts⟩
  · simpa only [after, drainAccept, run_bind, heq] using haccepts
  · simpa only [after, drainAccept, run_bind, heq, run_close, run_pure] using haccepts.close

/-- Accepting a connection and making it ready leaves no descriptor, or that of the connection. -/
theorem acceptReady_cases :
    (∃ halt b, acceptReady session = .error halt b ∧ session.Accepts b none) ∨
      ∃ fd peer b, acceptReady session = .ok (fd, peer) b ∧ session.Accepts b (some fd) := by
  rcases acceptConnection_cases session with ⟨halt, b, heq, haccepts⟩ | ⟨fd, peer, b, heq, haccepts⟩
  · left
    refine ⟨halt, b, ?_, haccepts⟩
    simp only [acceptReady, run_bind, heq]
  · -- the connection is made ready with its own descriptor
    have hready : session.Accepts ⟨b.socket, (b.kernel.call (.setNonblocking fd)).2⟩ (some fd) := by
      obtain ⟨hsocket, later, hhistory, haccepted⟩ := haccepts
      cases haccepted with
      | @taken _ calls hcalls =>
        have hgrows := Kernel.history_call b.kernel (.setNonblocking fd)
        rw [hhistory, List.append_assoc] at hgrows
        refine ⟨hsocket, _, hgrows, .taken fun e he => ?_⟩
        rcases List.mem_append.1 he with he | he
        · exact hcalls e he
        · rw [List.mem_singleton.1 he]
          exact ⟨rfl, List.mem_singleton_self _⟩
    simp only [acceptReady, run_bind, heq, run_call]
    rcases hcall : b.kernel.call (.setNonblocking fd) with ⟨code | completion, kernel⟩ <;>
      rw [hcall] at hready
    · left
      refine ⟨_, _, rfl, ?_, hready.close.calls⟩
      rw [hready.socket]
    · exact .inr ⟨fd, peer, _, rfl, hready⟩

end SocketM

/-- A request to drain a connection leaves no descriptor. -/
theorem Request.accepts_run_drainAccept (session : Session) :
    session.Accepts (SocketM.after Request.drainAccept.run session) none := by
  have haccepts := SocketM.accepts_drainAccept session
  rcases heq : SocketM.drainAccept session with ⟨peer, b⟩ | ⟨halt, b⟩ <;>
    simpa only [SocketM.after, Request.run, SocketM.run_bind, SocketM.run_pure, heq] using haccepts

/-- A request spares what is not its business. -/
theorem Request.spares_run (request : Request) (session : Session) :
    request.Spares session.socket (SocketM.after request.run session).socket := by
  by_cases h : request = .drainAccept
  · subst h
    rw [(Request.accepts_run_drainAccept session).socket]
    exact (Request.lasting_spares .drainAccept).lastError _ _
  · exact (request.keeps_run h session rfl).socket

/-- **A request serves its socket**: what was fixed at its opening stays, and so does its
subscription; its calls need no descriptor but its own and those that it was handed. -/
theorem Request.serves_run (request : Request) (session : Session) :
    ∃ later, session.Serves (SocketM.after request.run session) later := by
  by_cases h : request = .drainAccept
  · subst h
    obtain ⟨later, hserves, -⟩ := (Request.accepts_run_drainAccept session).serves
    exact ⟨later, hserves⟩
  · exact (request.uses_run h session rfl).serves

/-- Settling a connect changes the connect state at most, and makes no call but for the pending
error of its socket. -/
theorem Session.keeps_settleConnect (session : Session) :
    session.Keeps (fun s t => t = { s with connect := t.connect }) session.socket.fd
      [.pendingError] session.settleConnect.2 := by
  have hcalls := Kernel.grows_call
    (P := Event.IsCallAmong session.socket.fd [.pendingError]) session.kernel
    (.pendingError session.socket.fd) fun _ => ⟨rfl, List.mem_singleton_self _⟩
  unfold settleConnect
  dsimp only
  split
  · exact ⟨rfl, Grows.refl _⟩
  · exact ⟨rfl, Grows.refl _⟩
  · split
    · rename_i hcall
      rw [hcall] at hcalls
      exact ⟨rfl, hcalls⟩
    · rename_i hcall
      rw [hcall] at hcalls
      exact ⟨rfl, hcalls⟩

/-- Settling a connect uses the descriptor of its socket only. -/
theorem Session.uses_settleConnect (session : Session) :
    session.Uses session.socket.fd session.settleConnect.2 := by
  obtain ⟨hsocket, hcalls⟩ := session.keeps_settleConnect
  refine ⟨?_, hcalls.mono fun _ he => he.isCallWith⟩
  rw [hsocket]
  exact ⟨rfl, rfl, rfl, rfl, rfl, rfl, rfl, rfl⟩

end SocketLoop
