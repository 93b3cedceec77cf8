import SocketLoop.Proofs.Socket.Request

/-!
# What an operation reports

An operation that fails tells an error, and a socket remembers the last one. The error and the
memory are written at different places of an operation, and some operations go on after they have
written the one.

* `Operation.errors` are the errors that an operation is documented to fail with.
* `SocketM.Reports` follows an operation through its parts: where it returns, what is remembered is
  known, and where it fails, the error is one of a list and is what is remembered.
* **`Request.reports_run`**: a request that returns leaves no error, and one that fails leaves the
  error that it tells, which is among those documented.
-/

namespace SocketLoop

/-! ## Documented errors -/

namespace Operation

/-- The errors with which an operation on a socket of a class can fail. -/
def errors (cls : SocketClass) : Operation → List SocketError
  | connect => [.inProgress, .unknown]
  | connectResult => [.connectionRefused, .connectionTimedOut, .unknown]
  | bind => [.addressNotAvailable, .addressInUse, .accessDenied, .unknown]
  | listen => [.addressInUse, .unknown]
  | accept => [.later, .unknown]
  | send | recv =>
    match cls with
    | .stream => [.later, .connectionRefused, .connectionReset, .unknown]
    | .datagram => [.later, .connectionRefused, .unknown]
  | addressQuery => [.unknown]

/-- The table of an operation has no other errors. -/
theorem classify_mem_errors (op : Operation) (cls : SocketClass) (condition? : Option Condition) :
    op.classify cls condition? ∈ op.errors cls := by
  cases condition? with
  | none => cases op <;> cases cls <;> decide
  | some condition => cases op <;> cases cls <;> cases condition <;> decide

/-- Whatever the error number is, the error is a documented one. -/
theorem classifyErrno_mem_errors (op : Operation) (cls : SocketClass) (code : Errno) :
    op.classifyErrno cls code ∈ op.errors cls :=
  op.classify_mem_errors cls _

end Operation

/-- The outcome that a socket keeps of its connect can be told as a documented error. -/
def Socket.OutcomeListed (s : Socket) : Prop :=
  ∀ error, s.connect = .resolved (some error) → error ∈ Operation.connectResult.errors s.cls

/-- So can any outcome that the pending error tells. -/
theorem Tells.mem_errors {code : Errno} {error : SocketError} (h : Tells code (some error))
    (cls : SocketClass) : error ∈ Operation.connectResult.errors cls := by
  cases h <;> simp [Operation.errors]

namespace Request

/-- The operation whose errors a request tells. Replacing the receive limit cannot fail. -/
def operation? : Request → Option Operation
  | bind _ => some .bind
  | listen _ => some .listen
  | connect _ => some .connect
  | connectResult => some .connectResult
  | drainAccept => some .accept
  | peerAddress => some .addressQuery
  | ownAddress => some .addressQuery
  | send _ => some .send
  | sendTo _ _ => some .send
  | sendToFrom _ _ _ => some .send
  | receive _ => some .recv
  | receiveFrom _ => some .recv
  | receiveFromTo _ => some .recv
  | setReceiveLimit _ => none

/-- The errors with which a request to a socket of a class can fail. -/
def errors (cls : SocketClass) (request : Request) : List SocketError :=
  request.operation?.elim [] (Operation.errors cls)

end Request

/-! ## Operations and what they report -/

/-- An operation came to its end: it returned, and the session is like this; or it failed with one
of these errors, which is the last error now; or it broke the contract. -/
inductive Session.Reports {α : Type} (errors : List SocketError) (after : Session → Prop) :
    EStateM.Result Halt Session α → Prop
  | returned {a : α} {b : Session} (holds : after b) : Reports errors after (.ok a b)
  | failed {error : SocketError} {b : Session} (isListed : error ∈ errors)
      (lastError : b.socket.lastError = some error) :
      Reports errors after (.error (.failed error) b)
  | breached {breach : Breach} {b : Session} : Reports errors after (.error (.breached breach) b)

namespace SocketM

variable {α β : Type} {cls : SocketClass} {errors : List SocketError}
  {P Q R : Option SocketError → Prop}

/-- On a socket of this class whose last error satisfies the first condition, the operation reports
one of these errors, or it returns and the last error satisfies the second condition. -/
def Reports (cls : SocketClass) (errors : List SocketError) (P Q : Option SocketError → Prop)
    (op : SocketM α) : Prop :=
  ∀ session : Session, session.socket.cls = cls → P session.socket.lastError →
    Session.Reports errors (fun b => b.socket.cls = cls ∧ Q b.socket.lastError) (op session)

/-- A sequence reports what its parts report. -/
theorem reports_bind {op : SocketM α} {next : α → SocketM β} (h : Reports cls errors P Q op)
    (hnext : ∀ a, Reports cls errors Q R (next a)) : Reports cls errors P R (op >>= next) := by
  intro session hcls hbefore
  have hop := h session hcls hbefore
  rw [run_bind]
  generalize op session = ended at hop
  cases hop with
  | returned holds => exact hnext _ _ holds.1 holds.2
  | failed isListed lastError => exact .failed isListed lastError
  | breached => exact .breached

theorem reports_discard {op : SocketM α} (h : Reports cls errors P Q op) :
    Reports cls errors P Q (discard op) := by
  intro session hcls hbefore
  have hop := h session hcls hbefore
  rw [run_discard]
  generalize op session = ended at hop
  cases hop with
  | returned holds => exact .returned holds
  | failed isListed lastError => exact .failed isListed lastError
  | breached => exact .breached

theorem reports_pure (a : α) : Reports cls errors P P (pure a) :=
  fun _ hcls hbefore => .returned ⟨hcls, hbefore⟩

theorem reports_breach (b : Breach) : Reports cls errors P Q (breach b : SocketM α) :=
  fun _ _ _ => .breached

/-- Whoever looks at the socket sees its class. -/
theorem reports_socket {next : Socket → SocketM β}
    (hnext : ∀ s, s.cls = cls → Reports cls errors P Q (next s)) :
    Reports cls errors P Q (socket >>= next) := by
  intro session hcls hbefore
  rw [run_bind, run_socket]
  exact hnext session.socket hcls session hcls hbefore

/-- A change that is not about the last error. -/
theorem reports_update {f : Socket → Socket}
    (hf : ∀ s, (f s).cls = s.cls ∧ (f s).lastError = s.lastError) :
    Reports cls errors P P (update f) := by
  intro session hcls hbefore
  obtain ⟨hcls', herror⟩ := hf session.socket
  exact .returned ⟨hcls'.trans hcls, herror ▸ hbefore⟩

/-- An error that is stored and told. -/
theorem reports_fail {error : SocketError} (h : error ∈ errors) :
    Reports cls errors P Q (fail error : SocketM α) :=
  fun _ _ _ => .failed h rfl

theorem reports_call (syscall : Syscall) : Reports cls errors P P (call syscall) :=
  fun _ hcls hbefore => .returned ⟨hcls, hbefore⟩

theorem reports_close (fd : Fd) : Reports cls errors P P (close fd) :=
  fun _ hcls hbefore => .returned ⟨hcls, hbefore⟩

/-- Ending a call clears the last error, or fails with an error of the table. -/
theorem reports_complete (op : Operation) (result : Except Errno Completion) :
    Reports cls (op.errors cls) P (· = none) (complete op result) := by
  cases result with
  | ok completion => exact fun _ hcls _ => .returned ⟨hcls, rfl⟩
  | error code =>
    refine reports_socket fun s hs => reports_fail ?_
    rw [hs]
    exact op.classifyErrno_mem_errors cls code

theorem reports_attempt (op : Operation) (syscall : Syscall) :
    Reports cls (op.errors cls) P (· = none) (attempt op syscall) :=
  reports_bind (reports_call syscall) fun _ => reports_complete op _

/-- What comes first under some condition. -/
theorem reports_guarded {p : Prop} [Decidable p] {op : SocketM PUnit} {next : PUnit → SocketM β}
    (h : Reports cls errors P P op) (hnext : ∀ u, Reports cls errors P Q (next u)) :
    Reports cls errors P Q (if p then op >>= next else next ⟨⟩) := by
  split
  · exact reports_bind h hnext
  · exact hnext ⟨⟩

theorem reports_native (addr : Address) : Reports cls errors P P (native addr) := by
  unfold native
  split
  · exact reports_pure _
  · exact reports_breach _

theorem reports_decoded (addr : NativeAddress) : Reports cls errors P P (decoded addr) := by
  unfold decoded
  split
  · exact reports_pure _
  · exact reports_breach _

/-! ### The operations -/

theorem reports_bindTo (addr : Address) :
    Reports cls (Operation.bind.errors cls) P (· = none) (bindTo addr) := by
  refine reports_bind (reports_native addr) fun native => reports_socket fun s _ => ?_
  have hbind : Reports cls (Operation.bind.errors cls) P (· = none)
      (discard <| attempt .bind (.bind s.fd native)) :=
    reports_discard (reports_attempt _ _)
  split
  · exact reports_bind (reports_discard (reports_call _)) fun _ => hbind
  · exact hbind

theorem reports_listen (backlog : Int) :
    Reports cls (Operation.listen.errors cls) P (· = none) (listen backlog) :=
  reports_socket fun _ _ => reports_discard (reports_attempt _ _)

theorem reports_connect (addr : Address) :
    Reports cls (Operation.connect.errors cls) P (· = none) (connect addr) := by
  refine reports_bind (reports_native addr) fun native => reports_socket fun s _ =>
    reports_guarded (reports_breach _) fun _ => reports_bind (reports_call _) fun result => ?_
  cases result with
  | ok completion => exact reports_discard (reports_complete _ _)
  | error code =>
    exact reports_guarded (reports_update fun _ => ⟨rfl, rfl⟩) fun _ =>
      reports_discard (reports_complete _ _)

/-- The peer of a connection is read after the last error was cleared. -/
theorem reports_acceptConnection :
    Reports cls (Operation.accept.errors cls) P (· = none) acceptConnection := by
  refine reports_socket fun s _ => reports_bind (reports_attempt _ _) fun completion => ?_
  split
  · exact reports_pure _
  · exact reports_bind (reports_close _) fun _ => reports_breach _

/-- If a connection cannot be made ready, an error is stored after the last one was cleared. -/
theorem reports_acceptReady :
    Reports cls (Operation.accept.errors cls) P (· = none) acceptReady := by
  refine reports_bind reports_acceptConnection fun connection => ?_
  refine reports_bind (reports_call _) fun result => ?_
  cases result with
  | ok completion => exact reports_pure _
  | error code =>
    exact reports_bind (reports_close _) fun _ => reports_fail (by simp [Operation.errors])

theorem reports_drainAccept :
    Reports cls (Operation.accept.errors cls) P (· = none) drainAccept :=
  reports_bind reports_acceptConnection fun _ =>
    reports_bind (reports_close _) fun _ => reports_pure _

theorem reports_peerAddress :
    Reports cls (Operation.addressQuery.errors cls) P (· = none) peerAddress :=
  reports_socket fun _ _ => reports_bind (reports_attempt _ _) fun _ => reports_decoded _

theorem reports_ownAddress :
    Reports cls (Operation.addressQuery.errors cls) P (· = none) ownAddress :=
  reports_socket fun _ _ => reports_bind (reports_attempt _ _) fun _ => reports_decoded _

theorem reports_send (data : List UInt8) :
    Reports cls (Operation.send.errors cls) P (· = none) (send data) :=
  reports_socket fun _ _ => reports_bind (reports_attempt _ _) fun _ => reports_pure _

theorem reports_sendTo (data : List UInt8) (remote : Address) :
    Reports cls (Operation.send.errors cls) P (· = none) (sendTo data remote) :=
  reports_bind (reports_native remote) fun _ => reports_socket fun _ _ =>
    reports_bind (reports_attempt _ _) fun _ => reports_pure _

theorem reports_sendToFrom (data : List UInt8) (remote : Address) (source : IpAddress) :
    Reports cls (Operation.send.errors cls) P (· = none) (sendToFrom data remote source) := by
  refine reports_bind (reports_native remote) fun native => reports_socket fun s _ => ?_
  split
  · exact reports_bind (reports_attempt _ _) fun _ => reports_pure _
  · exact reports_bind (reports_attempt _ _) fun _ => reports_pure _

/-- Without a slot the error is one that receiving can fail with. -/
theorem reports_takeSlot : Reports cls (Operation.recv.errors cls) P P takeSlot := by
  have hlater : .later ∈ Operation.recv.errors cls := by
    cases cls <;> simp [Operation.errors]
  exact reports_socket fun _ _ =>
    reports_guarded (reports_fail hlater) fun _ => reports_update fun _ => ⟨rfl, rfl⟩

theorem reports_receive (room : Nat) :
    Reports cls (Operation.recv.errors cls) P (· = none) (receive room) :=
  reports_bind reports_takeSlot fun _ => reports_socket fun _ _ =>
    reports_bind (reports_attempt _ _) fun _ => reports_pure _

theorem reports_receiveDatagram (room : Nat) :
    Reports cls (Operation.recv.errors cls) P (· = none) (receiveDatagram room) :=
  reports_socket fun _ _ => reports_bind (reports_attempt _ _) fun _ =>
    reports_bind (reports_decoded _) fun _ => reports_pure _

theorem reports_receiveFrom (room : Nat) :
    Reports cls (Operation.recv.errors cls) P (· = none) (receiveFrom room) :=
  reports_bind reports_takeSlot fun _ => reports_receiveDatagram room

theorem reports_receiveFromTo (room : Nat) :
    Reports cls (Operation.recv.errors cls) P (· = none) (receiveFromTo room) := by
  refine reports_bind reports_takeSlot fun _ => reports_socket fun s _ => ?_
  split
  · exact reports_bind (reports_attempt _ _) fun _ =>
      reports_bind (reports_decoded _) fun _ => reports_pure _
  · exact reports_bind (reports_receiveDatagram room) fun _ => reports_pure _

end SocketM

/-! ## Requests -/

namespace Request

open SocketM

/-- Taking the outcome of a connect tells and leaves that outcome. -/
theorem reports_connectResult {session : Session} (h : session.socket.OutcomeListed) :
    Session.Reports (Operation.connectResult.errors session.socket.cls)
      (fun b => b.socket.lastError = none) (Request.run .connectResult session) := by
  rw [run_connectResult]
  cases hstate : session.socket.connect with
  | idle => exact .breached
  | pending => exact .breached
  | resolved outcome =>
    cases outcome with
    | none => exact .returned rfl
    | some error => exact .failed (h error hstate) rfl

/-- **What a request reports is what it leaves as the last error**, and it is documented. -/
theorem reports_run (request : Request) {session : Session} (hfallible : request.isLimiting = false)
    (houtcome : session.socket.OutcomeListed) :
    Session.Reports (request.errors session.socket.cls) (fun b => b.socket.lastError = none)
      (request.run session) := by
  have hreports {op : SocketM Value} {errors : List SocketError}
      (h : Reports session.socket.cls errors (fun _ => True) (· = none) op) :
      Session.Reports errors (fun b => b.socket.lastError = none) (op session) := by
    have hop := h session rfl trivial
    generalize op session = ended at hop
    cases hop with
    | returned holds => exact .returned holds.2
    | failed isListed lastError => exact .failed isListed lastError
    | breached => exact .breached
  cases request with
  | bind addr => exact hreports (reports_bind (reports_bindTo addr) fun _ => reports_pure _)
  | listen backlog => exact hreports (reports_bind (reports_listen backlog) fun _ => reports_pure _)
  | connect addr => exact hreports (reports_bind (reports_connect addr) fun _ => reports_pure _)
  | connectResult => exact reports_connectResult houtcome
  | drainAccept => exact hreports (reports_bind reports_drainAccept fun _ => reports_pure _)
  | peerAddress => exact hreports (reports_bind reports_peerAddress fun _ => reports_pure _)
  | ownAddress => exact hreports (reports_bind reports_ownAddress fun _ => reports_pure _)
  | send data => exact hreports (reports_bind (reports_send data) fun _ => reports_pure _)
  | sendTo data remote =>
    exact hreports (reports_bind (reports_sendTo data remote) fun _ => reports_pure _)
  | sendToFrom data remote source =>
    exact hreports (reports_bind (reports_sendToFrom data remote source) fun _ => reports_pure _)
  | receive room => exact hreports (reports_bind (reports_receive room) fun _ => reports_pure _)
  | receiveFrom room =>
    exact hreports (reports_bind (reports_receiveFrom room) fun _ => reports_pure _)
  | receiveFromTo room =>
    exact hreports (reports_bind (reports_receiveFromTo room) fun _ => reports_pure _)
  | setReceiveLimit limit => simp [isLimiting] at hfallible

end Request

end SocketLoop
