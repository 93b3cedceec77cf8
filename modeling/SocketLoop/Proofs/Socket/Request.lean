import SocketLoop.Proofs.Socket.Operation

/-!
# What single requests do

Three kinds of requests are followed exactly: those that start a connect, that take its outcome, and
that receive.

* `callsOf` are the calls in a history, with their outcomes.
* `Request.run_connect`, `Request.run_connectResult`: connecting, case by case. Only the error
  number for a connect in progress leaves it pending (`Operation.connect_inProgress_iff`).
* `Tells` says what the pending error of a socket tells about its connect.
* **`Request.run_of_isReached`**, **`Request.callsOnce_run`**: a receive is refused without a call,
  or it makes one call and takes one slot, whatever becomes of the call.
-/

namespace SocketLoop

/-! ## Calls in a history -/

/-- The call that an event records, with its outcome. -/
def Event.call? : Event → Option (Syscall × Except Errno Int)
  | .called call result => some (call, result)
  | _ => none

/-- The calls in a history, with their outcomes. -/
def callsOf (history : History) : List (Syscall × Except Errno Int) :=
  history.filterMap Event.call?

/-- The calls in two parts of a history. -/
theorem callsOf_append (h₁ h₂ : History) : callsOf (h₁ ++ h₂) = callsOf h₁ ++ callsOf h₂ :=
  List.filterMap_append

/-- Brackets are no calls. -/
theorem callsOf_of_isBracket {history : History} (h : ∀ e ∈ history, e.IsBracket) :
    callsOf history = [] := by
  refine List.filterMap_eq_nil_iff.2 fun e he => ?_
  have hbracket := h e he
  cases e with
  | called call result => exact hbracket.elim
  | _ => rfl

/-- Calls of a few kinds are of one of them. -/
theorem kind_of_mem_callsOf {fd : Fd} {kinds : List CallKind} {history : History}
    (h : ∀ e ∈ history, e.IsCallAmong fd kinds) {call : Syscall} {result : Except Errno Int}
    (hmem : (call, result) ∈ callsOf history) : call.kind ∈ kinds := by
  obtain ⟨e, he, hcall⟩ := List.mem_filterMap.1 hmem
  have hamong := h e he
  cases e with
  | called call' result' =>
    obtain ⟨rfl, rfl⟩ := Prod.mk.inj (Option.some.inj hcall)
    exact hamong.2
  | _ => exact hamong.elim

/-! ## Connecting -/

/-- A failed connect is in progress for one error number only. -/
theorem Operation.connect_inProgress_iff (cls : SocketClass) (code : Errno) :
    Operation.connect.classifyErrno cls code = .inProgress ↔ code = Errno.inProgress := by
  unfold classifyErrno Condition.ofErrno?
  constructor
  · intro h
    split at h
    · simp [classify] at h
    split at h
    · assumption
    repeat' split at h
    all_goals simp [classify] at h
  · rintro rfl
    rfl

/-- What the pending error of a socket tells about its connect. -/
inductive Tells : Errno → ConnectOutcome → Prop
  | connected : Tells 0 none
  | refused : Tells Errno.connectionRefused (some .connectionRefused)
  | timedOut : Tells Errno.timedOut (some .connectionTimedOut)
  | other {code : Errno} (isError : code ≠ 0) (notRefused : code ≠ Errno.connectionRefused)
      (notTimedOut : code ≠ Errno.timedOut) : Tells code (some .unknown)

/-- The outcome that is read off a pending error is what it tells. -/
theorem tells_ofPendingError (code : Errno) : Tells code (ConnectOutcome.ofPendingError code) := by
  by_cases hzero : code = 0
  · subst hzero
    exact .connected
  by_cases hrefused : code = Errno.connectionRefused
  · subst hrefused
    exact .refused
  by_cases htimedOut : code = Errno.timedOut
  · subst htimedOut
    exact .timedOut
  have hother : ConnectOutcome.ofPendingError code = some .unknown := by
    rw [ConnectOutcome.ofPendingError, if_neg hzero, Operation.classifyErrno, Condition.ofErrno?,
      if_neg hrefused, if_neg htimedOut]
    repeat' split
    all_goals rfl
  rw [hother]
  exact .other hzero hrefused htimedOut

namespace Request

open SocketM

variable (session : Session)

/-- Starting to connect. It is refused without an address or in a state other than idle. -/
theorem run_connect (addr : Address) :
    Request.run (.connect addr) session =
      match addr.toNative with
      | none => .error (.breached .addressMissing) session
      | some native =>
        if session.socket.connect = .idle then
          match session.kernel.call (.connect session.socket.fd native) with
          | (.ok _, kernel) => .ok .done ⟨{ session.socket with lastError := none }, kernel⟩
          | (.error code, kernel) =>
            if code = Errno.inProgress then
              .error (.failed .inProgress)
                ⟨{ session.socket with connect := .pending, lastError := some .inProgress }, kernel⟩
            else
              let error := Operation.connect.classifyErrno session.socket.cls code
              .error (.failed error) ⟨{ session.socket with lastError := some error }, kernel⟩
        else .error (.breached (.connectNotIdle session.socket.connect)) session := by
  cases hnative : addr.toNative with
  | none => simp [run, SocketM.connect, native, hnative]
  | some addr =>
    by_cases hidle : session.socket.connect = .idle
    · rcases hcall : session.kernel.call (.connect session.socket.fd addr) with
        ⟨code | completion, kernel⟩
      · by_cases hcode : code = Errno.inProgress
        · subst hcode
          have herror := (Operation.connect_inProgress_iff session.socket.cls _).2 rfl
          simp [run, SocketM.connect, native, hnative, hidle, hcall, herror]
        · have herror := mt (Operation.connect_inProgress_iff session.socket.cls code).1 hcode
          simp [run, SocketM.connect, native, hnative, hidle, hcall, herror, hcode]
      · simp [run, SocketM.connect, native, hnative, hidle, hcall]
    · simp [run, SocketM.connect, native, hnative, hidle]

/-- Taking the outcome of a connect. It is refused where there is none. -/
theorem run_connectResult :
    Request.run .connectResult session =
      match session.socket.connect with
      | .resolved none =>
        .ok .done ⟨{ session.socket with connect := .idle, lastError := none }, session.kernel⟩
      | .resolved (some error) =>
        .error (.failed error)
          ⟨{ session.socket with connect := .idle, lastError := some error }, session.kernel⟩
      | state => .error (.breached (.connectNotResolved state)) session := by
  cases hstate : session.socket.connect with
  | idle => simp [run, SocketM.connectResult, hstate]
  | pending => simp [run, SocketM.connectResult, hstate]
  | resolved outcome =>
    cases outcome with
    | none => simp [run, SocketM.connectResult, hstate]
    | some error => simp [run, SocketM.connectResult, SocketM.run_throw, hstate]

end Request

/-! ## Receiving -/

/-- Whether calls of a kind receive. -/
def CallKind.isReceive : CallKind → Bool
  | .receive => true
  | .receiveFrom => true
  | .receiveMessage => true
  | _ => false

/-- Between two sessions one call was made, and nothing of the socket changed but its last error. -/
structure Session.CallsOnce (call : Syscall) (a b : Session) : Prop where
  socket : b.socket = { a.socket with lastError := b.socket.lastError }
  calls : ∃ result, b.kernel.history = a.kernel.history ++ [.called call result]

namespace SocketM

variable {α β γ : Type} (session : Session)

/-- An attempt makes its call. -/
theorem callsOnce_attempt (op : Operation) (call : Syscall) :
    session.CallsOnce call ((attempt op call).after session) := by
  have hhistory := session.kernel.history_call call
  simp only [after, attempt, run_bind, run_call]
  rcases hcall : session.kernel.call call with ⟨code | completion, kernel⟩ <;>
    rw [hcall] at hhistory
  · simp only [run_complete_error]
    exact ⟨rfl, _, hhistory⟩
  · simp only [run_complete_ok]
    exact ⟨rfl, _, hhistory⟩

/-- What leaves the session alone can follow an operation. -/
theorem after_bind {op : SocketM α} {next : α → SocketM β}
    (hnext : ∀ a session, (next a).after session = session) :
    (op >>= next).after session = op.after session := by
  simp only [after, run_bind]
  cases op session with
  | ok a session' => exact hnext a session'
  | error halt session' => rfl

/-- So can a value that is made of its result. -/
theorem after_bind_pure (op : SocketM α) (f : α → β) :
    (op >>= fun a => pure (f a)).after session = op.after session :=
  after_bind session fun _ _ => rfl

/-- So can a value that is made of two results. -/
theorem after_bind_pure_pair (op : SocketM (α × β)) (f : α → β → γ) :
    (op >>= fun (a, b) => pure (f a b)).after session = op.after session :=
  after_bind session fun ⟨_, _⟩ _ => rfl

/-- Reading an address leaves the session alone, whether it succeeds or not. -/
theorem after_decoded (addr : NativeAddress) : (decoded addr).after session = session := by
  unfold decoded
  split <;> rfl

/-- An address that is read last leaves the session alone. -/
theorem after_bind_decoded (op : SocketM α) (addr : α → NativeAddress) (f : α → Address → β) :
    (op >>= fun a => decoded (addr a) >>= fun sender => pure (f a sender)).after session =
      op.after session :=
  after_bind session fun a between =>
    (after_bind_pure between (decoded (addr a)) (f a)).trans (after_decoded between (addr a))

/-- Whoever looks at the socket leaves the session alone. -/
theorem after_socket_bind (next : Socket → SocketM β) :
    (socket >>= next).after session = (next session.socket).after session := by
  simp only [after, run_bind, run_socket]

/-- Without a slot there is an error, and nothing changes but the last error. -/
theorem run_takeSlot_of_isReached
    (h : session.socket.receiveLimit.isReached session.socket.receiveCount = true) :
    takeSlot session = .error (.failed .later)
      ⟨{ session.socket with lastError := some .later }, session.kernel⟩ := by
  simp [takeSlot, run_fail, h]

/-- The session in which a slot was taken. -/
def slotted : Session :=
  ⟨{ session.socket with receiveCount := min (session.socket.receiveCount + 1) maxReceiveCount },
    session.kernel⟩

/-- Where the limit is not reached, a slot is taken. -/
theorem run_takeSlot_of_not_isReached
    (h : session.socket.receiveLimit.isReached session.socket.receiveCount = false) :
    takeSlot session = .ok () (slotted session) := by
  simp [takeSlot, h, slotted]

/-- With a slot, what follows goes on. -/
theorem after_takeSlot_bind {next : Unit → SocketM β}
    (h : session.socket.receiveLimit.isReached session.socket.receiveCount = false) :
    (takeSlot >>= next).after session = (next ()).after (slotted session) := by
  simp only [after, run_bind, run_takeSlot_of_not_isReached session h]

/-- Receiving a datagram makes one call, whatever becomes of the sender. -/
theorem callsOnce_receiveDatagram (room : Nat) :
    session.CallsOnce (.receiveFrom session.socket.fd room)
      ((receiveDatagram room).after session) := by
  have hattempt := callsOnce_attempt session .recv (.receiveFrom session.socket.fd room)
  rwa [receiveDatagram, after_socket_bind, after_bind_decoded session
    (attempt .recv (.receiveFrom session.socket.fd room)) (·.address)
    fun completion sender => (completion.data, sender)]

end SocketM

namespace Request

open SocketM

variable {request : Request} {session : Session}

/-- **A receive is refused where the limit is reached**: there is no call, and nothing changes but
the last error. -/
theorem run_of_isReached (hreceive : request.isReceive = true)
    (h : session.socket.receiveLimit.isReached session.socket.receiveCount = true) :
    request.run session =
      .error (.failed .later)
        ⟨{ session.socket with lastError := some .later }, session.kernel⟩ := by
  have hslot := run_takeSlot_of_isReached session h
  cases request with
  | receive room => simp only [run, SocketM.receive, run_bind, hslot]
  | receiveFrom room => simp only [run, SocketM.receiveFrom, run_bind, hslot]
  | receiveFromTo room => simp only [run, SocketM.receiveFromTo, run_bind, hslot]
  | _ => simp [isReceive] at hreceive

/-- **Every other receive makes one call and takes one slot**, whatever becomes of the call. -/
theorem callsOnce_run (hreceive : request.isReceive = true)
    (h : session.socket.receiveLimit.isReached session.socket.receiveCount = false) :
    ∃ call : Syscall, call.kind.isReceive = true ∧ call.fd? = some session.socket.fd ∧
      (slotted session).CallsOnce call (SocketM.after request.run session) := by
  cases request with
  | receive room =>
    refine ⟨.receive session.socket.fd room, rfl, rfl, ?_⟩
    rw [run, after_bind_pure, SocketM.receive, after_takeSlot_bind session h, after_socket_bind,
      after_bind_pure]
    exact callsOnce_attempt (slotted session) .recv _
  | receiveFrom room =>
    refine ⟨.receiveFrom session.socket.fd room, rfl, rfl, ?_⟩
    have hrest : SocketM.after (Request.receiveFrom room).run session =
        (SocketM.receiveFrom room).after session :=
      after_bind_pure_pair session (SocketM.receiveFrom room) Value.receivedFrom
    rw [hrest, SocketM.receiveFrom, after_takeSlot_bind session h]
    exact callsOnce_receiveDatagram (slotted session) room
  | receiveFromTo room =>
    rw [run, after_bind_pure, SocketM.receiveFromTo, after_takeSlot_bind session h,
      after_socket_bind]
    -- the sender is read last on both paths
    by_cases hinfo : (slotted session).socket.packetInfo = true
    · refine ⟨.receiveMessage session.socket.fd room, rfl, rfl, ?_⟩
      rw [if_pos hinfo, after_bind_decoded (slotted session)
        (attempt .recv (.receiveMessage (slotted session).socket.fd room)) (·.address)
        fun completion sender =>
          (⟨completion.data, sender, destinationOf completion.control, true⟩ : Datagram)]
      exact callsOnce_attempt (slotted session) .recv _
    · refine ⟨.receiveFrom session.socket.fd room, rfl, rfl, ?_⟩
      rw [if_neg hinfo, after_bind_pure_pair (slotted session) (receiveDatagram room)
        fun data sender => (⟨data, sender, .invalid, false⟩ : Datagram)]
      exact callsOnce_receiveDatagram (slotted session) room
  | _ => simp [isReceive] at hreceive

/-! ## Calls by kind -/

/-- Draining a connection makes one call. -/
theorem exists_call_drainAccept (session : Session) :
    ∃ later result, (SocketM.after Request.drainAccept.run session).kernel.history =
        session.kernel.history ++ later ∧
      callsOf later = [(.accept session.socket.fd, result)] := by
  have hhistory := session.kernel.history_call (.accept session.socket.fd)
  have hafter : SocketM.after Request.drainAccept.run session =
      SocketM.drainAccept.after session :=
    after_bind_pure session SocketM.drainAccept Value.address
  rw [hafter]
  simp only [SocketM.after, SocketM.drainAccept, run_bind, run_acceptConnection]
  rcases hcall : session.kernel.call (.accept session.socket.fd) with
    ⟨code | completion, kernel⟩ <;> rw [hcall] at hhistory
  · exact ⟨_, _, hhistory, rfl⟩
  · dsimp only
    have hclosed : (kernel.close completion.value).history = session.kernel.history ++
        [.called (.accept session.socket.fd) (.ok completion.value), .closed completion.value] :=
      (congrArg (· ++ [Event.closed completion.value]) hhistory).trans (List.append_assoc _ _ _)
    cases Address.ofNative completion.address with
    | error fault => exact ⟨_, _, hclosed, rfl⟩
    | ok peer => exact ⟨_, _, hclosed, rfl⟩

/-- **A request makes calls of its kinds only.** -/
theorem kind_of_call (request : Request) {session : Session} {later : History}
    (hlater : (SocketM.after request.run session).kernel.history = session.kernel.history ++ later)
    {call : Syscall} {result : Except Errno Int} (hmem : (call, result) ∈ callsOf later) :
    call.kind ∈ request.kinds := by
  by_cases hdrain : request = .drainAccept
  · subst hdrain
    obtain ⟨later', result', hlater', hcalls⟩ := exists_call_drainAccept session
    rw [List.append_cancel_left (hlater.symm.trans hlater'), hcalls] at hmem
    obtain ⟨rfl, -⟩ := Prod.mk.inj (List.mem_singleton.1 hmem)
    exact List.mem_singleton_self _
  · obtain ⟨-, hgrows⟩ := request.keeps_run hdrain session rfl
    exact kind_of_mem_callsOf (hgrows.forall_of_eq hlater) hmem

/-- Other requests make no call for a connect. -/
theorem kind_of_isConnecting {request : Request} (h : request.isConnecting = false)
    {kind : CallKind} (hkind : kind ∈ request.kinds) : kind ≠ .connect ∧ kind ≠ .pendingError := by
  cases request with
  | connect addr => simp [isConnecting] at h
  | _ => constructor <;> rintro rfl <;> simp [kinds] at hkind

/-- Other requests make no call that receives. -/
theorem kind_of_isReceive {request : Request} (h : request.isReceive = false) {kind : CallKind}
    (hkind : kind ∈ request.kinds) : kind.isReceive = false := by
  cases request with
  | receive room | receiveFrom room | receiveFromTo room => simp [isReceive] at h
  | _ => cases kind <;> first | rfl | simp [kinds] at hkind

end Request

end SocketLoop
