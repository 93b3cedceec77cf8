import SocketLoop.Proofs.Socket.PacketInfo
import SocketLoop.Proofs.Socket.Renaming

/-!
# Operations in two sessions

An operation sees nothing but its socket and the answers to its calls. So if it is carried out
twice, on the same socket and with the same answers, it does the same twice: it ends alike, leaves
the same socket and records the same. The two sessions may differ in all else, and even in how the
handlers of the socket are named.

* `Session.Agrees` says that two sessions have the same socket, and that calls of some kinds are
  answered alike.
* `SocketM.Uniform` is a triple about two runs of one operation. Each call takes an answer, so that
  after it nothing is known of further calls of its kind.
* **`Request.uniform_run`**: all requests do the same twice.
-/

namespace SocketLoop

/-! ## Two systems -/

/-- What is recorded from one history to another, and from a third one to a fourth, is the same. -/
def History.GrowAlike (h₁ h₂ h₁' h₂' : History) : Prop :=
  ∃ later, h₂ = h₁ ++ later ∧ h₂' = h₁' ++ later

namespace History.GrowAlike

variable {h₁ h₂ h₃ h₁' h₂' h₃' : History}

/-- Nothing is recorded. -/
theorem refl (h h' : History) : GrowAlike h h h' h' :=
  ⟨[], (List.append_nil h).symm, (List.append_nil h').symm⟩

/-- What is the same step by step is the same. -/
theorem trans (h : GrowAlike h₁ h₂ h₁' h₂') (h' : GrowAlike h₂ h₃ h₂' h₃') :
    GrowAlike h₁ h₃ h₁' h₃' := by
  obtain ⟨later, rfl, rfl⟩ := h
  obtain ⟨last, rfl, rfl⟩ := h'
  exact ⟨later ++ last, List.append_assoc .., List.append_assoc ..⟩

end History.GrowAlike

open History (GrowAlike)

/-- Two systems answer calls of some kinds alike. -/
def Kernel.Agrees (kinds : List CallKind) (kernel kernel' : Kernel) : Prop :=
  ∀ call : Syscall, call.kind ∈ kinds → (kernel'.call call).1 = (kernel.call call).1

namespace Kernel

variable {kinds later : List CallKind} {kernel kernel' : Kernel} {call call' : Syscall}

/-- The result of a call depends on the answers to come and on the next descriptor. -/
theorem result_congr (kernel kernel' : Kernel) (hscript : kernel'.script = kernel.script)
    (hnextFd : kernel'.nextFd = kernel.nextFd) (call : Syscall) :
    (kernel'.call call).1 = (kernel.call call).1 := by
  rw [SocketM.result_call, SocketM.result_call, hscript, hnextFd]

/-- Systems whose next answers are the same answer alike, unless they are asked for a descriptor. -/
theorem agrees_of_next (hnext : ∀ kind ∈ kinds,
      (kernel'.script.next kind).1 = (kernel.script.next kind).1)
    (hsocket : .socket ∉ kinds) (haccept : .accept ∉ kinds) : kernel.Agrees kinds kernel' := by
  intro call hkind
  rw [SocketM.result_call, SocketM.result_call, hnext call.kind hkind]
  cases (kernel.script.next call.kind).1 with
  | failure code => rfl
  | success delivery =>
    cases call with
    | socket family cls => exact absurd hkind hsocket
    | accept fd => exact absurd hkind haccept
    | _ => rfl

/-- A call takes no answer of another kind. -/
theorem next_call (kernel : Kernel) (hkind : call'.kind ≠ call.kind) :
    ((kernel.call call).2.script.next call'.kind).1 = (kernel.script.next call'.kind).1 := by
  have hnext : ((kernel.script.next call.kind).2.next call'.kind).1 =
      (kernel.script.next call'.kind).1 := by
    unfold Script.next
    cases kernel.script.answers call.kind with
    | nil => rfl
    | cons answer answers =>
      simp only [if_neg hkind]
      cases kernel.script.answers call'.kind <;> rfl
  unfold Kernel.call
  split <;> rename_i heq <;> rw [heq] at hnext <;> exact hnext

/-- A call that takes no descriptor changes nothing for calls of other kinds. -/
theorem result_call_call (kernel : Kernel) (hkind : call'.kind ≠ call.kind)
    (hfd : ∀ delivery, call.usesNextFd delivery = false) :
    ((kernel.call call).2.call call').1 = (kernel.call call').1 := by
  have hnextFd : (kernel.call call).2.nextFd = kernel.nextFd := by
    unfold Kernel.call
    split
    · rfl
    · simp [Kernel.record, hfd]
  rw [SocketM.result_call, SocketM.result_call, next_call kernel hkind, hnextFd]

/-- After a call the systems still agree on other kinds, if it took no descriptor. -/
theorem Agrees.after_call (h : kernel.Agrees kinds kernel') (hlater : ∀ kind ∈ later,
      kind ∈ kinds ∧ kind ≠ call.kind ∧ ∀ delivery, call.usesNextFd delivery = false) :
    (kernel.call call).2.Agrees later (kernel'.call call).2 := by
  intro call' hcall'
  obtain ⟨hkind, hne, hfd⟩ := hlater call'.kind hcall'
  rw [kernel.result_call_call hne hfd, kernel'.result_call_call hne hfd]
  exact h call' hkind

/-- The same call with the same result is recorded alike. -/
theorem growAlike_call (h : (kernel'.call call).1 = (kernel.call call).1) :
    GrowAlike kernel.history (kernel.call call).2.history
      kernel'.history (kernel'.call call).2.history := by
  rw [history_call, history_call, h]
  exact ⟨_, rfl, rfl⟩

end Kernel

/-! ## Two sessions -/

/-- Two sessions have the same socket, up to the names of handlers, and calls of some kinds are
answered alike in them. -/
structure Session.Agrees (f : HandlerRef → HandlerRef) (kinds : List CallKind) (a b : Session) :
    Prop where
  socket : b.socket = a.socket.rename f
  kernel : a.kernel.Agrees kinds b.kernel

/-- Two sessions went on to the same socket, and the same was recorded. -/
structure Session.MovesAs (f : HandlerRef → HandlerRef) (a a' b b' : Session) : Prop where
  socket : b'.socket = a'.socket.rename f
  history : GrowAlike a.kernel.history a'.kernel.history b.kernel.history b'.kernel.history

/-- In two sessions an operation came to the same end: it returned the same value, and calls of some
kinds are still answered alike, or it stopped for the same reason. -/
inductive Session.EndsAs {α : Type} (f : HandlerRef → HandlerRef) (kinds : List CallKind)
    (a b : Session) : EStateM.Result Halt Session α → EStateM.Result Halt Session α → Prop
  | returned {x : α} {a' b' : Session} (moves : Session.MovesAs f a a' b b')
      (kernel : a'.kernel.Agrees kinds b'.kernel) : EndsAs f kinds a b (.ok x a') (.ok x b')
  | halted {halt : Halt} {a' b' : Session} (moves : Session.MovesAs f a a' b b') :
      EndsAs f kinds a b (.error halt a') (.error halt b')

/-- Two sessions move alike if they move alike step by step. -/
theorem Session.MovesAs.trans {f : HandlerRef → HandlerRef} {a₁ a₂ a₃ b₁ b₂ b₃ : Session}
    (h : MovesAs f a₁ a₂ b₁ b₂) (h' : MovesAs f a₂ a₃ b₂ b₃) : MovesAs f a₁ a₃ b₁ b₃ :=
  ⟨h'.socket, h.history.trans h'.history⟩

/-- Two sessions with the same socket did not move. -/
theorem Session.Agrees.stays {f : HandlerRef → HandlerRef} {kinds : List CallKind} {a b : Session}
    (h : a.Agrees f kinds b) : MovesAs f a a b b :=
  ⟨h.socket, GrowAlike.refl _ _⟩

namespace SocketM

variable {α β : Type} {f : HandlerRef → HandlerRef} {before middle after : List CallKind}

/-- In two sessions that agree on calls of the first kinds, the operation comes to the same end, and
after it they agree on calls of the second kinds. -/
def Uniform (f : HandlerRef → HandlerRef) (before after : List CallKind) (op : SocketM α) : Prop :=
  ∀ a b : Session, a.Agrees f before b → Session.EndsAs f after a b (op a) (op b)

/-- A sequence does the same twice if its parts do. -/
theorem uniform_bind {op : SocketM α} {next : α → SocketM β} (h : Uniform f before middle op)
    (hnext : ∀ x, Uniform f middle after (next x)) : Uniform f before after (op >>= next) := by
  intro a b hagrees
  have hop := h a b hagrees
  rw [run_bind, run_bind]
  generalize op a = ended, op b = ended' at hop
  cases hop with
  | halted moves => exact .halted moves
  | @returned x a' b' moves kernel =>
    have hthen := hnext x a' b' ⟨moves.socket, kernel⟩
    dsimp only
    generalize next x a' = ended, next x b' = ended' at hthen
    cases hthen with
    | returned moves' kernel' => exact .returned (moves.trans moves') kernel'
    | halted moves' => exact .halted (moves.trans moves')

theorem uniform_discard {op : SocketM α} (h : Uniform f before after op) :
    Uniform f before after (discard op) := by
  intro a b hagrees
  have hop := h a b hagrees
  rw [run_discard, run_discard]
  generalize op a = ended, op b = ended' at hop
  cases hop with
  | returned moves kernel => exact .returned moves kernel
  | halted moves => exact .halted moves

theorem uniform_pure (x : α) : Uniform f before before (pure x) :=
  fun _ _ hagrees => .returned hagrees.stays hagrees.kernel

theorem uniform_throw (halt : Halt) : Uniform f before after (throw halt : SocketM α) :=
  fun _ _ hagrees => .halted hagrees.stays

theorem uniform_breach (breach : Breach) :
    Uniform f before after (SocketM.breach breach : SocketM α) :=
  uniform_throw _

/-- Whoever looks at the socket must not look at the names of its handlers. -/
theorem uniform_socket {next : Socket → SocketM β} (hrename : ∀ s, next (s.rename f) = next s)
    (hnext : ∀ s, Uniform f before after (next s)) : Uniform f before after (socket >>= next) := by
  intro a b hagrees
  have hthen := hnext a.socket a b hagrees
  simpa only [run_bind, run_socket, hagrees.socket, hrename] using hthen

/-- Neither must whoever changes it. -/
theorem uniform_update {g : Socket → Socket} (hrename : ∀ s, g (s.rename f) = (g s).rename f) :
    Uniform f before before (update g) := by
  intro a b hagrees
  rw [run_update, run_update, hagrees.socket, hrename]
  exact .returned ⟨rfl, GrowAlike.refl _ _⟩ hagrees.kernel

theorem uniform_fail (error : SocketError) :
    Uniform f before after (fail error : SocketM α) :=
  uniform_bind (uniform_update fun _ => rfl) fun _ => uniform_throw _

theorem uniform_call {syscall : Syscall} (hkind : syscall.kind ∈ before)
    (hlater : ∀ kind ∈ after, kind ∈ before ∧ kind ≠ syscall.kind ∧
      ∀ delivery, syscall.usesNextFd delivery = false) :
    Uniform f before after (call syscall) := by
  intro a b hagrees
  have hresult := hagrees.kernel syscall hkind
  rw [run_call, run_call, hresult]
  exact .returned ⟨hagrees.socket, Kernel.growAlike_call hresult⟩ (hagrees.kernel.after_call hlater)

theorem uniform_close (fd : Fd) : Uniform f [] [] (close fd) :=
  fun _ _ hagrees => .returned ⟨hagrees.socket, ⟨_, rfl, rfl⟩⟩ fun _ hkind => nomatch hkind

theorem uniform_complete (op : Operation) (result : Except Errno Completion) :
    Uniform f before before (complete op result) := by
  cases result with
  | ok completion => exact uniform_bind (uniform_update fun _ => rfl) fun _ => uniform_pure _
  | error code => exact uniform_socket (fun _ => rfl) fun _ => uniform_fail _

/-- After its last call an operation need not know of others. -/
theorem uniform_attempt (op : Operation) {syscall : Syscall} (hkind : syscall.kind ∈ before) :
    Uniform f before [] (attempt op syscall) :=
  uniform_bind (uniform_call hkind (List.forall_mem_nil _)) fun _ => uniform_complete op _

/-- What comes first under some condition. -/
theorem uniform_guarded {p : Prop} [Decidable p] {op : SocketM PUnit} {next : PUnit → SocketM β}
    (h : Uniform f before before op) (hnext : ∀ u, Uniform f before after (next u)) :
    Uniform f before after (if p then op >>= next else next ⟨⟩) := by
  split
  · exact uniform_bind h hnext
  · exact hnext ⟨⟩

theorem uniform_native (addr : Address) : Uniform f before before (native addr) := by
  unfold native
  split
  · exact uniform_pure _
  · exact uniform_breach _

theorem uniform_decoded (addr : NativeAddress) : Uniform f before before (decoded addr) := by
  unfold decoded
  split
  · exact uniform_pure _
  · exact uniform_breach _

theorem uniform_takeSlot : Uniform f before before takeSlot :=
  uniform_socket (fun _ => rfl) fun _ =>
    uniform_guarded (uniform_fail _) fun _ => uniform_update fun _ => rfl

/-! ## The operations -/

theorem uniform_bindTo (addr : Address) : Uniform f [.enableOption, .bind] [] (bindTo addr) := by
  refine uniform_bind (uniform_native addr) fun native =>
    uniform_socket (fun _ => rfl) fun s => ?_
  split
  · -- asking for reuse takes no answer away from the bind
    have hreuse : Uniform f [.enableOption, .bind] [.bind]
        (discard <| call (.enableOption s.fd .reuseAddress)) := by
      refine uniform_discard (uniform_call (by simp [Syscall.kind]) fun kind hkind => ?_)
      obtain rfl := List.mem_singleton.1 hkind
      exact ⟨by decide, by simp [Syscall.kind], fun _ => rfl⟩
    exact uniform_bind hreuse fun _ => uniform_discard (uniform_attempt _ (by simp [Syscall.kind]))
  · exact uniform_discard (uniform_attempt _ (by simp [Syscall.kind]))

theorem uniform_listen (backlog : Int) : Uniform f [.listen] [] (listen backlog) :=
  uniform_socket (fun _ => rfl) fun _ =>
    uniform_discard (uniform_attempt _ (by simp [Syscall.kind]))

theorem uniform_connect (addr : Address) : Uniform f [.connect] [] (connect addr) := by
  refine uniform_bind (uniform_native addr) fun native =>
    uniform_socket (fun _ => rfl) fun s => uniform_guarded (uniform_breach _) fun _ => ?_
  have hcall : Uniform f [.connect] [] (call (.connect s.fd native)) :=
    uniform_call (by simp [Syscall.kind]) (List.forall_mem_nil _)
  refine uniform_bind hcall fun result => ?_
  cases result with
  | ok completion => exact uniform_discard (uniform_complete _ _)
  | error code =>
    exact uniform_guarded (uniform_update fun _ => rfl) fun _ =>
      uniform_discard (uniform_complete _ _)

theorem uniform_connectResult : Uniform f [] [] connectResult := by
  refine uniform_socket (fun _ => rfl) fun s => ?_
  split
  · refine uniform_bind (uniform_update fun _ => rfl) fun _ => ?_
    split
    · exact uniform_pure _
    · exact uniform_throw _
  · exact uniform_breach _

theorem uniform_acceptConnection : Uniform f [.accept] [] acceptConnection := by
  refine uniform_socket (fun _ => rfl) fun _ =>
    uniform_bind (uniform_attempt _ (by simp [Syscall.kind])) fun _ => ?_
  split
  · exact uniform_pure _
  · exact uniform_bind (uniform_close _) fun _ => uniform_breach _

theorem uniform_drainAccept : Uniform f [.accept] [] drainAccept :=
  uniform_bind uniform_acceptConnection fun _ =>
    uniform_bind (uniform_close _) fun _ => uniform_pure _

theorem uniform_peerAddress : Uniform f [.peerName] [] peerAddress :=
  uniform_socket (fun _ => rfl) fun _ =>
    uniform_bind (uniform_attempt _ (by simp [Syscall.kind])) fun _ => uniform_decoded _

theorem uniform_ownAddress : Uniform f [.ownName] [] ownAddress :=
  uniform_socket (fun _ => rfl) fun _ =>
    uniform_bind (uniform_attempt _ (by simp [Syscall.kind])) fun _ => uniform_decoded _

theorem uniform_send (data : List UInt8) : Uniform f [.send] [] (send data) :=
  uniform_socket (fun _ => rfl) fun _ =>
    uniform_bind (uniform_attempt _ (by simp [Syscall.kind])) fun _ => uniform_pure _

theorem uniform_sendTo (data : List UInt8) (remote : Address) :
    Uniform f [.sendTo] [] (sendTo data remote) :=
  uniform_bind (uniform_native remote) fun _ => uniform_socket (fun _ => rfl) fun _ =>
    uniform_bind (uniform_attempt _ (by simp [Syscall.kind])) fun _ => uniform_pure _

theorem uniform_sendToFrom (data : List UInt8) (remote : Address) (source : IpAddress) :
    Uniform f [.sendMessage, .sendTo] [] (sendToFrom data remote source) := by
  refine uniform_bind (uniform_native remote) fun _ => uniform_socket (fun _ => rfl) fun s => ?_
  split
  · exact uniform_bind (uniform_attempt _ (by simp [Syscall.kind])) fun _ => uniform_pure _
  · exact uniform_bind (uniform_attempt _ (by simp [Syscall.kind])) fun _ => uniform_pure _

theorem uniform_receive (room : Nat) : Uniform f [.receive] [] (receive room) :=
  uniform_bind uniform_takeSlot fun _ => uniform_socket (fun _ => rfl) fun _ =>
    uniform_bind (uniform_attempt _ (by simp [Syscall.kind])) fun _ => uniform_pure _

theorem uniform_receiveDatagram (room : Nat) (hkind : .receiveFrom ∈ before) :
    Uniform f before [] (receiveDatagram room) :=
  uniform_socket (fun _ => rfl) fun _ => uniform_bind (uniform_attempt _ hkind) fun _ =>
    uniform_bind (uniform_decoded _) fun _ => uniform_pure _

theorem uniform_receiveFrom (room : Nat) : Uniform f [.receiveFrom] [] (receiveFrom room) :=
  uniform_bind uniform_takeSlot fun _ => uniform_receiveDatagram room (by decide)

theorem uniform_receiveFromTo (room : Nat) :
    Uniform f [.receiveMessage, .receiveFrom] [] (receiveFromTo room) := by
  refine uniform_bind uniform_takeSlot fun _ => uniform_socket (fun _ => rfl) fun s => ?_
  split
  · exact uniform_bind (uniform_attempt _ (by simp [Syscall.kind])) fun _ =>
      uniform_bind (uniform_decoded _) fun _ => uniform_pure _
  · exact uniform_bind (uniform_receiveDatagram room (by decide)) fun _ => uniform_pure _

end SocketM

/-- **A request does the same twice**, if the calls of its kinds are answered alike. -/
theorem Request.uniform_run (f : HandlerRef → HandlerRef) (request : Request) :
    SocketM.Uniform f request.kinds [] request.run := by
  open SocketM in
  cases request with
  | bind addr => exact uniform_bind (uniform_bindTo addr) fun _ => uniform_pure _
  | listen backlog => exact uniform_bind (uniform_listen backlog) fun _ => uniform_pure _
  | connect addr => exact uniform_bind (uniform_connect addr) fun _ => uniform_pure _
  | connectResult => exact uniform_bind uniform_connectResult fun _ => uniform_pure _
  | drainAccept => exact uniform_bind uniform_drainAccept fun _ => uniform_pure _
  | peerAddress => exact uniform_bind uniform_peerAddress fun _ => uniform_pure _
  | ownAddress => exact uniform_bind uniform_ownAddress fun _ => uniform_pure _
  | send data => exact uniform_bind (uniform_send data) fun _ => uniform_pure _
  | sendTo data remote => exact uniform_bind (uniform_sendTo data remote) fun _ => uniform_pure _
  | sendToFrom data remote source =>
    exact uniform_bind (uniform_sendToFrom data remote source) fun _ => uniform_pure _
  | receive room => exact uniform_bind (uniform_receive room) fun _ => uniform_pure _
  | receiveFrom room => exact uniform_bind (uniform_receiveFrom room) fun _ => uniform_pure _
  | receiveFromTo room => exact uniform_bind (uniform_receiveFromTo room) fun _ => uniform_pure _
  | setReceiveLimit limit =>
    exact uniform_bind (uniform_update fun _ => rfl) fun _ => uniform_pure _

/-! ## Settling a connect -/

/-- A connect is settled alike, if the pending error is the same. -/
theorem Session.settleConnect_uniform {f : HandlerRef → HandlerRef} {a b : Session}
    (h : a.Agrees f [.pendingError] b) :
    b.settleConnect.1 = a.settleConnect.1 ∧
      MovesAs f a a.settleConnect.2 b b.settleConnect.2 := by
  obtain ⟨s, kernel⟩ := a
  obtain ⟨t, kernel'⟩ := b
  obtain rfl : t = s.rename f := h.socket
  have hresult := h.kernel (.pendingError s.fd) (by simp [Syscall.kind])
  have hgrows := Kernel.growAlike_call hresult
  have hconnect : (s.rename f).connect = s.connect := rfl
  simp only [settleConnect, hconnect]
  cases s.connect with
  | idle => exact ⟨rfl, h.stays⟩
  | resolved outcome => exact ⟨rfl, h.stays⟩
  | pending =>
    have hfd : (s.rename f).fd = s.fd := rfl
    dsimp only
    rw [hfd]
    generalize kernel.call (.pendingError s.fd) = called at hresult hgrows
    generalize kernel'.call (.pendingError s.fd) = called' at hresult hgrows
    obtain ⟨result, after⟩ := called
    obtain ⟨result', after'⟩ := called'
    obtain rfl : result' = result := hresult
    cases result' with
    | error code => exact ⟨rfl, rfl, hgrows⟩
    | ok completion => exact ⟨rfl, rfl, hgrows⟩

end SocketLoop
