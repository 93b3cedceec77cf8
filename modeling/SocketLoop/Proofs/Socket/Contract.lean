import SocketLoop.Proofs.Socket.Request
import SocketLoop.Proofs.Socket.Subscription

/-!
# When operations break their contract

Operations must not be made in every state. `Change.Breaks` and `Request.Breaks` say, operation by
operation, what breaks the contract; what is checked in which order, and how deep inside an
operation, is not their business.

* **`Subscription.exists_error_iff`**: a change is refused if and only if it breaks the contract.
* **`Request.exists_refused`**, **`Request.ne_breached`**: a request that breaks the contract ends
  in a breach before anything is done, and one that does not never ends in a breach. Requests that
  read an address which the operating system returned are left out of the second, because such an
  address can be a breach of its own.
-/

namespace SocketLoop

/-! ## Changes of a subscription -/

/-- Some handler is installed, a global one or one for an event. -/
def Handlers.IsInstalled (handlers : Handlers) : Prop :=
  (∃ handler, handlers.global? = some handler) ∨
    ∃ event handler, handlers.get? event = some handler

/-- A change breaks the contract of a subscription. -/
def Change.Breaks {η : Type} (s : Subscription) : Change η → Prop
  | addGlobal _ => s.handlers.IsInstalled
  | removeGlobal => s.handlers.global? = none
  | setGlobal events => s.handlers.global? = none ∨ ¬events.OneRole
  | addHandler event _ => s.handlers.global? ≠ none ∨ s.handlers.get? event ≠ none
  | removeHandler event => s.handlers.get? event = none
  | enable event =>
    s.handlers.get? event = none ∨ event ∈ s.enabled ∨ ¬(s.enabled.insert event).OneRole
  | disable event => s.handlers.get? event = none ∨ event ∉ s.enabled

/-- How handlers are given does not matter for the contract. -/
theorem Change.breaks_map {η κ : Type} (f : η → κ) (s : Subscription) (change : Change η) :
    (change.map f).Breaks s ↔ change.Breaks s := by
  cases change <;> rfl

namespace Subscription

variable {s : Subscription}

/-- A failure stays a failure when its result is used. -/
theorem exists_bind_error_iff {α β : Type} (x : Except Breach α) (f : α → β) :
    (∃ breach, (do return f (← x) : Except Breach β) = .error breach) ↔
      ∃ breach, x = .error breach := by
  cases x <;> simp [bind, Except.bind, pure, Except.pure]

/-- A global handler is refused if and only if there is a handler already. A table for single events
that supports its enabled events has one. -/
theorem exists_installGlobal_error_iff (hs : s.handlers.Supports s.enabled)
    (handler : HandlerRef) :
    (∃ breach, s.handlers.installGlobal handler = .error breach) ↔ s.handlers.IsInstalled := by
  unfold Handlers.installGlobal Handlers.IsInstalled
  cases hhandlers : s.handlers with
  | empty => simp [Handlers.global?, Handlers.get?]
  | global old => simp [Handlers.global?]
  | perEvent handlers =>
    rw [hhandlers] at hs
    obtain ⟨⟨event, hevent⟩, -, -⟩ := hs
    simp only [Except.error.injEq, exists_eq', true_iff]
    exact .inr ⟨event, Option.isSome_iff_exists.1 hevent⟩

/-- A handler for an event is refused if and only if a global handler or another one for the event
is in the way. -/
theorem exists_install_error_iff (handlers : Handlers) (event : SocketEvent)
    (handler : HandlerRef) :
    (∃ breach, handlers.install event handler = .error breach) ↔
      handlers.global? ≠ none ∨ handlers.get? event ≠ none := by
  unfold Handlers.install
  cases handlers with
  | empty => simp [Handlers.global?, Handlers.get?]
  | global old => simp [Handlers.global?]
  | perEvent handlers =>
    cases hget : handlers.get? event <;> simp [Handlers.global?, Handlers.get?, hget]

/-- The handler for an event cannot be removed if and only if there is none. -/
theorem exists_remove_error_iff (handlers : Handlers) (event : SocketEvent) :
    (∃ breach, handlers.remove event = .error breach) ↔ handlers.get? event = none := by
  unfold Handlers.remove
  cases handlers with
  | empty => simp [Handlers.get?]
  | global old => simp [Handlers.get?]
  | perEvent handlers =>
    cases hget : handlers.get? event <;> simp [Handlers.get?, hget]

/-- **A change is refused if and only if it breaks the contract.** -/
theorem exists_error_iff (hs : s.handlers.Supports s.enabled) (change : Change HandlerRef) :
    (∃ breach, s.apply change = .error breach) ↔ change.Breaks s := by
  cases change with
  | addGlobal handler =>
    exact (exists_bind_error_iff _ _).trans (exists_installGlobal_error_iff hs handler)
  | removeGlobal =>
    refine (exists_bind_error_iff _ _).trans ?_
    unfold Handlers.removeGlobal Change.Breaks
    cases s.handlers <;> simp [Handlers.global?]
  | setGlobal events =>
    simp only [apply, setGlobal, Change.Breaks, ← EventSet.isCoherent_iff,
      Option.isNone_iff_eq_none]
    split
    · simp_all
    · split <;> simp_all
  | addHandler event handler =>
    exact (exists_bind_error_iff _ _).trans (exists_install_error_iff _ event handler)
  | removeHandler event => exact (exists_bind_error_iff _ _).trans (exists_remove_error_iff _ event)
  | enable event =>
    simp only [apply, enable, Change.Breaks, ← EventSet.isCoherent_iff, Option.isNone_iff_eq_none]
    split
    · simp_all
    · split
      · simp_all
      · split <;> simp_all
  | disable event =>
    simp only [apply, disable, Change.Breaks, Option.isNone_iff_eq_none]
    split
    · simp_all
    · split <;> simp_all

end Subscription

/-! ## Requests -/

namespace SocketM

variable {α β : Type}

/-- The operation never ends in a breach. -/
def KeepsContract (op : SocketM α) : Prop :=
  ∀ session breach session', op session ≠ .error (.breached breach) session'

theorem keepsContract_pure (a : α) : KeepsContract (pure a) := by
  intro session breach session' h
  simp at h

/-- A sequence keeps the contract if its parts do. -/
theorem keepsContract_bind {op : SocketM α} {next : α → SocketM β} (h : KeepsContract op)
    (hnext : ∀ a, KeepsContract (next a)) : KeepsContract (op >>= next) := by
  intro session breach session' heq
  rw [run_bind] at heq
  cases hop : op session with
  | ok a between =>
    rw [hop] at heq
    exact hnext a between breach session' heq
  | error halt between =>
    rw [hop] at heq
    obtain ⟨rfl, rfl⟩ := EStateM.Result.error.inj heq
    exact h session breach between hop

theorem keepsContract_discard {op : SocketM α} (h : KeepsContract op) :
    KeepsContract (discard op) := by
  intro session breach session' heq
  rw [run_discard] at heq
  cases hop : op session with
  | ok a between => simp [hop] at heq
  | error halt between =>
    rw [hop] at heq
    obtain ⟨rfl, rfl⟩ := EStateM.Result.error.inj heq
    exact h session breach between hop

theorem keepsContract_socket : KeepsContract socket := by
  intro session breach session' h
  simp at h

theorem keepsContract_update (f : Socket → Socket) : KeepsContract (update f) := by
  intro session breach session' h
  simp at h

theorem keepsContract_fail (error : SocketError) : KeepsContract (fail error : SocketM α) := by
  intro session breach session' h
  simp at h

/-- A call that is made and ended is no breach, whatever it reports. -/
theorem keepsContract_attempt (op : Operation) (syscall : Syscall) :
    KeepsContract (attempt op syscall) := by
  intro session breach session' h
  simp only [attempt, run_bind, run_call] at h
  cases hcall : (session.kernel.call syscall).1 <;> simp [hcall] at h

theorem keepsContract_takeSlot : KeepsContract takeSlot := by
  refine keepsContract_bind keepsContract_socket fun s => ?_
  split
  · exact keepsContract_bind (keepsContract_fail _) fun _ => keepsContract_update _
  · exact keepsContract_update _

/-- The layout of an address that is there. -/
theorem native_of_ne_none {addr : Address} (h : addr ≠ .none) :
    ∃ layout, native addr = pure layout := by
  unfold native
  cases addr with
  | none => exact absurd rfl h
  | v4 ip port => exact ⟨_, rfl⟩
  | v6 ip port => exact ⟨_, rfl⟩

/-- What needs an address and has one keeps the contract if the rest does. -/
theorem keepsContract_native {addr : Address} (haddr : addr ≠ .none)
    {next : NativeAddress → SocketM α} (hnext : ∀ layout, KeepsContract (next layout)) :
    KeepsContract (native addr >>= next) := by
  obtain ⟨layout, hlayout⟩ := native_of_ne_none haddr
  rw [hlayout]
  exact keepsContract_bind (keepsContract_pure layout) hnext

/-- An attempt whose completion is used for its value. -/
theorem keepsContract_attempt_pure (op : Operation) (syscall : Syscall)
    (f : Completion → α) : KeepsContract (do return f (← attempt op syscall)) :=
  keepsContract_bind (keepsContract_attempt op syscall) fun _ => keepsContract_pure _

/-- Binding keeps it; whether the reuse of the address is granted does not matter. -/
theorem keepsContract_bindTo {addr : Address} (haddr : addr ≠ .none) :
    KeepsContract (bindTo addr) := by
  refine keepsContract_native haddr fun layout => ?_
  refine keepsContract_bind keepsContract_socket fun s => ?_
  have hbind : KeepsContract (discard <| attempt .bind (.bind s.fd layout)) :=
    keepsContract_discard (keepsContract_attempt _ _)
  split
  · refine keepsContract_bind (keepsContract_discard ?_) fun _ => hbind
    intro session breach session' h
    simp at h
  · exact hbind

theorem keepsContract_sendTo (data : List UInt8) {remote : Address} (hremote : remote ≠ .none) :
    KeepsContract (sendTo data remote) :=
  keepsContract_native hremote fun _ => keepsContract_bind keepsContract_socket fun _ =>
    keepsContract_attempt_pure _ _ _

theorem keepsContract_sendToFrom (data : List UInt8) {remote : Address} (hremote : remote ≠ .none)
    (source : IpAddress) : KeepsContract (sendToFrom data remote source) := by
  refine keepsContract_native hremote fun layout => ?_
  refine keepsContract_bind keepsContract_socket fun s => ?_
  split
  · exact keepsContract_attempt_pure _ _ _
  · exact keepsContract_attempt_pure _ _ _

theorem keepsContract_receive (room : Nat) : KeepsContract (receive room) :=
  keepsContract_bind keepsContract_takeSlot fun _ =>
    keepsContract_bind keepsContract_socket fun _ => keepsContract_attempt_pure _ _ _

end SocketM

namespace Request

/-- Whether a request reads an address that the operating system returned. -/
def readsAddress : Request → Bool
  | drainAccept => true
  | peerAddress => true
  | ownAddress => true
  | receiveFrom _ => true
  | receiveFromTo _ => true
  | _ => false

/-- A request breaks the contract of a socket. -/
def Breaks (s : Socket) : Request → Prop
  | bind addr => addr = .none
  | sendTo _ remote => remote = .none
  | sendToFrom _ remote _ => remote = .none
  | connect addr => addr = .none ∨ s.connect ≠ .idle
  | connectResult => ∀ outcome, s.connect ≠ .resolved outcome
  | _ => False

open SocketM

variable {request : Request} (session : Session)

/-- **A request that breaks the contract is refused**: it ends in a breach before anything is
done. -/
theorem exists_refused (h : request.Breaks session.socket) :
    ∃ breach, request.run session = .error (.breached breach) session := by
  cases request with
  | bind addr =>
    obtain rfl : addr = .none := h
    exact ⟨.addressMissing, rfl⟩
  | sendTo data remote =>
    obtain rfl : remote = .none := h
    exact ⟨.addressMissing, rfl⟩
  | sendToFrom data remote source =>
    obtain rfl : remote = .none := h
    exact ⟨.addressMissing, rfl⟩
  | connect addr =>
    rw [run_connect]
    cases hnative : addr.toNative with
    | none => exact ⟨.addressMissing, rfl⟩
    | some layout =>
      have hbusy : session.socket.connect ≠ .idle := by
        refine h.resolve_left fun hnone => ?_
        rw [hnone] at hnative
        cases hnative
      exact ⟨.connectNotIdle session.socket.connect, if_neg hbusy⟩
  | connectResult =>
    rw [run_connectResult]
    split
    · exact absurd ‹_› (h _)
    · exact absurd ‹_› (h _)
    · exact ⟨_, rfl⟩
  | _ => exact h.elim

/-- **Every other request keeps the contract**: it does not end in a breach. -/
theorem ne_breached (hreads : request.readsAddress = false) (h : ¬request.Breaks session.socket)
    (breach : Breach) (session' : Session) :
    request.run session ≠ .error (.breached breach) session' := by
  have hdone {op : SocketM Unit} (hop : KeepsContract op) :
      (do op; return .done : SocketM Value) session ≠ .error (.breached breach) session' :=
    keepsContract_bind hop (fun _ => keepsContract_pure _) session breach session'
  have hvalue {α : Type} {op : SocketM α} (hop : KeepsContract op) (f : α → Value) :
      (do return f (← op) : SocketM Value) session ≠ .error (.breached breach) session' :=
    keepsContract_bind hop (fun _ => keepsContract_pure _) session breach session'
  cases request with
  | bind addr => exact hdone (keepsContract_bindTo h)
  | listen backlog =>
    exact hdone (keepsContract_bind keepsContract_socket fun _ =>
      keepsContract_discard (keepsContract_attempt _ _))
  | connect addr =>
    rw [run_connect]
    obtain ⟨haddr, hidle⟩ := not_or.1 h
    split
    · rename_i hnone
      cases addr with
      | none => exact absurd rfl haddr
      | v4 ip port => cases hnone
      | v6 ip port => cases hnone
    · rw [if_pos (Decidable.not_not.1 hidle)]
      split
      · simp
      · split <;> simp
  | connectResult =>
    rw [run_connectResult]
    split
    · simp
    · simp
    · rename_i state hnone hsome
      refine absurd (fun outcome heq => ?_) h
      cases outcome with
      | none => exact hnone heq
      | some error => exact hsome error heq
  | send data =>
    exact hvalue (keepsContract_bind keepsContract_socket fun _ =>
      keepsContract_attempt_pure _ _ _) _
  | sendTo data remote => exact hvalue (keepsContract_sendTo data h) _
  | sendToFrom data remote source => exact hvalue (keepsContract_sendToFrom data h source) _
  | receive room => exact hvalue (keepsContract_receive room) _
  | setReceiveLimit limit => exact hdone (keepsContract_update _)
  | _ => simp [readsAddress] at hreads

end Request

end SocketLoop
