import SocketLoop.Proofs.Reactor.Admission
import SocketLoop.Proofs.World.Orderly

/-!
# What deeds do to a polling reactor

* `registrationsOf` are the requests to register in a history, with their results.
* `World.Answers`: between two worlds the reactor changed in one of the ways that there are, and
  what is recorded of requests to register is what was done.
* **`Deed.answers_run`**: this is so of every deed. In particular no deed marks a callback as
  running or takes a mark away.
-/

namespace SocketLoop

/-! ## Requests to register -/

/-- The request to register that an event records, with its result. -/
def Event.registration? : Event → Option (Fd × Except ReactorError Token)
  | .registered fd result => some (fd, result)
  | _ => none

/-- The requests to register in a history, with their results. -/
def registrationsOf (history : History) : List (Fd × Except ReactorError Token) :=
  history.filterMap Event.registration?

/-- Nothing was asked of the table. -/
def Event.AsksNothing (e : Event) : Prop :=
  e.registration? = none

theorem registrationsOf_append (h₁ h₂ : History) :
    registrationsOf (h₁ ++ h₂) = registrationsOf h₁ ++ registrationsOf h₂ :=
  List.filterMap_append

theorem registrationsOf_eq_nil {history : History} (h : ∀ e ∈ history, e.AsksNothing) :
    registrationsOf history = [] :=
  List.filterMap_eq_nil_iff.2 h

/-- A bracket asks nothing. -/
theorem Event.IsBracket.asksNothing {e : Event} (h : e.IsBracket) : e.AsksNothing := by
  cases e with
  | registered _ _ => exact h.elim
  | _ => rfl

/-- A call or a close asks nothing. -/
theorem Event.IsSystem.asksNothing {e : Event} (h : e.IsSystem) : e.AsksNothing := by
  cases e with
  | registered _ _ => exact h.elim
  | _ => rfl

/-! ## Worlds -/

namespace World

variable {limit : Nat} {w w₁ w₂ w' : World}

/-- Between two worlds the reactor changed in one of the ways that there are, and the requests to
register were recorded with their results. -/
def Answers (limit : Nat) (w w' : World) : Prop :=
  ∃ later, w'.kernel.history = w.kernel.history ++ later ∧
    w.reactor.Answers limit (registrationsOf later) w'.reactor

/-- The reactor was left alone and nothing was asked of it. -/
structure LeavesReactor (w w' : World) : Prop where
  reactor : w'.reactor = w.reactor
  history : Grows Event.AsksNothing w.kernel.history w'.kernel.history

namespace LeavesReactor

/-- Nothing happened. -/
theorem refl (w : World) : w.LeavesReactor w :=
  ⟨rfl, Grows.refl _⟩

theorem trans (h : w.LeavesReactor w₁) (h' : w₁.LeavesReactor w₂) : w.LeavesReactor w₂ :=
  ⟨h'.reactor.trans h.reactor, h.history.trans h'.history⟩

/-- A reactor that is left alone changes in the first of the ways. -/
theorem answers (h : w.LeavesReactor w') : w.Answers limit w' := by
  obtain ⟨later, hlater, hnothing⟩ := h.history
  refine ⟨later, hlater, ?_⟩
  rw [registrationsOf_eq_nil hnothing, h.reactor]
  exact .untouched

end LeavesReactor

/-- It does not matter what happens before and after as long as the reactor is left alone. -/
theorem Answers.around (h : w₁.Answers limit w₂) (hbefore : w.LeavesReactor w₁)
    (hafter : w₂.LeavesReactor w') : w.Answers limit w' := by
  obtain ⟨middle, hmiddle, hanswers⟩ := h
  obtain ⟨later, hlater, hrequests⟩ :=
    Grows.around Event.registration? hbefore.history hmiddle hafter.history
  refine ⟨later, hlater, ?_⟩
  rw [registrationsOf, hrequests, hafter.reactor, ← hbefore.reactor]
  exact hanswers

/-! ### Parts that leave the reactor alone -/

/-- A call. -/
theorem leavesReactor_call (w : World) (syscall : Syscall) :
    w.LeavesReactor (w.call syscall).2 :=
  ⟨rfl, _, w.history_call syscall, by simp [Event.AsksNothing, Event.registration?]⟩

/-- A close. -/
theorem leavesReactor_close (w : World) (fd : Fd) : w.LeavesReactor (w.close fd) :=
  ⟨rfl, Grows.single _ rfl⟩

/-- Asking for packet information. -/
theorem leavesReactor_enablePacketInfo (w : World) (fd : Fd) (family : AddressFamily)
    (cls : SocketClass) (config : SocketConfig) :
    w.LeavesReactor (w.enablePacketInfo fd family cls config).2 := by
  unfold enablePacketInfo
  split
  · have hcall := leavesReactor_call w (.enableOption fd (.packetInfo family))
    split <;> rename_i heq <;> rw [heq] at hcall <;> exact hcall
  · exact .refl w

/-- A socket that is put back, with the calls and closes that were made for it. -/
theorem leavesReactor_restore {session : Session} {later : History}
    (hhistory : session.kernel.history = w.kernel.history ++ later)
    (hsystem : ∀ e ∈ later, e.IsSystem) : w.LeavesReactor (w.restore session) :=
  ⟨rfl, later, hhistory, fun e he => (hsystem e he).asksNothing⟩

/-- A wait. -/
theorem leavesReactor_wait (w : World) (timeout : Option Duration) :
    w.LeavesReactor (w.wait timeout).2 := by
  unfold wait
  dsimp only
  split
  · exact .refl w
  · have hcall := leavesReactor_call w
      (.poll (w.reactor.watched.map fun row => Reactor.waitEntry row.2) (waitTimeout timeout))
    split <;> rename_i heq <;> rw [heq] at hcall
    · exact hcall
    · split <;> exact hcall

/-- Readiness that is delivered. -/
theorem leavesReactor_deliver (w : World) (id : SocketId) (ready : Readiness) :
    w.LeavesReactor (w.deliver id ready).2 := by
  unfold deliver
  split
  · exact .refl w
  split
  · exact .refl w
  rename_i s _
  dsimp only
  split
  · obtain ⟨later, hlater, hcalls⟩ :=
      (Session.keeps_settleConnect ⟨{ s with receiveCount := 0 }, w.kernel⟩).calls
    have hrestore := leavesReactor_restore (w := w) hlater fun e he =>
      isSystem_of_among (hcalls e he)
    split <;> rename_i heq <;> rw [heq] at hrestore <;> exact hrestore
  · exact ⟨rfl, Grows.refl _⟩

/-! ### Registrations -/

/-- A request to register is recorded, and it is admitted or refused by the table. -/
theorem admits_register (hkind : w.reactor.kind = .polling limit) (fd : Fd) (callback : Callback) :
    w.reactor.Admits limit fd callback (w.register fd callback).1
        (w.register fd callback).2.reactor ∧
      (w.register fd callback).2.kernel.history =
        w.kernel.history ++ [.registered fd (w.register fd callback).1] := by
  simp only [register, refuses, hkind, Reactor.refusal?]
  by_cases hfull : limit ≤ w.reactor.table.size
  · simp only [hfull, ↓reduceIte]
    exact ⟨.full hfull, rfl⟩
  have hroom := Nat.lt_of_not_le hfull
  by_cases htaken : w.reactor.hasFd fd = true
  · simp only [hfull, htaken, ↓reduceIte]
    exact ⟨.taken hroom ((w.reactor.hasFd_iff fd).1 htaken), rfl⟩
  · simp only [hfull, htaken, ↓reduceIte]
    exact ⟨.added hroom (mt (w.reactor.hasFd_iff fd).2 htaken), rfl⟩

/-- The embedder registers a descriptor. -/
theorem answers_register (hkind : w.reactor.kind = .polling limit) (fd : Fd)
    (callback : Callback) : w.Answers limit (w.register fd callback).2 := by
  obtain ⟨hadmits, hhistory⟩ := admits_register hkind fd callback
  exact ⟨_, hhistory, .asked hadmits⟩

/-- The interest of a registration is set. -/
theorem answers_setInterest (w : World) (token : Token) (interest : Readiness) :
    w.Answers limit (w.setInterest token interest) :=
  ⟨[.interestSet token interest], rfl, .set⟩

/-- A socket is registered without an interest, or it is refused. -/
theorem answers_adopt (hkind : w.reactor.kind = .polling limit)
    (hfresh : w.reactor.table.get? w.reactor.nextToken = none) (origin : Origin) :
    w.Answers limit ((adopt origin).after w) := by
  unfold adopt WorldM.after
  rcases hregister : World.register { w with registry := w.registry.allocate } origin.fd
    (.socket w.registry.nextId) with ⟨error | token, w₁⟩
  all_goals
    have hasked := admits_register (w := { w with registry := w.registry.allocate }) hkind
      origin.fd (.socket w.registry.nextId)
    rw [hregister] at hasked
    obtain ⟨hadmits, hhistory⟩ := hasked
    simp only [hregister]
  · refine ⟨[.registered origin.fd (.error error), .closed origin.fd], ?_, .asked hadmits⟩
    exact (congrArg (· ++ [Event.closed origin.fd]) hhistory).trans (List.append_assoc _ _ _)
  · refine ⟨[.registered origin.fd (.ok token), .interestSet token ∅], ?_, ?_⟩
    · exact (congrArg (· ++ [Event.interestSet token ∅]) hhistory).trans (List.append_assoc _ _ _)
    · have hsame := hadmits.setInterest_eq_self hfresh
      rw [← hsame] at hadmits
      exact .asked hadmits

/-- A socket is opened. -/
theorem answers_openSocket (hw : w.Orderly) (hkind : w.reactor.kind = .polling limit)
    (family : AddressFamily) (cls : SocketClass) (config : SocketConfig) :
    w.Answers limit ((openSocket family cls config).after w) := by
  refine openSocket_rule w (A := w.LeavesReactor) (.refl w) ?_ (fun _ h => h.answers) ?_ ?_
  · exact fun w' syscall _ h => h.trans (leavesReactor_call w' syscall)
  · exact fun w' fd h => (h.trans (leavesReactor_close w' fd)).answers
  · intro w' fd h
    have hinfo := h.trans (leavesReactor_enablePacketInfo w' fd family cls config)
    have hadopted := answers_adopt (hinfo.reactor ▸ hkind) (hinfo.reactor ▸ hw.row_nextToken)
      ⟨fd, family, cls, config, (w'.enablePacketInfo fd family cls config).1⟩
    exact hadopted.around hinfo (.refl _)

/-- A connection is accepted. -/
theorem answers_accept (hw : w.Orderly) (hkind : w.reactor.kind = .polling limit)
    (listener : Socket) : w.Answers limit ((accept listener).after w) := by
  have hrestore {session : Session} {fd? : Option Fd}
      (h : Session.Accepts ⟨listener, w.kernel⟩ session fd?) :
      w.LeavesReactor (w.restore session) := by
    obtain ⟨later, hserves, -⟩ := h.serves
    exact leavesReactor_restore hserves.history hserves.system
  refine accept_rule w (fun _ h => (hrestore h).answers) (fun session fd h => ?_) fun w' h => ?_
  · have hadopted := answers_adopt (w := w.restore session) hkind hw.row_nextToken
      ⟨fd, listener.family, listener.cls, listener.config, false⟩
    exact hadopted.around (hrestore h) (.refl _)
  · exact h.around (.refl w) ⟨rfl, Grows.refl _⟩

/-- A subscription changes, and the reactor is told of it or not. -/
theorem answers_subscribe (w : World) (s : Socket) (change : Change HandlerRef) :
    w.Answers limit ((subscribe s change).after w) := by
  refine subscribe_rule w (LeavesReactor.refl w).answers (fun subscription _ _ => ?_)
    fun subscription _ _ => ?_
  · exact LeavesReactor.answers ⟨rfl, Grows.refl _⟩
  · exact answers_setInterest w s.token subscription.enabled.interest

/-- A socket is freed. -/
theorem answers_free (w : World) (s : Socket) : w.Answers limit (w.free s) :=
  ⟨[.deregistered s.token, .closed s.fd], List.append_assoc _ _ _, .removed⟩

end World

/-! ## Deeds -/

/-- **What a deed does to the reactor** is one of the ways that there are. -/
theorem Deed.answers_run {limit : Nat} {w : World} (hw : w.Orderly)
    (hkind : w.reactor.kind = .polling limit) (deed : Deed) : w.Answers limit (deed.run w) := by
  cases deed with
  | nothing => exact (World.LeavesReactor.refl w).answers
  | openSocket family cls config => exact World.answers_openSocket hw hkind family cls config
  | accept listener => exact World.answers_accept hw hkind listener
  | request s request =>
    obtain ⟨later, hserves⟩ := request.serves_run ⟨s, w.kernel⟩
    rw [run, World.after_perform]
    exact (World.leavesReactor_restore hserves.history hserves.system).answers
  | change s change => exact World.answers_subscribe w s change
  | free s => exact World.answers_free w s
  | addDescriptor fd handler => exact World.answers_register hkind fd (.direct handler)
  | setDescriptor token interest => exact World.answers_setInterest w token interest
  | removeDescriptor token => exact ⟨[.deregistered token], rfl, .removed⟩
  | wait timeout => exact (World.leavesReactor_wait w timeout).answers
  | deliver id ready => exact (World.leavesReactor_deliver w id ready).answers

end SocketLoop
