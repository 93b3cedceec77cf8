import SocketLoop.Proofs.Run.Quiet

/-!
# Whom a call is made for

A call, a close and a registration name a descriptor, and a change of a registration names a token.
`CallsWith fds` says of some events that every descriptor they name is one of `fds` or was handed
out by an event among them before: whoever makes these calls needs no other descriptor.
-/

namespace SocketLoop

/-- The descriptor that a call is made with. A wait is made with none. -/
def Syscall.fd? : Syscall → Option Fd
  | .socket .. => none
  | .setNonblocking fd => some fd
  | .enableOption fd _ => some fd
  | .pendingError fd => some fd
  | .bind fd _ => some fd
  | .connect fd _ => some fd
  | .listen fd _ => some fd
  | .accept fd => some fd
  | .peerName fd => some fd
  | .ownName fd => some fd
  | .send fd _ _ => some fd
  | .sendTo fd _ _ _ => some fd
  | .sendMessage fd _ _ _ _ => some fd
  | .receive fd _ => some fd
  | .receiveFrom fd _ => some fd
  | .receiveMessage fd _ => some fd
  | .poll .. => none

namespace Event

/-- The descriptor that an event names. -/
def fd? : Event → Option Fd
  | .called call _ => call.fd?
  | .closed fd => some fd
  | .registered fd _ => some fd
  | _ => none

/-- The registration that an event changes. -/
def token? : Event → Option Token
  | .interestSet token _ => some token
  | .deregistered token => some token
  | _ => none

/-- The descriptor that an event hands out. -/
def handsOut? : Event → Option Fd
  | .called (.socket ..) (.ok fd) => some fd
  | .called (.accept _) (.ok fd) => some fd
  | _ => none

/-- A bracket names no descriptor. -/
theorem IsBracket.fd?_eq_none {e : Event} (h : e.IsBracket) : e.fd? = none := by
  cases e with
  | called _ _ | closed _ | registered _ _ => exact h.elim
  | _ => rfl

/-- A bracket changes no registration. -/
theorem IsBracket.token?_eq_none {e : Event} (h : e.IsBracket) : e.token? = none := by
  cases e with
  | interestSet _ _ | deregistered _ => exact h.elim
  | _ => rfl

end Event

/-- Every event names one of these descriptors or one that was handed out before. -/
def CallsWith (fds : List Fd) : History → Prop
  | [] => True
  | e :: later => (∀ fd, e.fd? = some fd → fd ∈ fds) ∧ CallsWith (e.handsOut?.toList ++ fds) later

namespace CallsWith

variable {fds fds' : List Fd} {h₁ h₂ : History}

/-- More descriptors allow more calls. -/
theorem mono (h : CallsWith fds h₁) (hsub : ∀ fd ∈ fds, fd ∈ fds') : CallsWith fds' h₁ := by
  induction h₁ generalizing fds fds' with
  | nil => trivial
  | cons e later ih =>
    refine ⟨fun fd hfd => hsub fd (h.1 fd hfd), ih h.2 ?_⟩
    intro fd hfd
    rcases List.mem_append.1 hfd with hfd | hfd
    · exact List.mem_append_left _ hfd
    · exact List.mem_append_right _ (hsub fd hfd)

/-- Calls that go on with what was there at first and what was handed out since. -/
theorem append (h : CallsWith fds h₁) (h' : CallsWith (h₁.filterMap Event.handsOut? ++ fds) h₂) :
    CallsWith fds (h₁ ++ h₂) := by
  induction h₁ generalizing fds with
  | nil => exact h'
  | cons e later ih =>
    refine ⟨h.1, ih h.2 (h'.mono fun fd hfd => ?_)⟩
    cases hout : e.handsOut? with
    | none => simpa [List.filterMap_cons, hout] using hfd
    | some out =>
      simp only [List.filterMap_cons, hout, List.cons_append, List.mem_cons,
        List.mem_append] at hfd
      simp only [Option.toList_some, List.singleton_append, List.mem_append, List.mem_cons]
      exact or_left_comm.1 hfd

/-- Events that name none but these descriptors. -/
theorem of_forall (h : ∀ e ∈ h₁, ∀ fd, e.fd? = some fd → fd ∈ fds) : CallsWith fds h₁ := by
  induction h₁ generalizing fds with
  | nil => trivial
  | cons e later ih =>
    refine ⟨h e List.mem_cons_self, ih fun e' he' fd hfd => ?_⟩
    exact List.mem_append_right _ (h e' (List.mem_cons_of_mem _ he') fd hfd)

end CallsWith

end SocketLoop
