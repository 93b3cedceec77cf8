import SocketLoop.Proofs.Run.Calls

/-!
# The ledger of descriptors

A history tells which descriptors are open: one that was handed out is open until it is closed.

* `openFds h` are the descriptors that are open after a history, newest first.
* `Each P fds h` says `P` of every event of a history together with the descriptors that are open
  when it happens. Two conditions are stated with it: that the operating system hands out no
  descriptor that is open (`Fresh`), which is assumed of it, and that nobody uses a descriptor that
  is not open (`Rightful`), which is what the library answers for. The descriptors that the embedder
  registers by itself are not in the ledger, and a wait asks about them as well.
* `Event.Minds` describes the events in between, which neither open nor close anything.
-/

namespace SocketLoop

namespace Event

/-- The descriptor that an event closes. -/
def closes? : Event → Option Fd
  | .closed fd => some fd
  | _ => none

/-- A wait. -/
def IsWait : Event → Prop
  | .called (.poll ..) _ => True
  | _ => False

/-- The descriptors that an event uses: that of a call, those that a wait asks about, and one that
is closed. -/
def uses : Event → List Fd
  | .called (.poll entries _) _ => entries.map (·.fd)
  | .called call _ => call.fd?.toList
  | .closed fd => [fd]
  | _ => []

/-- The event uses descriptors of the library, or is a wait that uses some of the embedder, and
opens or closes none. -/
structure Minds (own direct : Fd → Prop) (e : Event) : Prop where
  handsOut : e.handsOut? = none
  closes : e.closes? = none
  uses : ∀ fd ∈ e.uses, own fd ∨ e.IsWait ∧ direct fd

section Minds

variable {own own' direct direct' : Fd → Prop} {e : Event}

/-- What minds fewer descriptors minds more of them. -/
theorem Minds.mono (h : e.Minds own direct) (hown : ∀ fd, own fd → own' fd)
    (hdirect : ∀ fd, direct fd → direct' fd) : e.Minds own' direct' := by
  refine ⟨h.handsOut, h.closes, fun fd hfd => ?_⟩
  rcases h.uses fd hfd with hmine | ⟨hwait, htheirs⟩
  · exact .inl (hown fd hmine)
  · exact .inr ⟨hwait, hdirect fd htheirs⟩

/-- The event uses no descriptor at all. -/
def Abstains (e : Event) : Prop :=
  e.Minds (fun _ => False) fun _ => False

/-- What uses no descriptor minds them all. -/
theorem Abstains.minds (h : e.Abstains) : e.Minds own direct :=
  Minds.mono h (fun _ hfalse => hfalse.elim) fun _ hfalse => hfalse.elim

/-- The event uses one descriptor at most. -/
def MindsOnly (fd : Fd) (e : Event) : Prop :=
  e.Minds (· = fd) fun _ => False

/-- What uses no descriptor minds only a given one. -/
theorem Abstains.mindsOnly (h : e.Abstains) (fd : Fd) : e.MindsOnly fd :=
  h.minds

/-- An event that is neither a call nor a close uses no descriptor. -/
theorem abstains_of_ne (hcalled : ∀ call result, e ≠ .called call result)
    (hclosed : ∀ fd, e ≠ .closed fd) : e.Abstains := by
  cases e with
  | called call result => exact absurd rfl (hcalled call result)
  | closed fd => exact absurd rfl (hclosed fd)
  | _ => exact ⟨rfl, rfl, by simp [Event.uses]⟩

/-- A bracket uses no descriptor. -/
theorem IsBracket.abstains (h : e.IsBracket) : e.Abstains := by
  apply abstains_of_ne
  · rintro call result rfl
    exact h
  · rintro fd rfl
    exact h

/-- A call with one descriptor that opens none uses that one. -/
theorem minds_called {call : Syscall} {fd : Fd} (hfd : call.fd? = some fd)
    (hkind : call.kind ≠ .accept) (hown : own fd) (result : Except Errno Int) :
    (Event.called call result).Minds own direct := by
  have huses : (Event.called call result).uses = call.fd?.toList := by
    cases call with
    | poll _ _ => simp [Syscall.fd?] at hfd
    | _ => rfl
  refine ⟨?_, rfl, fun fd' hfd' => .inl ?_⟩
  · cases call with
    | socket _ _ => simp [Syscall.fd?] at hfd
    | accept _ => exact absurd rfl hkind
    | _ => rfl
  · rw [huses, hfd] at hfd'
    rwa [List.mem_singleton.1 hfd']

/-- A call with one descriptor that opens none uses only that one. -/
theorem mindsOnly_called {call : Syscall} {fd : Fd} (hfd : call.fd? = some fd)
    (hkind : call.kind ≠ .accept) (result : Except Errno Int) :
    (Event.called call result).MindsOnly fd :=
  @minds_called (· = fd) (fun _ => False) call fd hfd hkind rfl result

end Minds

end Event

namespace Ledger

/-- The descriptors that are open after an event. -/
def enter (fds : List Fd) (e : Event) : List Fd :=
  match e.closes? with
  | some fd => fds.erase fd
  | none => e.handsOut?.toList ++ fds

/-- The descriptors that are open after some events. -/
def after (fds : List Fd) (h : History) : List Fd :=
  h.foldl enter fds

/-- The descriptors that are open after a history. -/
def openFds (h : History) : List Fd :=
  after [] h

/-- Every event satisfies a condition on it and on the descriptors that are open when it happens. -/
def Each (P : List Fd → Event → Prop) : List Fd → History → Prop
  | _, [] => True
  | fds, e :: later => P fds e ∧ Each P (enter fds e) later

/-- The operating system hands out no descriptor that is open. -/
def Fresh : List Fd → History → Prop :=
  Each fun fds e => ∀ fd ∈ e.handsOut?, fd ∉ fds

/-- Nobody uses a descriptor that is not open, except that a wait may ask about some of the
embedder. -/
def Rightful (direct : Fd → Prop) : List Fd → History → Prop :=
  Each fun fds e => ∀ fd ∈ e.uses, fd ∈ fds ∨ e.IsWait ∧ direct fd

variable {P : List Fd → Event → Prop} {own direct direct' : Fd → Prop} {fds : List Fd}
  {h h₁ h₂ : History} {e : Event}

/-- Whether every event satisfies a condition can be decided event by event. -/
instance decidableEach [∀ fds e, Decidable (P fds e)] : (fds : List Fd) → (h : History) →
    Decidable (Each P fds h)
  | _, [] => isTrue trivial
  | fds, e :: later =>
    have : Decidable (Each P (enter fds e) later) := decidableEach (enter fds e) later
    inferInstanceAs (Decidable (P fds e ∧ Each P (enter fds e) later))

instance (fds : List Fd) (h : History) : Decidable (Fresh fds h) :=
  decidableEach fds h

/-- What is open after two parts. -/
theorem after_append : after fds (h₁ ++ h₂) = after (after fds h₁) h₂ :=
  List.foldl_append

/-- A condition on every event of two parts. -/
theorem each_append : Each P fds (h₁ ++ h₂) ↔ Each P fds h₁ ∧ Each P (after fds h₁) h₂ := by
  induction h₁ generalizing fds with
  | nil => simp [Each, after]
  | cons e later ih =>
    simp only [List.cons_append, Each, ih, and_assoc]
    rfl

/-- The embedder may have registered more. -/
theorem Rightful.mono (h : Rightful direct fds h₁) (hdirect : ∀ fd, direct fd → direct' fd) :
    Rightful direct' fds h₁ := by
  induction h₁ generalizing fds with
  | nil => trivial
  | cons e later ih =>
    refine ⟨fun fd hfd => ?_, ih h.2⟩
    rcases h.1 fd hfd with hopen | ⟨hwait, hbrought⟩
    · exact .inl hopen
    · exact .inr ⟨hwait, hdirect fd hbrought⟩

/-- An event that minds its descriptors opens and closes none. -/
theorem enter_of_minds (he : e.Minds own direct) : enter fds e = fds := by
  simp [enter, he.closes, he.handsOut]

/-- Events that mind their descriptors open and close none. -/
theorem after_of_minds (hminds : ∀ e ∈ h, e.Minds own direct) : after fds h = fds := by
  induction h generalizing fds with
  | nil => rfl
  | cons e later ih =>
    have hhead : enter fds e = fds := enter_of_minds (hminds e List.mem_cons_self)
    change after (enter fds e) later = fds
    rw [hhead]
    exact ih fun e' he' => hminds e' (List.mem_cons_of_mem _ he')

/-- Events that mind open descriptors are rightful. -/
theorem rightful_of_minds (hminds : ∀ e ∈ h, e.Minds own direct) (hopen : ∀ fd, own fd → fd ∈ fds) :
    Rightful direct fds h := by
  induction h generalizing fds with
  | nil => trivial
  | cons e later ih =>
    have he := hminds e List.mem_cons_self
    refine ⟨fun fd hfd => ?_, ?_⟩
    · rcases he.uses fd hfd with hmine | htheirs
      · exact .inl (hopen fd hmine)
      · exact .inr htheirs
    · rw [enter_of_minds he]
      exact ih (fun e' he' => hminds e' (List.mem_cons_of_mem _ he')) hopen

/-- Events that use no descriptor open and close none. -/
theorem after_of_abstains (hnone : ∀ e ∈ h, e.Abstains) : after fds h = fds :=
  after_of_minds hnone

/-- Events that use no descriptor are rightful. -/
theorem rightful_of_abstains (hnone : ∀ e ∈ h, e.Abstains) : Rightful direct fds h := by
  have hminds : ∀ e ∈ h, e.Minds (fun _ => False) direct := fun e he => (hnone e he).minds
  exact rightful_of_minds hminds fun _ hfalse => hfalse.elim

end Ledger

end SocketLoop
