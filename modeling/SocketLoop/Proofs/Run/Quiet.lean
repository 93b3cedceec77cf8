import SocketLoop.Run.Finish

/-!
# What a run leaves alone

Most of what a run does between two calls of the library is bookkeeping: brackets are recorded,
answers are put aside and taken up again, and callbacks are marked as running. None of it touches a
socket, a registration or the registry.

* `Grows P` says that a history went on with events that all satisfy `P`.
* `World.Quiet P` says that the registry, the sockets and the registrations are the same in two
  worlds, and that the history of the second goes on with events that satisfy `P`. The answers to
  come and the marks of running callbacks may differ.
* Ending a step and unwinding are quiet (`quiet_endStep`, `quiet_unwind`). Unwinding records the
  breach that it stems from as soon as it meets a wake (`breached_unwind_wake`).
-/

namespace SocketLoop

/-! ## Growing histories -/

/-- One history continues another with events that all satisfy a condition. -/
def Grows (P : Event → Prop) (old new : History) : Prop :=
  ∃ later, new = old ++ later ∧ ∀ e ∈ later, P e

namespace Grows

variable {P Q : Event → Prop} {h₁ h₂ h₃ : History}

/-- Nothing happened. -/
theorem refl (h : History) : Grows P h h :=
  ⟨[], (List.append_nil h).symm, by simp⟩

/-- What happened in two parts happened. -/
theorem trans (h : Grows P h₁ h₂) (h' : Grows P h₂ h₃) : Grows P h₁ h₃ := by
  obtain ⟨later, rfl, hlater⟩ := h
  obtain ⟨last, rfl, hlast⟩ := h'
  refine ⟨later ++ last, List.append_assoc .., ?_⟩
  intro e he
  rcases List.mem_append.1 he with he | he
  · exact hlater e he
  · exact hlast e he

/-- A weaker condition holds of the same events. -/
theorem mono (h : Grows P h₁ h₂) (hPQ : ∀ e, P e → Q e) : Grows Q h₁ h₂ := by
  obtain ⟨later, rfl, hlater⟩ := h
  exact ⟨later, rfl, fun e he => hPQ e (hlater e he)⟩

/-- One event happened. -/
theorem single {e : Event} (h : History) (he : P e) : Grows P h (h ++ [e]) :=
  ⟨[e], rfl, by simpa using he⟩

/-- The new events are those behind the old history. -/
theorem forall_of_eq {later : History} (h : Grows P h₁ h₂) (heq : h₂ = h₁ ++ later) :
    ∀ e ∈ later, P e := by
  obtain ⟨later', rfl, hlater⟩ := h
  rw [List.append_cancel_left heq] at hlater
  exact hlater

/-- What is noted of a history is what is noted of its middle part, if nothing is noted of what
happened before and after. -/
theorem around {α : Type} (note : Event → Option α) {h₄ middle : History}
    (hbefore : Grows (fun e => note e = none) h₁ h₂) (hmiddle : h₃ = h₂ ++ middle)
    (hafter : Grows (fun e => note e = none) h₃ h₄) :
    ∃ later, h₄ = h₁ ++ later ∧ later.filterMap note = middle.filterMap note := by
  obtain ⟨first, rfl, hfirst⟩ := hbefore
  obtain ⟨last, rfl, hlast⟩ := hafter
  refine ⟨first ++ middle ++ last, ?_, ?_⟩
  · rw [hmiddle, List.append_assoc, List.append_assoc, List.append_assoc]
  · rw [List.filterMap_append, List.filterMap_append, List.filterMap_eq_nil_iff.2 hfirst,
      List.filterMap_eq_nil_iff.2 hlast, List.nil_append, List.append_nil]

end Grows

/-! ## Brackets -/

/-- The identity that a reply hands out. -/
def Reply.newId? : Reply → Option SocketId
  | .ok (.opened id) => some id
  | .ok (.accepted id _) => some id
  | _ => none

namespace Event

/-- The identity that an event hands out. -/
def newId? : Event → Option SocketId
  | .ended reply _ => reply.newId?
  | _ => none

/-- A bracket that calls no handler and hands out no identity. -/
def IsMark : Event → Prop
  | .began => True
  | .ended reply _ => reply.newId? = none
  | .left => True
  | _ => False

/-- A bracket: a step begins or ends, a handler is called or left. -/
def IsBracket : Event → Prop
  | .began => True
  | .ended .. => True
  | .entered .. => True
  | .left => True
  | _ => False

/-- A mark is a bracket. -/
theorem IsMark.isBracket {e : Event} (h : e.IsMark) : e.IsBracket := by
  cases e with
  | called _ _ | closed _ | registered _ _ | interestSet _ _ | deregistered _ => exact h
  | _ => trivial

/-- A mark hands out no identity. -/
theorem IsMark.newId?_eq_none {e : Event} (h : e.IsMark) : e.newId? = none := by
  cases e with
  | ended reply status => exact h
  | _ => rfl

/-- The end of a step on account of a breach. -/
def IsBreach : Event → Prop
  | .ended (.breached _) _ => True
  | _ => False

end Event

/-- Such an end is a bracket. -/
theorem Event.IsBreach.isBracket {e : Event} (h : e.IsBreach) : e.IsBracket := by
  cases e with
  | ended _ _ => trivial
  | _ => exact h.elim

/-- A step ended on account of a breach since then. -/
def Breached (old new : History) : Prop :=
  ∃ later, new = old ++ later ∧ ∃ e ∈ later, e.IsBreach

namespace Breached

variable {P : Event → Prop} {h₁ h₂ h₃ : History}

/-- A breach stays recorded. -/
theorem append (h : Breached h₁ h₂) (h' : Grows P h₂ h₃) : Breached h₁ h₃ := by
  obtain ⟨later, rfl, e, he, hbreach⟩ := h
  obtain ⟨last, rfl, -⟩ := h'
  exact ⟨later ++ last, List.append_assoc .., e, List.mem_append_left _ he, hbreach⟩

/-- What was recorded before a breach does not hide it. -/
theorem prepend (h : Grows P h₁ h₂) (h' : Breached h₂ h₃) : Breached h₁ h₃ := by
  obtain ⟨first, rfl, -⟩ := h
  obtain ⟨later, rfl, e, he, hbreach⟩ := h'
  exact ⟨first ++ later, List.append_assoc .., e, List.mem_append_right _ he, hbreach⟩

end Breached

/-! ## Quiet changes -/

namespace World

/-- The registry, the sockets and the registrations stayed as they were. -/
structure Quiet (P : Event → Prop) (w w' : World) : Prop where
  registry : w'.registry = w.registry
  sockets : w'.sockets = w.sockets
  kind : w'.reactor.kind = w.reactor.kind
  nextToken : w'.reactor.nextToken = w.reactor.nextToken
  table : w'.reactor.table = w.reactor.table
  history : Grows P w.kernel.history w'.kernel.history

namespace Quiet

variable {P Q : Event → Prop} {w w₁ w₂ w₃ : World}

/-- A world is quiet towards itself. -/
theorem refl (w : World) : Quiet P w w :=
  ⟨rfl, rfl, rfl, rfl, rfl, Grows.refl _⟩

/-- Two quiet changes make one. -/
theorem trans (h : Quiet P w₁ w₂) (h' : Quiet P w₂ w₃) : Quiet P w₁ w₃ where
  registry := h'.registry.trans h.registry
  sockets := h'.sockets.trans h.sockets
  kind := h'.kind.trans h.kind
  nextToken := h'.nextToken.trans h.nextToken
  table := h'.table.trans h.table
  history := h.history.trans h'.history

/-- A weaker condition on the events. -/
theorem mono (h : Quiet P w₁ w₂) (hPQ : ∀ e, P e → Q e) : Quiet Q w₁ w₂ :=
  { h with history := h.history.mono hPQ }

/-- Recording an event is quiet. -/
theorem record (w : World) {e : Event} (he : P e) : Quiet P w (w.record e) :=
  ⟨rfl, rfl, rfl, rfl, rfl, Grows.single _ he⟩

/-- A quiet change keeps every open socket. -/
theorem socket? (h : Quiet P w₁ w₂) (id : SocketId) : w₂.socket? id = w₁.socket? id := by
  rw [World.socket?, World.socket?, h.sockets]

end Quiet

end World

/-! ## Ending and unwinding -/

namespace Config

variable (c : Config)

/-- Leaving the steps of a handler is quiet. -/
theorem quiet_leaveSteps (script : Script) (isHandler : Bool) :
    c.world.Quiet Event.IsMark (c.leaveSteps script isHandler).world := by
  cases isHandler with
  | false => exact World.Quiet.refl _
  | true => exact ⟨rfl, rfl, rfl, rfl, rfl, Grows.single _ trivial⟩

/-- Taking the mark of a callback away is quiet. -/
theorem quiet_leaveCallback (token : Token) :
    c.world.Quiet Event.IsMark (c.leaveCallback token).world :=
  ⟨rfl, rfl, rfl, rfl, rfl, Grows.refl _⟩

/-- Unwinding is quiet, whatever it leaves. -/
theorem quiet_unwind (breach : Breach) (frames : List Frame) :
    c.world.Quiet Event.IsMark (c.unwind breach frames).world := by
  induction frames generalizing c with
  | nil => exact World.Quiet.refl _
  | cons frame rest ih =>
    have hended (status : Option Status) :
        c.world.Quiet Event.IsMark (c.record (.ended (.breached breach) status)).world :=
      World.Quiet.record _ rfl
    cases frame with
    | steps _ script isHandler => exact (quiet_leaveSteps c script isHandler).trans (ih _)
    | batch _ _ => exact ih c
    | callback token => exact (quiet_leaveCallback c token).trans (ih _)
    | wake _ _ ending =>
      rcases ending with ⟨_, _ | _⟩
      · exact (hended _).trans (ih _)
      · exact hended _
    | fire ending =>
      rcases ending with ⟨_, _ | _⟩
      · exact (hended _).trans (ih _)
      · exact hended _

/-- The end of a step is recorded first; what follows it is quiet. -/
theorem endStep_after_record (reply : Reply) (ending : StepEnding) :
    (c.record (.ended reply (c.statusOf? ending.watched))).world.Quiet Event.IsMark
      (c.endStep reply ending).world := by
  unfold endStep
  split
  · split
    · exact World.Quiet.refl _
    · exact quiet_unwind _ _ _
  · exact World.Quiet.refl _

/-- The end of a step that ends without a breach is recorded, and that is all. -/
theorem endStep_eq_record {reply : Reply} (ending : StepEnding)
    (h : ∀ breach, reply ≠ .breached breach) :
    c.endStep reply ending = c.record (.ended reply (c.statusOf? ending.watched)) := by
  unfold endStep
  split
  · exact absurd rfl (h _)
  · rfl

/-- Ending a step is quiet, also when it ends with a breach. -/
theorem quiet_endStep {P : Event → Prop} {reply : Reply} (ending : StepEnding)
    (hmark : ∀ e, e.IsMark → P e) (hended : ∀ status, P (.ended reply status)) :
    c.world.Quiet P (c.endStep reply ending).world :=
  (World.Quiet.record _ (hended _)).trans ((endStep_after_record c reply ending).mono hmark)

/-! ## Breaches that end activities -/

/-- The moment from one configuration to another is cut short by a breach: the innermost activity
is left, perhaps with others, and the breach is recorded as the reply of a step. -/
structure CutShort (d : Config) : Prop where
  stack : d.stack <:+ c.stack.tail
  breached : Breached c.history d.history

/-- Recording the end of a step by a breach. -/
theorem breached_record (breach : Breach) (status : Option Status) :
    Breached c.history (c.record (.ended (.breached breach) status)).history :=
  ⟨[.ended (.breached breach) status], rfl, _, List.mem_singleton_self _, trivial⟩

/-- Unwinding a wake records the breach. -/
theorem breached_unwind_wake (breach : Breach) (pending : List (Token × Revents)) (count : Nat)
    (ending : StepEnding) (rest : List Frame) :
    Breached c.history (c.unwind breach (.wake pending count ending :: rest)).history := by
  have hended := breached_record c breach (c.statusOf? ending.watched)
  rcases ending with ⟨watched, _ | _⟩
  · exact hended.append (quiet_unwind _ breach rest).history
  · exact hended

/-- A call of one callback is unwound like a wake. -/
theorem unwind_fire (breach : Breach) (ending : StepEnding) (rest : List Frame) :
    c.unwind breach (.fire ending :: rest) = c.unwind breach (.wake [] 0 ending :: rest) :=
  rfl

/-- Ending a step leaves the stack alone or is cut short. -/
theorem stack_endStep (reply : Reply) (ending : StepEnding) :
    (c.endStep reply ending).stack = c.stack ∨ c.CutShort (c.endStep reply ending) := by
  unfold endStep
  split
  · rename_i breach
    split
    · exact .inl rfl
    · right
      exact ⟨stack_unwind_suffix breach _ c.stack,
        (breached_record c breach _).append (quiet_unwind _ breach c.stack).history⟩
  · exact .inl rfl

/-- Ending a step pushes no frame. -/
theorem stack_endStep_suffix (reply : Reply) (ending : StepEnding) :
    (c.endStep reply ending).stack <:+ c.stack := by
  rcases stack_endStep c reply ending with heq | hcut
  · exact ⟨[], heq⟩
  · exact hcut.stack.trans (List.tail_suffix _)

end Config

end SocketLoop
