import Mathlib.Data.List.Forall2
import SocketLoop.Proofs.Run.Dispatch
import SocketLoop.Proofs.Run.Request

/-!
# Handlers that perform no operation

A passive handler asks questions at most, about sockets, identities and the reactor. Its call comes
to an end, and meanwhile nothing happens but that it is called.

* `entriesOf` lists the calls of handlers in a history, and what each of them is told.
* `OnlyCalls` relates two moments between which handlers are called, and nothing else happens.
* `exists_returns_of_passive`: a passive handler that is called returns.
* **`exists_returns_of_batch`**: if the events of a batch are enabled and have passive handlers,
  each of these is called, in the order of the batch and with its own event.
-/

namespace SocketLoop

/-! ## Passive handlers -/

/-- A command that asks something and does nothing. -/
def Command.IsQuestion {β : Type} : Command β → Prop
  | .info _ | .isLive _ | .compareIds _ _ | .reactorInfo => True
  | _ => False

/-- Every step of every call asks something. A handler without steps is passive. -/
def InstalledHandler.IsPassive (handler : InstalledHandler) : Prop :=
  ∀ steps ∈ handler.code, ∀ step ∈ steps,
    ∃ question, step.action = .command question ∧ question.IsQuestion

/-- What a passive handler does next is to ask. -/
theorem InstalledHandler.IsPassive.nextSteps {handler : InstalledHandler} (h : handler.IsPassive) :
    ∀ step ∈ handler.nextSteps, ∃ question, step.action = .command question ∧
      question.IsQuestion := by
  unfold InstalledHandler.nextSteps
  cases hcode : handler.code with
  | nil => exact fun step hstep => absurd hstep List.not_mem_nil
  | cons steps code =>
    apply h
    rw [hcode]
    exact List.mem_cons_self

/-- A passive handler stays passive. -/
theorem InstalledHandler.IsPassive.afterCall {handler : InstalledHandler} (h : handler.IsPassive) :
    handler.afterCall.IsPassive :=
  fun steps hsteps => h steps (List.mem_of_mem_tail hsteps)

/-! ## Calls of handlers in a history -/

/-- The call of a handler: who is called, and what for. -/
def Event.entry? : Event → Option (HandlerRef × Notice)
  | .entered handler _ notice => some (handler, notice)
  | _ => none

/-- The calls of handlers in a history. -/
def entriesOf (history : History) : List (HandlerRef × Notice) :=
  history.filterMap Event.entry?

/-- One history continues another, and meanwhile these handlers are called. -/
def RecordsEntries (entries : List (HandlerRef × Notice)) (old new : History) : Prop :=
  ∃ later, new = old ++ later ∧ entriesOf later = entries

namespace RecordsEntries

variable {entries more : List (HandlerRef × Notice)} {h₁ h₂ h₃ : History}

/-- Calls in two parts of a history. -/
theorem trans (h : RecordsEntries entries h₁ h₂) (h' : RecordsEntries more h₂ h₃) :
    RecordsEntries (entries ++ more) h₁ h₃ := by
  obtain ⟨later, rfl, rfl⟩ := h
  obtain ⟨last, rfl, rfl⟩ := h'
  exact ⟨later ++ last, List.append_assoc .., List.filterMap_append⟩

/-- No handler is called. -/
theorem of_grows (h : Grows (fun e => ¬e.IsEntry) h₁ h₂) : RecordsEntries [] h₁ h₂ := by
  obtain ⟨later, rfl, hlater⟩ := h
  refine ⟨later, rfl, List.filterMap_eq_nil_iff.2 fun e he => ?_⟩
  have hentry := hlater e he
  cases e with
  | entered _ _ _ => exact absurd trivial hentry
  | _ => rfl

end RecordsEntries

namespace Config

variable {b c d e : Config} {base : List Frame}

/-- What a history shows of the calls. -/
theorem entriesOf_recorded {entries : List (HandlerRef × Notice)}
    (h : RecordsEntries entries c.history d.history) : entriesOf (c.recorded d) = entries := by
  obtain ⟨later, hlater, hentries⟩ := h
  rw [recorded_eq hlater, hentries]

/-! ## Runs that come back -/

/-- A moment of the innermost frame above some others, and what follows it. -/
theorem Returns.head {frame : Frame} (hstack : c.stack = frame :: base) (hnext : c.next = some d)
    (h : Returns base d e) : Returns base c e := by
  have hbelow : base <:+ c.stack.tail := by
    rw [hstack]
    exact List.suffix_rfl
  exact ⟨.head ⟨hnext, hbelow⟩ h.above, h.stack⟩

/-- A part above more frames, and what follows it. -/
theorem Returns.trans {inner : List Frame} (h : Returns inner c d) (hbelow : base <:+ inner)
    (h' : Returns base d e) : Returns base c e := by
  have habove : Above base c d := by
    refine h.above.lift id ?_
    rintro _ _ ⟨hnext, htail⟩
    exact ⟨hnext, hbelow.trans htail⟩
  exact ⟨habove.trans h'.above, h'.stack⟩

/-- What lies above some frames has one end. -/
theorem Returns.unique (h : Returns base c d) (h' : Returns base c e) : d = e := by
  obtain ⟨habove, hd⟩ := h
  obtain ⟨habove', he⟩ := h'
  -- where the frames are taken up again, no moment has them below it
  have hends {b d : Config} (hb : b.stack = base) (hrun : Above base b d) : b = d := by
    cases hrun.cases_head with
    | inl heq => exact heq
    | inr hstep =>
      obtain ⟨b', ⟨hnext, htail⟩, -⟩ := hstep
      rw [hb] at htail
      cases base with
      | nil => simp [next, hb] at hnext
      | cons frame rest =>
        have hlength := htail.length_le
        rw [List.tail_cons, List.length_cons] at hlength
        exact absurd hlength (Nat.not_succ_le_self _)
  have hfunctional : Relator.RightUnique fun c d : Config =>
      c.next = some d ∧ base <:+ c.stack.tail :=
    fun _ _ _ h h' => Option.some.inj (h.1.symm.trans h'.1)
  rcases Relation.ReflTransGen.total_of_right_unique hfunctional habove habove' with hrun | hrun
  · exact hends hd hrun
  · exact (hends he hrun).symm

/-! ## Runs in which handlers are called and nothing else happens -/

/-- From one configuration to another these handlers are called, and nothing else happens: sockets
and registrations stay as they are, and passive handlers stay passive. -/
structure OnlyCalls (entries : List (HandlerRef × Notice)) (c d : Config) : Prop where
  world : c.world.Quiet Event.IsBracket d.world
  entered : RecordsEntries entries c.history d.history
  passive : ∀ handler, (c.handlerOf handler).IsPassive → (d.handlerOf handler).IsPassive

namespace OnlyCalls

variable {entries more : List (HandlerRef × Notice)}

/-- Two parts of a run. -/
theorem trans (h : OnlyCalls entries c d) (h' : OnlyCalls more d e) :
    OnlyCalls (entries ++ more) c e where
  world := h.world.trans h'.world
  entered := h.entered.trans h'.entered
  passive handler hpassive := h'.passive handler (h.passive handler hpassive)

/-- Marks are recorded, and no handler is called. -/
theorem of_marks (hworld : c.world.Quiet Event.IsMark d.world)
    (hhandlers : d.handlers = c.handlers) : OnlyCalls [] c d where
  world := hworld.mono fun _ he => he.isBracket
  entered := .of_grows (hworld.history.mono fun _ he => he.isPlain.1)
  passive handler hpassive := by
    unfold handlerOf at hpassive ⊢
    rwa [hhandlers]

/-- Nothing happens. -/
theorem refl (c : Config) : OnlyCalls [] c c :=
  of_marks (.refl _) rfl

end OnlyCalls

/-- Calling a handler is to call it, and a passive one can be called again. -/
theorem onlyCalls_invoke (c : Config) (handler : HandlerRef) (notice : Notice) :
    OnlyCalls [(handler, notice)] c (c.invoke handler notice) where
  world := quiet_invoke c handler notice
  entered := ⟨_, rfl, rfl⟩
  passive other hpassive := by
    have hset : (c.invoke handler notice).handlers =
        c.handlers.set handler (c.handlerOf handler).afterCall := rfl
    unfold handlerOf at hpassive ⊢
    rw [hset, List.getElem?_set]
    split
    · rename_i heq
      subst heq
      split
      · exact InstalledHandler.IsPassive.afterCall hpassive
      · exact fun steps hsteps => absurd hsteps List.not_mem_nil
    · exact hpassive

/-! ## Questions -/

/-- A question changes nothing, and its reply is no breach and hands out no identity. -/
theorem execute_of_isQuestion (c : Config) {question : Command HandlerCode}
    (h : question.IsQuestion) : ∃ reply, c.execute question = (reply, c) ∧
      reply.newId? = none ∧ ∀ breach, reply ≠ .breached breach := by
  cases question with
  | info name =>
    have hinfo : c.execute (.info name) = c.withSocket name fun s => (.socketInfo s.info, c) := rfl
    rw [hinfo]
    unfold withSocket
    cases c.socketOf? name with
    | none => exact ⟨_, rfl, rfl, by simp⟩
    | some s => exact ⟨_, rfl, rfl, by simp⟩
  | isLive name => exact ⟨_, rfl, rfl, by simp⟩
  | compareIds first second => exact ⟨_, rfl, rfl, by simp⟩
  | reactorInfo =>
    have hinfo : c.execute .reactorInfo = (c.reactorInfo, c) := rfl
    rw [hinfo]
    unfold reactorInfo
    cases c.world.reactor.kind with
    | polling limit => exact ⟨_, rfl, rfl, by simp⟩
    | retaining => exact ⟨_, rfl, rfl, by simp⟩
  | _ => exact h.elim

/-- A step that asks something takes one moment, in which nothing happens. -/
theorem exists_next_of_question {step : Step} {question : Command HandlerCode} {steps : List Step}
    {script : Script} {isHandler : Bool} (haction : step.action = .command question)
    (hquestion : question.IsQuestion)
    (hstack : c.stack = .steps (step :: steps) script isHandler :: base) :
    ∃ d, c.next = some d ∧ d.stack = .steps steps script isHandler :: base ∧ OnlyCalls [] c d := by
  obtain ⟨action, answers, ending⟩ := step
  obtain rfl : action = .command question := haction
  obtain ⟨b, hbegins, -, hnext⟩ := next_command hstack
  obtain ⟨reply, hexecute, hid, hreply⟩ := b.execute_of_isQuestion hquestion
  have hquiet := hbegins.quiet
  rw [hexecute, endStep_eq_record _ _ hreply] at hnext
  refine ⟨_, hnext, ?_, .of_marks (hquiet.trans (World.Quiet.record _ hid)) ?_⟩
  · obtain ⟨steps', script', isHandler', rest, hc, hb⟩ := hbegins.stack
    obtain ⟨heq, rfl⟩ := List.cons.inj (hstack.symm.trans hc)
    obtain ⟨hsteps, rfl, rfl⟩ := Frame.steps.inj heq
    obtain ⟨-, rfl⟩ := List.cons.inj hsteps
    exact hb
  · obtain ⟨_⟩ := hbegins
    rfl

/-- **A handler that asks questions returns**, and meanwhile no other one is called. -/
theorem exists_returns_of_questions {steps : List Step} {script : Script}
    (hsteps : ∀ step ∈ steps, ∃ question, step.action = .command question ∧ question.IsQuestion)
    (hstack : c.stack = .steps steps script true :: base) :
    ∃ d, Returns base c d ∧ OnlyCalls [] c d := by
  induction steps generalizing c with
  | nil =>
    have hnext : c.next = some (leaveSteps { c with stack := base } script true) := by
      simp only [next, hstack]
    refine ⟨_, .head hstack hnext ⟨.refl, rfl⟩, .of_marks ?_ rfl⟩
    exact quiet_leaveSteps { c with stack := base } script true
  | cons step steps ih =>
    obtain ⟨question, haction, hquestion⟩ := hsteps step List.mem_cons_self
    obtain ⟨b, hnext, hb, hasked⟩ := exists_next_of_question haction hquestion hstack
    obtain ⟨d, hreturns, hlater⟩ :=
      ih (fun other hother => hsteps other (List.mem_cons_of_mem _ hother)) hb
    exact ⟨d, hreturns.head hstack hnext, hasked.trans hlater⟩

/-- **A passive handler that is called returns.** -/
theorem exists_returns_of_passive (c : Config) {handler : HandlerRef} (notice : Notice)
    (hpassive : (c.handlerOf handler).IsPassive) : ∃ d,
      Returns c.stack (c.invoke handler notice) d ∧ OnlyCalls [(handler, notice)] c d := by
  obtain ⟨d, hreturns, hcalls⟩ :=
    exists_returns_of_questions (c := c.invoke handler notice) hpassive.nextSteps rfl
  exact ⟨d, hreturns, (onlyCalls_invoke c handler notice).trans hcalls⟩

/-! ## Batches -/

/-- The handler that is installed for an event is called for it. -/
def CalledFor (id : SocketId) (handlers : Handlers) (event : SocketEvent)
    (entry : HandlerRef × Notice) : Prop :=
  handlers.get? event = some entry.1 ∧ entry.2 = .event id event

/-- **A batch whose events are enabled and have passive handlers** is delivered to its end: each
event to its own handler, in order. -/
theorem exists_returns_of_batch {id : SocketId} {s : Socket} {events : List SocketEvent}
    (hw : c.world.Orderly) (hstack : c.stack = .batch id events :: base)
    (hs : c.world.socket? id = some s) (henabled : ∀ event ∈ events, event ∈ s.subscription.enabled)
    (hinstalled : ∀ event ∈ events, ∃ handler,
      s.subscription.handlers.get? event = some handler ∧ (c.handlerOf handler).IsPassive) :
    ∃ d entries, Returns base c d ∧ OnlyCalls entries c d ∧
      List.Forall₂ (CalledFor id s.subscription.handlers) events entries := by
  induction events generalizing c with
  | nil =>
    have hnext : c.next = some { c with stack := base } := by
      simp only [next, hstack]
    exact ⟨_, [], .head hstack hnext ⟨.refl, rfl⟩, .of_marks (.refl _) rfl, .nil⟩
  | cons event events ih =>
    obtain ⟨handler, hget, hpassive⟩ := hinstalled event List.mem_cons_self
    have hturn : c.world.turn id event = .handled handler := by
      unfold World.turn
      rw [(hw.isLive_iff id).2 ⟨s, hs⟩, hs]
      simp only [Bool.not_true, Bool.false_eq_true, ↓reduceIte,
        if_pos (henabled event List.mem_cons_self), hget]
    have hnext : c.next = some (invoke { c with stack := .batch id events :: base } handler
        (.event id event)) := by
      simp only [next, hstack, batchTurn, hturn]
    obtain ⟨b, hreturns, hcalls⟩ := exists_returns_of_passive
      { c with stack := .batch id events :: base } (.event id event) hpassive
    have hcalled : OnlyCalls [(handler, .event id event)] c b :=
      ⟨hcalls.world, hcalls.entered, hcalls.passive⟩
    obtain ⟨d, entries, hlater, hmore, hentries⟩ := ih (hw.quiet hcalled.world) hreturns.stack
      ((hcalled.world.socket? id).trans hs)
      (fun other hother => henabled other (List.mem_cons_of_mem _ hother))
      fun other hother => by
        obtain ⟨handler', hget', hpassive'⟩ := hinstalled other (List.mem_cons_of_mem _ hother)
        exact ⟨handler', hget', hcalled.passive handler' hpassive'⟩
    have hbatch := hreturns.trans (List.suffix_cons _ _) hlater
    exact ⟨d, _, .head hstack hnext hbatch, hcalled.trans hmore, .cons ⟨hget, rfl⟩ hentries⟩

end Config

end SocketLoop
