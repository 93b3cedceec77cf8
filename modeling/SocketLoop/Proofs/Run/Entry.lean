import SocketLoop.Proofs.Run.Reach

/-!
# Which handlers a moment calls

A moment calls at most one handler, and calling it is the last thing that it does.

* `Calls` lists the three ways in which a handler comes to be called: an event of a batch has its
  turn, readiness of a socket with a global handler is reported, or a plain descriptor is ready.
* **`next_cases`**: a moment carries out a command, or it records nothing remarkable, or it calls a
  handler in one of these ways.
* `Calls.due`: a handler is called when its event has its turn, or when a callback is called.
* **`Calls.authorised`**: who is called may be called. The handler is installed for what it is told,
  and what it is told is enabled, in the very world in which it starts (`World.Authorises`).
-/

namespace SocketLoop

/-- The call of a handler. -/
def Event.IsEntry : Event → Prop
  | .entered .. => True
  | _ => False

/-- The socket that a handler is told about. -/
def Notice.socket? : Notice → Option SocketId
  | .event id _ => some id
  | .events id _ => some id
  | .ready .. => none

/-- What most moments record: no handler is called, and no identity is handed out. -/
def Event.IsPlain (e : Event) : Prop :=
  ¬e.IsEntry ∧ e.newId? = none

/-- A mark calls no handler and hands out no identity. -/
theorem Event.IsMark.isPlain {e : Event} (h : e.IsMark) : e.IsPlain := by
  refine ⟨?_, h.newId?_eq_none⟩
  cases e with
  | entered _ _ _ => exact h.elim
  | _ => exact id

/-- The library itself calls no handler and hands out no identity. -/
theorem Event.IsWork.isPlain {tokens : List Token} {e : Event} (h : e.IsWork tokens) :
    e.IsPlain := by
  cases e with
  | entered _ _ _ | ended _ _ => exact absurd trivial h.work
  | _ => exact ⟨id, rfl⟩

/-- What a handler may be told in a world: an enabled event for which it is installed, a non-empty
set of known, enabled events if it is the global handler, or the readiness of a descriptor that was
registered with it. -/
def World.Authorises (w : World) (handler : HandlerRef) : Notice → Prop
  | .event id event => ∃ s, w.socket? id = some s ∧ event ∈ s.subscription.enabled ∧
      s.subscription.handlers.get? event = some handler
  | .events id events => ∃ s, w.socket? id = some s ∧
      s.subscription.handlers = .global handler ∧
      events ≠ ∅ ∧ events.other = 0 ∧ events ⊆ s.subscription.enabled
  | .ready token _ => ∃ row, w.reactor.table.get? token = some row ∧ row.callback = .direct handler

/-! ## Events of a turn and of a report -/

/-- Handlers with a global handler are that handler. -/
theorem Handlers.eq_global {handlers : Handlers} {handler : HandlerRef}
    (h : handlers.global? = some handler) : handlers = .global handler := by
  cases handlers with
  | global installed => rw [Option.some.inj h]
  | empty => simp [Handlers.global?] at h
  | perEvent _ => simp [Handlers.global?] at h

/-- What is signalled is enabled. -/
theorem EventSet.mem_of_mem_signalled {enabled : EventSet} {ready : Readiness} {e : SocketEvent}
    (h : e ∈ enabled.signalled ready) : e ∈ enabled := by
  cases e <;> exact (Bool.and_eq_true_iff.1 h).2

/-- The events that readiness signals are known and enabled. -/
theorem EventSet.signalled_subset (enabled : EventSet) (ready : Readiness) :
    enabled.signalled ready ⊆ enabled ∧ (enabled.signalled ready).other = 0 := by
  refine ⟨EventSet.ext ?_ ?_ ?_ ?_ ?_, rfl⟩
  · exact Bool.and_eq_left_iff_imp.2 fun h => (Bool.and_eq_true_iff.1 h).2
  · exact Bool.and_eq_left_iff_imp.2 fun h => (Bool.and_eq_true_iff.1 h).2
  · exact Bool.and_eq_left_iff_imp.2 fun h => (Bool.and_eq_true_iff.1 h).2
  · exact Bool.and_eq_left_iff_imp.2 fun h => (Bool.and_eq_true_iff.1 h).2
  · exact BitVec.zero_and

namespace World

variable {w w' : World} {id : SocketId}

/-- The turn of an event ends with a handler only if the event is enabled and the handler is
installed for it. -/
theorem authorises_of_turn {event : SocketEvent} {handler : HandlerRef}
    (h : w.turn id event = .handled handler) : w.Authorises handler (.event id event) := by
  unfold turn at h
  split at h
  · simp at h
  split at h
  · simp at h
  rename_i s hs
  split at h
  · rename_i henabled
    split at h
    · rename_i installed hinstalled
      obtain rfl := Turn.handled.inj h
      exact ⟨s, hs, henabled, hinstalled⟩
    · simp at h
  · simp at h

/-- A global handler is that of an open socket. -/
theorem socket?_of_globalHandler? {handler : HandlerRef} (h : w.globalHandler? id = some handler) :
    ∃ s, w.socket? id = some s ∧ s.subscription.handlers = .global handler := by
  unfold globalHandler? at h
  split at h
  · obtain ⟨s, hs, hglobal⟩ := Option.bind_eq_some_iff.1 h
    exact ⟨s, hs, Handlers.eq_global hglobal⟩
  · simp at h

/-- A quiet change takes no authority away. -/
theorem Authorises.quiet {P : Event → Prop} {handler : HandlerRef} {notice : Notice}
    (h : w.Authorises handler notice) (hquiet : w.Quiet P w') :
    w'.Authorises handler notice := by
  cases notice with
  | event id event =>
    obtain ⟨s, hs, hevent⟩ := h
    exact ⟨s, (hquiet.socket? id).trans hs, hevent⟩
  | events id events =>
    obtain ⟨s, hs, hevents⟩ := h
    exact ⟨s, (hquiet.socket? id).trans hs, hevents⟩
  | ready token ready =>
    obtain ⟨row, hrow, hcallback⟩ := h
    refine ⟨row, ?_, hcallback⟩
    rwa [hquiet.table]

/-- A handler that may be told about a socket is told about an open one. -/
theorem Authorises.socket? {handler : HandlerRef} {notice : Notice}
    (h : w.Authorises handler notice) (hnotice : notice.socket? = some id) :
    ∃ s, w.socket? id = some s := by
  cases notice with
  | event id' event =>
    obtain ⟨s, hs, -⟩ := h
    exact ⟨s, Option.some.inj hnotice ▸ hs⟩
  | events id' events =>
    obtain ⟨s, hs, -⟩ := h
    exact ⟨s, Option.some.inj hnotice ▸ hs⟩
  | ready token ready => simp [Notice.socket?] at hnotice

/-- **Delivering readiness**: the socket is gone and nothing happens, or there is a breach, or the
signalled events are to be dispatched and the subscription is the same as before. -/
theorem deliver_cases (horderly : w.Orderly) (id : SocketId) (ready : Readiness) :
    (w.socket? id = none ∧ w.deliver id ready = (.ok ∅, w)) ∨
      (∃ s breach w', w.socket? id = some s ∧ w.deliver id ready = (.error breach, w')) ∨
      ∃ s t w', w.socket? id = some s ∧
        w.deliver id ready = (.ok (s.subscription.enabled.signalled ready), w') ∧
        w'.socket? id = some t ∧ t.subscription = s.subscription := by
  have hlive := horderly.isLive_iff id
  unfold deliver
  cases hs : w.socket? id with
  | none =>
    left
    refine ⟨rfl, ?_⟩
    split <;> rfl
  | some s =>
    right
    rw [hlive.2 ⟨s, hs⟩]
    have hid : s.id = id := horderly.id_eq hs
    simp only [Bool.not_true, Bool.false_eq_true, ↓reduceIte]
    split
    · obtain ⟨hkept, -⟩ := Session.uses_settleConnect ⟨{ s with receiveCount := 0 }, w.kernel⟩
      split
      · rename_i session hsettled
        rw [hsettled] at hkept
        right
        exact ⟨s, session.socket, _, rfl, rfl, socket?_restore hs (hkept.id.trans hid),
          hkept.subscription⟩
      · exact .inl ⟨s, _, _, rfl, rfl⟩
    · right
      exact ⟨s, { s with receiveCount := 0 }, _, rfl, rfl, socket?_restore hs hid, rfl⟩

end World

namespace Config

variable {c d : Config}

/-! ## The ways in which a handler is called -/

/-- The next moment calls a handler in a configuration that it has come to. -/
inductive Calls (c : Config) : Config → HandlerRef → Notice → Prop
  /-- An event of a batch has its turn. -/
  | event {id : SocketId} {event : SocketEvent} {events : List SocketEvent} {rest : List Frame}
      {handler : HandlerRef} (stack : c.stack = .batch id (event :: events) :: rest)
      (turn : c.world.turn id event = .handled handler) :
      Calls c { c with stack := .batch id events :: rest } handler (.event id event)
  /-- Readiness is reported to a socket with a global handler. -/
  | events {b : Config} {token : Token} {id : SocketId} {ready : Readiness} {events : EventSet}
      {world : World} {handler : HandlerRef} (calls : CallsBack c b token (.socket id) ready)
      (delivered : (b.enterCallback token).world.deliver id ready = (.ok events, world))
      (nonempty : events ≠ ∅) (handled : world.globalHandler? id = some handler) :
      Calls c { b.enterCallback token with world } handler (.events id events)
  /-- A plain descriptor is ready. -/
  | ready {b : Config} {token : Token} {ready : Readiness} {handler : HandlerRef}
      (calls : CallsBack c b token (.direct handler) ready) :
      Calls c (b.enterCallback token) handler (.ready token ready)

/-- Carrying out the deed of a moment is plain. -/
theorem grows_run (hw : c.world.Orderly) {w : World} (h : c.world.Quiet Event.IsMark w) :
    Grows Event.IsPlain c.history (c.deed.run w).kernel.history := by
  have hmarks := h.history.mono fun _ he => he.isPlain
  have hwork := (c.deed.acts_run w ((fits_deed hw).quiet h)).grows
  exact hmarks.trans (hwork.mono fun _ he => he.isPlain)

/-- Ending a step with a reply that hands out no identity is plain. -/
theorem grows_endStep {reply : Reply} (ending : StepEnding) (hreply : reply.newId? = none) :
    Grows Event.IsPlain c.history (c.endStep reply ending).history :=
  (quiet_endStep c ending (fun _ he => he.isPlain) fun _ => ⟨id, hreply⟩).history

/-- Reporting readiness calls nobody, or the global handler of the socket. -/
theorem report_cases (b : Config) (id : SocketId) (ready : Readiness) :
    Grows Event.IsPlain ((Deed.deliver id ready).run b.world).kernel.history
        (b.report id ready).history ∨
      ∃ events world handler, b.world.deliver id ready = (.ok events, world) ∧ events ≠ ∅ ∧
        world.globalHandler? id = some handler ∧
        b.report id ready = Config.invoke { b with world } handler (.events id events) := by
  simp only [Deed.run, report]
  rcases b.world.deliver id ready with ⟨breach | events, world⟩
  · left
    exact ((quiet_unwind { b with world } breach b.stack).mono fun _ he => he.isPlain).history
  · simp only [dispatch]
    split
    · exact .inl (Grows.refl _)
    · rename_i hempty
      split
      · rename_i handler hglobal
        exact .inr ⟨events, world, handler, rfl, fun h => hempty ((events.isEmpty_iff).2 h),
          hglobal, rfl⟩
      · exact .inl (Grows.refl _)

/-- A moment that calls a handler makes no socket. -/
theorem Calls.not_making {b : Config} {handler : HandlerRef} {notice : Notice}
    (h : Calls c b handler notice) : c.deed.isMaking = false := by
  cases h with
  | event stack turn =>
    simp only [deed, Config.callback?, stack]
    rfl
  | events calls delivered nonempty handled =>
    rw [calls.deed_socket]
    rfl
  | ready calls =>
    rw [calls.deed_direct]
    rfl

/-- **A moment carries out a command, or it makes no socket and is plain, or it calls one handler**
and does nothing else after that. -/
theorem next_cases (h : c.next = some d) (hw : c.world.Orderly) :
    (∃ b step command, Begins c b step ∧ step.action = .command command ∧
        d = (b.execute command).2.endStep (b.execute command).1 step.ending) ∨
      (c.deed.isMaking = false ∧ Grows Event.IsPlain c.history d.history) ∨
      ∃ b handler notice, Calls c b handler notice ∧ d = b.invoke handler notice := by
  cases moment_next h with
  | idle hidle =>
    refine .inr (.inl ⟨?_, hidle.quiet.history.mono fun _ he => he.isPlain⟩)
    rw [hidle.deed]
    rfl
  | command hbegins haction => exact .inl ⟨_, _, _, hbegins, haction, rfl⟩
  | @wait b step timeout limit hbegins haction hkind =>
    have hrun := grows_run hw hbegins.quiet
    rw [hbegins.deed_wait haction hkind] at hrun ⊢
    refine .inr (.inl ⟨rfl, ?_⟩)
    unfold runOnce
    rw [hbegins.quiet.kind, hkind]
    simp only [Deed.run] at hrun ⊢
    split <;> rename_i world hwait <;> rw [hwait] at hrun
    · exact hrun
    · exact hrun.trans (grows_endStep _ rfl)
  | turn hstack hturn => exact .inr (.inr ⟨_, _, _, .event hstack hturn, rfl⟩)
  | @callBack b token callback ready hcalls =>
    right
    cases callback with
    | direct handler => exact .inr ⟨_, _, _, .ready hcalls, rfl⟩
    | socket id =>
      rcases report_cases (b.enterCallback token) id ready with
        hgrows | ⟨events, world, handler, hdeliver, hnonempty, hglobal, heq⟩
      · have hrun := grows_run hw hcalls.quiet
        rw [hcalls.deed_socket] at hrun ⊢
        exact .inl ⟨rfl, hrun.trans hgrows⟩
      · exact .inr ⟨_, _, _, .events hcalls hdeliver hnonempty hglobal, heq⟩

/-- What a command does is plain, up to the end of its step. -/
theorem Begins.grows_execute {b : Config} {step : Step} {command : Command HandlerCode}
    (h : Begins c b step) (haction : step.action = .command command) (hw : c.world.Orderly) :
    Grows Event.IsPlain c.history (b.execute command).2.history := by
  have hrun := grows_run hw h.quiet
  rw [h.deed_command haction, ← world_execute] at hrun
  exact hrun

/-! ## Who is called may be called -/

/-- A callback that is called is that of a registration in the table. -/
theorem CallsBack.row {b : Config} {token : Token} {callback : Callback} {ready : Readiness}
    (h : CallsBack c b token callback ready) :
    ∃ row, c.world.reactor.table.get? token = some row ∧ row.callback = callback := by
  cases h with
  | wake stack woken =>
    unfold World.wokenCallback? World.readyCallback? at woken
    split at woken
    · simp at woken
    split at woken
    · simp at woken
    split at woken
    · simp at woken
    rename_i row hrow
    dsimp only at woken
    split at woken
    · simp at woken
    · obtain ⟨hcallback, -⟩ := Prod.mk.inj (Option.some.inj woken)
      exact ⟨row, hrow, hcallback⟩
  | fire begins action fired =>
    unfold World.firedCallback? at fired
    split at fired
    · simp at fired
    split at fired
    · simp at fired
    · exact Option.map_eq_some_iff.1 fired

/-- **Who is called may be called**, in the world in which it starts. -/
theorem Calls.authorised {b : Config} {handler : HandlerRef} {notice : Notice}
    (h : Calls c b handler notice) (hw : c.world.Orderly) :
    (b.invoke handler notice).world.Authorises handler notice := by
  suffices hb : b.world.Authorises handler notice from hb.quiet (quiet_invoke b handler notice)
  cases h with
  | event stack turn => exact World.authorises_of_turn turn
  | ready calls =>
    obtain ⟨row, hrow, hcallback⟩ := calls.row
    refine ⟨row, ?_, hcallback⟩
    rw [calls.quiet.table]
    exact hrow
  | @events b token id ready events world handler calls delivered nonempty handled =>
    have horderly : (b.enterCallback token).world.Orderly := hw.quiet calls.quiet
    obtain ⟨t, ht, hglobal⟩ := World.socket?_of_globalHandler? handled
    rcases World.deliver_cases horderly id ready with
      ⟨-, heq⟩ | ⟨s, breach, w', -, heq⟩ | ⟨s, t', w', hs, heq, ht', hsubscription⟩
    · rw [heq] at delivered
      exact absurd (Except.ok.inj (Prod.mk.inj delivered).1).symm nonempty
    · rw [heq] at delivered
      simp at delivered
    · rw [heq] at delivered
      obtain ⟨hevents, rfl⟩ := Prod.mk.inj delivered
      obtain rfl := Except.ok.inj hevents
      obtain rfl := Option.some.inj (ht.symm.trans ht')
      obtain ⟨hsubset, hother⟩ := s.subscription.enabled.signalled_subset ready
      refine ⟨t, ht, hglobal, nonempty, hother, ?_⟩
      rwa [hsubscription]

/-- What a handler can be told in the next moment: the event of a batch that has its turn, or that a
callback is called. -/
def Due (c : Config) : Notice → Prop
  | .event id event => ∃ events rest, c.stack = .batch id (event :: events) :: rest
  | .events id _ => ∃ token ready, c.callback? = some (token, .socket id, ready)
  | .ready token ready => ∃ handler, c.callback? = some (token, .direct handler, ready)

/-- A handler is called when that is due. -/
theorem Calls.due {b : Config} {handler : HandlerRef} {notice : Notice}
    (h : Calls c b handler notice) : c.Due notice := by
  cases h with
  | event stack turn => exact ⟨_, _, stack⟩
  | events calls delivered nonempty handled => exact ⟨_, _, calls.callback?⟩
  | ready calls => exact ⟨_, calls.callback?⟩

/-- Up to the call everything is plain. -/
theorem Calls.grows {b : Config} {handler : HandlerRef} {notice : Notice}
    (h : Calls c b handler notice) (hw : c.world.Orderly) :
    Grows Event.IsPlain c.history b.history := by
  cases h with
  | event stack turn => exact Grows.refl _
  | ready calls => exact calls.quiet.history.mono fun _ he => he.isPlain
  | events calls delivered nonempty handled =>
    have hrun := grows_run hw calls.quiet
    rw [calls.deed_socket] at hrun
    simp only [Deed.run, delivered] at hrun
    exact hrun

/-- **A handler that a moment calls** is called in one of the ways there are, and that is the last
thing that the moment records. -/
theorem calls_of_entered (h : c.next = some d) (hw : c.world.Orderly) {new : History}
    (hnew : d.history = c.history ++ new) {handler : HandlerRef} {label : String}
    {notice : Notice} (hmem : .entered handler label notice ∈ new) :
    ∃ b, Calls c b handler notice ∧ d = b.invoke handler notice ∧
      ∃ before, new = before ++ [.entered handler label notice] ∧ ∀ e ∈ before, ¬e.IsEntry := by
  have hnone (hgrows : Grows (fun e => ¬e.IsEntry) c.history d.history) : False :=
    hgrows.forall_of_eq hnew _ hmem trivial
  rcases next_cases h hw with
    ⟨b, step, command, hbegins, haction, rfl⟩ | ⟨-, hgrows⟩ | ⟨b, handler', notice', hcalls, rfl⟩
  · have hexecute := (hbegins.grows_execute haction hw).mono fun _ he => he.1
    refine (hnone (hexecute.trans ?_)).elim
    exact (quiet_endStep _ step.ending (fun _ he => he.isPlain.1) fun _ => id).history
  · exact (hnone (hgrows.mono fun _ he => he.1)).elim
  · obtain ⟨before, hbefore, hplain⟩ := hcalls.grows hw
    have heq : new = before ++ [.entered handler' (b.handlerOf handler').label notice'] := by
      refine List.append_cancel_left (hnew.symm.trans ?_)
      rw [← List.append_assoc, ← hbefore]
      rfl
    rw [heq] at hmem
    rcases List.mem_append.1 hmem with hold | hlast
    · exact absurd trivial (hplain _ hold).1
    · obtain ⟨rfl, rfl, rfl⟩ := Event.entered.inj (List.mem_singleton.1 hlast)
      exact ⟨b, hcalls, rfl, before, heq, fun e he => (hplain e he).1⟩

/-- **Every call of a handler is authorised** in the world in which the handler starts, and it is
the last thing that the moment records. -/
theorem authorised_of_entered (h : c.next = some d) (hw : c.world.Orderly) {new : History}
    (hnew : d.history = c.history ++ new) {handler : HandlerRef} {label : String}
    {notice : Notice} (hmem : .entered handler label notice ∈ new) :
    d.world.Authorises handler notice ∧ c.Due notice ∧
      ∃ before, new = before ++ [.entered handler label notice] ∧ ∀ e ∈ before, ¬e.IsEntry := by
  obtain ⟨b, hcalls, rfl, hlast⟩ := calls_of_entered h hw hnew hmem
  exact ⟨hcalls.authorised hw, hcalls.due, hlast⟩

end Config

end SocketLoop
