import SocketLoop.Proofs.Run.Stack

/-!
# What a report of readiness leads to

When readiness is reported to a socket, the signalled events are delivered: all at once to the
global handler, or one after the other to the handlers for single events. Each handler may change
the subscription of the socket, and even free it, before the next event has its turn.

* `Delivers` follows a batch to its end, and says of each event what became of it: it was delivered
  to the handler that is installed for it at its turn, or it was skipped, or the batch ended.
* `delivers_sublist`: the delivered events are events of the batch, in the same order.
* `Dispatched` lists what a report can lead to, and `dispatched_of_callsBack` says that it leads to
  one of these.
* `next_batch`, `reported_of_batch`: nothing but a report begins a batch.
* **`dispatched_of_reaches`**: in every run, no handler is called without authority, and no
  signalled event is lost.
-/

namespace SocketLoop

/-! ## The turn of an event -/

/-- The events of a set come in the order of delivery. -/
theorem EventSet.events_sublist (s : EventSet) :
    s.events.Sublist SocketEvent.deliveryOrder :=
  List.filter_sublist

/-- **What becomes of an event at its turn**: the socket is gone, or the event is disabled or has no
handler, or it is enabled and handled by the handler that is installed for it. -/
theorem World.turn_cases {w : World} (hw : w.Orderly) (id : SocketId) (event : SocketEvent) :
    (w.socket? id = none ∧ w.turn id event = .abandoned) ∨
      ∃ s, w.socket? id = some s ∧
        ((event ∉ s.subscription.enabled ∨ s.subscription.handlers.get? event = none) ∧
            w.turn id event = .skipped ∨
          ∃ handler, event ∈ s.subscription.enabled ∧
            s.subscription.handlers.get? event = some handler ∧
            w.turn id event = .handled handler) := by
  have hlive := hw.isLive_iff id
  unfold turn
  rcases hs : w.socket? id with _ | s
  · left
    refine ⟨rfl, ?_⟩
    split <;> rfl
  · right
    refine ⟨s, rfl, ?_⟩
    rw [hlive.2 ⟨s, hs⟩]
    simp only [Bool.not_true, Bool.false_eq_true, ↓reduceIte]
    by_cases henabled : event ∈ s.subscription.enabled
    · rw [if_pos henabled]
      rcases hget : s.subscription.handlers.get? event with _ | handler
      · exact .inl ⟨.inr rfl, rfl⟩
      · exact .inr ⟨handler, henabled, rfl, rfl⟩
    · rw [if_neg henabled]
      exact .inl ⟨.inl henabled, rfl⟩

/-- An open socket has the global handler that its subscription has. -/
theorem World.globalHandler?_of_open {w : World} (hw : w.Orderly) {id : SocketId} {s : Socket}
    (hs : w.socket? id = some s) : w.globalHandler? id = s.subscription.handlers.global? := by
  unfold globalHandler?
  rw [(hw.isLive_iff id).2 ⟨s, hs⟩, hs]
  rfl

namespace Config

variable {c d b : Config}

/-! ## A batch -/

/-- A batch is delivered from its first event on. The second list is that of the delivered events,
and the last configuration is the one in which the batch has ended. -/
inductive Delivers (id : SocketId) (outer : List Frame) :
    List SocketEvent → List SocketEvent → Config → Config → Prop
  /-- No event is left. -/
  | finished {c : Config} (stack : c.stack = .batch id [] :: outer)
      (next : c.next = some { c with stack := outer }) :
      Delivers id outer [] [] c { c with stack := outer }
  /-- The socket was freed, so that all that is left is given up. -/
  | freed {c : Config} {event : SocketEvent} {events : List SocketEvent}
      (stack : c.stack = .batch id (event :: events) :: outer)
      (isFreed : c.world.socket? id = none) (next : c.next = some { c with stack := outer }) :
      Delivers id outer (event :: events) [] c { c with stack := outer }
  /-- The event is disabled, or has no handler. -/
  | skipped {c d : Config} {event : SocketEvent} {events delivered : List SocketEvent} {s : Socket}
      (stack : c.stack = .batch id (event :: events) :: outer)
      (isOpen : c.world.socket? id = some s)
      (isUnwanted : event ∉ s.subscription.enabled ∨ s.subscription.handlers.get? event = none)
      (next : c.next = some { c with stack := .batch id events :: outer })
      (later : Delivers id outer events delivered { c with stack := .batch id events :: outer } d) :
      Delivers id outer (event :: events) delivered c d
  /-- The event is enabled, and the handler that is installed for it is called and returns. -/
  | handled {c b d : Config} {event : SocketEvent} {events delivered : List SocketEvent}
      {s : Socket} {handler : HandlerRef}
      (stack : c.stack = .batch id (event :: events) :: outer)
      (isOpen : c.world.socket? id = some s) (isEnabled : event ∈ s.subscription.enabled)
      (isInstalled : s.subscription.handlers.get? event = some handler)
      (next : c.next = some
        (Config.invoke { c with stack := .batch id events :: outer } handler (.event id event)))
      (body : Returns (.batch id events :: outer)
        (Config.invoke { c with stack := .batch id events :: outer } handler (.event id event)) b)
      (later : Delivers id outer events delivered b d) :
      Delivers id outer (event :: events) (event :: delivered) c d
  /-- The event is enabled, the handler that is installed for it is called, and a breach in it ends
  the batch. -/
  | broken {c d : Config} {event : SocketEvent} {events : List SocketEvent} {s : Socket}
      {handler : HandlerRef} (stack : c.stack = .batch id (event :: events) :: outer)
      (isOpen : c.world.socket? id = some s) (isEnabled : event ∈ s.subscription.enabled)
      (isInstalled : s.subscription.handlers.get? event = some handler)
      (next : c.next = some
        (Config.invoke { c with stack := .batch id events :: outer } handler (.event id event)))
      (body : Breaks (.batch id events :: outer)
        (Config.invoke { c with stack := .batch id events :: outer } handler (.event id event)) d) :
      Delivers id outer (event :: events) [event] c d

/-- A batch begins on top of the stack. -/
theorem Delivers.stack {id : SocketId} {outer : List Frame} {events delivered : List SocketEvent}
    (h : Delivers id outer events delivered c d) : c.stack = .batch id events :: outer := by
  cases h with
  | _ => assumption

/-- **Events are delivered in the order of the batch**, each at most as often as it is there. -/
theorem delivers_sublist {id : SocketId} {outer : List Frame} {events delivered : List SocketEvent}
    (h : Delivers id outer events delivered c d) : delivered.Sublist events := by
  induction h with
  | finished _ _ => exact List.Sublist.refl []
  | freed _ _ _ => exact List.nil_sublist _
  | @skipped c d event events delivered s stack isOpen isUnwanted next later ih =>
    exact ih.cons event
  | @handled c b d event events delivered s handler stack isOpen isEnabled isInstalled next body
      later ih =>
    exact ih.cons_cons event
  | broken _ _ _ _ _ _ => exact (List.nil_sublist _).cons_cons _

/-- **Every batch is delivered to its end.** -/
theorem exists_delivers {id : SocketId} {outer : List Frame} {events : List SocketEvent}
    (hw : c.world.Orderly) (hstack : c.stack = .batch id events :: outer) :
    ∃ delivered d, Delivers id outer events delivered c d := by
  induction events generalizing c with
  | nil =>
    have hnext : c.next = some { c with stack := outer } := by
      simp only [next, hstack]
    exact ⟨[], _, .finished hstack hnext⟩
  | cons event events ih =>
    have hnext : c.next = some (c.batchTurn id event events outer) := by
      simp only [next, hstack]
    unfold batchTurn at hnext
    rcases World.turn_cases hw id event with
      ⟨hfreed, hturn⟩ | ⟨s, hopen, ⟨hunwanted, hturn⟩ | ⟨handler, henabled, hinstalled, hturn⟩⟩
    · rw [hturn] at hnext
      exact ⟨[], _, .freed hstack hfreed hnext⟩
    · rw [hturn] at hnext
      have hw' := next_orderly hnext hw
      obtain ⟨delivered, d, hlater⟩ := ih hw' rfl
      exact ⟨delivered, d, .skipped hstack hopen hunwanted hnext hlater⟩
    · rw [hturn] at hnext
      have hw' := next_orderly hnext hw
      -- the handler runs above what is left of the batch
      obtain ⟨b, hreturns | hbreaks⟩ :=
        returns_or_breaks (.batch id events :: outer) _ hw' (List.suffix_cons _ _)
      · have hw'' := (Above.reaches hreturns.above).orderly_of hw'
        obtain ⟨delivered, d, hlater⟩ := ih hw'' hreturns.stack
        exact ⟨event :: delivered, d,
          .handled hstack hopen henabled hinstalled hnext hreturns hlater⟩
      · exact ⟨[event], b, .broken hstack hopen henabled hinstalled hnext hbreaks⟩

/-! ## A report -/

/-- What a report of readiness to a socket leads to, where the call of the callback lies above
`outer`. -/
inductive Dispatched (c : Config) (token : Token) (id : SocketId) (ready : Readiness)
    (outer : List Frame) : Prop
  /-- The socket was freed: nothing happens. -/
  | freed {d : Config} (isFreed : c.world.socket? id = none) (next : c.next = some d)
      (silent : Grows (fun e => ¬e.IsEntry) c.history d.history)
      (stack : d.stack = .callback token :: outer)
  /-- The outcome of a connection attempt cannot be asked for: no handler is called. -/
  | broken {d : Config} {s : Socket} (isOpen : c.world.socket? id = some s)
      (next : c.next = some d) (silent : Grows (fun e => ¬e.IsEntry) c.history d.history)
      (breached : Breached c.history d.history) (stack : d.stack <:+ outer.tail)
  /-- No enabled event is signalled: nothing happens. -/
  | unsignalled {d : Config} {s : Socket} (isOpen : c.world.socket? id = some s)
      (isEmpty : s.subscription.enabled.signalled ready = ∅) (next : c.next = some d)
      (silent : Grows (fun e => ¬e.IsEntry) c.history d.history)
      (stack : d.stack = .callback token :: outer)
  /-- The global handler is called with all signalled events, and that is all. -/
  | global {d e : Config} {s : Socket} {handler : HandlerRef} {before : History}
      {steps : List Step} {script : Script}
      (isOpen : c.world.socket? id = some s)
      (isInstalled : s.subscription.handlers = .global handler)
      (isSignalled : s.subscription.enabled.signalled ready ≠ ∅) (next : c.next = some d)
      (silent : Grows (fun e => ¬e.IsEntry) c.history before)
      (entered : d.history = before ++ [.entered handler (c.handlerOf handler).label
        (.events id (s.subscription.enabled.signalled ready))])
      (stack : d.stack = .steps steps script true :: .callback token :: outer)
      (body : Returns (.callback token :: outer) d e ∨ Breaks (.callback token :: outer) d e)
  /-- There is no global handler: the signalled events are delivered one after the other. -/
  | batch {d e : Config} {s : Socket} {delivered : List SocketEvent}
      (isOpen : c.world.socket? id = some s)
      (isSingle : s.subscription.handlers.global? = none)
      (isSignalled : s.subscription.enabled.signalled ready ≠ ∅) (next : c.next = some d)
      (silent : Grows (fun e => ¬e.IsEntry) c.history d.history)
      (delivers : Delivers id (.callback token :: outer)
        (s.subscription.enabled.signalled ready).events delivered d e)
      (inOrder : delivered.Sublist SocketEvent.deliveryOrder)

/-- Up to the call of a callback no handler is installed or called. -/
theorem CallsBack.handlerOf {token : Token} {callback : Callback} {ready : Readiness}
    (h : CallsBack c b token callback ready) (handler : HandlerRef) :
    b.handlerOf handler = c.handlerOf handler := by
  cases h with
  | wake stack woken => rfl
  | fire begins action fired =>
    obtain ⟨_⟩ := begins
    rfl

/-- A callback of a socket that is to be called is called. -/
theorem exists_callsBack {token : Token} {id : SocketId} {ready : Readiness}
    (h : c.callback? = some (token, .socket id, ready)) :
    ∃ b, CallsBack c b token (.socket id) ready ∧
      c.next = some (b.callBack token (.socket id) ready) := by
  have hdeed : c.deed = .deliver id ready := by
    simp only [deed, h]
  have hne : c.stack ≠ [] := by
    intro hnil
    simp [callback?, hnil] at h
  obtain ⟨d, hnext⟩ := exists_next hne
  cases moment_next hnext with
  | idle hidle => simp [hidle.deed] at hdeed
  | @command b step command hbegins haction =>
    obtain ⟨action, answers, ending⟩ := step
    obtain ⟨_, _, _, _, hstack, -⟩ := hbegins.stack
    obtain rfl : action = .command command := haction
    simp [callback?, hstack] at h
  | @wait b step timeout limit hbegins haction hkind =>
    rw [hbegins.deed_wait haction hkind] at hdeed
    simp at hdeed
  | turn hstack hturn => simp [callback?, hstack] at h
  | @callBack b token' callback' ready' hcalls =>
    obtain ⟨rfl, rfl, rfl⟩ : token' = token ∧ callback' = .socket id ∧ ready' = ready := by
      simpa using hcalls.callback?.symm.trans h
    exact ⟨b, hcalls, hnext⟩

/-- **A report of readiness to a socket** leads to what `Dispatched` lists. -/
theorem dispatched_of_callsBack {token : Token} {id : SocketId} {ready : Readiness}
    (h : CallsBack c b token (.socket id) ready)
    (hnext : c.next = some (b.callBack token (.socket id) ready)) (hw : c.world.Orderly) :
    Dispatched c token id ready b.stack := by
  have hentered : (b.enterCallback token).world.Orderly := hw.quiet h.quiet
  have hopen := h.quiet.socket? id
  have hrun := (grows_run hw h.quiet).mono fun e he => he.1
  rw [h.deed_socket] at hrun
  rcases World.deliver_cases hentered id ready with
    ⟨hfreed, heq⟩ | ⟨s, breach, w, hs, heq⟩ | ⟨s, t, w, hs, heq, ht, hsubscription⟩
  · rw [hopen] at hfreed
    simp only [Deed.run, heq] at hrun
    simp only [callBack, report, heq] at hnext
    exact .freed hfreed hnext hrun rfl
  · rw [hopen] at hs
    obtain ⟨hsuffix, hbreach⟩ := h.report_breach hw heq
    simp only [Deed.run, heq] at hrun
    have hunwound := quiet_unwind { b.enterCallback token with world := w } breach
      (b.enterCallback token).stack
    have hsilent := hrun.trans (hunwound.mono fun e he => he.isPlain.1).history
    simp only [callBack] at hnext
    refine .broken hs hnext ?_ hbreach hsuffix
    simp only [report, heq]
    exact hsilent
  · rw [hopen] at hs
    simp only [Deed.run, heq] at hrun
    simp only [callBack, report, heq, dispatch] at hnext
    by_cases hempty : s.subscription.enabled.signalled ready = ∅
    · rw [if_pos ((EventSet.isEmpty_iff _).2 hempty)] at hnext
      exact .unsignalled hs hempty hnext hrun rfl
    · have hdelivered : w.Orderly := by
        have hfits := (fits_deed hw).quiet h.quiet
        rw [h.deed_socket] at hfits
        have hacts := (Deed.acts_run _ _ hfits).orderly hentered
        simpa only [Deed.run, heq] using hacts
      rw [if_neg fun h => hempty ((EventSet.isEmpty_iff _).1 h),
        World.globalHandler?_of_open hdelivered ht, hsubscription] at hnext
      rcases hglobal : s.subscription.handlers.global? with _ | handler
      · rw [hglobal] at hnext
        obtain ⟨delivered, e, hdelivers⟩ := exists_delivers (next_orderly hnext hw) rfl
        have hsublist := (delivers_sublist hdelivers).trans (EventSet.events_sublist _)
        exact .batch hs hglobal hempty hnext hrun hdelivers hsublist
      · rw [hglobal] at hnext
        obtain ⟨e, hbody⟩ := returns_or_breaks (.callback token :: b.stack) _
          (next_orderly hnext hw) (List.suffix_cons _ _)
        refine .global hs (Handlers.eq_global hglobal) hempty hnext hrun ?_ rfl hbody
        rw [← h.handlerOf]
        rfl

/-! ## Where batches come from -/

/-- Up to the call of a callback no batch is begun. -/
theorem CallsBack.batch_mem {token : Token} {callback : Callback} {ready : Readiness}
    (h : CallsBack c b token callback ready) {id : SocketId} {events : List SocketEvent}
    (hmem : .batch id events ∈ b.stack) : .batch id events ∈ c.stack := by
  cases h with
  | wake stack woken =>
    rw [stack]
    simpa using hmem
  | fire begins action fired =>
    apply begins.batch_mem
    simpa using hmem

/-- A report begins one batch at most, and all that it signals is pending in it. -/
theorem Dispatched.batch_mem {token : Token} {id id' : SocketId} {ready : Readiness}
    {outer : List Frame} {events : List SocketEvent} (h : Dispatched c token id ready outer)
    (hnext : c.next = some d) (hmem : .batch id' events ∈ d.stack) :
    .batch id' events ∈ Frame.callback token :: outer ∨
      id' = id ∧ ∃ s, c.world.socket? id = some s ∧
        events = (s.subscription.enabled.signalled ready).events := by
  have hsame {e : Config} (next : c.next = some e) : d = e :=
    Option.some.inj (hnext.symm.trans next)
  cases h with
  | freed isFreed next silent stack =>
    rw [hsame next, stack] at hmem
    exact .inl hmem
  | broken isOpen next silent breached stack =>
    rw [hsame next] at hmem
    exact .inl (List.mem_cons_of_mem _ (List.mem_of_mem_tail (stack.subset hmem)))
  | unsignalled isOpen isEmpty next silent stack =>
    rw [hsame next, stack] at hmem
    exact .inl hmem
  | global isOpen isInstalled isSignalled next silent entered stack body =>
    rw [hsame next, stack] at hmem
    left
    simpa using hmem
  | @batch e f s delivered isOpen isSingle isSignalled next silent delivers inOrder =>
    rw [hsame next, delivers.stack] at hmem
    rcases List.mem_cons.1 hmem with heq | hbelow
    · obtain ⟨rfl, rfl⟩ := Frame.batch.inj heq
      exact .inr ⟨rfl, s, isOpen, rfl⟩
    · exact .inl hbelow

/-- **Only a report begins a batch.** What is pending in a batch was pending in it before, perhaps
behind the event whose turn it was, or it is all that was signalled by a report of this moment. -/
theorem next_batch (h : c.next = some d) (hw : c.world.Orderly) {id : SocketId}
    {events : List SocketEvent} (hmem : .batch id events ∈ d.stack) :
    .batch id events ∈ c.stack ∨ (∃ event rest, c.stack = .batch id (event :: events) :: rest) ∨
      ∃ token ready s, c.callback? = some (token, .socket id, ready) ∧
        c.world.socket? id = some s ∧ events = (s.subscription.enabled.signalled ready).events := by
  cases moment_next h with
  | idle hidle =>
    rcases hidle.noNewBatch id events hmem with hold | hturn
    · exact .inl hold
    · exact .inr (.inl hturn)
  | @command b step command hbegins haction =>
    left
    have hsuffix := stack_endStep_suffix (b.execute command).2 (b.execute command).1 step.ending
    rw [(boundedBy_execute b command).1] at hsuffix
    exact hbegins.batch_mem (hsuffix.subset hmem)
  | @wait b step timeout limit hbegins haction hkind =>
    left
    apply hbegins.batch_mem
    rcases stack_runOnce b timeout step.ending with heq | ⟨pending, heq⟩
    · rwa [heq] at hmem
    · simpa [heq] using hmem
  | @turn id' event events' rest handler hstack hturn =>
    have hpending : Frame.batch id events = .batch id' events' ∨ .batch id events ∈ rest := by
      simpa [invoke, record] using hmem
    rcases hpending with heq | hrest
    · obtain ⟨rfl, rfl⟩ := Frame.batch.inj heq
      exact .inr (.inl ⟨event, rest, hstack⟩)
    · left
      rw [hstack]
      exact List.mem_cons_of_mem _ hrest
  | @callBack b token callback ready hcalls =>
    have hbelow (hmem : .batch id events ∈ Frame.callback token :: b.stack) :
        .batch id events ∈ c.stack := by
      apply hcalls.batch_mem
      simpa using hmem
    cases callback with
    | direct handler =>
      left
      apply hbelow
      simpa [callBack, enterCallback, invoke, record] using hmem
    | socket id' =>
      rcases (dispatched_of_callsBack hcalls h hw).batch_mem h hmem with
        hbefore | ⟨rfl, s, hs, hevents⟩
      · exact .inl (hbelow hbefore)
      · exact .inr (.inr ⟨token, ready, s, hcalls.callback?, hs, hevents⟩)

/-- At an earlier moment of a run a report signalled some events of a socket, and these were the last
of them. -/
def Reported (start c : Config) (id : SocketId) (events : List SocketEvent) : Prop :=
  ∃ b d token ready s, start.Reaches b ∧ b.callback? = some (token, .socket id, ready) ∧
    b.world.socket? id = some s ∧ b.next = some d ∧ d.Reaches c ∧
    events <:+ (s.subscription.enabled.signalled ready).events

/-- What was reported before a moment was reported before the next one, and so was each end of it. -/
theorem Reported.later {start : Config} {id : SocketId} {events pending : List SocketEvent}
    (h : Reported start c id pending) (hnext : c.next = some d) (hsuffix : events <:+ pending) :
    Reported start d id events := by
  obtain ⟨b, e, token, ready, s, hb, hcallback, hs, he, hlater, hrest⟩ := h
  exact ⟨b, e, token, ready, s, hb, hcallback, hs, he, hlater.tail hnext, hsuffix.trans hrest⟩

/-- **Every batch comes from a report.** What is pending in it is the rest of what was signalled. -/
theorem reported_of_batch {kind : ReactorKind} {program : List Step}
    (hrun : (Config.initial kind program).Reaches c) {id : SocketId} {events : List SocketEvent}
    (hmem : .batch id events ∈ c.stack) : Reported (Config.initial kind program) c id events := by
  induction hrun generalizing events with
  | refl => simp [Config.initial] at hmem
  | @tail c d hrun hnext ih =>
    rcases next_batch hnext (Reaches.orderly hrun) hmem with
      hold | ⟨event, rest, hturn⟩ | ⟨token, ready, s, hcallback, hs, hevents⟩
    · exact (ih hold).later hnext List.suffix_rfl
    · have hpending : .batch id (event :: events) ∈ c.stack := by
        rw [hturn]
        exact List.mem_cons_self
      exact (ih hpending).later hnext (List.suffix_cons _ _)
    · exact ⟨c, d, token, ready, s, hrun, hcallback, hs, hnext, .refl, ⟨[], hevents⟩⟩

/-! ## Every run -/

/-- **No handler is called without authority, and no signalled event is lost.** At every moment of
every run:

* a handler that the next moment calls is installed for what it is told, and that is enabled, in the
  world in which the handler starts; and it is called once, when that is due;
* readiness that is reported to a socket leads to what `Dispatched` lists, whatever the handlers do
  meanwhile;
* what is pending in a batch is the rest of what such a report signalled. -/
theorem dispatched_of_reaches {kind : ReactorKind} {program : List Step}
    (hrun : (Config.initial kind program).Reaches c) :
    (∀ d new handler label notice, c.next = some d → d.history = c.history ++ new →
      .entered handler label notice ∈ new →
        d.world.Authorises handler notice ∧ c.Due notice ∧
          ∃ before, new = before ++ [.entered handler label notice] ∧ ∀ e ∈ before, ¬e.IsEntry) ∧
      (∀ token id ready, c.callback? = some (token, .socket id, ready) →
        ∃ outer, c.stack.tail <:+ outer ∧ Dispatched c token id ready outer) ∧
      ∀ id events, .batch id events ∈ c.stack →
        Reported (Config.initial kind program) c id events := by
  have hw := Reaches.orderly hrun
  refine ⟨?_, ?_, ?_⟩
  · intro d new handler label notice hnext hnew hmem
    exact authorised_of_entered hnext hw hnew hmem
  · intro token id ready hcallback
    obtain ⟨b, hcalls, hnext⟩ := exists_callsBack hcallback
    have hbelow : c.stack.tail <:+ b.stack :=
      hcalls.tail_stack_suffix.trans (List.tail_suffix _)
    exact ⟨b.stack, hbelow, dispatched_of_callsBack hcalls hnext hw⟩
  · intro id events hmem
    exact reported_of_batch hrun hmem

end Config

/-! ### A handler that disables a later event -/

/-- Readiness in both directions is reported to a socket whose handler for reading disables
writing. -/
def disablingProgram : List Step :=
  [.plain (.command (.openSocket "a" .ipv4 .stream .standard)),
    .plain (.command (.change "a"
      (.addHandler .read [[.plain (.command (.change "a" (.disable .write)))]]))),
    .plain (.command (.change "a" (.addHandler .write []))),
    .plain (.command (.change "a" (.enable .read))),
    .plain (.command (.change "a" (.enable .write))),
    .plain (.fire 1 ⟨true, true, 0⟩)]

/-- Reading is delivered with authority, and writing, which its handler disables, is skipped. -/
theorem dispatched_when_disabled :
    let c := Config.initial .retaining disablingProgram
    (∃ outer, Config.Dispatched (c.skip 5) 1 1 ⟨true, true, 0⟩ outer) ∧
      (c.skip 7).world.Authorises 0 (.event 1 .read) ∧
      (c.skip 9).stack[0]? = some (.batch 1 [.write]) ∧
      (c.skip 10).stack[0]? = some (.batch 1 []) := by
  have hcallback : ((Config.initial .retaining disablingProgram).skip 5).callback? =
      some (1, .socket 1, ⟨true, true, 0⟩) := by
    decide
  obtain ⟨outer, -, hdispatched⟩ :=
    (Config.dispatched_of_reaches (Config.reaches_skip 5 _)).2.1 1 1 ⟨true, true, 0⟩ hcallback
  have hentered : ((Config.initial .retaining disablingProgram).skip 7).history =
      ((Config.initial .retaining disablingProgram).skip 6).history ++
        [.entered 0 "a" (.event 1 .read)] :=
    rfl
  have hauthorised :=
    (Config.dispatched_of_reaches
      (Config.reaches_skip 6 (Config.initial .retaining disablingProgram))).1
        _ _ _ _ _ rfl hentered (List.mem_singleton_self _)
  exact ⟨⟨outer, hdispatched⟩, hauthorised.1, rfl, rfl⟩

end SocketLoop
