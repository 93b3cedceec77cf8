import SocketLoop.Proofs.Run.Request
import SocketLoop.Proofs.Run.Wake

/-!
# From the answer of a poll to the dispatcher

What a poll reports for a descriptor passes four layers on its way to the handlers of a socket: the
conditions are turned into directions, the directions are cut down to the interest of the
registration, the socket turns what is left into events, and these are cut down to the enabled ones.
`EventSet.due` says what should come out: the enabled events whose direction is signalled.

* `EventSet.signalled_inter_interest`, `EventSet.inter_interest_eq_empty_iff`: as long as the
  interest is that of the enabled events, this is what comes out, and nothing is lost on the way.
* `ConnectState.Settles` lists what settling a connect does before connecting is dispatched.
* `polled_of_wake`: what a wake has still to look at is the end of what an earlier poll reported.
* **`delivered_of_reaches`**: in every run on a polling reactor, when the turn of an open socket
  comes its callback is called if and only if something is due, and exactly that is dispatched. What
  is enabled counts at this moment, whatever other callbacks of the same wake have changed.
-/

namespace SocketLoop

/-! ## What is due -/

/-- Whether the conditions signal the direction of an event. A hang-up and an error signal both. -/
def Revents.signals (r : Revents) : SocketEvent → Bool
  | .read | .accept => r.input || r.hangUp || r.failure
  | .write | .connect => r.output || r.hangUp || r.failure

namespace EventSet

/-- The enabled events whose direction is signalled. -/
def due (enabled : EventSet) (r : Revents) : EventSet where
  read := enabled.read && r.signals .read
  write := enabled.write && r.signals .write
  accept := enabled.accept && r.signals .accept
  connect := enabled.connect && r.signals .connect
  other := 0

/-- What is due is enabled and signalled, and that is all that is due. -/
theorem mem_due {enabled : EventSet} {r : Revents} {e : SocketEvent} :
    e ∈ enabled.due r ↔ e ∈ enabled ∧ r.signals e = true := by
  cases e <;> exact Bool.and_eq_true_iff

variable (enabled : EventSet) (r : Revents)

/-- **The interest loses nothing**: the directions of interest signal all that is due. -/
theorem signalled_inter_interest :
    enabled.signalled (r.readiness ∩ enabled.interest) = enabled.due r := by
  have hkept (direction this other : Bool) :
      (direction && (this || other) && this) = (this && direction) := by
    revert direction this other
    decide
  have hkept' (direction this other : Bool) :
      (direction && (other || this) && this) = (this && direction) := by
    revert direction this other
    decide
  apply EventSet.ext
  · exact hkept _ _ _
  · exact hkept _ _ _
  · exact hkept' _ _ _
  · exact hkept' _ _ _
  · rfl

/-- **The interest adds nothing**: if a direction of interest is ready, something is due. -/
theorem inter_interest_eq_empty_iff :
    r.readiness ∩ enabled.interest = ∅ ↔ enabled.due r = ∅ := by
  have hdirection (direction this other : Bool) : (direction && (this || other)) = false ↔
      (this && direction) = false ∧ (other && direction) = false := by
    revert direction this other
    decide
  have hread := hdirection (r.signals .read) enabled.read enabled.accept
  have hwrite := hdirection (r.signals .write) enabled.write enabled.connect
  constructor
  · intro h
    obtain ⟨hnoRead, hnoAccept⟩ := hread.1 (congrArg Readiness.read h)
    obtain ⟨hnoWrite, hnoConnect⟩ := hwrite.1 (congrArg Readiness.write h)
    exact EventSet.ext hnoRead hnoWrite hnoAccept hnoConnect rfl
  · intro h
    apply Readiness.ext
    · exact hread.2 ⟨congrArg EventSet.read h, congrArg EventSet.accept h⟩
    · exact hwrite.2 ⟨congrArg EventSet.write h, congrArg EventSet.connect h⟩
    · exact BitVec.and_zero

end EventSet

/-! ## Settling a connect -/

/-- What settling makes of the connect of a socket before some events are dispatched, with what it
records. Nothing is settled unless connecting is due. -/
inductive ConnectState.Settles (state : ConnectState) (fd : Fd) (due : EventSet) :
    History → Except Breach ConnectState → Prop
  | undue (isUndue : SocketEvent.connect ∉ due) : Settles state fd due [] (.ok state)
  | idle (isDue : SocketEvent.connect ∈ due) (isIdle : state = .idle) :
      Settles state fd due [] (.error .connectNotPending)
  | resolved {outcome : ConnectOutcome} (isDue : SocketEvent.connect ∈ due)
      (isResolved : state = .resolved outcome) : Settles state fd due [] (.ok state)
  | answered {code : Errno} (isDue : SocketEvent.connect ∈ due) (isPending : state = .pending) :
      Settles state fd due [.called (.pendingError fd) (.ok code)]
        (.ok (.resolved (.ofPendingError code)))
  | unreadable {code : Errno} (isDue : SocketEvent.connect ∈ due) (isPending : state = .pending) :
      Settles state fd due [.called (.pendingError fd) (.error code)]
        (.error (.pendingErrorUnreadable code))

/-- Readiness that is delivered to a socket settles its connect. -/
theorem Session.settles_delivered (a : Session) (ready : Readiness) :
    ∃ calls, (a.delivered ready).2.kernel.history = a.kernel.history ++ calls ∧
      a.socket.connect.Settles a.socket.fd (a.socket.subscription.enabled.signalled ready) calls
        ((a.delivered ready).1.map fun _ => (a.delivered ready).2.socket.connect) := by
  unfold delivered
  by_cases hdue : SocketEvent.connect ∈ a.socket.subscription.enabled.signalled ready
  · rw [if_pos hdue]
    unfold settleConnect
    cases hstate : a.socket.connect with
    | idle =>
      simp only [hstate, Except.map]
      exact ⟨[], (List.append_nil _).symm, .idle hdue rfl⟩
    | resolved outcome =>
      simp only [hstate, Except.map]
      exact ⟨[], (List.append_nil _).symm, .resolved hdue rfl⟩
    | pending =>
      have hhistory := a.kernel.history_call (.pendingError a.socket.fd)
      rcases hcall : a.kernel.call (.pendingError a.socket.fd) with
        ⟨code | completion, kernel⟩ <;> rw [hcall] at hhistory <;>
        simp only [hstate, hcall, Except.map]
      · exact ⟨_, hhistory, .unreadable hdue rfl⟩
      · exact ⟨_, hhistory, .answered hdue rfl⟩
  · rw [if_neg hdue]
    exact ⟨[], (List.append_nil _).symm, .undue hdue⟩

/-- **Delivering readiness to an open socket** settles its connect, and then yields what is
signalled. -/
theorem World.settles_of_deliver {w : World} (hw : w.Orderly) {s : Socket}
    (hs : w.socket? s.id = some s) (ready : Readiness) :
    ∃ calls world, world.kernel.history = w.kernel.history ++ calls ∧ world.reactor = w.reactor ∧
      ((∃ breach, w.deliver s.id ready = (.error breach, world) ∧
          s.connect.Settles s.fd (s.subscription.enabled.signalled ready) calls (.error breach)) ∨
        ∃ connect, w.deliver s.id ready = (.ok (s.subscription.enabled.signalled ready), world) ∧
          s.connect.Settles s.fd (s.subscription.enabled.signalled ready) calls (.ok connect) ∧
          world.socket? s.id = some { s with connect, receiveCount := 0 }) := by
  obtain ⟨a, ha⟩ : ∃ a : Session, a = ⟨{ s with receiveCount := 0 }, w.kernel⟩ := ⟨_, rfl⟩
  have hdeliver := deliver_of_open hw hs ready
  obtain ⟨calls, hhistory, hsettles⟩ := a.settles_delivered ready
  have hkept := (a.keeps_delivered ready).socket
  rw [← ha] at hdeliver
  rcases hresult : a.delivered ready with ⟨breach | done, session⟩ <;>
    rw [hresult] at hdeliver hhistory hsettles hkept <;> subst ha
  · exact ⟨calls, w.restore session, hhistory, rfl, .inl ⟨breach, hdeliver, hsettles⟩⟩
  · refine ⟨calls, w.restore session, hhistory, rfl, .inr ⟨_, hdeliver, hsettles, ?_⟩⟩
    have hsocket : session.socket =
        { s with connect := session.socket.connect, receiveCount := 0 } := hkept
    have hid : session.socket.id = s.id := by rw [hsocket]
    rw [socket?_restore hs hid, ← hsocket]

namespace Config

variable {c d b : Config} {token : Token} {revents : Revents} {pending : List (Token × Revents)}
  {count : Nat} {ending : StepEnding} {outer : List Frame}

/-! ## Where reports come from -/

/-- An earlier step of the run polled, the answer reported conditions for the registrations that it
asked about, and these were the last of them. -/
def Polled (start c : Config) (ending : StepEnding) (pending : List (Token × Revents)) : Prop :=
  ∃ (b : Config) (timeout : Option Duration) (answers : Script) (steps : List Step)
    (script : Script) (isHandler : Bool) (rest : List Frame) (delivery : Delivery),
    start.Reaches b ∧
      b.stack = .steps (⟨.run timeout, answers, ending⟩ :: steps) script isHandler :: rest ∧
      (answers.next .poll).1 = .success delivery ∧ b.Reaches c ∧
      pending <:+ b.world.reactor.reports delivery

/-- What was polled before a moment was polled before the next one, and so was each end of it. -/
theorem Polled.later {start : Config} {pending later : List (Token × Revents)}
    (h : Polled start c ending pending) (hnext : c.next = some d) (hsuffix : later <:+ pending) :
    Polled start d ending later := by
  obtain ⟨b, timeout, answers, steps, script, isHandler, rest, delivery, hb, hstack, hanswer,
    hrun, hpending⟩ := h
  exact ⟨b, timeout, answers, steps, script, isHandler, rest, delivery, hb, hstack, hanswer,
    hrun.tail hnext, hsuffix.trans hpending⟩

/-- Calling a callback begins no wake. -/
theorem wake_mem_of_callBack {callback : Callback} {ready : Readiness}
    (hmem : .wake pending count ending ∈ (b.callBack token callback ready).stack) :
    .wake pending count ending ∈ b.stack := by
  cases callback with
  | direct handler => simpa [callBack, invoke, enterCallback, record] using hmem
  | socket id =>
    have hentered : .wake pending count ending ∈ (b.enterCallback token).stack := by
      simp only [callBack, report] at hmem
      split at hmem
      · rename_i events world hdeliver
        unfold dispatch at hmem
        split at hmem
        · exact hmem
        · split at hmem
          · simpa [invoke, record] using hmem
          · simpa using hmem
      · exact List.mem_of_mem_tail ((stack_unwind_suffix _ _ _).subset hmem)
    simpa [enterCallback] using hentered

/-- Ending a step begins no wake. -/
theorem wake_mem_of_endStep {reply : Reply} {ending' : StepEnding}
    (hmem : .wake pending count ending ∈ (b.endStep reply ending').stack) :
    .wake pending count ending ∈ b.stack :=
  (stack_endStep_suffix b reply ending').subset hmem

/-- Making a retaining reactor call begins no wake. -/
theorem wake_mem_of_fire {ready : Readiness} {ending' : StepEnding}
    (hmem : .wake pending count ending ∈ (b.fire token ready ending').stack) :
    .wake pending count ending ∈ b.stack := by
  unfold fire at hmem
  split at hmem
  · exact wake_mem_of_endStep hmem
  split at hmem
  · exact wake_mem_of_endStep hmem
  split at hmem
  · exact wake_mem_of_endStep hmem
  · simpa using wake_mem_of_callBack hmem

/-- Waiting begins a wake with what was reported. -/
theorem wake_mem_of_runOnce {timeout : Option Duration} {ending' : StepEnding}
    (hmem : .wake pending count ending ∈ (b.runOnce timeout ending').stack) :
    .wake pending count ending ∈ b.stack ∨ ending' = ending ∧
      ∃ polls, b.world.reactor.Learns timeout (b.script.next .poll).1 (.ok pending) polls := by
  unfold runOnce at hmem
  split at hmem
  · exact .inl (wake_mem_of_endStep hmem)
  split at hmem
  · rename_i reports world hwait
    rcases List.mem_cons.1 hmem with heq | hbelow
    · obtain ⟨rfl, -, rfl⟩ := Frame.wake.inj heq
      obtain ⟨polls, -, -, hlearns⟩ := b.world.learns_wait timeout
      rw [hwait] at hlearns
      exact .inr ⟨rfl, polls, hlearns⟩
    · exact .inl hbelow
  · have hkept := wake_mem_of_endStep hmem
    exact .inl hkept

/-- A step begins no wake unless it waits. -/
theorem wake_mem_of_takeStep {step : Step}
    (hmem : .wake pending count ending ∈ (b.takeStep step).stack) :
    .wake pending count ending ∈ b.stack ∨
      ∃ timeout, step.action = .run timeout ∧ step.ending = ending ∧
        ∃ polls, b.world.reactor.Learns timeout (step.script.next .poll).1 (.ok pending) polls := by
  obtain ⟨action, answers, ending'⟩ := step
  cases action with
  | command command =>
    have hexecuted : .wake pending count ending ∈
        (((b.withScript answers).record .began).execute command).2.stack :=
      wake_mem_of_endStep hmem
    rw [(boundedBy_execute _ command).1] at hexecuted
    exact .inl hexecuted
  | run timeout =>
    rcases wake_mem_of_runOnce hmem with hbelow | ⟨hending, hlearns⟩
    · exact .inl hbelow
    · exact .inr ⟨timeout, rfl, hending, hlearns⟩
  | fire token ready =>
    have hkept : .wake pending count ending ∈ ((b.withScript answers).record .began).stack :=
      wake_mem_of_fire hmem
    exact .inl hkept

/-- The turn of an event begins no wake. -/
theorem wake_mem_of_batchTurn {id : SocketId} {event : SocketEvent} {events : List SocketEvent}
    {rest : List Frame}
    (hmem : .wake pending count ending ∈ (b.batchTurn id event events rest).stack) :
    .wake pending count ending ∈ rest := by
  unfold batchTurn at hmem
  split at hmem
  · exact hmem
  · simpa using hmem
  · simpa [invoke, record] using hmem

/-- The turn of a report leaves those behind it, at most. -/
theorem wake_mem_of_wakeTurn {later : List (Token × Revents)} {n : Nat} {ending' : StepEnding}
    {rest : List Frame} (hstack : b.stack.tail = rest)
    (hmem : .wake pending count ending ∈ (b.wakeTurn token revents later n ending' rest).stack) :
    .wake pending count ending ∈ rest ∨ pending = later ∧ ending = ending' := by
  have hturn {m : Nat} (hcons : .wake pending count ending ∈ Frame.wake later m ending' :: rest) :
      .wake pending count ending ∈ rest ∨ pending = later ∧ ending = ending' := by
    rcases List.mem_cons.1 hcons with heq | hrest
    · obtain ⟨hpending, -, hending⟩ := Frame.wake.inj heq
      exact .inr ⟨hpending, hending⟩
    · exact .inl hrest
  unfold wakeTurn at hmem
  split at hmem
  · exact hturn hmem
  split at hmem
  · rw [← hstack]
    exact .inl ((stack_unwind_suffix _ _ _).subset hmem)
  · exact hturn (wake_mem_of_callBack hmem)

/-- **Only a poll begins a wake.** What a wake has to look at it had to look at before, perhaps
behind the report whose turn it was, or it is what a poll of this moment reported. -/
theorem next_wake (h : c.next = some d) (hmem : .wake pending count ending ∈ d.stack) :
    .wake pending count ending ∈ c.stack ∨
      (∃ report n rest, c.stack = .wake (report :: pending) n ending :: rest) ∨
      ∃ timeout answers steps script isHandler rest polls,
        c.stack = .steps (⟨.run timeout, answers, ending⟩ :: steps) script isHandler :: rest ∧
          c.world.reactor.Learns timeout (answers.next .poll).1 (.ok pending) polls := by
  have hbelow {frame : Frame} {rest : List Frame} (hstack : c.stack = frame :: rest)
      (hrest : .wake pending count ending ∈ rest) : .wake pending count ending ∈ c.stack := by
    rw [hstack]
    exact List.mem_cons_of_mem _ hrest
  unfold next at h
  split at h
  · simp at h
  · rename_i hstack
    obtain rfl := Option.some.inj h
    rw [stack_leaveSteps] at hmem
    exact .inl (hbelow hstack hmem)
  · rename_i step steps script isHandler rest hstack
    obtain rfl := Option.some.inj h
    rcases wake_mem_of_takeStep hmem with hold | ⟨timeout, haction, rfl, polls, hlearns⟩
    · exact .inl (hbelow hstack (by simpa using hold))
    · obtain ⟨action, answers, ending⟩ := step
      obtain rfl : action = .run timeout := haction
      exact .inr (.inr ⟨timeout, answers, steps, script, isHandler, rest, polls, hstack, hlearns⟩)
  · rename_i hstack
    obtain rfl := Option.some.inj h
    exact .inl (hbelow hstack hmem)
  · rename_i hstack
    obtain rfl := Option.some.inj h
    exact .inl (hbelow hstack (wake_mem_of_batchTurn hmem))
  · rename_i hstack
    obtain rfl := Option.some.inj h
    exact .inl (hbelow hstack hmem)
  · rename_i hstack
    obtain rfl := Option.some.inj h
    exact .inl (hbelow hstack (wake_mem_of_endStep hmem))
  · rename_i token revents later n ending' rest hstack
    obtain rfl := Option.some.inj h
    rcases wake_mem_of_wakeTurn (congrArg List.tail hstack) hmem with hrest | ⟨rfl, rfl⟩
    · exact .inl (hbelow hstack hrest)
    · exact .inr (.inl ⟨(token, revents), n, rest, hstack⟩)
  · rename_i hstack
    obtain rfl := Option.some.inj h
    exact .inl (hbelow hstack (wake_mem_of_endStep hmem))

/-- **Every wake comes from a poll.** What it has still to look at is the end of what was
reported. -/
theorem polled_of_wake {kind : ReactorKind} {program : List Step}
    (hrun : (Config.initial kind program).Reaches c) (hne : pending ≠ [])
    (hmem : .wake pending count ending ∈ c.stack) :
    Polled (Config.initial kind program) c ending pending := by
  induction hrun generalizing pending count with
  | refl => simp [Config.initial] at hmem
  | @tail c d hrun hnext ih =>
    rcases next_wake hnext hmem with
      hold | ⟨report, n, rest, hstack⟩ |
        ⟨timeout, answers, steps, script, isHandler, rest, polls, hstack, hlearns⟩
    · exact (ih hne hold).later hnext List.suffix_rfl
    · have hbefore : .wake (report :: pending) n ending ∈ c.stack := by
        rw [hstack]
        exact List.mem_cons_self
      exact (ih (List.cons_ne_nil _ _) hbefore).later hnext (List.suffix_cons _ _)
    · generalize hreports : Except.ok pending = result at hlearns
      cases hlearns with
      | unwatched _ | interrupted _ _ => exact absurd (Except.ok.inj hreports) hne
      | failed _ _ _ => simp at hreports
      | reported _ answer_eq =>
        rw [Except.ok.inj hreports]
        exact ⟨c, timeout, answers, steps, script, isHandler, rest, _, hrun, hstack, answer_eq,
          .single hnext, List.suffix_rfl⟩

/-! ## The turn of a socket -/

/-- A breach in a wake is recorded as the reply of the step that waited. -/
theorem unwind_wake (c : Config) (breach : Breach) (pending : List (Token × Revents)) (count : Nat)
    (ending : StepEnding) (rest : List Frame) :
    ∃ status marks, (c.unwind breach (.wake pending count ending :: rest)).history =
      c.history ++ .ended (.breached breach) status :: marks ∧ ∀ e ∈ marks, e.IsMark := by
  refine ⟨c.statusOf? ending.watched, ?_⟩
  rcases ending with ⟨watched, _ | _⟩
  · obtain ⟨marks, hmarks, hall⟩ := (quiet_unwind
      (c.record (.ended (.breached breach) (c.statusOf? watched))) breach rest).history
    refine ⟨marks, ?_, hall⟩
    exact hmarks.trans (List.append_assoc _ _ _)
  · exact ⟨[], rfl, fun e he => absurd he List.not_mem_nil⟩

/-- What the turn of an open socket in a wake leads to, if its callback is not running. -/
inductive Served (c : Config) (token : Token) (s : Socket) (due : EventSet)
    (pending : List (Token × Revents)) (count : Nat) (ending : StepEnding) (outer : List Frame) :
    Prop
  /-- Nothing is due: the callback is not called, and the wake goes on. -/
  | passed (isEmpty : due = ∅) (uncalled : c.callback? = none)
      (next : c.next = some { c with stack := .wake pending count ending :: outer })
  /-- The callback is called, but the connect cannot be settled: nothing is dispatched, and the
  breach breaks the wake off. -/
  | broken {d : Config} {ready : Readiness} {calls : History} {breach : Breach}
      (isDue : due ≠ ∅) (called : c.callback? = some (token, .socket s.id, ready))
      (settles : s.connect.Settles s.fd due calls (.error breach)) (next : c.next = some d)
      (ended : ∃ status marks,
        d.history = c.history ++ (calls ++ .ended (.breached breach) status :: marks) ∧
          ∀ e ∈ marks, e.IsMark)
      (left : d.stack <:+ outer)
  /-- The callback is called, the connect is settled if that is due, and what is due is handed to
  the dispatcher, which takes it to the handlers. -/
  | handed {world : World} {ready : Readiness} {calls : History} {connect : ConnectState}
      (isDue : due ≠ ∅) (called : c.callback? = some (token, .socket s.id, ready))
      (settles : s.connect.Settles s.fd due calls (.ok connect))
      (history : world.kernel.history = c.history ++ calls)
      (socket : world.socket? s.id = some { s with connect, receiveCount := 0 })
      (reactor : world.reactor = c.world.reactor.activate token)
      (next : c.next = some (Config.dispatch
        { c with world, stack := .callback token :: .wake pending (count + 1) ending :: outer }
        s.id due))
      (dispatched : s.subscription.enabled.signalled ready = due ∧
        Dispatched c token s.id ready (.wake pending (count + 1) ending :: outer))

/-- **The turn of a socket** whose row has the interest of its enabled events. -/
theorem served_of_row {s : Socket} (hw : c.world.Orderly)
    (hstack : c.stack = .wake ((token, revents) :: pending) count ending :: outer)
    (hs : c.world.socket? s.id = some s) (hrow : c.world.reactor.table.get? token = some s.row)
    (hidle : c.world.reactor.isActive token = false) :
    Served c token s (s.subscription.enabled.due revents) pending count ending outer := by
  have hinterest : revents.readiness ∩ s.row.interest = ∅ ↔
      s.subscription.enabled.due revents = ∅ :=
    EventSet.inter_interest_eq_empty_iff _ _
  have hsignalled : s.subscription.enabled.signalled (revents.readiness ∩ s.row.interest) =
      s.subscription.enabled.due revents :=
    EventSet.signalled_inter_interest _ _
  have hnext : c.next = some (c.wakeTurn token revents pending count ending outer) := by
    simp only [next, hstack]
  unfold wakeTurn at hnext
  have hwoken : c.world.wokenCallback? token revents = c.world.readyCallback? token revents := by
    unfold World.wokenCallback?
    rw [hidle]
    rfl
  cases hready : c.world.readyCallback? token revents with
  | none =>
    have hempty := hinterest.1 (World.readyCallback?_eq_none_iff.1 hready s.row hrow)
    rw [hready] at hnext hwoken
    refine .passed hempty ?_ hnext
    simp only [callback?, hstack, hwoken, Option.map_none]
  | some called =>
    obtain ⟨callback, ready⟩ := called
    obtain ⟨row, hrow', rfl, rfl, hne⟩ := World.readyCallback?_eq_some hready
    obtain rfl := Option.some.inj (hrow.symm.trans hrow')
    have hdue : s.subscription.enabled.due revents ≠ ∅ := mt hinterest.2 hne
    have hcalls := CallsBack.wake hstack (hwoken.trans hready)
    simp only [hready, hidle, Bool.false_eq_true, ↓reduceIte] at hnext
    have hdispatched := dispatched_of_callsBack hcalls hnext hw
    have hopen := (hcalls.quiet.socket? s.id).trans hs
    obtain ⟨calls, world, hhistory, hreactor, hcases⟩ :=
      World.settles_of_deliver (hw.quiet hcalls.quiet) hopen (revents.readiness ∩ s.row.interest)
    rw [hsignalled] at hcases
    rcases hcases with ⟨breach, hdeliver, hsettles⟩ | ⟨connect, hdeliver, hsettles, hsocket⟩
    · simp only [callBack, Socket.row, report] at hnext hdeliver
      rw [hdeliver] at hnext
      -- the callback is left first, and then the wake
      obtain ⟨status, marks, hended, hmarks⟩ :=
        unwind_wake (leaveCallback
          { c with world, stack := .callback token :: .wake pending (count + 1) ending :: outer }
          token) breach pending (count + 1) ending outer
      refine .broken hdue hcalls.callback? hsettles hnext ⟨status, marks, ?_, hmarks⟩ ?_
      · refine hended.trans ?_
        rw [← List.append_assoc]
        exact congrArg (· ++ _) hhistory
      · exact stack_unwind_suffix breach _ (.wake pending (count + 1) ending :: outer)
    · simp only [callBack, Socket.row, report] at hnext hdeliver
      rw [hdeliver] at hnext
      exact .handed hdue hcalls.callback? hsettles hhistory hsocket hreactor hnext
        ⟨hsignalled, hdispatched⟩

/-- **Delivery is exact.** In a run on a polling reactor in which no token of an open socket was
used by the embedder, the turn of an open socket comes in a wake with what an earlier poll reported
for it. Unless its callback is running, it is called if and only if an enabled event is signalled,
and exactly the enabled events that are signalled are dispatched, after a connect was settled. -/
theorem delivered_of_reaches {limit : Nat} {program : List Step} {id : SocketId} {s : Socket}
    (hrun : (Config.initial (.polling limit) program).Reaches c)
    (hrespects : ∀ b d, (Config.initial (.polling limit) program).Reaches b → b.next = some d →
      d.Reaches c → b.RespectsTokens)
    (hstack : c.stack = .wake ((token, revents) :: pending) count ending :: outer)
    (hs : c.world.socket? id = some s) (htoken : s.token = token)
    (hidle : c.world.reactor.isActive token = false) :
    Polled (Config.initial (.polling limit) program) c ending ((token, revents) :: pending) ∧
      (∀ e, e ∈ s.subscription.enabled.due revents ↔
        e ∈ s.subscription.enabled ∧ revents.signals e = true) ∧
      Served c token s (s.subscription.enabled.due revents) pending count ending outer := by
  have hw := Reaches.orderly hrun
  have hrow := inStep_of_reaches hrun hrespects id s hs
  obtain rfl := hw.id_eq hs
  rw [htoken] at hrow
  refine ⟨?_, fun e => EventSet.mem_due, ?_⟩
  · apply polled_of_wake hrun (List.cons_ne_nil _ _)
    rw [hstack]
    exact List.mem_cons_self
  · exact served_of_row hw hstack hs hrow hidle

end Config

/-! ### A handler that disables an event of its neighbour -/

/-- One poll reports output for the first of two sockets and a hang-up for the second. The handler
of the first disables writing for the second. -/
def neighbourProgram : List Step :=
  [.plain (.command (.openSocket "a" .ipv4 .stream .standard)),
    .plain (.command (.openSocket "b" .ipv4 .stream .standard)),
    .plain (.command (.change "a"
      (.addHandler .write [[.plain (.command (.change "b" (.disable .write)))]]))),
    .plain (.command (.change "a" (.enable .write))),
    .plain (.command (.change "b" (.addHandler .read []))),
    .plain (.command (.change "b" (.addHandler .write []))),
    .plain (.command (.change "b" (.enable .read))),
    .plain (.command (.change "b" (.enable .write))),
    ⟨.run none, .only .poll [.success { revents := [4, 16] }], ⟨none, true⟩⟩]

/-- When the turn of the second socket comes, its hang-up makes reading due, and writing no more. -/
theorem delivered_when_neighbour_disables :
    let start := Config.initial (.polling 2) neighbourProgram
    ∃ s outer, (start.skip 15).stack = .wake [(2, 16)] 1 ⟨none, true⟩ :: outer ∧
      (start.skip 15).world.socket? 2 = some s ∧
      Config.Polled start (start.skip 15) ⟨none, true⟩ [(2, 16)] ∧
      Config.Served (start.skip 15) 2 s (.single .read) [] 1 ⟨none, true⟩ outer := by
  have hrespects : ∀ k < 22,
      ((Config.initial (.polling 2) neighbourProgram).skip k).RespectsTokens := by
    decide +kernel
  obtain ⟨outer, hstack⟩ : ∃ outer,
      ((Config.initial (.polling 2) neighbourProgram).skip 15).stack =
        .wake [(2, 16)] 1 ⟨none, true⟩ :: outer := ⟨_, rfl⟩
  obtain ⟨s, hs⟩ : ∃ s,
      ((Config.initial (.polling 2) neighbourProgram).skip 15).world.socket? 2 = some s := ⟨_, rfl⟩
  have hsocket : (((Config.initial (.polling 2) neighbourProgram).skip 15).world.socket? 2).map
      (fun s => (s.token, s.subscription.enabled.due 16)) = some (2, .single .read) := by
    decide +kernel
  rw [hs] at hsocket
  obtain ⟨htoken, hdue⟩ := Prod.mk.inj (Option.some.inj hsocket)
  obtain ⟨hpolled, -, hserved⟩ := Config.delivered_of_reaches
    (Config.reaches_skip 15 (Config.initial (.polling 2) neighbourProgram))
    (by
      intro b d hb hnext _
      obtain ⟨k, hk, rfl⟩ := Config.exists_skip_of_reaches (n := 22) hb hnext rfl
      exact hrespects k hk)
    hstack hs htoken (by decide +kernel)
  rw [hdue] at hserved
  exact ⟨s, outer, hstack, hs, hpolled, hserved⟩

end SocketLoop
