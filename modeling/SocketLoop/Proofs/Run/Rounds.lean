import SocketLoop.Proofs.Run.Connect
import SocketLoop.Proofs.Run.Sound

/-!
# How a socket connects

A connect goes round: it is started, its outcome is learned, and the outcome is taken.

* `Milestone` and `ConnectState.Moves`: the three moves. `Rounds` says that some milestones are
  whole rounds and the beginning of one more. A moment is one milestone of a socket at most
  (`ConnectTurn.moves`), and so the milestones of every run are rounds (`rounds_of_noted`).
* `Poised`: a batch that is to deliver the connect event delivers no other event, because a socket
  has one role only, and it delivers it at once. Hence nobody can take the outcome before the
  handler is told of it (`Calls.resolved`).
* **`connects_of_reaches`**: in every run no outcome is lost, overwritten or given away twice, and
  a handler is told of a connect only when there is an outcome to take.
-/

namespace SocketLoop

/-! ## Milestones -/

/-- What moves a connect. -/
inductive Milestone
  /-- The operating system left it in progress. -/
  | started
  /-- The pending error was read, and told the outcome. -/
  | settled (outcome : ConnectOutcome)
  /-- The outcome was given away. -/
  | taken (outcome : ConnectOutcome)
  deriving DecidableEq, Repr

namespace Milestone

/-- A call that was left in progress starts a connect. -/
def ofStart? : Syscall × Except Errno Int → Option Milestone
  | (.connect _ _, .error code) => if code = Errno.inProgress then some started else none
  | _ => none

/-- A pending error that was read settles a connect. -/
def ofQuery? : Syscall × Except Errno Int → Option Milestone
  | (.pendingError _, .ok code) => some (settled (.ofPendingError code))
  | _ => none

/-- Another answer starts nothing. -/
theorem ofStart?_eq_none {call : Syscall} {result : Except Errno Int}
    (h : result ≠ .error Errno.inProgress) : ofStart? (call, result) = none := by
  unfold ofStart?
  split
  · rename_i heq
    obtain ⟨-, rfl⟩ := Prod.mk.inj heq
    exact if_neg fun hcode => h (congrArg _ hcode)
  · rfl

/-- Another call settles nothing. -/
theorem ofQuery?_eq_none {call : Syscall} {result : Except Errno Int}
    (h : call.kind ≠ .pendingError) : ofQuery? (call, result) = none := by
  cases call with
  | pendingError fd => exact absurd rfl h
  | _ => rfl

/-- A reply that is no breach gives an outcome away. -/
def ofReply? : Reply → Option Milestone
  | .ok .done => some (taken none)
  | .failed error => some (taken (some error))
  | _ => none

/-- A whole round. -/
def round (outcome : ConnectOutcome) : List Milestone :=
  [started, settled outcome, taken outcome]

end Milestone

namespace ConnectState

/-- How a milestone moves the state. -/
inductive Moves : ConnectState → Milestone → ConnectState → Prop
  | started : Moves .idle .started .pending
  | settled {outcome : ConnectOutcome} : Moves .pending (.settled outcome) (.resolved outcome)
  | taken {outcome : ConnectOutcome} : Moves (.resolved outcome) (.taken outcome) .idle

/-- The milestones of the round that is not finished. -/
def unfinished : ConnectState → List Milestone
  | idle => []
  | pending => [.started]
  | resolved outcome => [.started, .settled outcome]

end ConnectState

/-- The milestones are whole rounds, each with an outcome of its own, and the beginning of the one
that led to the state. -/
def Rounds (log : List Milestone) (state : ConnectState) : Prop :=
  ∃ outcomes : List ConnectOutcome, log = outcomes.flatMap Milestone.round ++ state.unfinished

namespace Rounds

variable {log : List Milestone} {state state' : ConnectState} {milestone : Milestone}

/-- Nothing happened to an idle socket. -/
theorem nil : Rounds [] .idle :=
  ⟨[], rfl⟩

/-- Where nothing happened the state is idle. -/
theorem eq_idle (h : Rounds [] state) : state = .idle := by
  obtain ⟨outcomes, h⟩ := h
  obtain ⟨-, hrest⟩ := List.append_eq_nil_iff.1 h.symm
  cases state with
  | idle => rfl
  | _ => simp [ConnectState.unfinished] at hrest

/-- A move goes on with the round, or finishes it. -/
theorem move (h : Rounds log state) (hmove : state.Moves milestone state') :
    Rounds (log ++ [milestone]) state' := by
  obtain ⟨outcomes, rfl⟩ := h
  cases hmove with
  | started => exact ⟨outcomes, List.append_assoc _ _ _⟩
  | settled => exact ⟨outcomes, List.append_assoc _ _ _⟩
  | @taken outcome =>
    refine ⟨outcomes ++ [outcome], ?_⟩
    simp [ConnectState.unfinished, Milestone.round]

/-- Rounds begin with a start. -/
theorem eq_started (h : Rounds (milestone :: log) state) : milestone = .started := by
  obtain ⟨outcomes, h⟩ := h
  cases outcomes with
  | nil => cases state <;> simp_all [ConnectState.unfinished]
  | cons outcome outcomes => exact (List.cons.inj h).1

/-- **Between two connects that were started there is one outcome**, and it is given away. -/
theorem between (h : Rounds log state) {first middle last : List Milestone}
    (hlog : log = first ++ .started :: (middle ++ .started :: last))
    (hmiddle : .started ∉ middle) :
    ∃ outcome, middle = [.settled outcome, .taken outcome] := by
  obtain ⟨outcomes, rfl⟩ := h
  induction outcomes generalizing first with
  | nil =>
    -- an unfinished round starts once
    have hcount := congrArg (List.count Milestone.started) hlog
    have hle : state.unfinished.count .started ≤ 1 := by
      cases state <;> simp [ConnectState.unfinished]
    simp [List.count_append] at hcount
    omega
  | cons outcome outcomes ih =>
    simp only [List.flatMap_cons, Milestone.round, List.cons_append, List.nil_append] at hlog
    -- the first start is that of this round, or it is in a later one
    rcases first with _ | ⟨_, _ | ⟨_, _ | ⟨_, first⟩⟩⟩
    · rcases middle with _ | ⟨_, _ | ⟨_, middle⟩⟩
      · simp at hlog
      · simp at hlog
      · simp only [List.nil_append, List.cons_append, List.cons.injEq, true_and] at hlog
        obtain ⟨rfl, rfl, hrest⟩ := hlog
        rcases middle with _ | ⟨milestone, middle⟩
        · exact ⟨outcome, rfl⟩
        · -- what comes after a whole round begins with a start
          have hlater : Rounds (milestone :: (middle ++ .started :: last)) state :=
            ⟨outcomes, hrest.symm⟩
          simp [hlater.eq_started] at hmiddle
    · simp at hlog
    · simp at hlog
    · simp only [List.cons_append, List.cons.injEq] at hlog
      exact ih hlog.2.2.2

end Rounds

namespace Config

variable {c d : Config} {new : History} {s t : Socket} {id : SocketId}

/-! ## Milestones of a run -/

/-- The milestones of a socket that a moment is: its calls for a connect, its queries of the pending
error, and the outcomes that it gives away. -/
def milestones (id : SocketId) (c d : Config) : List Milestone :=
  match c.deed with
  | .request s (.connect _) =>
    if s.id = id then (callsOf (c.recorded d)).filterMap Milestone.ofStart? else []
  | .request s .connectResult =>
    if s.id = id then ((replyOf? (c.recorded d)).bind Milestone.ofReply?).toList else []
  | .deliver id' _ =>
    if id' = id then (callsOf (c.recorded d)).filterMap Milestone.ofQuery? else []
  | _ => []

/-- Nothing is a milestone of a socket that is not open, or that does not stay open. -/
theorem milestones_of_closed (h : c.next = some d) (hw : c.world.Orderly)
    (hclosed : c.world.socket? id = none ∨ d.world.socket? id = none) :
    c.milestones id d = [] := by
  obtain ⟨new, hnew, -⟩ := next_records h hw
  have hrequest {s : Socket} {request : Request} (hdeed : c.deed = .request s request)
      (hid : s.id = id) : False := by
    subst hid
    have hs := open_of_request hw hdeed
    obtain ⟨a, hrequested⟩ := exists_requested h hdeed
    rcases hclosed with hbefore | hafter
    · simp [hs] at hbefore
    · simp [hrequested.socket? hs] at hafter
  unfold milestones
  split
  · rw [if_neg fun hid => hrequest ‹_› hid]
  · rw [if_neg fun hid => hrequest ‹_› hid]
  · rename_i id' ready hdeed
    by_cases hid : id' = id
    · subst hid
      have hbefore : c.world.socket? id' = none := by
        rcases hclosed with hbefore | hafter
        · exact hbefore
        · refine Option.eq_none_iff_forall_ne_some.2 fun s hs => ?_
          obtain rfl := hw.id_eq hs
          obtain ⟨a, hdelivered⟩ := exists_delivered h hw hdeed hs
          simp [hdelivered.socket? hs] at hafter
      rw [if_pos rfl, recorded_eq hnew, callsOf_of_closed h hdeed hbefore hnew]
      rfl
    · rw [if_neg hid]
  · rfl

/-- **A moment is no milestone and leaves the connect alone, or it is one and moves it.** -/
theorem ConnectTurn.moves (h : c.ConnectTurn d new s t) (hw : c.world.Orderly)
    (hnew : d.history = c.history ++ new) (hs : c.world.socket? s.id = some s) :
    (c.milestones s.id d = [] ∧ t.connect = s.connect) ∨
      ∃ milestone, c.milestones s.id d = [milestone] ∧ s.connect.Moves milestone t.connect := by
  have hrecorded := recorded_eq hnew
  cases h with
  | untouched unasked untold silent same =>
    refine .inl ⟨?_, same⟩
    have hrequest {s' : Socket} {request : Request} (hdeed : c.deed = .request s' request)
        (hconnecting : request.isConnecting = true) : s'.id ≠ s.id := by
      intro hid
      have hs' := open_of_request hw hdeed
      rw [hid] at hs'
      obtain rfl := Option.some.inj (hs.symm.trans hs')
      simp [unasked request hdeed] at hconnecting
    unfold milestones
    split
    · exact if_neg (hrequest ‹_› rfl)
    · exact if_neg (hrequest ‹_› rfl)
    · rename_i id ready hdeed
      split
      · rename_i hid
        subst hid
        have hnone := silent (congrArg Deed.concerned? hdeed)
        rw [hrecorded]
        refine List.filterMap_eq_nil_iff.2 fun ⟨call, result⟩ hmem => ?_
        exact Milestone.ofQuery?_eq_none (hnone call result hmem).2
      · rfl
    · rfl
  | refused asked isRefused silent reply same =>
    refine .inl ⟨?_, same⟩
    simp [milestones, asked, hrecorded, silent]
  | answered asked isIdle toNative calls isOver same =>
    refine .inl ⟨?_, same.trans isIdle.symm⟩
    simp [milestones, asked, hrecorded, calls, Milestone.ofStart?_eq_none isOver]
  | started asked isIdle toNative calls reply moved =>
    refine .inr ⟨.started, ?_, ?_⟩
    · simp [milestones, asked, hrecorded, calls, Milestone.ofStart?]
    · rw [isIdle, moved]
      exact .started
  | untaken asked isUnresolved silent reply same =>
    refine .inl ⟨?_, same⟩
    obtain ⟨breach, hreply⟩ := reply
    simp [milestones, asked, hrecorded, hreply, Milestone.ofReply?]
  | @taken outcome asked isResolved ended lastError moved =>
    refine .inr ⟨.taken outcome, ?_, ?_⟩
    · obtain ⟨status, rfl⟩ := ended
      have hreply : replyOf? (c.recorded d) = some (outcome.elim (.ok .done) .failed) := by
        rw [hrecorded]
        rfl
      simp only [milestones, asked, ↓reduceIte, hreply, Option.bind_some]
      cases outcome <;> rfl
    · rw [isResolved, moved]
      exact .taken
  | unstarted told isWritable isEnabled isIdle silent breached same =>
    refine .inl ⟨?_, same.trans isIdle.symm⟩
    simp [milestones, told, hrecorded, silent]
  | @settled ready code outcome told isWritable isEnabled isPending calls outcome_eq tells moved =>
    refine .inr ⟨.settled outcome, ?_, ?_⟩
    · simp [milestones, told, hrecorded, calls, Milestone.ofQuery?, outcome_eq]
    · rw [isPending, moved]
      exact .settled
  | unreadable told isWritable isEnabled isPending calls breached same =>
    refine .inl ⟨?_, same.trans isPending.symm⟩
    simp [milestones, told, hrecorded, calls, Milestone.ofQuery?]
  | signalledAgain told isWritable isEnabled isResolved silent same =>
    refine .inl ⟨?_, same.trans isResolved.symm⟩
    simp [milestones, told, hrecorded, silent]

/-- **The milestones of a run are rounds**, and they led to the state in which the socket is. -/
theorem rounds_of_noted {kind : ReactorKind} {program : List Step} {log : List Milestone}
    (h : Noted (milestones id) (Config.initial kind program) c log) :
    ∃ state, Rounds log state ∧ (∀ s, c.world.socket? id = some s → s.connect = state) ∧
      (c.world.registry.nextId ≤ id → log = []) := by
  induction h with
  | start =>
    refine ⟨.idle, .nil, fun s hs => ?_, fun _ => rfl⟩
    simp [Config.initial, World.initial, World.socket?] at hs
  | @next c d log hbefore hnext ih =>
    obtain ⟨state, hrounds, hstate, hnew⟩ := ih
    have hw := Reaches.orderly hbefore.reaches
    have hnothing (hclosed : c.world.socket? id = none ∨ d.world.socket? id = none) :
        log ++ c.milestones id d = log := by
      rw [milestones_of_closed hnext hw hclosed, List.append_nil]
    have hnextId := (next_acts hnext hw).nextId_le
    cases hs : c.world.socket? id with
    | none =>
      rw [hnothing (.inl hs)]
      refine ⟨state, hrounds, fun t ht => ?_, fun hid => hnew (Nat.le_trans hnextId hid)⟩
      obtain ⟨hunused, hid⟩ := unused_of_opened hnext hw hs ht
      rw [hnew hid] at hrounds
      rw [hunused.connect, hrounds.eq_idle]
    | some s =>
      obtain rfl := hw.id_eq hs
      have hold (hle : d.world.registry.nextId ≤ s.id) : False :=
        Nat.not_le_of_lt (hw.lt_nextId hs) (Nat.le_trans hnextId hle)
      cases ht : d.world.socket? s.id with
      | none =>
        rw [hnothing (.inr ht)]
        exact ⟨state, hrounds, by simp, fun hle => (hold hle).elim⟩
      | some t =>
        obtain ⟨new, hhistory, -⟩ := next_records hnext hw
        have hturn := connectTurn_of_next hnext hw hhistory hs ht
        -- the state afterwards is that of the socket
        suffices hafter : Rounds (log ++ c.milestones s.id d) t.connect by
          refine ⟨t.connect, hafter, fun t' ht' => ?_, fun hle => (hold hle).elim⟩
          rw [Option.some.inj ht']
        rw [← hstate s hs] at hrounds
        rcases hturn.moves hw hhistory hs with ⟨hnone, hsame⟩ | ⟨milestone, hone, hmove⟩
        · rwa [hnone, List.append_nil, hsame]
        · rw [hone]
          exact hrounds.move hmove

end Config

/-! ## Telling a handler -/

/-- The notice tells that the connect of a socket is over. -/
def Notice.TellsConnect (id : SocketId) : Notice → Prop
  | .event id' e => id' = id ∧ e = .connect
  | .events id' signalled => id' = id ∧ SocketEvent.connect ∈ signalled
  | .ready .. => False

/-- Settling a connect without a breach leaves an outcome to be taken. -/
theorem Session.resolved_of_settleConnect {session session' : Session}
    (h : session.settleConnect = (.ok (), session')) :
    ∃ outcome, session'.socket.connect = .resolved outcome := by
  unfold settleConnect at h
  cases hstate : session.socket.connect with
  | idle => simp [hstate] at h
  | resolved outcome =>
    simp only [hstate] at h
    obtain ⟨-, rfl⟩ := Prod.mk.inj h
    exact ⟨outcome, hstate⟩
  | pending =>
    rcases hcall : session.kernel.call (.pendingError session.socket.fd) with
      ⟨code | completion, kernel⟩ <;> simp only [hstate, hcall] at h
    · simp at h
    · obtain ⟨-, rfl⟩ := Prod.mk.inj h
      exact ⟨_, rfl⟩

/-- Readiness that signals connecting leaves an outcome to be taken, unless there is a breach. -/
theorem World.resolved_of_deliver {w w' : World} (hw : w.Orderly) {id : SocketId}
    {ready : Readiness} {events : EventSet} (h : w.deliver id ready = (.ok events, w'))
    (hconnect : SocketEvent.connect ∈ events) :
    ∃ s outcome, w'.socket? id = some s ∧ s.connect = .resolved outcome := by
  rcases deliver_cases hw id ready with
      ⟨-, heq⟩ | ⟨s, breach, w₁, -, heq⟩ | ⟨s, t, w₁, hs, heq, -⟩ <;>
    obtain ⟨hevents, rfl⟩ := Prod.mk.inj (h.symm.trans heq)
  · obtain rfl := Except.ok.inj hevents
    simp [EventSet.mem_iff] at hconnect
  · simp at hevents
  · obtain rfl := Except.ok.inj hevents
    obtain rfl := hw.id_eq hs
    obtain ⟨a, ha⟩ : ∃ a : Session, a = ⟨{ s with receiveCount := 0 }, w.kernel⟩ := ⟨_, rfl⟩
    rw [deliver_of_open hw hs ready, ← ha] at heq
    have hdelivered : a.delivered ready = a.settleConnect := if_pos (by rwa [ha])
    have hid : (a.delivered ready).2.socket.id = s.id := by
      rw [(a.keeps_delivered ready).socket, ha]
    obtain ⟨hresult, rfl⟩ := Prod.mk.inj heq
    rw [hdelivered] at hid hresult ⊢
    rcases hsettle : a.settleConnect with ⟨breach | ⟨⟩, b⟩ <;> rw [hsettle] at hid hresult
    · simp [Except.map] at hresult
    · obtain ⟨outcome, hresolved⟩ := Session.resolved_of_settleConnect hsettle
      exact ⟨b.socket, outcome, socket?_restore hs hid, hresolved⟩

/-- Connecting goes with no other event. -/
theorem EventSet.events_eq_connect {events : EventSet} (hrole : events.OneRole)
    (hconnect : SocketEvent.connect ∈ events) : events.events = [.connect] := by
  have hall : ∀ e ∈ events, e = .connect := by
    rcases hrole with h | h | h
    · simpa using h _ hconnect
    · simpa using h _ hconnect
    · exact h
  have hnone (e : SocketEvent) (hne : e ≠ .connect) : events.contains e = false :=
    Bool.eq_false_iff.2 fun he => hne (hall e he)
  simp [EventSet.events, SocketEvent.deliveryOrder, hnone, mem_iff.1 hconnect]

namespace Config

variable {c d : Config} {id : SocketId}

/-- Who is to be told of a connect is told at once. No batch that waits for others is to deliver the
connect event, and one that is innermost delivers it alone, while the outcome is there to be
taken. -/
structure Poised (c : Config) : Prop where
  below : ∀ id events, .batch id events ∈ c.stack.tail → SocketEvent.connect ∉ events
  innermost : ∀ id events rest, c.stack = .batch id events :: rest → SocketEvent.connect ∈ events →
    events = [.connect] ∧
      ∀ s, c.world.socket? id = some s → ∃ outcome, s.connect = .resolved outcome

/-- A report begins no batch but that of what it delivered. -/
theorem batch_of_report {b : Config} {id id' : SocketId} {ready : Readiness}
    {events : List SocketEvent} (hmem : .batch id' events ∈ (b.report id ready).stack) :
    .batch id' events ∈ b.stack ∨ ∃ signalled world,
      b.world.deliver id ready = (.ok signalled, world) ∧ id' = id ∧ events = signalled.events ∧
        b.report id ready = { b with world, stack := .batch id signalled.events :: b.stack } := by
  unfold report at hmem ⊢
  rcases hdeliver : b.world.deliver id ready with ⟨breach | signalled, world⟩ <;>
    simp only [hdeliver] at hmem ⊢
  · exact .inl (List.mem_of_mem_tail
      ((stack_unwind_suffix breach { b with world } b.stack).subset hmem))
  · unfold dispatch at hmem ⊢
    split at hmem
    · exact .inl hmem
    · rename_i hempty
      split at hmem <;> rename_i hglobal
      · left
        simpa [invoke, record] using hmem
      · rcases List.mem_cons.1 hmem with heq | hbelow
        · obtain ⟨rfl, rfl⟩ := Frame.batch.inj heq
          exact .inr ⟨signalled, world, rfl, rfl, rfl, if_neg hempty⟩
        · exact .inl hbelow

/-- While a callback is called, no batch is to deliver the connect event. -/
theorem Poised.not_mem_of_callback (h : c.Poised) {token : Token} {callback : Callback}
    {ready : Readiness} (hcallback : c.callback? = some (token, callback, ready))
    {events : List SocketEvent} (hmem : .batch id events ∈ c.stack) :
    SocketEvent.connect ∉ events := by
  cases hstack : c.stack with
  | nil => simp [hstack] at hmem
  | cons frame rest =>
    rw [hstack] at hmem
    rcases List.mem_cons.1 hmem with rfl | hrest
    · simp [callback?, hstack] at hcallback
    · apply h.below id
      rwa [hstack]

/-- The turn of an event leaves the rest of its batch at most. -/
theorem batch_of_batchTurn {id' : SocketId} {event : SocketEvent}
    {events events' : List SocketEvent} {rest : List Frame}
    (hmem : .batch id' events' ∈ (c.batchTurn id event events rest).stack) :
    events' = events ∨ .batch id' events' ∈ rest := by
  unfold batchTurn at hmem
  split at hmem
  · exact .inr hmem
  · simp only [List.mem_cons, Frame.batch.injEq] at hmem
    exact hmem.imp_left And.right
  · simp only [invoke, record, List.mem_cons, reduceCtorEq, Frame.batch.injEq, false_or] at hmem
    exact hmem.imp_left And.right

/-- **A batch that is to deliver the connect event is brought by a report of this moment**, which
left the outcome to be taken. -/
theorem Poised.reported (hc : c.Poised) (h : c.next = some d) (hw : c.world.Orderly)
    (hsound : ∀ id s, c.world.socket? id = some s → s.Sound) {events : List SocketEvent}
    (hmem : .batch id events ∈ d.stack) (hconnect : SocketEvent.connect ∈ events) :
    ∃ rest, d.stack = .batch id events :: rest ∧ events = [.connect] ∧
      (∀ id' events', .batch id' events' ∈ rest → SocketEvent.connect ∉ events') ∧
      ∃ s outcome, d.world.socket? id = some s ∧ s.connect = .resolved outcome := by
  rcases next_batch h hw hmem with
    hold | ⟨event, rest, hturn⟩ | ⟨token, ready, s, hcallback, hs, rfl⟩
  · -- it was there before, so it was innermost and had its turn
    cases hstack : c.stack with
    | nil => simp [hstack] at hold
    | cons frame rest =>
      have hbelow := hc.below id events
      rw [hstack] at hold hbelow
      rcases List.mem_cons.1 hold with rfl | hrest
      · obtain ⟨rfl, -⟩ := hc.innermost id events rest hstack hconnect
        have hnext : c.next = some (c.batchTurn id .connect [] rest) := by
          simp only [Config.next, hstack]
        obtain rfl := Option.some.inj (h.symm.trans hnext)
        rcases batch_of_batchTurn hmem with heq | hrest
        · simp at heq
        · exact absurd hconnect (hbelow hrest)
      · exact absurd hconnect (hbelow hrest)
  · -- its first event had its turn, and that was the only one
    obtain ⟨heq, -⟩ := hc.innermost id _ rest hturn (List.mem_cons_of_mem _ hconnect)
    rw [(List.cons.inj heq).2] at hconnect
    simp at hconnect
  · obtain ⟨b, hcalls, hnext⟩ := exists_callsBack hcallback
    obtain rfl := Option.some.inj (h.symm.trans hnext)
    have hnone (id' : SocketId) (events' : List SocketEvent)
        (hmem' : .batch id' events' ∈ Frame.callback token :: b.stack) :
        SocketEvent.connect ∉ events' :=
      hc.not_mem_of_callback hcallback (hcalls.batch_mem (by simpa using hmem'))
    rcases batch_of_report hmem with hold | ⟨signalled, world, hdeliver, -, hevents, heq⟩
    · exact absurd hconnect (hnone _ _ hold)
    · have hsignalled : SocketEvent.connect ∈ signalled := by
        rw [← EventSet.mem_events, ← hevents]
        exact hconnect
      have hrole : (s.subscription.enabled.signalled ready).OneRole := by
        exact (hsound _ _ hs).subscription.oneRole.anti fun _ => EventSet.mem_of_mem_signalled
      obtain ⟨t, outcome, ht, hresolved⟩ :=
        World.resolved_of_deliver (hw.quiet hcalls.quiet) hdeliver hsignalled
      refine ⟨_, ?_, EventSet.events_eq_connect hrole (EventSet.mem_events.1 hconnect), hnone,
        t, outcome, ?_, hresolved⟩
      · rw [callBack, heq, hevents]
        rfl
      · rw [callBack, heq]
        exact ht

/-- **Every moment keeps a run poised.** -/
theorem Poised.next (hc : c.Poised) (h : c.next = some d) (hw : c.world.Orderly)
    (hsound : ∀ id s, c.world.socket? id = some s → s.Sound) : d.Poised := by
  constructor
  · intro id events hmem hconnect
    obtain ⟨rest, hstack, -, hrest, -⟩ :=
      hc.reported h hw hsound (List.mem_of_mem_tail hmem) hconnect
    rw [hstack] at hmem
    exact hrest id events hmem hconnect
  · intro id events rest hstack hconnect
    have hmem : .batch id events ∈ d.stack := by
      rw [hstack]
      exact List.mem_cons_self
    obtain ⟨-, -, hevents, -, s, outcome, hs, hresolved⟩ := hc.reported h hw hsound hmem hconnect
    refine ⟨hevents, fun t ht => ⟨outcome, ?_⟩⟩
    rwa [Option.some.inj (ht.symm.trans hs)]

/-- **Every run is poised** at every moment. -/
theorem poised_of_reaches {kind : ReactorKind} {program : List Step}
    (hrun : (Config.initial kind program).Reaches c) : c.Poised := by
  induction hrun with
  | refl =>
    constructor
    · intro id events hmem
      simp [Config.initial] at hmem
    · intro id events rest hstack
      simp [Config.initial] at hstack
  | @tail b c hrun hnext ih =>
    have hsound := Reaches.invariant (I := fun w => ∀ id s, w.socket? id = some s → s.Sound) hrun
      (World.Orderly.initial kind) (fun _ _ _ hact _ => hact.sound) fun id s hs => by
        simp [Config.initial, World.initial, World.socket?] at hs
    exact ih.next hnext (Reaches.orderly hrun) hsound

/-- **A handler that is told of a connect finds its outcome.** -/
theorem Calls.resolved {b : Config} {handler : HandlerRef} {notice : Notice}
    (h : Calls c b handler notice) (hw : c.world.Orderly) (hc : c.Poised)
    (htells : notice.TellsConnect id) :
    ∃ s outcome, (b.invoke handler notice).world.socket? id = some s ∧
      s.connect = .resolved outcome := by
  rw [(quiet_invoke b handler notice).socket? id]
  cases h with
  | event stack turn =>
    obtain ⟨hid, hevent⟩ := htells
    rw [hid, hevent] at stack turn
    rcases World.turn_cases hw id .connect with ⟨-, habandoned⟩ | ⟨s, hs, -⟩
    · simp [habandoned] at turn
    · obtain ⟨outcome, hresolved⟩ := (hc.innermost _ _ _ stack List.mem_cons_self).2 s hs
      exact ⟨s, outcome, hs, hresolved⟩
  | events calls delivered nonempty handled =>
    obtain ⟨rfl, hconnect⟩ := htells
    exact World.resolved_of_deliver (hw.quiet calls.quiet) delivered hconnect
  | ready calls => exact htells.elim

/-! ## Every run -/

/-- How the sockets of a run connect, up to a moment and in the next one. -/
structure Connects (start c : Config) : Prop where
  /-- The next moment does one of a few things to the connect of a socket. -/
  turn : ∀ d new s t, c.next = some d → d.history = c.history ++ new →
    c.world.socket? s.id = some s → d.world.socket? s.id = some t → c.ConnectTurn d new s t
  /-- A socket that the next moment opens is idle. -/
  opened : ∀ d id t, c.next = some d → c.world.socket? id = none →
    d.world.socket? id = some t → t.connect = .idle
  /-- Notes can be taken of every connect. -/
  noted : ∀ id, ∃ log, Noted (milestones id) start c log
  /-- What happened to a connect so far were whole rounds and the beginning of one more, which led
  to the state in which the socket is. -/
  rounds : ∀ id log, Noted (milestones id) start c log →
    ∃ state, Rounds log state ∧ ∀ s, c.world.socket? id = some s → s.connect = state
  /-- Between two connects that were started one outcome was learned, and it was given away. -/
  between : ∀ id first middle last,
    Noted (milestones id) start c (first ++ .started :: (middle ++ .started :: last)) →
      .started ∉ middle → ∃ outcome, middle = [.settled outcome, .taken outcome]
  /-- A handler that the next moment tells of a connect finds its outcome. -/
  told : ∀ d new handler label notice id, c.next = some d → d.history = c.history ++ new →
    .entered handler label notice ∈ new → notice.TellsConnect id →
      ∃ s outcome, d.world.socket? id = some s ∧ s.connect = .resolved outcome

/-- **No outcome of a connect is lost, overwritten or given away twice**, and no handler is told of
a connect that is not over. -/
theorem connects_of_reaches {kind : ReactorKind} {program : List Step}
    (hrun : (Config.initial kind program).Reaches c) :
    Connects (Config.initial kind program) c := by
  have hw := Reaches.orderly hrun
  constructor
  · intro d new s t hnext hnew hs ht
    exact connectTurn_of_next hnext hw hnew hs ht
  · intro d id t hnext hclosed ht
    exact (unused_of_opened hnext hw hclosed ht).1.connect
  · exact fun id => exists_noted (milestones id) hrun
  · intro id log hlog
    obtain ⟨state, hrounds, hstate, -⟩ := rounds_of_noted hlog
    exact ⟨state, hrounds, hstate⟩
  · intro id first middle last hlog hmiddle
    obtain ⟨state, hrounds, -⟩ := rounds_of_noted hlog
    exact hrounds.between rfl hmiddle
  · intro d new handler label notice id hnext hnew hmem htells
    obtain ⟨b, hcalls, rfl, -⟩ := calls_of_entered hnext hw hnew hmem
    exact hcalls.resolved hw (poised_of_reaches hrun) htells

end Config

/-! ### Connecting twice -/

/-- A port of the host itself. -/
def localPort : Address :=
  .v4 ⟨127, 0, 0, 1⟩ 80

/-- A connect is left in progress and then refused. The handler takes the outcome, and after that
another connect is started. -/
def reconnectingProgram : List Step :=
  [.plain (.command (.openSocket "a" .ipv4 .stream .standard)),
    .plain (.command (.change "a"
      (.addHandler .connect [[.plain (.command (.request "a" .connectResult))]]))),
    .plain (.command (.change "a" (.enable .connect))),
    ⟨.command (.request "a" (.connect localPort)), .only .connect [.failure Errno.inProgress],
      ⟨none, false⟩⟩,
    ⟨.fire 1 ⟨false, true, 0⟩,
      .only .pendingError [.success { pendingError := Errno.connectionRefused }], ⟨none, false⟩⟩,
    ⟨.command (.request "a" (.connect localPort)), .only .connect [.failure Errno.inProgress],
      ⟨none, false⟩⟩]

/-- The refusal was learned once, the handler that was told of it found it, and it was given away
before the next connect was started. -/
theorem connects_when_refused :
    let start := Config.initial .retaining reconnectingProgram
    Config.Connects start (start.skip 5) ∧
      (∃ s outcome, (start.skip 6).world.socket? 1 = some s ∧ s.connect = .resolved outcome) ∧
      Config.Noted (Config.milestones 1) start (start.skip 12)
        [.started, .settled (some .connectionRefused), .taken (some .connectionRefused),
          .started] ∧
      ((start.skip 12).world.socket? 1).map Socket.connect = some .pending := by
  have hconnects := Config.connects_of_reaches
    (Config.reaches_skip 5 (Config.initial .retaining reconnectingProgram))
  have hentered : ((Config.initial .retaining reconnectingProgram).skip 6).history =
      ((Config.initial .retaining reconnectingProgram).skip 5).history ++
        [.entered 0 "a" (.event 1 .connect)] :=
    rfl
  have htold := hconnects.told _ _ 0 "a" (.event 1 .connect) 1 rfl hentered
    (List.mem_singleton_self _) ⟨rfl, rfl⟩
  have hnotes := Config.noted_notes (Config.milestones 1) 12
    (Config.initial .retaining reconnectingProgram)
  exact ⟨hconnects, htold, hnotes, by decide⟩

end SocketLoop