import SocketLoop.Proofs.Run.Dispatch
import SocketLoop.Proofs.Socket.Request
import SocketLoop.Proofs.World.Steady

/-!
# Requests and deliveries in a run

A request to a socket, and readiness that is delivered to one, take one moment each. This module
says what such a moment records and what it leaves of the socket, in terms of the session in which
the operation runs.

* **`exists_requested`**: the moment of a request.
* **`exists_delivered`**: the moment of a delivery.
* `next_steady`: all other moments leave the socket alone as far as connecting and receiving go.
* `Noted` collects what is noted of each moment along a run.
-/

namespace SocketLoop

/-- The reply to an operation on a socket. -/
def Reply.ofResult : EStateM.Result Halt Session Value → Reply
  | .ok value _ => .ok value
  | .error halt _ => .ofHalt halt

/-- The reply with which a step ends. -/
def Event.reply? : Event → Option Reply
  | .ended reply _ => some reply
  | _ => none

/-- The first reply in a history. -/
def replyOf? (history : History) : Option Reply :=
  history.findSome? Event.reply?

/-- What readiness does to a socket whose count of receives was reset: a connect is settled if that
is signalled. -/
def Session.delivered (ready : Readiness) (session : Session) : Except Breach Unit × Session :=
  if SocketEvent.connect ∈ session.socket.subscription.enabled.signalled ready then
    session.settleConnect
  else (.ok (), session)

/-- Readiness changes the connect state at most, and makes no call but for the pending error. -/
theorem Session.keeps_delivered (ready : Readiness) (session : Session) :
    session.Keeps (fun s t => t = { s with connect := t.connect }) session.socket.fd
      [.pendingError] (session.delivered ready).2 := by
  unfold delivered
  split
  · exact session.keeps_settleConnect
  · exact ⟨rfl, Grows.refl _⟩

/-- Delivering readiness to an open socket. -/
theorem World.deliver_of_open {w : World} (hw : w.Orderly) {id : SocketId} {s : Socket}
    (hs : w.socket? id = some s) (ready : Readiness) :
    w.deliver id ready =
      let result := Session.delivered ready ⟨{ s with receiveCount := 0 }, w.kernel⟩
      (result.1.map fun _ => s.subscription.enabled.signalled ready, w.restore result.2) := by
  have hlive := (hw.isLive_iff id).2 ⟨s, hs⟩
  unfold deliver Session.delivered
  rw [hlive, hs]
  simp only [Bool.not_true, Bool.false_eq_true, ↓reduceIte]
  split
  · split <;> rename_i hsettled <;> rw [hsettled] <;> rfl
  · rfl

namespace Config

variable {c d : Config} {s : Socket} {id : SocketId}

/-! ## Requests -/

/-- An operation on a socket is carried out in a session of it. -/
theorem carryOut_perform (c : Config) (s : Socket) (op : SocketM Value) :
    c.carryOut (World.perform s op) =
      (.ofResult (op ⟨s, c.world.kernel⟩),
        { c with world := c.world.restore (op.after ⟨s, c.world.kernel⟩) }) := by
  simp only [carryOut, World.perform, SocketM.after]
  cases op ⟨s, c.world.kernel⟩ <;> rfl

/-- What the end of a step records: the reply, and after a breach what it leaves. -/
structure Ends (c d : Config) (reply : Reply) (before : History) : Prop where
  history : ∃ status unwound, d.history = before ++ .ended reply status :: unwound ∧
    (∀ e ∈ unwound, e.IsMark) ∧ ((∀ breach, reply ≠ .breached breach) → unwound = [])
  reactor : (∀ breach, reply ≠ .breached breach) → d.world.reactor = c.world.reactor

/-- Every step ends so. -/
theorem ends_endStep (c : Config) (reply : Reply) (ending : StepEnding) :
    c.Ends (c.endStep reply ending) reply c.history := by
  obtain ⟨unwound, hunwound, hmarks⟩ := (endStep_after_record c reply ending).history
  constructor
  · refine ⟨c.statusOf? ending.watched, unwound, ?_, hmarks, fun hreply => ?_⟩
    · exact hunwound.trans (List.append_assoc _ _ _)
    · rw [c.endStep_eq_record ending hreply] at hunwound
      exact List.append_right_eq_self.1 hunwound.symm
  · intro hreply
    rw [c.endStep_eq_record ending hreply]
    rfl

/-- The moment from one configuration to another carries out a request, in a session that begins
like this. -/
structure Requested (c d : Config) (s : Socket) (request : Request) (a : Session) : Prop where
  socket : a.socket = s
  began : a.kernel.history = c.history ++ [.began]
  /-- Nothing but the socket is changed, and it becomes what the request makes of it. -/
  world : (c.world.restore (SocketM.after request.run a)).Quiet (fun _ => True) d.world
  ends : c.Ends d (.ofResult (request.run a)) (SocketM.after request.run a).kernel.history

/-- **A request takes one moment.** -/
theorem exists_requested {request : Request} (h : c.next = some d)
    (hdeed : c.deed = .request s request) : ∃ a, c.Requested d s request a := by
  have hasks := c.asks_deed
  rw [hdeed] at hasks
  cases hasks with
  | @command command answers ending steps script isHandler rest _ hstack hleads =>
    cases hleads with
    | @request name _ _ named =>
      obtain ⟨b, hbegins, hbegan, hnext⟩ := next_command hstack
      obtain rfl := Option.some.inj (h.symm.trans hnext)
      rw [← hbegins.socketOf?] at named
      simp only [execute, withSocket, named, carryOut_perform]
      refine ⟨⟨s, b.world.kernel⟩, rfl, hbegan, ?_, ?_⟩
      · have hquiet := hbegins.quiet
        have hended := endStep_after_record
          { b with world := b.world.restore (SocketM.after request.run ⟨s, b.world.kernel⟩) }
          (.ofResult (request.run ⟨s, b.world.kernel⟩)) ending
        refine World.Quiet.trans ?_ (hended.mono fun _ _ => trivial)
        refine ⟨hquiet.registry, ?_, hquiet.kind, hquiet.nextToken, hquiet.table,
          Grows.single _ trivial⟩
        exact congrArg (fun sockets => Table.set sockets _ _) hquiet.sockets
      · have hends := ends_endStep
          { b with world := b.world.restore (SocketM.after request.run ⟨s, b.world.kernel⟩) }
          (.ofResult (request.run ⟨s, b.world.kernel⟩)) ending
        refine ⟨hends.history, fun hreply => (hends.reactor hreply).trans ?_⟩
        obtain ⟨_⟩ := hbegins
        rfl

namespace Requested

variable {request : Request} {a : Session}

/-- The socket becomes what the request makes of it. -/
theorem socket? (h : c.Requested d s request a) (hopen : c.world.socket? s.id = some s) :
    d.world.socket? s.id = some (SocketM.after request.run a).socket := by
  obtain ⟨later, hserves⟩ := request.serves_run a
  have hid := hserves.kept.id
  rw [h.socket] at hid
  rw [h.world.socket?]
  exact World.socket?_restore hopen hid

/-- What is recorded: the step begins, the request makes its calls, and the step ends. -/
theorem exists_new (h : c.Requested d s request a) {later new : History}
    (hlater : (SocketM.after request.run a).kernel.history = a.kernel.history ++ later)
    (hnew : d.history = c.history ++ new) :
    ∃ status unwound,
      new = .began :: (later ++ .ended (.ofResult (request.run a)) status :: unwound) ∧
      (∀ e ∈ unwound, e.IsMark) ∧
      ((∀ breach, Reply.ofResult (request.run a) ≠ .breached breach) → unwound = []) := by
  obtain ⟨status, unwound, hended, hunwound⟩ := h.ends.history
  refine ⟨status, unwound, List.append_cancel_left (hnew.symm.trans ?_), hunwound⟩
  rw [hended, hlater, h.began, List.append_assoc, List.append_assoc]
  rfl

/-- The calls that are recorded are those of the request. -/
theorem callsOf_eq (h : c.Requested d s request a) {later new : History}
    (hlater : (SocketM.after request.run a).kernel.history = a.kernel.history ++ later)
    (hnew : d.history = c.history ++ new) : callsOf new = callsOf later := by
  obtain ⟨status, unwound, rfl, hmarks, -⟩ := h.exists_new hlater hnew
  have hunwound := callsOf_of_isBracket fun e he => (hmarks e he).isBracket
  change callsOf (later ++ .ended _ status :: unwound) = callsOf later
  rw [callsOf_append]
  change callsOf later ++ callsOf unwound = callsOf later
  rw [hunwound, List.append_nil]

/-- The step ends with the reply to the request. -/
theorem replyOf?_eq (h : c.Requested d s request a) {new : History}
    (hnew : d.history = c.history ++ new) :
    replyOf? new = some (.ofResult (request.run a)) := by
  obtain ⟨later, hserves⟩ := request.serves_run a
  obtain ⟨status, unwound, rfl, -⟩ := h.exists_new hserves.history hnew
  have hnone : later.findSome? Event.reply? = none := by
    refine List.findSome?_eq_none_iff.2 fun e he => ?_
    have hsystem := hserves.system e he
    cases e with
    | ended reply status => exact hsystem.elim
    | _ => rfl
  change (later ++ .ended _ status :: unwound).findSome? Event.reply? = _
  rw [List.findSome?_append, hnone]
  rfl

end Requested

/-! ## Deliveries -/

/-- The moment from one configuration to another delivers readiness to an open socket, in a session
that begins like this. -/
structure Delivered (c d : Config) (s : Socket) (ready : Readiness) (a : Session) : Prop where
  socket : a.socket = { s with receiveCount := 0 }
  marks : Grows Event.IsMark c.history a.kernel.history
  /-- Nothing but the socket is changed, and it becomes what the delivery makes of it. -/
  world : (c.world.restore (a.delivered ready).2).Quiet Event.IsBracket d.world
  breached : ∀ breach, (a.delivered ready).1 = .error breach → Breached c.history d.history

/-- **A delivery takes one moment.** -/
theorem exists_delivered {ready : Readiness} (h : c.next = some d) (hw : c.world.Orderly)
    (hdeed : c.deed = .deliver id ready) (hs : c.world.socket? id = some s) :
    ∃ a, c.Delivered d s ready a := by
  have hasks := c.asks_deed
  rw [hdeed] at hasks
  cases hasks with
  | command hstack hleads => cases hleads
  | @deliver token _ _ hcallback =>
    obtain ⟨b, hcalls, hnext⟩ := exists_callsBack hcallback
    obtain rfl := Option.some.inj (h.symm.trans hnext)
    have hquiet := hcalls.quiet
    have hdeliver := World.deliver_of_open (hw.quiet hquiet) ((hquiet.socket? id).trans hs) ready
    have hreport := quiet_report (b.enterCallback token) id ready
    simp only [Deed.run, hdeliver] at hreport
    refine ⟨⟨{ s with receiveCount := 0 }, (b.enterCallback token).world.kernel⟩, rfl,
      hquiet.history, World.Quiet.trans ?_ hreport, fun breach hbreach => ?_⟩
    · refine ⟨hquiet.registry, ?_, hquiet.kind, hquiet.nextToken, hquiet.table, Grows.refl _⟩
      exact congrArg (fun sockets => Table.set sockets _ _) hquiet.sockets
    · simp only [hbreach, Except.map] at hdeliver
      exact (hcalls.report_breach hw hdeliver).2

namespace Delivered

variable {ready : Readiness} {a : Session}

/-- The socket becomes what the delivery makes of it. -/
theorem socket? (h : c.Delivered d s ready a) (hopen : c.world.socket? s.id = some s) :
    d.world.socket? s.id = some (a.delivered ready).2.socket := by
  have hid : (a.delivered ready).2.socket.id = s.id := by
    rw [(a.keeps_delivered ready).socket, h.socket]
  rw [h.world.socket?]
  exact World.socket?_restore hopen hid

/-- The calls that are recorded are those of the delivery. -/
theorem callsOf_eq (h : c.Delivered d s ready a) {later new : History}
    (hlater : (a.delivered ready).2.kernel.history = a.kernel.history ++ later)
    (hnew : d.history = c.history ++ new) : callsOf new = callsOf later := by
  obtain ⟨first, hfirst, hmarks⟩ := h.marks
  obtain ⟨last, hlast, hbrackets⟩ := h.world.history
  have hsplit : new = first ++ later ++ last := by
    refine List.append_cancel_left (hnew.symm.trans ?_)
    have hrestored : (c.world.restore (a.delivered ready).2).kernel.history =
        c.history ++ (first ++ later) := by
      rw [← List.append_assoc, ← hfirst, ← hlater]
      rfl
    rw [history, hlast, hrestored, List.append_assoc]
  rw [hsplit, callsOf_append, callsOf_append,
    callsOf_of_isBracket fun e he => (hmarks e he).isBracket, callsOf_of_isBracket hbrackets,
    List.nil_append, List.append_nil]

end Delivered

/-! ## All other moments -/

/-- A moment leaves every socket steady but the open one that its deed concerns. -/
theorem next_steady (h : c.next = some d) (hw : c.world.Orderly)
    (hother : c.deed.concerned? = some id → c.world.socket? id = none) :
    c.world.Steady id d.world := by
  obtain ⟨w, hbefore, hafter⟩ := next_world h
  have hdeed := Deed.steady_run (hw.quiet hbefore) ((fits_deed hw).quiet hbefore) fun hconcerned =>
    (hbefore.socket? id).trans (hother hconcerned)
  exact ((World.Steady.of_quiet hbefore).trans hdeed).trans (.of_quiet hafter)

/-- A socket that is freed is not open afterwards. -/
theorem closed_of_free (h : c.next = some d) (hdeed : c.deed = .free s) :
    d.world.socket? s.id = none := by
  obtain ⟨w, -, hafter⟩ := next_world h
  rw [hafter.socket?, hdeed]
  simp only [Deed.run, World.free, World.deregister, World.close, World.record, World.socket?,
    Table.get?_erase, ↓reduceIte]

/-- A run that has something to do goes on. -/
theorem exists_next_of_deed (h : c.deed ≠ .nothing) : ∃ d, c.next = some d := by
  refine exists_next fun hnil => h ?_
  simp only [deed, callback?, hnil]

/-- A request is made to an open socket. -/
theorem open_of_request {request : Request} (hw : c.world.Orderly)
    (hdeed : c.deed = .request s request) : c.world.socket? s.id = some s := by
  have hfits := fits_deed hw
  rw [hdeed] at hfits
  exact hfits s rfl

/-- **What concerns a socket that stays open** is a request to it, or readiness that is delivered to
it. All else keeps it steady. -/
theorem concerned_cases (h : c.next = some d) (hw : c.world.Orderly)
    (hs : c.world.socket? s.id = some s) {t : Socket} (ht : d.world.socket? s.id = some t) :
    (∃ request, c.deed = .request s request) ∨ (∃ ready, c.deed = .deliver s.id ready) ∨
      c.deed.concerned? ≠ some s.id ∧ s.Steady t := by
  by_cases hconcerned : c.deed.concerned? = some s.id
  · cases hdeed : c.deed with
    | request s' request =>
      rw [hdeed] at hconcerned
      have hs' := open_of_request hw hdeed
      rw [Option.some.inj hconcerned] at hs'
      obtain rfl := Option.some.inj (hs.symm.trans hs')
      exact .inl ⟨request, rfl⟩
    | deliver id ready =>
      rw [hdeed] at hconcerned
      obtain rfl := Option.some.inj hconcerned
      exact .inr (.inl ⟨ready, rfl⟩)
    | free s' =>
      rw [hdeed] at hconcerned
      have hclosed := closed_of_free h hdeed
      rw [Option.some.inj hconcerned, ht] at hclosed
      simp at hclosed
    | _ => simp [hdeed, Deed.concerned?] at hconcerned
  · obtain ⟨t', ht', hsteady⟩ := (next_steady h hw fun heq => absurd heq hconcerned).stays s hs
    obtain rfl := Option.some.inj (ht.symm.trans ht')
    exact .inr (.inr ⟨hconcerned, hsteady⟩)

/-- A socket that opens is unused, and its identity is new. -/
theorem unused_of_opened (h : c.next = some d) (hw : c.world.Orderly)
    (hclosed : c.world.socket? id = none) {t : Socket} (ht : d.world.socket? id = some t) :
    t.Unused ∧ c.world.registry.nextId ≤ id := by
  refine ⟨(next_steady h hw fun _ => hclosed).unused t hclosed ht, Nat.le_of_not_lt fun hlt => ?_⟩
  have hstays := (next_acts h hw).invariant
    (I := fun w => id < w.registry.nextId ∧ w.socket? id = none)
    (fun _ _ hact hgone => hact.stays_closed hgone) ⟨hlt, hclosed⟩
  simp [hstays.2] at ht

/-- Readiness that is delivered to a socket that is not open is not even a call. -/
theorem callsOf_of_closed {ready : Readiness} (h : c.next = some d)
    (hdeed : c.deed = .deliver id ready) (hclosed : c.world.socket? id = none) {new : History}
    (hnew : d.history = c.history ++ new) : callsOf new = [] := by
  obtain ⟨w, hbefore, hafter⟩ := next_world h
  have hnothing : c.deed.run w = w := by
    have hnone : w.socket? id = none := (hbefore.socket? id).trans hclosed
    simp only [hdeed, Deed.run, World.deliver, hnone]
    split <;> rfl
  rw [hnothing] at hafter
  have hgrows := (hbefore.history.mono fun _ he => he.isBracket).trans hafter.history
  exact callsOf_of_isBracket (hgrows.forall_of_eq hnew)

/-! ## Notes along a run -/

/-- What a moment records. -/
def recorded (c d : Config) : History :=
  d.history.drop c.history.length

/-- What a moment records is what it adds to the history. -/
theorem recorded_eq {new : History} (h : d.history = c.history ++ new) : c.recorded d = new := by
  rw [recorded, h, List.drop_left]

/-- What is noted of the moments of a run, one after the other. -/
inductive Noted {α : Type} (note : Config → Config → List α) (start : Config) :
    Config → List α → Prop
  | start : Noted note start start []
  | next {c d : Config} {log : List α} (before : Noted note start c log) (next : c.next = some d) :
      Noted note start d (log ++ note c d)

/-- Notes can be taken of every run. -/
theorem exists_noted {α : Type} (note : Config → Config → List α) {start : Config}
    (h : start.Reaches c) : ∃ log, Noted note start c log := by
  induction h with
  | refl => exact ⟨[], .start⟩
  | tail _ hnext ih =>
    obtain ⟨log, hlog⟩ := ih
    exact ⟨_, .next hlog hnext⟩

/-- Notes are taken of a run. -/
theorem Noted.reaches {α : Type} {note : Config → Config → List α} {start : Config} {log : List α}
    (h : Noted note start c log) : start.Reaches c := by
  induction h with
  | start => exact .refl
  | next _ hnext ih => exact ih.tail hnext

/-- What is noted of the first moment comes before what is noted of the later ones. -/
theorem Noted.head {α : Type} {note : Config → Config → List α} {start b : Config} {log : List α}
    (hnext : start.next = some b) (h : Noted note b c log) :
    Noted note start c (note start b ++ log) := by
  induction h with
  | start =>
    rw [List.append_nil]
    exact .next .start hnext
  | next _ hlast ih =>
    rw [← List.append_assoc]
    exact ih.next hlast

/-- What is noted of the first moments of a run. -/
def notes {α : Type} (note : Config → Config → List α) : Nat → Config → List α
  | 0, _ => []
  | n + 1, c => c.next.elim [] fun d => note c d ++ notes note n d

/-- That is what is noted of them. -/
theorem noted_notes {α : Type} (note : Config → Config → List α) (n : Nat) (c : Config) :
    Noted note c (c.skip n) (notes note n c) := by
  induction n generalizing c with
  | zero => exact .start
  | succ n ih =>
    unfold skip notes
    cases h : c.next with
    | none => exact .start
    | some d => exact (ih d).head h

end Config

end SocketLoop
