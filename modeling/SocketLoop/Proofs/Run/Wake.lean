import SocketLoop.Proofs.Run.Registered
import SocketLoop.Proofs.Run.Stack

/-!
# One wake of a polling reactor

A wait reports conditions for the registrations that had an interest when it began. Then each of
them has its turn, in the order of the tokens, while the callbacks that are called may add, change
and remove registrations, and may wait themselves.

* `Reactor.Learns` says what a wait learns from the answer of the operating system.
* `Wakes` follows a wake to its end, and says of each reported registration what became of it: it
  was called with the directions that are ready and still of interest at its turn, or it was passed
  over because it is gone or none are; or the wake was broken off.
* `exists_wakes`: every wake is one of these.
* **`woken_of_reaches`**: what a wait leads to, at every moment of every run. The calls come in the
  order of the report, at most one for each registration; what is called under a token is the
  registration that was waited for; and the wake returns the number of its calls.
-/

namespace SocketLoop

/-! ## The wait -/

/-- The conditions that signal reading are input, error and hang-up; those that signal writing are
output, error and hang-up. -/
theorem Revents.mem_readiness (r : Revents) :
    (r.readiness.read = true ↔
      r.getLsbD 0 = true ∨ r.getLsbD 3 = true ∨ r.getLsbD 4 = true) ∧
    (r.readiness.write = true ↔
      r.getLsbD 2 = true ∨ r.getLsbD 3 = true ∨ r.getLsbD 4 = true) ∧
    r.readiness.other = 0 := by
  simp only [Revents.readiness, Revents.input, Revents.output, Revents.failure, Revents.hangUp,
    Bool.or_eq_true]
  refine ⟨?_, ?_, trivial⟩
  · rw [or_assoc, or_comm (a := r.getLsbD 4 = true)]
  · rw [or_assoc, or_comm (a := r.getLsbD 4 = true)]

/-- No condition signals nothing. -/
theorem Revents.readiness_zero : Revents.readiness 0 = ∅ := rfl

namespace Reactor

/-- A wait asks about the registrations that have an interest. -/
theorem mem_watched_iff {reactor : Reactor} (hrows : reactor.table.keys.Pairwise (· < ·))
    {token : Token} {row : Registration} :
    (token, row) ∈ reactor.watched ↔
      reactor.table.get? token = some row ∧ row.interest ≠ ∅ := by
  rw [watched, List.mem_filter, Bool.not_eq_true', ← Bool.not_eq_true, Readiness.isEmpty_iff]
  exact and_congr_left fun _ => ⟨Table.get?_of_mem_rows hrows, Table.mem_rows_of_get?⟩

/-- The registrations that a wait asks about come in the order of their tokens. -/
theorem watched_increasing {reactor : Reactor} (hrows : reactor.table.keys.Pairwise (· < ·)) :
    (reactor.watched.map Prod.fst).Pairwise (· < ·) :=
  hrows.sublist (List.filter_sublist.map Prod.fst)

/-- The call that a wait makes. -/
def poll (reactor : Reactor) (timeout : Option Duration) : Syscall :=
  .poll (reactor.watched.map fun row => waitEntry row.2) (waitTimeout timeout)

/-- The conditions that are reported for the registrations that a wait asked about. -/
def reports (reactor : Reactor) (delivery : Delivery) : List (Token × Revents) :=
  (reactor.watched.map Prod.fst).zip (delivery.reventsFor reactor.watched.length)

/-- Every registration that a wait asked about is reported, in order. -/
theorem map_fst_reports (reactor : Reactor) (delivery : Delivery) :
    (reactor.reports delivery).map Prod.fst = reactor.watched.map Prod.fst := by
  rw [reports, List.map_fst_zip]
  simp [Delivery.reventsFor]

/-- What a wait learns from an answer, and the calls that it makes for it. -/
inductive Learns (reactor : Reactor) (timeout : Option Duration) (answer : Answer) :
    Except ReactorError (List (Token × Revents)) → History → Prop
  /-- Nobody has an interest, and nothing is asked. -/
  | unwatched (isUnwatched : reactor.watched = []) : Learns reactor timeout answer (.ok []) []
  | interrupted (isWatched : reactor.watched ≠ [])
      (answer_eq : answer = .failure Errno.interrupted) :
      Learns reactor timeout answer (.ok [])
        [.called (reactor.poll timeout) (.error Errno.interrupted)]
  | failed {code : Errno} (isWatched : reactor.watched ≠ []) (answer_eq : answer = .failure code)
      (isFailure : code ≠ Errno.interrupted) :
      Learns reactor timeout answer (.error (.wait (.errno code)))
        [.called (reactor.poll timeout) (.error code)]
  | reported {delivery : Delivery} {n : Int} (isWatched : reactor.watched ≠ [])
      (answer_eq : answer = .success delivery) :
      Learns reactor timeout answer (.ok (reactor.reports delivery))
        [.called (reactor.poll timeout) (.ok n)]

/-- Either nothing is reported, or every registration that a wait asked about. -/
theorem Learns.visits {reactor : Reactor} {timeout : Option Duration} {answer : Answer}
    {reports : List (Token × Revents)} {calls : History}
    (h : reactor.Learns timeout answer (.ok reports) calls) :
    reports = [] ∨ reports.map Prod.fst = reactor.watched.map Prod.fst := by
  cases h with
  | unwatched _ | interrupted _ _ => exact .inl rfl
  | reported _ _ => exact .inr (reactor.map_fst_reports _)

end Reactor

namespace World

variable {w : World} {token : Token} {revents : Revents}

/-- A wait learns from the next answer, and leaves the registrations as they are. -/
theorem learns_wait (w : World) (timeout : Option Duration) :
    ∃ calls, (w.wait timeout).2.kernel.history = w.kernel.history ++ calls ∧
      (w.wait timeout).2.reactor = w.reactor ∧
      w.reactor.Learns timeout (w.kernel.script.next .poll).1 (w.wait timeout).1 calls := by
  unfold wait
  dsimp only
  split
  · rename_i hempty
    exact ⟨[], (List.append_nil _).symm, rfl, .unwatched (List.isEmpty_iff.1 hempty)⟩
  · rename_i hempty
    have hwatched : w.reactor.watched ≠ [] := fun hnil => hempty (List.isEmpty_iff.2 hnil)
    rcases hnext : w.kernel.script.next .poll with ⟨code | delivery, script⟩
    · simp only [call, Kernel.call, Syscall.kind, hnext]
      split
      · rename_i hcode
        subst hcode
        exact ⟨_, rfl, rfl, .interrupted hwatched rfl⟩
      · rename_i hcode
        exact ⟨_, rfl, rfl, .failed hwatched rfl hcode⟩
    · simp only [call, Kernel.call, Syscall.kind, hnext]
      refine ⟨_, rfl, trivial, ?_⟩
      simp only [Syscall.complete, List.length_map]
      exact .reported hwatched rfl

/-- A registration is passed over if it is gone, or if nothing that is reported is of interest. -/
theorem readyCallback?_eq_none_iff :
    w.readyCallback? token revents = none ↔
      ∀ row, w.reactor.table.get? token = some row → revents.readiness ∩ row.interest = ∅ := by
  unfold readyCallback?
  by_cases hzero : revents = 0
  · subst hzero
    have hnone (row : Registration) : Revents.readiness 0 ∩ row.interest = ∅ := by
      rw [Revents.readiness_zero]
      exact Readiness.ext (Bool.false_and row.interest.read) (Bool.false_and row.interest.write)
        BitVec.zero_and
    simp only [↓reduceIte, true_iff]
    exact fun row _ => hnone row
  · rw [if_neg hzero]
    cases w.reactor.table.get? token with
    | none => simp
    | some row => simp [Readiness.isEmpty_iff]

/-- A registration is called with what is reported and of interest, if that is anything. -/
theorem readyCallback?_eq_some {callback : Callback} {ready : Readiness}
    (h : w.readyCallback? token revents = some (callback, ready)) :
    ∃ row, w.reactor.table.get? token = some row ∧ callback = row.callback ∧
      ready = revents.readiness ∩ row.interest ∧ ready ≠ ∅ := by
  unfold readyCallback? at h
  split at h
  · simp at h
  split at h
  · simp at h
  rename_i row hrow
  dsimp only at h
  split at h
  · simp at h
  · rename_i hready
    obtain ⟨rfl, rfl⟩ := Prod.mk.inj (Option.some.inj h)
    exact ⟨row, hrow, rfl, rfl, fun hempty => hready ((Readiness.isEmpty_iff _).2 hempty)⟩

end World

/-! ## The turns -/

/-- A call of a callback in a wake: the registration as it was at its turn, with what was reported
for it. -/
structure WakeCall where
  token : Token
  row : Registration
  revents : Revents

namespace WakeCall

/-- What the callback was told: the directions that were ready and of interest. -/
def ready (call : WakeCall) : Readiness :=
  call.revents.readiness ∩ call.row.interest

/-- What the wait reported. -/
def report (call : WakeCall) : Token × Revents :=
  (call.token, call.revents)

/-- Input, an error and a hang-up are told as reading, and output, an error and a hang-up as
writing, each if it is of interest at the time of the call. -/
structure Told (call : WakeCall) : Prop where
  read : call.ready.read = true ↔ call.row.interest.read = true ∧
    (call.revents.getLsbD 0 = true ∨ call.revents.getLsbD 3 = true ∨ call.revents.getLsbD 4 = true)
  write : call.ready.write = true ↔ call.row.interest.write = true ∧
    (call.revents.getLsbD 2 = true ∨ call.revents.getLsbD 3 = true ∨ call.revents.getLsbD 4 = true)
  other : call.ready.other = 0

/-- What is told is what is signalled and of interest. -/
theorem told (call : WakeCall) : call.Told := by
  obtain ⟨hread, hwrite, hother⟩ := call.revents.mem_readiness
  constructor
  · rw [← hread, and_comm]
    exact Bool.and_eq_true_iff
  · rw [← hwrite, and_comm]
    exact Bool.and_eq_true_iff
  · exact (congrArg (· &&& call.row.interest.other) hother).trans BitVec.zero_and

end WakeCall

namespace Config

variable {c d b : Config} {ending : StepEnding} {outer : List Frame}

/-- The next moment calls the callback of a registration that is ready, and goes on to this one. -/
structure CallsReady (ending : StepEnding) (outer : List Frame) (pending : List (Token × Revents))
    (count : Nat) (call : WakeCall) (c d : Config) : Prop where
  stack : c.stack = .wake ((call.token, call.revents) :: pending) count ending :: outer
  isRegistered : c.world.reactor.table.get? call.token = some call.row
  isReady : call.ready ≠ ∅
  isIdle : c.world.reactor.isActive call.token = false
  eq : d = Config.callBack { c with stack := .wake pending (count + 1) ending :: outer } call.token
    call.row.callback call.ready
  next : c.next = some d

/-- A wake takes its turns. The lists are those of the registrations that have still to be looked
at, and of the calls that are made for them; the number is the one that is returned in the end, if
the wake is not broken off. -/
inductive Wakes (ending : StepEnding) (outer : List Frame) :
    List (Token × Revents) → Nat → List WakeCall → Option Nat → Config → Config → Prop
  /-- No registration is left, and the step that waited ends. -/
  | finished {c d : Config} {count : Nat} (stack : c.stack = .wake [] count ending :: outer)
      (next : c.next = some d) {status : Option Status}
      (ended : d.history = c.history ++ [.ended (.ok (.callbacksRun count)) status])
      (left : d.stack = outer) : Wakes ending outer [] count [] (some count) c d
  /-- The registration is gone, or nothing that is ready is of interest. -/
  | passed {c d : Config} {token : Token} {revents : Revents} {pending : List (Token × Revents)}
      {count : Nat} {calls : List WakeCall} {result : Option Nat}
      (stack : c.stack = .wake ((token, revents) :: pending) count ending :: outer)
      (unready : ∀ row, c.world.reactor.table.get? token = some row →
        revents.readiness ∩ row.interest = ∅)
      (next : c.next = some { c with stack := .wake pending count ending :: outer })
      (later : Wakes ending outer pending count calls result
        { c with stack := .wake pending count ending :: outer } d) :
      Wakes ending outer ((token, revents) :: pending) count calls result c d
  /-- The callback is called and returns. -/
  | called {c b e d : Config} {call : WakeCall} {pending : List (Token × Revents)} {count : Nat}
      {calls : List WakeCall} {result : Option Nat}
      (begins : CallsReady ending outer pending count call c b)
      (body : Returns (.wake pending (count + 1) ending :: outer) b e)
      (later : Wakes ending outer pending (count + 1) calls result e d) :
      Wakes ending outer ((call.token, call.revents) :: pending) count (call :: calls) result c d
  /-- The callback is called, and a breach in it breaks the wake off: in the call itself, or
  later. -/
  | broken {c b d : Config} {call : WakeCall} {pending : List (Token × Revents)} {count : Nat}
      (begins : CallsReady ending outer pending count call c b)
      (body : (d = b ∧ Breached c.history b.history ∧ b.stack <:+ outer) ∨
        Breaks (.wake pending (count + 1) ending :: outer) b d) :
      Wakes ending outer ((call.token, call.revents) :: pending) count [call] none c d
  /-- The callback is to be called, but it is running already, and the wake breaks off. -/
  | running {c d : Config} {token : Token} {revents : Revents} {pending : List (Token × Revents)}
      {count : Nat} (stack : c.stack = .wake ((token, revents) :: pending) count ending :: outer)
      (isActive : c.world.reactor.isActive token = true) (next : c.next = some d)
      (breached : Breached c.history d.history) (left : d.stack <:+ outer) :
      Wakes ending outer ((token, revents) :: pending) count [] none c d

/-- **Every wake comes to its end** in one of these ways. -/
theorem exists_wakes (pending : List (Token × Revents)) (count : Nat) (hw : c.world.Orderly)
    (hstack : c.stack = .wake pending count ending :: outer) :
    ∃ calls result d, Wakes ending outer pending count calls result c d := by
  induction pending generalizing c count with
  | nil =>
    have hnext : c.next = some (({ c with stack := outer } : Config).endStep
        (.ok (.callbacksRun count)) ending) := by
      simp only [next, hstack]
    exact ⟨[], some count, _, .finished hstack hnext rfl rfl⟩
  | cons report pending ih =>
    obtain ⟨token, revents⟩ := report
    have hnext : c.next = some (c.wakeTurn token revents pending count ending outer) := by
      simp only [next, hstack]
    unfold wakeTurn at hnext
    split at hnext
    · rename_i hnone
      obtain ⟨calls, result, d, hlater⟩ := ih count (next_orderly hnext hw) rfl
      exact ⟨calls, result, d,
        .passed hstack (World.readyCallback?_eq_none_iff.1 hnone) hnext hlater⟩
    · rename_i callback ready hready
      obtain ⟨row, hrow, rfl, rfl, hnonempty⟩ := World.readyCallback?_eq_some hready
      split at hnext
      · rename_i hactive
        refine ⟨[], none, _, .running hstack hactive hnext ?_ ?_⟩
        · rw [hstack]
          exact breached_unwind_wake _ _ _ _ _ _
        · have hsuffix := stack_unwind_suffix .callbackRunning c c.stack
          rwa [hstack] at hsuffix ⊢
      · rename_i hidle
        have hwoken : c.world.wokenCallback? token revents =
            some (row.callback, revents.readiness ∩ row.interest) := by
          rw [World.wokenCallback?, if_neg hidle, hready]
        have hcalls := CallsBack.wake hstack hwoken
        have hbegins : CallsReady ending outer pending count ⟨token, row, revents⟩ c _ :=
          ⟨hstack, hrow, hnonempty, Bool.eq_false_iff.2 hidle, rfl, hnext⟩
        rcases hcalls.callBack_cases hw with hkept | ⟨hsuffix, hbreach⟩
        · have hw' := next_orderly hnext hw
          obtain ⟨e, hreturns | hbreaks⟩ := returns_or_breaks _ _ hw' hkept
          · obtain ⟨calls, result, d, hlater⟩ :=
              ih (count + 1) (Reaches.orderly_of hreturns.above.reaches hw') hreturns.stack
            exact ⟨_, result, d, .called hbegins hreturns hlater⟩
          · exact ⟨_, none, e, .broken hbegins (.inr hbreaks)⟩
        · exact ⟨_, none, _, .broken hbegins (.inl ⟨rfl, hbreach, hsuffix⟩)⟩

namespace Wakes

variable {pending : List (Token × Revents)} {count : Nat} {calls : List WakeCall}
  {result : Option Nat}

/-- The end of a wake is a later moment of the run. -/
theorem reaches (h : Wakes ending outer pending count calls result c d) : c.Reaches d := by
  induction h with
  | finished stack next ended left => exact .single next
  | passed stack unready next later ih => exact .head next ih
  | called begins body later ih => exact .head begins.next (body.above.reaches.trans ih)
  | broken begins body =>
    rcases body with ⟨rfl, -, -⟩ | ⟨e, habove, hnext, -, -⟩
    · exact .single begins.next
    · exact .head begins.next (habove.reaches.tail hnext)
  | running stack isActive next breached left => exact .single next

/-- The calls come in the order of the report, at most one for each registration in it. -/
theorem called_sublist (h : Wakes ending outer pending count calls result c d) :
    (calls.map WakeCall.report).Sublist pending := by
  induction h with
  | finished stack next ended left => exact .slnil
  | passed stack unready next later ih => exact ih.cons _
  | called begins body later ih => exact ih.cons_cons _
  | broken begins body => exact (List.nil_sublist _).cons_cons _
  | running stack isActive next breached left => exact List.nil_sublist _

/-- Every call is a moment of the run. -/
theorem exists_callsReady (h : Wakes ending outer pending count calls result c d) {call : WakeCall}
    (hcall : call ∈ calls) :
    ∃ a b later n, c.Reaches a ∧ CallsReady ending outer later n call a b := by
  induction h with
  | finished stack next ended left => simp at hcall
  | passed stack unready next later ih =>
    obtain ⟨a, b, rest, n, hrun, hbegins⟩ := ih hcall
    exact ⟨a, b, rest, n, .head next hrun, hbegins⟩
  | called begins body later ih =>
    rcases List.mem_cons.1 hcall with rfl | hlater
    · exact ⟨_, _, _, _, .refl, begins⟩
    · obtain ⟨a, b, rest, n, hrun, hbegins⟩ := ih hlater
      exact ⟨a, b, rest, n, .head begins.next (body.above.reaches.trans hrun), hbegins⟩
  | broken begins body =>
    obtain rfl := List.mem_singleton.1 hcall
    exact ⟨_, _, _, _, .refl, begins⟩
  | running stack isActive next breached left => simp at hcall

/-- A wake that is not broken off ends the step that waited, and returns the number of its calls. -/
theorem counted {n : Nat} (h : Wakes ending outer pending count calls (some n) c d) :
    n = count + calls.length ∧ d.stack = outer ∧ ∃ b : Config, b.next = some d ∧
      ∃ status, d.history = b.history ++ [.ended (.ok (.callbacksRun n)) status] := by
  generalize hresult : some n = result at h
  induction h with
  | finished stack next ended left =>
    obtain rfl := Option.some.inj hresult
    exact ⟨rfl, left, _, next, _, ended⟩
  | passed stack unready next later ih => exact ih hresult
  | called begins body later ih =>
    obtain ⟨heq, hend⟩ := ih hresult
    refine ⟨?_, hend⟩
    rw [heq, List.length_cons]
    omega
  | broken _ _ | running _ _ _ _ _ => simp at hresult

/-- A wake is broken off by a breach only, which leaves it. -/
theorem breached (h : Wakes ending outer pending count calls none c d) :
    ∃ a, c.Reaches a ∧ a.Reaches d ∧ Breached a.history d.history ∧ d.stack <:+ outer := by
  generalize hresult : none = result at h
  induction h with
  | finished _ _ _ _ => simp at hresult
  | passed stack unready next later ih =>
    obtain ⟨a, hrun, hbreach⟩ := ih hresult
    exact ⟨a, .head next hrun, hbreach⟩
  | called begins body later ih =>
    obtain ⟨a, hrun, hbreach⟩ := ih hresult
    exact ⟨a, .head begins.next (body.above.reaches.trans hrun), hbreach⟩
  | @broken c b d call pending count begins body =>
    rcases body with ⟨rfl, hbreach, hsuffix⟩ | ⟨e, habove, hnext, hbreach, hsuffix⟩
    · exact ⟨c, .refl, .single begins.next, hbreach, hsuffix⟩
    · exact ⟨e, .head begins.next habove.reaches, .single hnext, hbreach, hsuffix⟩
  | running stack isActive next breached left =>
    exact ⟨_, .refl, .single next, breached, left⟩

end Wakes

/-! ## Tokens are never used again -/

/-- The next token only grows. -/
theorem Reaches.nextToken_le (h : c.Reaches d) (hw : c.world.Orderly) :
    c.world.reactor.nextToken ≤ d.world.reactor.nextToken :=
  Reaches.invariant h hw (I := fun w => c.world.reactor.nextToken ≤ w.reactor.nextToken)
    (fun _ _ _ hact _ hle => Nat.le_trans hle hact.nextToken_le) (Nat.le_refl _)

/-- What is found later under a token that was handed out before was there before. -/
theorem Reaches.row_stays (h : c.Reaches d) (hw : c.world.Orderly) {token : Token}
    {row : Registration} (hlt : token < c.world.reactor.nextToken)
    (hrow : d.world.reactor.table.get? token = some row) :
    ∃ old, c.world.reactor.table.get? token = some old ∧ row.fd = old.fd ∧
      row.callback = old.callback := by
  have hstays := Reaches.invariant h hw
    (I := fun w => token < w.reactor.nextToken ∧
      ∀ row, w.reactor.table.get? token = some row →
        ∃ old, c.world.reactor.table.get? token = some old ∧ row.fd = old.fd ∧
          row.callback = old.callback) ?_ ⟨hlt, fun row hrow => ⟨row, hrow, rfl, rfl⟩⟩
  · exact hstays.2 row hrow
  · rintro deed w w' hact - ⟨hlt, hsame⟩
    refine ⟨Nat.lt_of_lt_of_le hlt hact.nextToken_le, fun row hrow => ?_⟩
    obtain ⟨middle, hmiddle, hfd, hcallback⟩ := hact.row_stays hlt hrow
    obtain ⟨old, hold, hfd', hcallback'⟩ := hsame middle hmiddle
    exact ⟨old, hold, hfd.trans hfd', hcallback.trans hcallback'⟩

/-! ## Every run -/

/-- A wake as a whole: what a wait reported, the calls that were made for it, and what it returned.
The first moment is that before the wait, the others are those in which the wake begins and ends. -/
structure WakesUp (ending : StepEnding) (outer : List Frame) (reports : List (Token × Revents))
    (calls : List WakeCall) (result : Option Nat) (c b d : Config) : Prop where
  /-- Each registration has its turn, and is called if and only if it is ready at its turn. -/
  wakes : Wakes ending outer reports 0 calls result b d
  /-- Unless the wait was interrupted, the registrations that had an interest have a turn each. -/
  visits : reports = [] ∨ reports.map Prod.fst = c.world.reactor.watched.map Prod.fst
  increasing : (reports.map Prod.fst).Pairwise (· < ·)
  inOrder : (calls.map WakeCall.report).Sublist reports
  told : ∀ call ∈ calls, call.Told
  /-- What is called was waited for. -/
  sameRow : ∀ call ∈ calls, ∃ row, c.world.reactor.table.get? call.token = some row ∧
    row.interest ≠ ∅ ∧ call.row.fd = row.fd ∧ call.row.callback = row.callback
  /-- What is added later has another token. -/
  added : ∀ call ∈ calls, ∀ e, c.Reaches e → call.token < e.world.reactor.nextToken
  counted : ∀ n, result = some n → n = calls.length ∧ d.stack = outer ∧
    ∃ a : Config, a.next = some d ∧
      ∃ status, d.history = a.history ++ [.ended (.ok (.callbacksRun n)) status]
  broken : result = none →
    ∃ a : Config, b.Reaches a ∧ a.Reaches d ∧ Breached a.history d.history ∧ d.stack <:+ outer

/-- What a wait leads to: a failure of the wait, or a wake. -/
inductive Woken (timeout : Option Duration) (answer : Answer) (ending : StepEnding)
    (outer : List Frame) (c : Config) : Prop
  | failed {error : ReactorError} {polls : History} {d : Config}
      (learns : c.world.reactor.Learns timeout answer (.error error) polls)
      (next : c.next = some d)
      (ended : ∃ status,
        d.history = c.history ++ (.began :: polls ++ [.ended (.reactorFailed error) status]))
      (left : d.stack = outer) : Woken timeout answer ending outer c
  | woken {reports : List (Token × Revents)} {polls : History} {calls : List WakeCall}
      {result : Option Nat} {b d : Config}
      (learns : c.world.reactor.Learns timeout answer (.ok reports) polls)
      (next : c.next = some b) (begun : b.history = c.history ++ .began :: polls)
      (same : b.world.reactor = c.world.reactor)
      (wakesUp : WakesUp ending outer reports calls result c b d) :
      Woken timeout answer ending outer c

variable {timeout : Option Duration} {answers : Script} {steps : List Step} {script : Script}
  {isHandler : Bool} {rest : List Frame}

/-- A step that waits. -/
theorem next_runOnce
    (hstack : c.stack = .steps (⟨.run timeout, answers, ending⟩ :: steps) script isHandler :: rest) :
    ∃ b : Config, b.world.reactor = c.world.reactor ∧ b.script = answers ∧
      b.history = c.history ++ [.began] ∧ b.stack = .steps steps script isHandler :: rest ∧
      c.next = some (b.runOnce timeout ending) := by
  refine ⟨(Config.withScript { c with stack := .steps steps script isHandler :: rest }
    answers).record .began, rfl, rfl, rfl, rfl, ?_⟩
  simp only [next, hstack]
  rfl

/-- What a step that waits has come to after one moment: it has ended with a failure, or a wake has
begun. In both cases the registrations are as they were. -/
inductive Waited (timeout : Option Duration) (answer : Answer) (ending : StepEnding)
    (outer : List Frame) (c : Config) : Prop
  | failed {error : ReactorError} {polls : History} {d : Config}
      (learns : c.world.reactor.Learns timeout answer (.error error) polls)
      (next : c.next = some d)
      (ended : ∃ status,
        d.history = c.history ++ (.began :: polls ++ [.ended (.reactorFailed error) status]))
      (same : d.world.reactor = c.world.reactor) (left : d.stack = outer) :
      Waited timeout answer ending outer c
  | begun {reports : List (Token × Revents)} {polls : History} {b : Config}
      (learns : c.world.reactor.Learns timeout answer (.ok reports) polls)
      (next : c.next = some b) (begun : b.history = c.history ++ .began :: polls)
      (same : b.world.reactor = c.world.reactor) (stack : b.stack = .wake reports 0 ending :: outer) :
      Waited timeout answer ending outer c

/-- A step that waits fails or begins a wake. -/
theorem waited_of_polling {limit : Nat} (hkind : c.world.reactor.kind = .polling limit)
    (hstack : c.stack = .steps (⟨.run timeout, answers, ending⟩ :: steps) script isHandler :: rest) :
    Waited timeout (answers.next .poll).1 ending (.steps steps script isHandler :: rest) c := by
  obtain ⟨b, hreactor, hscript, hbegun, hbelow, hnext⟩ := next_runOnce hstack
  obtain ⟨polls, hhistory, hsame, hlearns⟩ := World.learns_wait b.world timeout
  rw [hreactor, show b.world.kernel.script = answers from hscript] at hlearns
  rw [hreactor] at hsame
  have hbefore : b.world.kernel.history = c.history ++ [.began] := hbegun
  rw [hbefore, List.append_assoc] at hhistory
  rw [runOnce, hreactor, hkind] at hnext
  rcases hwait : b.world.wait timeout with ⟨error | reports, world⟩ <;>
    rw [hwait] at hhistory hsame hlearns hnext <;> dsimp only at hhistory hsame hlearns hnext
  · rw [endStep_eq_record _ ending (by simp)] at hnext
    refine .failed hlearns hnext ⟨Config.statusOf? { b with world } ending.watched, ?_⟩ hsame hbelow
    rw [← List.append_assoc]
    exact congrArg (· ++ [_]) hhistory
  · exact .begun hlearns hnext hhistory hsame (congrArg _ hbelow)

/-- A wake that begins with the registrations as they were at the wait comes to its end. -/
theorem exists_wakesUp {reports : List (Token × Revents)} {polls : History} {answer : Answer}
    (hw : c.world.Orderly) (hnext : c.next = some b)
    (hlearns : c.world.reactor.Learns timeout answer (.ok reports) polls)
    (hstack : b.stack = .wake reports 0 ending :: outer) :
    ∃ calls result d, WakesUp ending outer reports calls result c b d := by
  have hvisits := hlearns.visits
  obtain ⟨calls, result, d, hwakes⟩ := exists_wakes reports 0 (next_orderly hnext hw) hstack
  have hsublist := hwakes.called_sublist
  have hrow (call : WakeCall) (hcall : call ∈ calls) :
      ∃ row, (call.token, row) ∈ c.world.reactor.watched := by
    have hmem : call.token ∈ reports.map Prod.fst :=
      List.mem_map.2 ⟨call.report, hsublist.subset (List.mem_map_of_mem hcall), rfl⟩
    rcases hvisits with rfl | hvisits
    · simp at hmem
    · rw [hvisits] at hmem
      obtain ⟨⟨token, row⟩, hwatched, rfl⟩ := List.mem_map.1 hmem
      exact ⟨row, hwatched⟩
  have hlt {call : WakeCall} (hcall : call ∈ calls) :
      call.token < c.world.reactor.nextToken := by
    obtain ⟨row, hwatched⟩ := hrow call hcall
    exact hw.row_lt _ (Table.mem_keys_of_get? ((Reactor.mem_watched_iff hw.rows).1 hwatched).1)
  refine ⟨calls, result, d, hwakes, hvisits, ?_, hsublist, fun call _ => call.told, ?_, ?_, ?_, ?_⟩
  · rcases hvisits with rfl | hvisits
    · exact List.Pairwise.nil
    · rw [hvisits]
      exact Reactor.watched_increasing hw.rows
  · intro call hcall
    obtain ⟨row, hwatched⟩ := hrow call hcall
    obtain ⟨hthere, hinterest⟩ := (Reactor.mem_watched_iff hw.rows).1 hwatched
    obtain ⟨a, _, _, _, hrun, hbegins⟩ := hwakes.exists_callsReady hcall
    obtain ⟨old, hold, hfd, hcallback⟩ :=
      Reaches.row_stays (hrun.head hnext) hw (hlt hcall) hbegins.isRegistered
    obtain rfl := Option.some.inj (hold.symm.trans hthere)
    exact ⟨old, hold, hinterest, hfd, hcallback⟩
  · intro call hcall e hrun
    exact Nat.lt_of_lt_of_le (hlt hcall) (Reaches.nextToken_le hrun hw)
  · rintro n rfl
    obtain ⟨heq, hend⟩ := hwakes.counted
    exact ⟨heq.trans (Nat.zero_add _), hend⟩
  · rintro rfl
    exact hwakes.breached

/-- **What a wait leads to, at every moment of every run.** The registrations that have an interest
at the time of the wait have a turn each, in the order of their tokens, whatever the callbacks do
meanwhile; a registration is called if and only if it is there at its turn and something that was
reported is of interest to it then, and it is told just that; and the number of calls is
returned. -/
theorem woken_of_reaches {limit : Nat} {program : List Step}
    (hrun : (Config.initial (.polling limit) program).Reaches c)
    (hstack : c.stack = .steps (⟨.run timeout, answers, ending⟩ :: steps) script isHandler :: rest) :
    Woken timeout (answers.next .poll).1 ending (.steps steps script isHandler :: rest) c := by
  cases waited_of_polling (kind_of_reaches hrun) hstack with
  | failed learns next ended same left => exact .failed learns next ended left
  | begun learns next begun same stack =>
    obtain ⟨calls, result, d, hwakesUp⟩ := exists_wakesUp (Reaches.orderly hrun) next learns stack
    exact .woken learns next begun same hwakesUp

end Config

/-! ### A callback that rewires the table -/

/-- What a handler is told when it is called. -/
def Event.notice? : Event → Option Notice
  | .entered _ _ notice => some notice
  | _ => none

/-- Three descriptors are ready. The handler of the first one removes the second, registers its
descriptor anew, and turns the interest of the third from reading to writing. -/
def rewiringProgram : List Step :=
  [.plain (.command (.addDescriptor 7 "a"
      [[.plain (.command (.removeDescriptor 2)), .plain (.command (.addDescriptor 8 "d" [])),
        .plain (.command (.setDescriptor 4 ⟨true, false, 0⟩)),
        .plain (.command (.setDescriptor 3 ⟨false, true, 0⟩))]])),
    .plain (.command (.addDescriptor 8 "b" [])),
    .plain (.command (.addDescriptor 9 "c" [])),
    .plain (.command (.setDescriptor 1 ⟨true, false, 0⟩)),
    .plain (.command (.setDescriptor 2 ⟨true, false, 0⟩)),
    .plain (.command (.setDescriptor 3 ⟨true, false, 0⟩)),
    ⟨.run none, .only .poll [.success { revents := [1, 1, 16] }], ⟨none, true⟩⟩]

/-- The first and the third are called, the third with the interest that it has by then, and their
number is returned. Neither the second nor its successor is called. -/
theorem woken_when_rewired :
    let c := (Config.initial (.polling 8) rewiringProgram).skip 6
    Config.Woken none (.success { revents := [1, 1, 16] }) ⟨none, true⟩
        [.steps [] .blank false] c ∧
      (c.skip 13).history.filterMap Event.notice? =
        [.ready 1 ⟨true, false, 0⟩, .ready 3 ⟨false, true, 0⟩] ∧
      (c.skip 13).history.getLast? = some (.ended (.ok (.callbacksRun 2)) none) ∧
      (c.skip 13).stack.length = 1 := by
  have hwoken := Config.woken_of_reaches
    (Config.reaches_skip 6 (Config.initial (.polling 8) rewiringProgram)) rfl
  exact ⟨hwoken, by decide, rfl, rfl⟩

end SocketLoop
