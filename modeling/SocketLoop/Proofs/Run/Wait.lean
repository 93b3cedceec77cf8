import Mathlib.Data.List.Forall2
import SocketLoop.Proofs.Run.Wake

/-!
# What a wait asks, and how it ends without a wake

A wait looks at the registrations as they are when it begins. If none has an interest, nothing is
asked, and the wait returns at once. Otherwise the operating system is asked once, about all
registrations that have an interest.

* `Reactor.Asks` says what is asked: one entry for each registration that has an interest, in the
  order of the tokens, with the conditions that its interest stands for; and a time-out that is
  endless only if it was not limited.
* `Reactor.asks_poll`: that is what a wait asks, whatever is registered.
* **`Config.waits_of_polling`**: a wait that asks nothing, or is interrupted, returns that no
  callback was called; a wait that fails returns the failure. In these cases no callback is called
  and the registrations stay as they are.
-/

namespace SocketLoop

/-! ## Conditions -/

/-- An entry of a wait stands for a registration: it names its descriptor, it asks for reading and
for writing where these are of interest, and for nothing else. -/
structure WaitEntry.StandsFor (entry : WaitEntry) (row : Registration) : Prop where
  fd : entry.fd = row.fd
  read : entry.mask.testBit 0 = row.interest.read
  write : entry.mask.testBit 2 = row.interest.write
  other : ∀ i, i ≠ 0 → i ≠ 2 → entry.mask.testBit i = false

/-- The conditions of an interest are the first and the third bit of its mask. -/
theorem Readiness.testBit_waitMask (interest : Readiness) (i : Nat) :
    interest.waitMask.testBit i =
      (decide (i = 0) && interest.read || decide (i = 2) && interest.write) := by
  have hlow : ∀ read write : Bool, ∀ i < 3, (read.toNat + 4 * write.toNat).testBit i =
      (decide (i = 0) && read || decide (i = 2) && write) := by
    decide
  have hbound : ∀ read write : Bool, read.toNat + 4 * write.toNat < 2 ^ 3 := by
    decide
  by_cases hi : i < 3
  · exact hlow _ _ i hi
  · have hlt : interest.waitMask < 2 ^ i :=
      Nat.lt_of_lt_of_le (hbound _ _) (Nat.pow_le_pow_right (by decide) (Nat.le_of_not_lt hi))
    have hne : i ≠ 0 ∧ i ≠ 2 := by omega
    simp [Nat.testBit_lt_two_pow hlt, hne]

/-- The entry that is made for a registration stands for it. -/
theorem Reactor.standsFor_waitEntry (row : Registration) : (waitEntry row).StandsFor row := by
  have hbit := row.interest.testBit_waitMask
  refine ⟨rfl, (hbit 0).trans ?_, (hbit 2).trans ?_, fun i h₀ h₂ => (hbit i).trans ?_⟩
  · simp
  · simp
  · simp [h₀, h₂]

/-! ## Time-outs -/

/-- A span of time in nanoseconds. -/
def Duration.total (d : Duration) : Nat :=
  d.seconds * 1000000000 + d.nanoseconds

/-- The time-out for a span of time: whole milliseconds, rounded down, and no more than fit. -/
theorem waitTimeout_some (d : Duration) :
    waitTimeout (some d) = (min (d.total / 1000000) 2147483647 : Nat) := by
  have hmillis : d.seconds * 1000 + d.nanoseconds / 1000000 = d.total / 1000000 := by
    unfold Duration.total
    omega
  rw [waitTimeout, hmillis]
  rfl

/-- A time-out stands for a limit: it is endless if and only if there is none, and otherwise it is
the limit in whole milliseconds, as far as they fit. So it is never longer than the limit, and a
longer limit leads to no shorter one. -/
structure TimesOut (limit : Option Duration) (timeout : Int) : Prop where
  endless : timeout = -1 ↔ limit = none
  rounded : ∀ d, limit = some d → timeout = (min (d.total / 1000000) 2147483647 : Nat)
  nonnegative : ∀ d, limit = some d → 0 ≤ timeout
  notLonger : ∀ d, limit = some d → timeout * 1000000 ≤ d.total
  monotone : ∀ d longer, limit = some d → d.total ≤ longer.total →
    timeout ≤ waitTimeout (some longer)

/-- The time-out of a wait stands for its limit. -/
theorem timesOut_waitTimeout (limit : Option Duration) : TimesOut limit (waitTimeout limit) := by
  constructor
  · cases limit with
    | none => simp [waitTimeout]
    | some d =>
      have hnonnegative : 0 ≤ waitTimeout (some d) := by
        rw [waitTimeout_some]
        exact Int.natCast_nonneg _
      simp only [reduceCtorEq, iff_false]
      omega
  · rintro d rfl
    exact waitTimeout_some d
  · rintro d rfl
    rw [waitTimeout_some]
    exact Int.natCast_nonneg _
  · rintro d rfl
    rw [waitTimeout_some]
    omega
  · rintro d longer rfl hle
    rw [waitTimeout_some, waitTimeout_some]
    have hmillis : d.total / 1000000 ≤ longer.total / 1000000 := Nat.div_le_div_right hle
    omega

/-! ## What is asked -/

namespace Reactor

/-- What a wait asks: there is one entry for each registration that has an interest, in the order of
the tokens, and the time-out stands for the limit. -/
structure Asks (reactor : Reactor) (limit : Option Duration) (entries : List WaitEntry)
    (timeout : Int) : Prop where
  aligned : ∃ tokens : List Token, tokens.Pairwise (· < ·) ∧
    (∀ token, token ∈ tokens ↔
      ∃ row, reactor.table.get? token = some row ∧ row.interest ≠ ∅) ∧
    List.Forall₂
      (fun token entry => ∃ row, reactor.table.get? token = some row ∧ entry.StandsFor row)
      tokens entries
  /-- As many as the reactor tells about itself. -/
  count : ∀ most, entries.length = (reactor.info most).active
  timesOut : TimesOut limit timeout

/-- **This is what a wait asks**, whatever is registered. -/
theorem asks_poll (reactor : Reactor) (hrows : reactor.table.keys.Pairwise (· < ·))
    (limit : Option Duration) :
    ∃ entries timeout, reactor.poll limit = .poll entries timeout ∧
      reactor.Asks limit entries timeout := by
  refine ⟨_, _, rfl, ⟨reactor.watched.map Prod.fst, watched_increasing hrows, ?_, ?_⟩, ?_, ?_⟩
  · intro token
    simp only [List.mem_map, Prod.exists, exists_and_right, exists_eq_right,
      mem_watched_iff hrows]
  · rw [List.forall₂_map_left_iff, List.forall₂_map_right_iff, List.forall₂_same]
    intro row hrow
    exact ⟨row.2, ((mem_watched_iff hrows).1 hrow).1, standsFor_waitEntry row.2⟩
  · exact fun most => List.length_map ..
  · exact timesOut_waitTimeout limit

end Reactor

namespace Config

variable {c : Config} {timeout : Option Duration} {answers : Script} {ending : StepEnding}
  {steps : List Step} {script : Script} {isHandler : Bool} {rest outer : List Frame}

/-! ## How a wait ends -/

/-- A step that waits comes to its end with a reply. All that it did was to make these calls: no
callback was called, and the registrations are as they were. -/
def EndsWait (c : Config) (outer : List Frame) (calls : History) (reply : Reply) : Prop :=
  ∃ d, c.Reaches d ∧ d.stack = outer ∧ d.world.reactor = c.world.reactor ∧
    ∃ status, d.history = c.history ++ (.began :: calls ++ [.ended reply status])

/-- What a step that waits does, up to the answer of the operating system. -/
inductive Waits (timeout : Option Duration) (answer : Answer) (ending : StepEnding)
    (outer : List Frame) (c : Config) : Prop
  /-- No registration has an interest, and nothing is asked. -/
  | unwatched
      (isUnwatched : ∀ token row, c.world.reactor.table.get? token = some row → row.interest = ∅)
      (returns : c.EndsWait outer [] (.ok (.callbacksRun 0)))
  /-- The wait is interrupted. -/
  | interrupted {entries : List WaitEntry} {ms : Int} (isWatched : entries ≠ [])
      (asks : c.world.reactor.Asks timeout entries ms)
      (answer_eq : answer = .failure Errno.interrupted)
      (returns : c.EndsWait outer [.called (.poll entries ms) (.error Errno.interrupted)]
        (.ok (.callbacksRun 0)))
  /-- The wait fails. -/
  | failed {entries : List WaitEntry} {ms : Int} {code : Errno} (isWatched : entries ≠ [])
      (asks : c.world.reactor.Asks timeout entries ms) (answer_eq : answer = .failure code)
      (isFailure : code ≠ Errno.interrupted)
      (returns : c.EndsWait outer [.called (.poll entries ms) (.error code)]
        (.reactorFailed (.wait (.errno code))))
  /-- Something is reported, and a wake begins. -/
  | woken {entries : List WaitEntry} {ms : Int} {delivery : Delivery} {n : Int} {b : Config}
      (isWatched : entries ≠ []) (asks : c.world.reactor.Asks timeout entries ms)
      (answer_eq : answer = .success delivery) (next : c.next = some b)
      (begun : b.history = c.history ++ [.began, .called (.poll entries ms) (.ok n)])
      (same : b.world.reactor = c.world.reactor)
      (stack : b.stack = .wake (c.world.reactor.reports delivery) 0 ending :: outer)

/-- A wait that nothing is reported for returns that no callback was called. -/
theorem endsWait_of_wake {b : Config} {calls : History} (hnext : c.next = some b)
    (hbegun : b.history = c.history ++ .began :: calls)
    (hsame : b.world.reactor = c.world.reactor) (hstack : b.stack = .wake [] 0 ending :: outer) :
    c.EndsWait outer calls (.ok (.callbacksRun 0)) := by
  have hend : b.next = some (({ b with stack := outer } : Config).endStep
      (.ok (.callbacksRun 0)) ending) := by
    simp only [next, hstack]
  rw [endStep_eq_record _ ending (by simp)] at hend
  refine ⟨_, .tail (.single hnext) hend, rfl, hsame,
    Config.statusOf? { b with stack := outer } ending.watched, ?_⟩
  rw [← List.append_assoc, ← hbegun]
  rfl

/-- **What a step that waits does**, for every table of registrations, every limit and every answer;
the tokens of the table are in order, as they are in every run. If no registration has an interest,
it returns at once that no callback was called. Otherwise it asks once; if it is interrupted it
returns the same, and if it fails it returns the failure; no callback is called then, and the
registrations are as they were. -/
theorem waits_of_polling {limit : Nat} (hkind : c.world.reactor.kind = .polling limit)
    (hrows : c.world.reactor.table.keys.Pairwise (· < ·))
    (hstack : c.stack =
      .steps (⟨.run timeout, answers, ending⟩ :: steps) script isHandler :: rest) :
    Waits timeout (answers.next .poll).1 ending (.steps steps script isHandler :: rest) c := by
  obtain ⟨entries, ms, hpoll, hasks⟩ := Reactor.asks_poll c.world.reactor hrows timeout
  have hwatched (h : c.world.reactor.watched ≠ []) : entries ≠ [] := by
    rintro rfl
    exact h (List.length_eq_zero_iff.1 (hasks.count 0).symm)
  cases waited_of_polling hkind hstack with
  | failed learns next ended same left =>
    cases learns with
    | failed isWatched answer_eq isFailure =>
      rw [hpoll] at ended
      exact .failed (hwatched isWatched) hasks answer_eq isFailure
        ⟨_, .single next, left, same, ended⟩
  | begun learns next begun same stack =>
    cases learns with
    | unwatched isUnwatched =>
      refine .unwatched (fun token row hrow => ?_) (endsWait_of_wake next begun same stack)
      by_cases hinterest : row.interest = ∅
      · exact hinterest
      · have hmem := (Reactor.mem_watched_iff hrows).2 ⟨hrow, hinterest⟩
        rw [isUnwatched] at hmem
        exact absurd hmem List.not_mem_nil
    | interrupted isWatched answer_eq =>
      rw [hpoll] at begun
      exact .interrupted (hwatched isWatched) hasks answer_eq
        (endsWait_of_wake next begun same stack)
    | reported isWatched answer_eq =>
      rw [hpoll] at begun
      exact .woken (hwatched isWatched) hasks answer_eq next begun same stack

end Config

/-! ### An interrupted wait -/

/-- Of three descriptors the first is of interest for reading and the last for writing, and the wait
for them has the longest limit that there is. -/
def waitingProgram : List Step :=
  [.plain (.command (.addDescriptor 7 "a" [])), .plain (.command (.addDescriptor 8 "b" [])),
    .plain (.command (.addDescriptor 9 "c" [])),
    .plain (.command (.setDescriptor 1 ⟨true, false, 0⟩)),
    .plain (.command (.setDescriptor 3 ⟨false, true, 0⟩)),
    ⟨.run (some ⟨18446744073709551615, 999999999⟩), .only .poll [.failure Errno.interrupted],
      ⟨none, false⟩⟩]

/-- Two descriptors are asked about, with the longest time-out that fits, and no callback is
called. -/
theorem waits_when_interrupted :
    let c := (Config.initial (.polling 8) waitingProgram).skip 5
    Config.Waits (some ⟨18446744073709551615, 999999999⟩) (.failure Errno.interrupted) ⟨none, false⟩
        [.steps [] .blank false] c ∧
      (c.skip 2).history = c.history ++
        [.began, .called (.poll [⟨7, 1⟩, ⟨9, 4⟩] 2147483647) (.error Errno.interrupted),
          .ended (.ok (.callbacksRun 0)) none] := by
  have hwaits := Config.waits_of_polling
    (c := (Config.initial (.polling 8) waitingProgram).skip 5) rfl (by decide) rfl
  exact ⟨hwaits, rfl⟩

end SocketLoop
