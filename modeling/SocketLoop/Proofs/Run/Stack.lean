import SocketLoop.Proofs.Run.Entry

/-!
# What happens above a frame

A frame of the stack waits for all that lies above it. This module follows a run while it stays
above some frames.

* `next_stack`: a moment leaves everything below the innermost frame in place, or it is cut short by
  a breach.
* `Above base` relates the moments of a run that have the frames of `base` below them.
* **`returns_or_breaks`**: what lies above some frames comes to an end, because every run ends. Then
  the frames are taken up again (`Returns`), or a breach leaves at least the innermost of them
  (`Breaks`).
-/

namespace SocketLoop

namespace Config

variable {c d b : Config}

/-! ## One moment -/

/-- As long as a frame is left, a run goes on. -/
theorem exists_next (h : c.stack ≠ []) : ∃ d, c.next = some d := by
  unfold next
  split
  · rename_i hstack
    exact absurd hstack h
  all_goals exact ⟨_, rfl⟩

namespace CallsBack

variable {token : Token} {callback : Callback} {ready : Readiness}

/-- What lies below the innermost frame lies below the call. -/
theorem tail_stack_suffix (h : CallsBack c b token callback ready) :
    c.stack.tail <:+ b.stack.tail := by
  cases h with
  | wake stack woken =>
    rw [stack]
    exact List.suffix_rfl
  | fire begins action fired =>
    rw [← begins.tail_stack]
    exact List.tail_suffix _

/-- A breach in a callback leaves the frame that called it, and it is recorded there. -/
theorem unwind (h : CallsBack c b token callback ready) (breach : Breach) (e : Config) :
    (e.unwind breach b.stack).stack <:+ b.stack.tail ∧
      Breached e.history (e.unwind breach b.stack).history := by
  refine ⟨stack_unwind_suffix breach e b.stack, ?_⟩
  cases h with
  | wake stack woken => exact breached_unwind_wake e breach _ _ _ _
  | fire begins action fired =>
    rw [unwind_fire]
    exact breached_unwind_wake e breach _ _ _ _

/-- Readiness that leads to a breach leaves the frame that called, and the breach is recorded. -/
theorem report_breach {id : SocketId} (h : CallsBack c b token (.socket id) ready)
    (hw : c.world.Orderly) {breach : Breach} {world : World}
    (hdeliver : (b.enterCallback token).world.deliver id ready = (.error breach, world)) :
    ((b.enterCallback token).report id ready).stack <:+ b.stack.tail ∧
      Breached c.history ((b.enterCallback token).report id ready).history := by
  have hrun := grows_run hw h.quiet
  rw [h.deed_socket] at hrun
  simp only [Deed.run, hdeliver] at hrun
  simp only [report, hdeliver]
  obtain ⟨hsuffix, hbreach⟩ :=
    h.unwind breach (leaveCallback { b.enterCallback token with world } token)
  exact ⟨hsuffix, hbreach.prepend hrun⟩

end CallsBack

/-- Waiting leaves a wake on the stack, or nothing. -/
theorem stack_runOnce (c : Config) (timeout : Option Duration) (ending : StepEnding) :
    (c.runOnce timeout ending).stack = c.stack ∨
      ∃ pending, (c.runOnce timeout ending).stack = .wake pending 0 ending :: c.stack := by
  unfold runOnce
  split
  · exact .inl rfl
  · split
    · exact .inr ⟨_, rfl⟩
    · exact .inl rfl

/-- Dispatching leaves the stack in place. -/
theorem stack_dispatch (c : Config) (id : SocketId) (events : EventSet) :
    c.stack <:+ (c.dispatch id events).stack := by
  unfold dispatch
  split
  · exact List.suffix_rfl
  · split
    · exact List.suffix_cons _ _
    · exact List.suffix_cons _ _

/-- A call of a callback leaves its caller in place, or a breach leaves the caller as well. -/
theorem CallsBack.callBack_cases {token : Token} {callback : Callback} {ready : Readiness}
    (h : CallsBack c b token callback ready) (hw : c.world.Orderly) :
    b.stack <:+ (b.callBack token callback ready).stack ∨
      (b.callBack token callback ready).stack <:+ b.stack.tail ∧
        Breached c.history (b.callBack token callback ready).history := by
  have hbelow : b.stack <:+ (b.enterCallback token).stack := List.suffix_cons _ _
  cases callback with
  | direct handler =>
    left
    exact hbelow.trans (List.suffix_cons _ _)
  | socket id =>
    rcases hdeliver : (b.enterCallback token).world.deliver id ready with ⟨breach | events, world⟩
    · exact .inr (h.report_breach hw hdeliver)
    · left
      have hdispatch := stack_dispatch { b.enterCallback token with world } id events
      simp only [callBack, report, hdeliver]
      exact hbelow.trans hdispatch

/-- A call of a callback leaves what is below it in place, or is cut short. -/
theorem CallsBack.stack_callBack {token : Token} {callback : Callback} {ready : Readiness}
    (h : CallsBack c b token callback ready) (hw : c.world.Orderly) :
    c.stack.tail <:+ (b.callBack token callback ready).stack ∨
      c.CutShort (b.callBack token callback ready) := by
  rcases h.callBack_cases hw with hkept | ⟨hsuffix, hbreach⟩
  · exact .inl ((h.tail_stack_suffix.trans (List.tail_suffix _)).trans hkept)
  · rcases List.suffix_or_suffix_of_suffix h.tail_stack_suffix hsuffix with hstays | hleft
    · exact .inl hstays
    · exact .inr ⟨hleft, hbreach⟩

/-- **A moment leaves everything below the innermost frame in place**, or it is cut short by a
breach. -/
theorem next_stack (h : c.next = some d) (hw : c.world.Orderly) :
    c.stack.tail <:+ d.stack ∨ c.CutShort d := by
  cases moment_next h with
  | idle hidle => exact hidle.stack
  | @command b step command hbegins haction =>
    have hexecute : (b.execute command).2.stack = b.stack := (boundedBy_execute b command).1
    rcases stack_endStep (b.execute command).2 (b.execute command).1 step.ending with heq | hcut
    · left
      rw [heq, hexecute, ← hbegins.tail_stack]
      exact List.tail_suffix _
    · right
      obtain ⟨hsuffix, hbreach⟩ := hcut
      rw [hexecute, hbegins.tail_stack] at hsuffix
      exact ⟨hsuffix, hbreach.prepend (hbegins.grows_execute haction hw)⟩
  | @wait b step timeout limit hbegins haction hkind =>
    left
    have hbelow : c.stack.tail <:+ b.stack := by
      rw [← hbegins.tail_stack]
      exact List.tail_suffix _
    rcases stack_runOnce b timeout step.ending with heq | ⟨pending, heq⟩
    · rwa [heq]
    · rw [heq]
      exact hbelow.trans (List.suffix_cons _ _)
  | turn hstack hturn =>
    left
    rw [hstack]
    exact (List.suffix_cons _ _).trans (List.suffix_cons _ _)
  | callBack hcalls => exact hcalls.stack_callBack hw

/-! ## Many moments -/

/-- A run in which every moment has some frames below it. -/
abbrev Above (base : List Frame) : Config → Config → Prop :=
  Relation.ReflTransGen fun c d => c.next = some d ∧ base <:+ c.stack.tail

/-- What lies above some frames comes to its end, and they are taken up again. -/
structure Returns (base : List Frame) (c d : Config) : Prop where
  above : Above base c d
  stack : d.stack = base

/-- A breach above some frames leaves at least the innermost of them. -/
def Breaks (base : List Frame) (c d : Config) : Prop :=
  ∃ e, Above base c e ∧ e.next = some d ∧ Breached e.history d.history ∧ d.stack <:+ base.tail

/-- What happens above some frames is part of the run. -/
theorem Above.reaches {base : List Frame} (h : Above base c d) : c.Reaches d := by
  induction h with
  | refl => exact .refl
  | tail _ hnext ih => exact ih.tail hnext.1

/-- A proper end of a list is an end of its tail. -/
theorem suffix_tail_of_ne {base stack : List Frame} (h : base <:+ stack) (hne : stack ≠ base) :
    base <:+ stack.tail := by
  cases stack with
  | nil => exact absurd (List.suffix_nil.1 h).symm hne
  | cons frame rest =>
    rcases List.suffix_cons_iff.1 h with heq | hrest
    · exact absurd heq.symm hne
    · exact hrest

/-- **What lies above some frames comes to an end**: they are taken up again, or a breach leaves at
least the innermost of them. -/
theorem returns_or_breaks (base : List Frame) (c : Config) (hw : c.world.Orderly)
    (h : base <:+ c.stack) : ∃ d, Returns base c d ∨ Breaks base c d := by
  by_cases hstack : c.stack = base
  · exact ⟨c, .inl ⟨.refl, hstack⟩⟩
  · have htail : base <:+ c.stack.tail := suffix_tail_of_ne h hstack
    have hne : c.stack ≠ [] := by
      intro hnil
      rw [hnil] at h hstack
      exact hstack (List.suffix_nil.1 h).symm
    obtain ⟨b, hnext⟩ := exists_next hne
    -- either the next moment keeps the frames, or it is the breach that leaves them
    have hcases : base <:+ b.stack ∨ Breaks base c b := by
      rcases next_stack hnext hw with hstays | ⟨hsuffix, hbreach⟩
      · exact .inl (htail.trans hstays)
      · rcases List.suffix_or_suffix_of_suffix htail hsuffix with hkept | hleft
        · exact .inl hkept
        · by_cases heq : b.stack = base
          · rw [heq]
            exact .inl List.suffix_rfl
          · refine .inr ⟨c, .refl, hnext, hbreach, suffix_tail_of_ne hleft (Ne.symm heq)⟩
    rcases hcases with hkept | hbreaks
    · obtain ⟨d, hreturns | hbreaks⟩ := returns_or_breaks base b (next_orderly hnext hw) hkept
      · exact ⟨d, .inl ⟨.head ⟨hnext, htail⟩ hreturns.above, hreturns.stack⟩⟩
      · obtain ⟨e, habove, hrest⟩ := hbreaks
        exact ⟨d, .inr ⟨e, .head ⟨hnext, htail⟩ habove, hrest⟩⟩
    · exact ⟨b, .inr hbreaks⟩
termination_by (c.work, c.load)
decreasing_by exact lighter_next hnext

end Config

end SocketLoop
