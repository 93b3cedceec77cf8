import SocketLoop.Proofs.Run.Command

/-!
# Deliveries in which nothing else is done

A delivery of readiness takes many moments, since handlers are called in it, and handlers may do
anything. This module is about deliveries in which they do nothing: they return at once, or look at
something.

* `Undisturbed` says so of a delivery, and of all that has happened of it so far.
* **`Undisturbed.exists_does`**: then nothing is done but the delivery itself.
-/

namespace SocketLoop

namespace Config

variable {c d e : Config} {id : SocketId} {ready : Readiness}

/-- A run above some frames in which nothing is done. -/
abbrev Idles (base : List Frame) : Config → Config → Prop :=
  Relation.ReflTransGen fun c d => c.next = some d ∧ base <:+ c.stack.tail ∧ c.deed = .nothing

/-- The next moment delivers readiness to a socket, and up to the second configuration the handlers
that are called for it do nothing. -/
inductive Undisturbed (id : SocketId) (ready : Readiness) (c e : Config) : Prop
  | mk {b : Config} {token : Token} (calls : CallsBack c b token (.socket id) ready)
      (next : c.next = some (b.callBack token (.socket id) ready))
      (idles : Idles b.stack (b.callBack token (.socket id) ready) e)

/-- The next moment delivers readiness to a socket with this result: a breach, which is unwound, or
the events that are dispatched. -/
inductive ComesTo (id : SocketId) (ready : Readiness) (c : Config)
    (result : Except Breach EventSet) : Prop
  | mk {b : Config} {token : Token} (calls : CallsBack c b token (.socket id) ready)
      (next : c.next = some (b.callBack token (.socket id) ready))
      (reported : ((b.enterCallback token).world.deliver id ready).1 = result)

/-- While nothing is done, brackets are recorded. -/
theorem Idles.quiet {base : List Frame} (h : Idles base d e) :
    d.world.Quiet Event.IsBracket e.world := by
  induction h with
  | refl => exact .refl _
  | tail _ hlast ih =>
    obtain ⟨hnext, -, hdeed⟩ := hlast
    obtain ⟨w, hbefore, hafter⟩ := next_world hnext
    rw [hdeed] at hafter
    exact ih.trans ((hbefore.mono fun _ he => he.isBracket).trans hafter)

/-- While nothing is done, the run goes on. -/
theorem Idles.reaches {base : List Frame} (h : Idles base d e) : d.Reaches e := by
  induction h with
  | refl => exact .refl
  | tail _ hlast ih => exact ih.tail hlast.1

/-- A delivery that is to come comes, and at first nothing else is done. -/
theorem exists_undisturbed (h : c.deed = .deliver id ready) : ∃ e, c.Undisturbed id ready e := by
  have hasks := c.asks_deed
  rw [h] at hasks
  cases hasks with
  | command hstack hleads => cases hleads
  | deliver hcallback =>
    obtain ⟨b, hcalls, hnext⟩ := exists_callsBack hcallback
    exact ⟨_, .mk hcalls hnext .refl⟩

/-- A callback runs with the answers of the moment that calls it. -/
theorem CallsBack.answers {b : Config} {token : Token} {callback : Callback}
    (h : CallsBack c b token callback ready) :
    (b.enterCallback token).world.kernel.script = c.answers := by
  cases h with
  | wake hstack hwoken =>
    simp only [Config.answers, hstack]
    rfl
  | fire hbegins haction hfired =>
    obtain ⟨_, _, _, _, hstack, -⟩ := hbegins.stack
    simp only [Config.answers, hstack]
    obtain ⟨_⟩ := hbegins
    rfl

namespace Undisturbed

/-- A delivery is what is done. -/
theorem deed (h : c.Undisturbed id ready e) : c.deed = .deliver id ready := by
  obtain ⟨hcalls, -, -⟩ := h
  exact hcalls.deed_socket

/-- A delivery is part of the run. -/
theorem reaches (h : c.Undisturbed id ready e) : c.Reaches e := by
  obtain ⟨-, hnext, hidles⟩ := h
  exact .head hnext hidles.reaches

/-- What is delivered is found out in the world in which the callback runs. -/
theorem exists_comesTo (h : c.Undisturbed id ready e) :
    ∃ w, c.Does e w ∧ c.ComesTo id ready (w.deliver id ready).1 := by
  obtain @⟨b, token, hcalls, hnext, hidles⟩ := h
  refine ⟨(b.enterCallback token).world, ⟨hcalls.quiet, hcalls.answers, ?_, ?_⟩,
    .mk hcalls hnext rfl⟩
  · cases hcalls with
    | wake hstack hwoken => rfl
    | fire hbegins haction hfired =>
      obtain ⟨_⟩ := hbegins
      rfl
  · rw [hcalls.deed_socket]
    exact (quiet_report (b.enterCallback token) id ready).trans hidles.quiet

/-- **Nothing is done but the delivery.** -/
theorem exists_does (h : c.Undisturbed id ready e) : ∃ w, c.Does e w := by
  obtain ⟨w, hdoes, -⟩ := h.exists_comesTo
  exact ⟨w, hdoes⟩

end Undisturbed

end Config

end SocketLoop
