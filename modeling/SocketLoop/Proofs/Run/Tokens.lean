import SocketLoop.Proofs.Run.Wake
import SocketLoop.Proofs.World.Answers

/-!
# Tokens of a polling reactor

A polling reactor holds a limited number of registrations, each descriptor at most once, and hands
out tokens counting from one. This is so at every moment of every run, whatever callbacks do to the
table while they run, and wherever a breach ends them.

* **`next_answers`**: one moment changes the table in one of the ways that there are.
* **`tokens_of_reaches`**: the table stays in order, requests are admitted or refused by what is in
  it, and whoever holds the token of a registration that is gone can do nothing with it.
-/

namespace SocketLoop

/-- Quiet changes leave the reactor alone but for its marks. -/
theorem World.Quiet.unmarked {P : Event → Prop} {w w' : World} (h : w.Quiet P w') :
    w'.reactor.unmarked = w.reactor.unmarked := by
  rw [Reactor.unmarked, h.kind, h.nextToken, h.table]
  rfl

namespace Config

variable {c d : Config} {limit : Nat} {program : List Step}

/-- From one configuration to another the table changed in one of the ways that there are, and the
requests to register were recorded with their results. Which callbacks run does not matter. -/
def Answers (limit : Nat) (c d : Config) : Prop :=
  ∃ later, d.history = c.history ++ later ∧
    c.world.reactor.unmarked.Answers limit (registrationsOf later) d.world.reactor.unmarked

/-- **What a moment does to the table** is one of the ways that there are, whatever else happens. -/
theorem next_answers (h : c.next = some d) (hw : c.world.Orderly)
    (hkind : c.world.reactor.kind = .polling limit) : c.Answers limit d := by
  obtain ⟨w, hbefore, hafter⟩ := next_world h
  obtain ⟨middle, hmiddle, hanswers⟩ :=
    c.deed.answers_run (hw.quiet hbefore) (hbefore.kind.trans hkind)
  obtain ⟨later, hlater, hrequests⟩ := Grows.around Event.registration?
    (hbefore.history.mono fun _ he => he.isBracket.asksNothing) hmiddle
    (hafter.history.mono fun _ he => he.asksNothing)
  refine ⟨later, hlater, ?_⟩
  rw [registrationsOf, hrequests, hafter.unmarked, ← hbefore.unmarked]
  exact hanswers.unmarked

/-- The tokens that requests to register were answered with so far. -/
def grantedTokens (c : Config) : List Token :=
  Reactor.grants (registrationsOf c.history)

/-- The table is in order at every moment. -/
theorem inOrder_of_reaches (hrun : (Config.initial (.polling limit) program).Reaches c) :
    c.world.reactor.unmarked.InOrder limit c.grantedTokens := by
  induction hrun with
  | refl => exact Reactor.inOrder_initial limit
  | @tail b d hrun hnext ih =>
    obtain ⟨later, hlater, hanswers⟩ :=
      next_answers hnext (Reaches.orderly hrun) (kind_of_reaches hrun)
    have hgranted : d.grantedTokens =
        b.grantedTokens ++ Reactor.grants (registrationsOf later) := by
      rw [grantedTokens, hlater, registrationsOf_append, Reactor.grants,
        List.filterMap_append]
      rfl
    rw [hgranted]
    exact ih.answers hanswers

/-- What can be said of the registration table between two moments. -/
structure KeepsTable (limit : Nat) (c : Config) : Prop where
  /-- There is no more than room for, no descriptor twice, no token that is still to be handed out,
  and tokens were handed out counting from one. -/
  inOrder : c.world.reactor.InOrder limit c.grantedTokens
  /-- A request to register is refused if there is no room; else if the descriptor is in the table;
  else it is admitted, without an interest. A request that is refused leaves the table alone. -/
  admits : ∀ fd callback, c.world.reactor.Admits limit fd callback
    (c.world.register fd callback).1 (c.world.register fd callback).2.reactor
  /-- A registration that is removed is gone. -/
  removed : ∀ token, (c.world.deregister token).reactor.table.get? token = none
  /-- A registration that is gone is gone for good, and its token is good for nothing. -/
  gone : ∀ token ∈ c.grantedTokens, c.world.reactor.table.get? token = none →
    ∀ d, c.Reaches d → d.world.reactor.table.get? token = none ∧
      (∀ interest, d.world.reactor.setInterest token interest = d.world.reactor) ∧
      d.world.reactor.remove token = d.world.reactor
  /-- In the next moment the table changes in one of the ways that there are. -/
  next : ∀ d, c.next = some d → c.Answers limit d

/-- **Tokens of a polling reactor**: its table keeps all this at every moment of every run. -/
theorem tokens_of_reaches (hrun : (Config.initial (.polling limit) program).Reaches c) :
    c.KeepsTable limit := by
  have hw := Reaches.orderly hrun
  have hkind := kind_of_reaches hrun
  have hinOrder : c.world.reactor.InOrder limit c.grantedTokens := (inOrder_of_reaches hrun).marked
  refine ⟨hinOrder, fun fd callback => (World.admits_register hkind fd callback).1, ?_, ?_, ?_⟩
  · exact fun token => Reactor.get?_remove_self _ token hkind
  · intro token hgranted hgone d hd
    have hlt : token < c.world.reactor.nextToken := hinOrder.lt_of_granted hgranted
    have hstays : d.world.reactor.table.get? token = none := by
      refine Option.eq_none_iff_forall_ne_some.2 fun row hrow => ?_
      obtain ⟨old, hold, -, -⟩ := Reaches.row_stays hd hw hlt hrow
      simp [hgone] at hold
    exact ⟨hstays, Reactor.setInterest_eq_self hstays, Reactor.remove_eq_self hstays⟩
  · exact fun d hnext => next_answers hnext hw hkind

/-! ### A descriptor that comes back -/

/-- A reactor with room for two is asked for a third, for one that it has, and for one that it had.
-/
def returningProgram : List Step :=
  [.plain (.command (.addDescriptor 7 "pipe" [])),
    .plain (.command (.openSocket "a" .ipv4 .stream .standard)),
    .plain (.command (.addDescriptor 8 "tty" [])),
    .plain (.command (.removeDescriptor 1)),
    .plain (.command (.addDescriptor Kernel.firstFd "thief" [])),
    .plain (.command (.addDescriptor 7 "pipe" []))]

/-- The descriptor that comes back has a third token, and its first one stays useless. -/
theorem tokens_when_returning :
    let c := (Config.initial (.polling 2) returningProgram).skip 6
    registrationsOf c.history =
        [(7, .ok 1), (Kernel.firstFd, .ok 2), (8, .error (.tooManyRegistrations 2)),
          (Kernel.firstFd, .error (.alreadyRegistered Kernel.firstFd)), (7, .ok 3)] ∧
      c.world.reactor.fds = [Kernel.firstFd, 7] ∧
      c.world.reactor.InOrder 2 [1, 2, 3] ∧
      ∀ interest, c.world.reactor.setInterest 1 interest = c.world.reactor := by
  have hkeeps := tokens_of_reaches (reaches_skip 6 (Config.initial (.polling 2) returningProgram))
  refine ⟨rfl, rfl, hkeeps.inOrder, ?_⟩
  exact (hkeeps.gone 1 (by decide) rfl _ .refl).2.1

end Config

end SocketLoop
