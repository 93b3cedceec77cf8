import SocketLoop.Proofs.Run.Identity
import SocketLoop.Proofs.World.Registered

/-!
# Sockets, registrations and registry never drift apart

The embedder can change and remove registrations by their tokens, those of sockets included. As long
as it leaves the tokens of open sockets alone (`RespectsTokens`), a polling reactor has exactly one
row for every open socket, whatever the sockets do: open, accept, fail to, change their
subscriptions, breach their contract, free one another in callbacks.

* `World.Registered` says how sockets, rows and registry fit together.
* **`registered_of_reaches`**: they fit together at every moment of every run. All other rows were
  added by the embedder, and no identity is handed out twice.
-/

namespace SocketLoop

/-- Open sockets, rows with callbacks of sockets, and live identities are one and the same. -/
structure World.Registered (w : World) : Prop where
  /-- Every open socket has its own row under its token. -/
  own : ∀ id s, w.socket? id = some s →
    ∃ row, w.reactor.table.get? s.token = some row ∧ s.id = id ∧ s.Owns row
  /-- Every row with the callback of a socket lies under the token of that socket, which is open. -/
  owner : ∀ token row id, w.reactor.table.get? token = some row → row.callback = .socket id →
    ∃ s, w.socket? id = some s ∧ s.token = token
  /-- A token has one row. -/
  rows : w.reactor.table.keys.Nodup
  /-- The live identities are those of the open sockets. -/
  live : ∀ id, id ∈ w.registry.live ↔ ∃ s, w.socket? id = some s
  /-- An identity is live once. -/
  live_nodup : w.registry.live.Nodup

/-- An orderly world that is in step fits together. -/
theorem World.InStep.registered {w : World} {limit : Nat} (h : w.InStep) (horderly : w.Orderly)
    (hkind : w.reactor.kind = .polling limit) : w.Registered := by
  have hnodup {l : List Nat} (hl : l.Pairwise (· < ·)) : l.Nodup :=
    hl.imp fun hlt => Nat.ne_of_lt hlt
  constructor
  · intro id s hs
    exact ⟨s.row, h id s hs, horderly.id_eq hs, s.owns_row⟩
  · intro token row id hrow hcallback
    obtain ⟨s, hs⟩ := Table.exists_of_mem_keys (horderly.row_open hkind hrow hcallback)
    exact ⟨s, hs, (horderly.row_socket hrow hcallback hs).1⟩
  · exact hnodup horderly.rows
  · intro id
    rw [horderly.live]
    exact ⟨Table.exists_of_mem_keys, fun ⟨_, hs⟩ => Table.mem_keys_of_get? hs⟩
  · rw [horderly.live]
    exact hnodup horderly.increasing

namespace Config

variable {c d : Config} {limit : Nat} {program : List Step}

/-- In the next moment the embedder changes no registration of an open socket by its token. -/
def RespectsTokens (c : Config) : Prop :=
  ∀ token, c.deed.directToken? = some token → ∀ id s, c.world.socket? id = some s → s.token ≠ token

/-- Whether a moment respects the tokens of open sockets is seen from those sockets. -/
instance (c : Config) : Decidable c.RespectsTokens :=
  decidable_of_iff (∀ token ∈ c.deed.directToken?, ∀ id ∈ c.world.sockets.keys,
      ∀ s ∈ c.world.socket? id, s.token ≠ token)
    ⟨fun h token htoken id s hs => h token htoken id (Table.mem_keys_of_get? hs) s hs,
      fun h token htoken id _ s hs => h token htoken id s hs⟩

/-- A moment that respects the tokens of open sockets keeps the world in step. -/
theorem next_inStep (h : c.next = some d) (hw : c.world.Orderly)
    (hkind : c.world.reactor.kind = .polling limit) (hrespects : c.RespectsTokens)
    (hstep : c.world.InStep) : d.world.InStep := by
  obtain ⟨w, hbefore, hafter⟩ := next_world h
  have hkind' := hbefore.kind.trans hkind
  have hfree {token : Token} (hdirect : c.deed.directToken? = some token) :
      ∀ id s, w.socket? id = some s → s.token ≠ token := fun id s hs =>
    hrespects token hdirect id s ((hbefore.socket? id).symm.trans hs)
  cases hdeed : c.deed with
  | setDescriptor token interest =>
    rw [hdeed] at hafter hfree
    have hset := (hstep.quiet hbefore).setInterest hkind' interest (hfree rfl)
    have hquiet : World.Quiet (fun _ => True) _ (w.setInterest token interest) :=
      World.quiet_setInterest w trivial
    exact (hset.quiet hquiet).quiet hafter
  | removeDescriptor token =>
    rw [hdeed] at hafter hfree
    have hremoved := (hstep.quiet hbefore).remove hkind' (hfree rfl)
    have hquiet : World.Quiet (fun _ => True) _ (w.deregister token) :=
      World.quiet_deregister w trivial
    exact (hremoved.quiet hquiet).quiet hafter
  | _ =>
    refine (next_acts h hw).inStep ?_ hw hkind hstep
    rw [hdeed]
    rfl

/-- The reactor of a run has the kind that it was made with. -/
theorem kind_of_reaches {kind : ReactorKind} (hrun : (Config.initial kind program).Reaches c) :
    c.world.reactor.kind = kind :=
  Reaches.invariant hrun (World.Orderly.initial kind) (I := fun w => w.reactor.kind = kind)
    (fun _ _ _ hact _ hkind => hact.kind.trans hkind) rfl

/-- A run in which every moment so far respected the tokens of open sockets is in step. -/
theorem inStep_of_reaches (hrun : (Config.initial (.polling limit) program).Reaches c)
    (hrespects : ∀ b d, (Config.initial (.polling limit) program).Reaches b → b.next = some d →
      d.Reaches c → b.RespectsTokens) :
    c.world.InStep := by
  induction hrun with
  | refl =>
    intro id s hs
    simp [Config.initial, World.initial, World.socket?] at hs
  | @tail b c hrun hnext ih =>
    have hbefore := ih fun b' d hb' hnext' hd => hrespects b' d hb' hnext' (hd.tail hnext)
    exact next_inStep hnext (Reaches.orderly hrun) (kind_of_reaches hrun)
      (hrespects b c hrun hnext .refl) hbefore

/-- A row with a handler of the embedder was added by the embedder, at an earlier moment of the run.
-/
theorem exists_addDescriptor {kind : ReactorKind} (hrun : (Config.initial kind program).Reaches c)
    {token : Token} {row : Registration} {handler : HandlerRef}
    (hrow : c.world.reactor.table.get? token = some row)
    (hcallback : row.callback = .direct handler) :
    ∃ b d, (Config.initial kind program).Reaches b ∧ b.next = some d ∧ d.Reaches c ∧
      b.deed = .addDescriptor row.fd handler := by
  induction hrun generalizing row with
  | refl => simp [Config.initial, World.initial, Reactor.initial] at hrow
  | @tail b c hrun hnext ih =>
    rcases (next_acts hnext (Reaches.orderly hrun)).direct_row hrow hcallback with
      ⟨old, hold, hfd, hsame⟩ | hdeed
    · obtain ⟨b', d', hb', hnext', hd', hdeed⟩ := ih hold hsame
      rw [hfd] at hdeed
      exact ⟨b', d', hb', hnext', hd'.tail hnext, hdeed⟩
    · exact ⟨b, c, hrun, hnext, .refl, hdeed⟩

/-- **Sockets, registrations and registry never drift apart.** In a run on a polling reactor in
which no token of an open socket was used by the embedder, every open socket has exactly one row,
its own; every other row was added by the embedder; the live identities are those of the open
sockets; and identities are handed out strictly increasing, and never to a second socket. -/
theorem registered_of_reaches (hrun : (Config.initial (.polling limit) program).Reaches c)
    (hrespects : ∀ b d, (Config.initial (.polling limit) program).Reaches b → b.next = some d →
      d.Reaches c → b.RespectsTokens) :
    c.world.Registered ∧
      (∀ token row handler, c.world.reactor.table.get? token = some row →
        row.callback = .direct handler →
        ∃ b d, (Config.initial (.polling limit) program).Reaches b ∧ b.next = some d ∧
          d.Reaches c ∧ b.deed = .addDescriptor row.fd handler) ∧
      (newIds c.history).Pairwise (· < ·) ∧
      (∀ id ∈ newIds c.history, id < c.world.registry.nextId) ∧
      ∀ d, c.Reaches d → ∀ id, id < c.world.registry.nextId → c.world.socket? id = none →
        d.world.socket? id = none := by
  have hw := Reaches.orderly hrun
  obtain ⟨hincreasing, hlt⟩ := newIds_increasing hrun
  have hstep := inStep_of_reaches hrun hrespects
  refine ⟨hstep.registered hw (kind_of_reaches hrun), ?_, hincreasing, hlt, ?_⟩
  · intro token row handler hrow hcallback
    exact exists_addDescriptor hrun hrow hcallback
  · intro d hlater id hid hclosed
    have hstays := Reaches.invariant hlater hw
      (I := fun w => id < w.registry.nextId ∧ w.socket? id = none)
      (fun _ _ _ hact _ h => hact.stays_closed h) ⟨hid, hclosed⟩
    exact hstays.2

end Config

/-! ### A socket beside a descriptor -/

/-- A reactor with room for two is filled by a socket and a descriptor of the embedder, so that a
second socket is refused. -/
def crowdedProgram : List Step :=
  [.plain (.command (.openSocket "a" .ipv4 .stream .standard)),
    .plain (.command (.addDescriptor 7 "pipe" [])),
    .plain (.command (.setDescriptor 2 ⟨true, false, 0⟩)),
    .plain (.command (.change "a" (.addGlobal []))),
    .plain (.command (.change "a" (.setGlobal (EventSet.single .accept)))),
    .plain (.command (.openSocket "b" .ipv4 .stream .standard))]

/-- The embedder sets the interest of its own descriptor, the second socket wastes an identity, and
everything fits together. -/
theorem registered_when_crowded :
    let c := (Config.initial (.polling 2) crowdedProgram).skip 6
    c.world.Registered ∧ newIds c.history = [1] ∧ c.world.registry = ⟨3, [1]⟩ ∧
      c.world.reactor.table.rows =
        [(1, ⟨Kernel.firstFd, ⟨true, false, 0⟩, .socket 1⟩),
          (2, ⟨7, ⟨true, false, 0⟩, .direct 0⟩)] := by
  have hrespects : ∀ k < 7,
      ((Config.initial (.polling 2) crowdedProgram).skip k).RespectsTokens := by
    decide
  have hregistered := Config.registered_of_reaches
    (Config.reaches_skip 6 (Config.initial (.polling 2) crowdedProgram)) <| by
      intro b d hb hnext _
      obtain ⟨k, hk, rfl⟩ := Config.exists_skip_of_reaches (n := 7) hb hnext rfl
      exact hrespects k hk
  exact ⟨hregistered.1, by decide, by decide, by decide⟩

end SocketLoop
