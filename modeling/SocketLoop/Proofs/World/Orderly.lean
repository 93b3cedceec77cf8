import SocketLoop.Proofs.World.Deed

/-!
# Identities and tokens

The registry, the open sockets and the registrations refer to one another by numbers. A world is
*orderly* if the numbers fit: the registry lists the open sockets, numbers are handed out counting
up, an open socket has a token of its own, and a row with the callback of a socket lies under the
token of that socket.

* **`Act.orderly`**: every act keeps a world orderly.
* **`Act.gone`**: a socket that was dismissed is gone for good. Nobody gets its identity or its
  token again.

Nothing here depends on what the embedder does to registrations directly: it can take away the row
of a socket, but it cannot bring one in.
-/

namespace SocketLoop

namespace World

/-- The numbers that the parts of a world refer to one another by fit. -/
structure Orderly (w : World) : Prop where
  live : w.registry.live = w.sockets.keys
  increasing : w.sockets.keys.Pairwise (· < ·)
  id_lt : ∀ id ∈ w.sockets.keys, id < w.registry.nextId
  id_eq : ∀ {id s}, w.socket? id = some s → s.id = id
  token_lt : ∀ {id s}, w.socket? id = some s → s.token < w.reactor.nextToken
  token_inj : ∀ {id id' s s'}, w.socket? id = some s → w.socket? id' = some s' →
    s.token = s'.token → id = id'
  rows : w.reactor.table.keys.Pairwise (· < ·)
  row_lt : ∀ token ∈ w.reactor.table.keys, token < w.reactor.nextToken
  row_id : ∀ {token row id}, w.reactor.table.get? token = some row →
    row.callback = .socket id → id < w.registry.nextId
  row_socket : ∀ {token row id s}, w.reactor.table.get? token = some row →
    row.callback = .socket id → w.socket? id = some s → s.token = token ∧ s.fd = row.fd
  row_open : ∀ {limit token row id}, w.reactor.kind = .polling limit →
    w.reactor.table.get? token = some row → row.callback = .socket id → id ∈ w.sockets.keys

variable {P : Event → Prop} {deed : Deed} {w w' : World}

namespace Orderly

/-- Nothing was handed out at the start. -/
theorem initial (kind : ReactorKind) : (World.initial kind).Orderly := by
  constructor <;> intros <;> simp_all [World.initial, Registry.initial, Reactor.initial,
    World.socket?, Table.keys, EmptyCollection.emptyCollection, Table.empty, Table.get?]

/-- An identity is live as long as its socket is open. -/
theorem isLive_iff (h : w.Orderly) (id : SocketId) :
    w.registry.isLive id = true ↔ ∃ s, w.socket? id = some s := by
  rw [Registry.isLive, List.contains_iff_mem, h.live]
  exact ⟨Table.exists_of_mem_keys, fun ⟨_, hs⟩ => Table.mem_keys_of_get? hs⟩

/-- An open socket has an identity that was handed out. -/
theorem lt_nextId (h : w.Orderly) {id : SocketId} {s : Socket} (hs : w.socket? id = some s) :
    id < w.registry.nextId :=
  h.id_lt id (Table.mem_keys_of_get? hs)

/-- An open socket is found under its own identity. -/
theorem socket?_id (h : w.Orderly) {id : SocketId} {s : Socket} (hs : w.socket? id = some s) :
    w.socket? s.id = some s := by
  rwa [h.id_eq hs]

/-- The next token has no row yet. -/
theorem row_nextToken (h : w.Orderly) : w.reactor.table.get? w.reactor.nextToken = none := by
  rw [Table.get?_eq_none_iff]
  exact fun hmem => absurd (h.row_lt _ hmem) (Nat.lt_irrefl _)

/-- **A world stays orderly** while sockets keep their fixed part and rows their callback. -/
theorem of_same (h : w.Orderly) (hregistry : w'.registry = w.registry)
    (hkeys : w'.sockets.keys = w.sockets.keys)
    (hsockets : ∀ id t, w'.socket? id = some t →
      ∃ s, w.socket? id = some s ∧ t.id = s.id ∧ t.fd = s.fd ∧ t.token = s.token)
    (hkind : w'.reactor.kind = w.reactor.kind)
    (hnext : w'.reactor.nextToken = w.reactor.nextToken)
    (hrows : w'.reactor.table.keys.Sublist w.reactor.table.keys)
    (htable : ∀ token row, w'.reactor.table.get? token = some row →
      ∃ old, w.reactor.table.get? token = some old ∧ row.fd = old.fd ∧
        row.callback = old.callback) :
    w'.Orderly := by
  constructor
  · rw [hregistry, hkeys, h.live]
  · rw [hkeys]
    exact h.increasing
  · rw [hregistry, hkeys]
    exact h.id_lt
  · intro id t ht
    obtain ⟨s, hs, hid, -, -⟩ := hsockets id t ht
    rw [hid, h.id_eq hs]
  · intro id t ht
    obtain ⟨s, hs, -, -, htoken⟩ := hsockets id t ht
    rw [htoken, hnext]
    exact h.token_lt hs
  · intro id id' t t' ht ht' heq
    obtain ⟨s, hs, -, -, htoken⟩ := hsockets id t ht
    obtain ⟨s', hs', -, -, htoken'⟩ := hsockets id' t' ht'
    exact h.token_inj hs hs' (htoken.symm.trans (heq.trans htoken'))
  · exact h.rows.sublist hrows
  · intro token htoken
    rw [hnext]
    exact h.row_lt token (hrows.subset htoken)
  · intro token row id hrow hcallback
    obtain ⟨old, hold, -, hsame⟩ := htable token row hrow
    rw [hregistry]
    exact h.row_id hold (hsame.symm.trans hcallback)
  · intro token row id t hrow hcallback ht
    obtain ⟨old, hold, hfd, hsame⟩ := htable token row hrow
    obtain ⟨s, hs, -, hfd', htoken⟩ := hsockets id t ht
    obtain ⟨hown, hown'⟩ := h.row_socket hold (hsame.symm.trans hcallback) hs
    exact ⟨htoken.trans hown, hfd'.trans (hown'.trans hfd.symm)⟩
  · intro limit token row id hpolling hrow hcallback
    obtain ⟨old, hold, -, hsame⟩ := htable token row hrow
    rw [hkeys]
    exact h.row_open (hkind.symm.trans hpolling) hold (hsame.symm.trans hcallback)

/-- A quiet change keeps a world orderly. -/
theorem quiet (h : w.Orderly) (hquiet : w.Quiet P w') : w'.Orderly := by
  have hkeys : w'.reactor.table.keys.Sublist w.reactor.table.keys := by
    simp only [hquiet.table, List.Sublist.refl]
  exact h.of_same hquiet.registry (by rw [hquiet.sockets])
    (fun id t ht => ⟨t, (hquiet.socket? id).symm.trans ht, rfl, rfl, rfl⟩) hquiet.kind
    hquiet.nextToken hkeys fun token row hrow => ⟨row, by rwa [← hquiet.table], rfl, rfl⟩

/-- Sockets that keep their fixed part keep a world orderly. -/
theorem modify (h : w.Orderly) (id : SocketId) {f : Socket → Socket}
    (hkept : ∀ s, w.socket? id = some s →
      (f s).id = s.id ∧ (f s).fd = s.fd ∧ (f s).token = s.token) :
    ({ w with sockets := w.sockets.modify id f } : World).Orderly := by
  refine h.of_same rfl (Table.keys_modify _ _ _) ?_ rfl rfl (List.Sublist.refl _)
    fun token row hrow => ⟨row, hrow, rfl, rfl⟩
  intro id' t ht
  simp only [World.socket?, Table.get?_modify] at ht
  split at ht
  · rename_i heq
    subst heq
    obtain ⟨s, hs, rfl⟩ := Option.map_eq_some_iff.1 ht
    exact ⟨s, hs, hkept s hs⟩
  · exact ⟨t, ht, rfl, rfl, rfl⟩

/-- Setting an interest keeps a world orderly, whoever does it. -/
theorem setInterest (h : w.Orderly) (token : Token) (interest : Readiness) :
    ({ w with reactor := w.reactor.setInterest token interest } : World).Orderly := by
  have hkeys : (w.reactor.setInterest token interest).table.keys.Sublist w.reactor.table.keys := by
    simp only [Reactor.keys_setInterest, List.Sublist.refl]
  exact h.of_same rfl rfl (fun id t ht => ⟨t, ht, rfl, rfl, rfl⟩)
    (Reactor.kind_setInterest _ _ _) (Reactor.nextToken_setInterest _ _ _) hkeys
    fun token' row hrow => Reactor.get?_of_setInterest _ _ _ hrow

/-- Removing a registration keeps a world orderly, whoever does it. -/
theorem remove (h : w.Orderly) (token : Token) :
    ({ w with reactor := w.reactor.remove token } : World).Orderly :=
  h.of_same rfl rfl (fun _ t ht => ⟨t, ht, rfl, rfl, rfl⟩)
    (Reactor.kind_remove _ _) (Reactor.nextToken_remove _ _) (Reactor.keys_remove_sublist _ _)
    fun _ row hrow => ⟨row, Reactor.get?_of_remove _ _ hrow, rfl, rfl⟩

/-- A change of a subscription keeps a world orderly. -/
theorem resubscribe (h : w.Orderly) {s : Socket} (subscription : Subscription) (pushed : Bool)
    (hopen : w.socket? s.id = some s) : (w.resubscribe s subscription pushed).Orderly := by
  have hset : ({ w with sockets := w.sockets.set s.id { s with subscription } } : World).Orderly :=
    h.modify s.id fun t ht => by
      rw [Option.some.inj (ht.symm.trans hopen)]
      exact ⟨rfl, rfl, rfl⟩
  cases pushed with
  | false => exact hset
  | true => exact hset.setInterest s.token subscription.enabled.interest

/-- A row with a handler of the embedder keeps a world orderly. -/
theorem addDirect (h : w.Orderly) (fd : Fd) (handler : HandlerRef) :
    ({ w with reactor := w.reactor.add fd (.direct handler) } : World).Orderly := by
  have hold {token : Token} {row : Registration} {id : SocketId}
      (hrow : (w.reactor.add fd (.direct handler)).table.get? token = some row)
      (hcallback : row.callback = .socket id) : w.reactor.table.get? token = some row := by
    rcases Reactor.get?_of_add _ _ hrow with hrow | ⟨-, rfl⟩
    · exact hrow
    · simp at hcallback
  refine ⟨h.live, h.increasing, h.id_lt, h.id_eq, ?_, h.token_inj, ?_, ?_, ?_, ?_, ?_⟩
  · exact fun hs => Nat.lt_succ_of_lt (h.token_lt hs)
  · rw [Reactor.keys_add]
    exact pairwise_lt_concat h.rows h.row_lt
  · rw [Reactor.keys_add]
    exact lt_succ_concat h.row_lt
  · exact fun hrow hcallback => h.row_id (hold hrow hcallback) hcallback
  · exact fun hrow hcallback hs => h.row_socket (hold hrow hcallback) hcallback hs
  · exact fun hpolling hrow hcallback => h.row_open hpolling (hold hrow hcallback) hcallback

/-- Wasting an identity keeps a world orderly. -/
theorem waste (h : w.Orderly) : w.waste.Orderly := by
  refine { h with live := ?_, id_lt := ?_, row_id := ?_ }
  · have hlive : ∀ id ∈ w.registry.live, decide (id ≠ w.registry.nextId) = true := by
      rw [h.live]
      exact fun id hid => decide_eq_true (Nat.ne_of_lt (h.id_lt id hid))
    simp only [World.waste, Registry.allocate, Registry.retire, List.filter_append]
    rw [List.filter_eq_self.2 hlive, h.live]
    simp
  · exact fun id hid => Nat.lt_succ_of_lt (h.id_lt id hid)
  · exact fun hrow hcallback => Nat.lt_succ_of_lt (h.row_id hrow hcallback)

/-- Entering a socket keeps a world orderly. -/
theorem enrol (h : w.Orderly) (origin : Origin) : (w.enrol origin).Orderly := by
  -- the interest that is set at the end changes no row's descriptor or callback
  suffices hadd : ({ w with
      registry := w.registry.allocate
      reactor := w.reactor.add origin.fd (.socket w.registry.nextId)
      sockets := w.sockets.push w.registry.nextId
        (origin.socket w.registry.nextId w.reactor.nextToken) } : World).Orderly from
    hadd.setInterest w.reactor.nextToken ∅
  constructor
  · rw [Table.keys_push, ← h.live]
    rfl
  · rw [Table.keys_push]
    exact pairwise_lt_concat h.increasing h.id_lt
  · rw [Table.keys_push]
    exact lt_succ_concat h.id_lt
  · intro id s hs
    rcases socket?_enrol hs with hold | ⟨rfl, rfl⟩
    · exact h.id_eq hold
    · rfl
  · intro id s hs
    rcases socket?_enrol hs with hold | ⟨rfl, rfl⟩
    · exact Nat.lt_succ_of_lt (h.token_lt hold)
    · exact Nat.lt_succ_self _
  · intro id id' s s' hs hs' heq
    rcases socket?_enrol hs with hold | ⟨rfl, rfl⟩ <;>
      rcases socket?_enrol hs' with hold' | ⟨rfl, rfl⟩
    · exact h.token_inj hold hold' heq
    · exact absurd heq (Nat.ne_of_lt (h.token_lt hold))
    · exact absurd heq.symm (Nat.ne_of_lt (h.token_lt hold'))
    · rfl
  · rw [Reactor.keys_add]
    exact pairwise_lt_concat h.rows h.row_lt
  · rw [Reactor.keys_add]
    exact lt_succ_concat h.row_lt
  · intro token row id hrow hcallback
    rcases Reactor.get?_of_add _ _ hrow with hold | ⟨-, rfl⟩
    · exact Nat.lt_succ_of_lt (h.row_id hold hcallback)
    · obtain rfl := Callback.socket.inj hcallback
      exact Nat.lt_succ_self _
  · intro token row id s hrow hcallback hs
    rcases Reactor.get?_of_add _ _ hrow with hold | ⟨rfl, rfl⟩ <;>
      rcases socket?_enrol hs with hsold | ⟨rfl, rfl⟩
    · exact h.row_socket hold hcallback hsold
    · exact absurd (h.row_id hold hcallback) (Nat.lt_irrefl _)
    · obtain rfl := Callback.socket.inj hcallback
      exact absurd (h.lt_nextId hsold) (Nat.lt_irrefl _)
    · exact ⟨rfl, rfl⟩
  · intro limit token row id hpolling hrow hcallback
    rw [Table.keys_push, List.mem_append, List.mem_singleton]
    rcases Reactor.get?_of_add _ _ hrow with hold | ⟨-, rfl⟩
    · exact .inl (h.row_open hpolling hold hcallback)
    · exact .inr (Callback.socket.inj hcallback).symm

/-- Dismissing an open socket keeps a world orderly. -/
theorem dismiss (h : w.Orderly) {s : Socket} (hopen : w.socket? s.id = some s) :
    (w.dismiss s).Orderly := by
  have hkeys : (w.dismiss s).sockets.keys = w.sockets.keys.filter (· ≠ s.id) :=
    Table.keys_erase _ _
  have hnext : (w.dismiss s).reactor.nextToken = w.reactor.nextToken :=
    Reactor.nextToken_remove _ _
  have hrows := Reactor.keys_remove_sublist w.reactor s.token
  constructor
  · rw [hkeys, ← h.live]
    rfl
  · rw [hkeys]
    exact h.increasing.sublist List.filter_sublist
  · rw [hkeys]
    exact fun id hid => h.id_lt id (List.mem_filter.1 hid).1
  · exact fun ht => h.id_eq (socket?_dismiss ht).1
  · intro id t ht
    rw [hnext]
    exact h.token_lt (socket?_dismiss ht).1
  · exact fun ht ht' => h.token_inj (socket?_dismiss ht).1 (socket?_dismiss ht').1
  · exact h.rows.sublist hrows
  · rw [hnext]
    exact fun token htoken => h.row_lt token (hrows.subset htoken)
  · exact fun hrow => h.row_id (Reactor.get?_of_remove _ _ hrow)
  · exact fun hrow hcallback ht =>
      h.row_socket (Reactor.get?_of_remove _ _ hrow) hcallback (socket?_dismiss ht).1
  · intro limit token row id hpolling hrow hcallback
    have hold := Reactor.get?_of_remove _ _ hrow
    have hkind : w.reactor.kind = .polling limit := (Reactor.kind_remove _ _).symm.trans hpolling
    rw [hkeys, List.mem_filter]
    refine ⟨h.row_open hkind hold hcallback, decide_eq_true fun hid => ?_⟩
    -- the row of the socket lies under its token, and that row is gone
    subst hid
    obtain ⟨rfl, -⟩ := h.row_socket hold hcallback hopen
    simp only [World.dismiss, Reactor.get?_remove_self _ _ hkind] at hrow
    simp at hrow

end Orderly

/-! ## Acts -/

/-- **Every act keeps a world orderly.** -/
theorem Act.orderly (hact : Act P deed w w') (h : w.Orderly) : w'.Orderly := by
  cases hact with
  | quiet quiet => exact h.quiet quiet
  | alter kept => exact h.modify _ fun s hs => ⟨(kept s hs).id, (kept s hs).fd, (kept s hs).token⟩
  | resubscribe isOpen applied => exact h.resubscribe _ _ isOpen
  | enrol packetInfo => exact h.enrol _
  | waste => exact h.waste
  | dismiss isOpen => exact h.dismiss isOpen
  | addDescriptor deed_eq => exact h.addDirect _ _
  | setDescriptor deed_eq => exact h.setInterest _ _
  | removeDescriptor deed_eq => exact h.remove _

/-- Acts keep a world orderly. -/
theorem Acts.orderly (hacts : Acts P deed w w') (h : w.Orderly) : w'.Orderly :=
  hacts.invariant (fun _ _ hact => hact.orderly) h

/-! ## Sockets that are gone -/

/-- A socket is gone for good: its identity and its token were handed out, and nobody has them. -/
structure Gone (w : World) (s : Socket) : Prop where
  id_lt : s.id < w.registry.nextId
  closed : w.socket? s.id = none
  token_lt : s.token < w.reactor.nextToken
  token_free : ∀ {id t}, w.socket? id = some t → t.token ≠ s.token

variable {s : Socket}

/-- A socket that is dismissed is gone. -/
theorem Orderly.gone_dismiss (h : w.Orderly) (hopen : w.socket? s.id = some s) :
    (w.dismiss s).Gone s := by
  have hnext : (w.dismiss s).reactor.nextToken = w.reactor.nextToken :=
    Reactor.nextToken_remove _ _
  refine ⟨h.lt_nextId hopen, ?_, ?_, ?_⟩
  · simp only [World.socket?, World.dismiss, Table.get?_erase, ↓reduceIte]
  · rw [hnext]
    exact h.token_lt hopen
  · intro id t ht heq
    obtain ⟨ht, hne⟩ := socket?_dismiss ht
    exact hne (h.token_inj ht hopen heq)

/-- An identity that was handed out and has no open socket gets none any more. -/
theorem Act.stays_closed (hact : Act P deed w w') {id : SocketId}
    (h : id < w.registry.nextId ∧ w.socket? id = none) :
    id < w'.registry.nextId ∧ w'.socket? id = none := by
  refine ⟨Nat.lt_of_lt_of_le h.1 hact.nextId_le, ?_⟩
  rw [Option.eq_none_iff_forall_ne_some]
  intro t ht
  cases hact.comesFrom ht with
  | kept isOpen _ | changed isOpen _ => simp [h.2] at isOpen
  | new hid _ => exact absurd hid (Nat.ne_of_lt h.1)

/-- **What is gone stays gone**, whatever happens. -/
theorem Act.gone (hact : Act P deed w w') (h : w.Gone s) : w'.Gone s := by
  obtain ⟨hlt, hclosed⟩ := hact.stays_closed ⟨h.id_lt, h.closed⟩
  refine ⟨hlt, hclosed, Nat.lt_of_lt_of_le h.token_lt hact.nextToken_le, ?_⟩
  intro id t ht
  cases hact.comesFrom ht with
  | kept isOpen kept =>
    rw [kept.token]
    exact h.token_free isOpen
  | changed isOpen _ =>
    have hfree := h.token_free isOpen
    exact hfree
  | new _ _ => exact (Nat.ne_of_lt h.token_lt).symm

/-- What is gone stays gone in a quiet change. -/
theorem Gone.quiet (h : w.Gone s) (hquiet : w.Quiet P w') : w'.Gone s :=
  (Act.quiet hquiet : Act P .nothing w w').gone h

end World

end SocketLoop
