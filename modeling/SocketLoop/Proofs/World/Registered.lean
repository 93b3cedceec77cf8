import SocketLoop.Proofs.Socket.Subscription
import SocketLoop.Proofs.World.Orderly

/-!
# Sockets and their rows

With a polling reactor every open socket has a row in the registration table: under its token, with
its descriptor, with the interest that its enabled events need, and with its own callback
(`Socket.row`). A world in which all open sockets have theirs is *in step*.

* **`Act.inStep`**: every act keeps an orderly world in step, unless the embedder changes a
  registration directly. Where the reactor is not told of a change of a subscription, the enabled
  events did not change (`Subscription.enabled_of_not_pushed`).
* `InStep.setInterest`, `InStep.remove`: neither does the embedder disturb it with a token that no
  open socket has.
* `Act.rowFrom`: a row keeps its descriptor and its callback as long as it is there, a new one has the
  next token, and one with a handler of the embedder was added by the embedder.
-/

namespace SocketLoop

/-- The row that an open socket has to have. -/
def Socket.row (s : Socket) : Registration :=
  ⟨s.fd, s.subscription.enabled.interest, .socket s.id⟩

/-- A row is that of a socket: it has its descriptor and its callback, and an interest in reading if
and only if reading or accepting is enabled, in writing if and only if writing or connecting is. -/
structure Socket.Owns (s : Socket) (row : Registration) : Prop where
  fd : row.fd = s.fd
  callback : row.callback = .socket s.id
  read : row.interest.read = true ↔
    SocketEvent.read ∈ s.subscription.enabled ∨ SocketEvent.accept ∈ s.subscription.enabled
  write : row.interest.write = true ↔
    SocketEvent.write ∈ s.subscription.enabled ∨ SocketEvent.connect ∈ s.subscription.enabled
  other : row.interest.other = 0

/-- The row that an open socket has to have is its own. -/
theorem Socket.owns_row (s : Socket) : s.Owns s.row :=
  ⟨rfl, rfl, Bool.or_eq_true_iff, Bool.or_eq_true_iff, rfl⟩

namespace World

variable {P : Event → Prop} {deed : Deed} {w w' : World} {limit : Nat}

/-! ## Rows of open sockets -/

/-- Every open socket has its row. -/
def InStep (w : World) : Prop :=
  ∀ id s, w.socket? id = some s → w.reactor.table.get? s.token = some s.row

/-- No reactor changes its kind. -/
theorem Act.kind (hact : Act P deed w w') : w'.reactor.kind = w.reactor.kind := by
  cases hact with
  | quiet quiet => exact quiet.kind
  | resubscribe _ _ =>
    unfold World.resubscribe
    dsimp only
    split <;> simp
  | enrol _ => simp [World.enrol]
  | dismiss _ => simp [World.dismiss]
  | setDescriptor _ => simp
  | removeDescriptor _ => simp
  | _ => rfl

namespace InStep

/-- A quiet change keeps a world in step. -/
theorem quiet (h : w.InStep) (hquiet : w.Quiet P w') : w'.InStep := by
  intro id s hs
  rw [hquiet.table]
  exact h id s ((hquiet.socket? id).symm.trans hs)

/-- A direct change of an interest keeps a world in step if no open socket has the token. -/
theorem setInterest (h : w.InStep) (hkind : w.reactor.kind = .polling limit) {token : Token}
    (interest : Readiness) (hfree : ∀ id s, w.socket? id = some s → s.token ≠ token) :
    ({ w with reactor := w.reactor.setInterest token interest } : World).InStep := by
  intro id s hs
  simp only [Reactor.setInterest, hkind, Table.get?_modify, if_neg (hfree id s hs)]
  exact h id s hs

/-- A removal keeps a world in step if no open socket has the token. -/
theorem remove (h : w.InStep) (hkind : w.reactor.kind = .polling limit) {token : Token}
    (hfree : ∀ id s, w.socket? id = some s → s.token ≠ token) :
    ({ w with reactor := w.reactor.remove token } : World).InStep := by
  intro id s hs
  simp only [Reactor.remove, hkind, Table.get?_erase, if_neg (hfree id s hs)]
  exact h id s hs

/-- An addition keeps a world in step, because its token is new. -/
theorem add (h : w.InStep) (fd : Fd) (callback : Callback) :
    ({ w with reactor := w.reactor.add fd callback } : World).InStep := by
  intro id s hs
  simp only [Reactor.get?_add, h id s hs, Option.some_or]

/-- Sockets that keep their fixed part and their subscription keep a world in step. -/
theorem modify (h : w.InStep) {id : SocketId} {f : Socket → Socket}
    (hkept : ∀ s, w.socket? id = some s → s.Kept (f s)) :
    ({ w with sockets := w.sockets.modify id f } : World).InStep := by
  intro id' t ht
  simp only [World.socket?, Table.get?_modify] at ht
  split at ht
  · rename_i heq
    subst heq
    obtain ⟨s, hs, rfl⟩ := Option.map_eq_some_iff.1 ht
    have hs' := hkept s hs
    rw [hs'.token, Socket.row, hs'.fd, hs'.subscription, hs'.id]
    exact h id' s hs
  · exact h id' t ht

/-- A change of a subscription keeps a world in step: the reactor is told, or there is nothing to
tell. -/
theorem resubscribe (h : w.InStep) (horderly : w.Orderly)
    (hkind : w.reactor.kind = .polling limit) {s : Socket} {change : Change HandlerRef}
    {subscription : Subscription} (hopen : w.socket? s.id = some s)
    (happly : s.subscription.apply change = .ok subscription) :
    (w.resubscribe s subscription (change.isPushed s.subscription.enabled)).InStep := by
  intro id t ht
  simp only [World.resubscribe, World.socket?, Table.get?_set] at ht
  split at ht
  · rename_i heq
    subst heq
    obtain ⟨old, hold, rfl⟩ := Option.map_eq_some_iff.1 ht
    cases hpushed : change.isPushed s.subscription.enabled with
    | true =>
      simp only [World.resubscribe, ↓reduceIte, Reactor.setInterest, hkind, Table.get?_modify,
        h s.id s hopen, Option.map_some]
      rfl
    | false =>
      have hsame := Subscription.enabled_of_not_pushed happly hpushed
      simp only [World.resubscribe, Bool.false_eq_true, ↓reduceIte, h s.id s hopen, Socket.row,
        hsame]
  · rename_i hne
    -- another socket has another token
    have htoken : t.token ≠ s.token := fun heq => hne (horderly.token_inj ht hopen heq)
    cases change.isPushed s.subscription.enabled with
    | true =>
      simp only [World.resubscribe, ↓reduceIte, Reactor.setInterest, hkind, Table.get?_modify,
        if_neg htoken]
      exact h id t ht
    | false => exact h id t ht

/-- Entering a socket keeps a world in step. -/
theorem enrol (h : w.InStep) (horderly : w.Orderly) (hkind : w.reactor.kind = .polling limit)
    (origin : Origin) : (w.enrol origin).InStep := by
  intro id t ht
  rcases socket?_enrol ht with hold | ⟨rfl, rfl⟩
  · have hne := Nat.ne_of_lt (horderly.token_lt hold)
    simp only [World.enrol, Reactor.setInterest, Reactor.kind_add, hkind, Table.get?_modify,
      if_neg hne, Reactor.get?_add, h id t hold, Option.some_or]
  · simp only [World.enrol, Reactor.setInterest, Reactor.kind_add, hkind, Table.get?_modify,
      Origin.socket, Reactor.get?_add, horderly.row_nextToken, Option.none_or, ↓reduceIte,
      Option.map_some]
    rfl

/-- Dismissing a socket keeps a world in step. -/
theorem dismiss (h : w.InStep) (horderly : w.Orderly) (hkind : w.reactor.kind = .polling limit)
    {s : Socket} (hopen : w.socket? s.id = some s) : (w.dismiss s).InStep := by
  intro id t ht
  obtain ⟨ht, hne⟩ := socket?_dismiss ht
  have htoken : t.token ≠ s.token := fun heq => hne (horderly.token_inj ht hopen heq)
  simp only [World.dismiss, Reactor.remove, hkind, Table.get?_erase, if_neg htoken]
  exact h id t ht

end InStep

/-- **Every act keeps an orderly world in step**, unless the embedder changes a registration by its
token. -/
theorem Act.inStep (hact : Act P deed w w') (hdirect : deed.directToken? = none)
    (horderly : w.Orderly) (hkind : w.reactor.kind = .polling limit) (h : w.InStep) :
    w'.InStep := by
  cases hact with
  | quiet quiet => exact h.quiet quiet
  | alter kept => exact h.modify kept
  | resubscribe isOpen applied => exact h.resubscribe horderly hkind isOpen applied
  | enrol packetInfo => exact h.enrol horderly hkind _
  | waste => exact h
  | dismiss isOpen => exact h.dismiss horderly hkind isOpen
  | addDescriptor deed_eq => exact h.add _ _
  | setDescriptor deed_eq | removeDescriptor deed_eq =>
    simp [deed_eq, Deed.directToken?] at hdirect

/-- Acts keep an orderly world in step, unless the embedder changes a registration by its token. -/
theorem Acts.inStep (hacts : Acts P deed w w') (hdirect : deed.directToken? = none)
    (horderly : w.Orderly) (hkind : w.reactor.kind = .polling limit) (h : w.InStep) :
    w'.InStep := by
  have hall : w'.Orderly ∧ w'.reactor.kind = .polling limit ∧ w'.InStep := by
    refine hacts.invariant (I := fun w => w.Orderly ∧ w.reactor.kind = .polling limit ∧ w.InStep)
      ?_ ⟨horderly, hkind, h⟩
    rintro w w' hact ⟨horderly, hkind, h⟩
    exact ⟨hact.orderly horderly, hact.kind.trans hkind,
      hact.inStep hdirect horderly hkind h⟩
  exact hall.2.2

/-! ## Where rows come from -/

/-- Where a row comes from in an act: it was there with its descriptor and its callback, or it is new
and has the next token. The embedder adds rows with handlers of its own. -/
inductive RowFrom (deed : Deed) (w : World) (token : Token) (row : Registration) : Prop
  | old {old : Registration} (isThere : w.reactor.table.get? token = some old)
      (fd : row.fd = old.fd) (callback : row.callback = old.callback)
  | socket {id : SocketId} (isNew : token = w.reactor.nextToken) (callback : row.callback = .socket id)
  | direct {handler : HandlerRef} (isNew : token = w.reactor.nextToken)
      (callback : row.callback = .direct handler) (deed_eq : deed = .addDescriptor row.fd handler)

/-- **Every row comes from somewhere.** -/
theorem Act.rowFrom (hact : Act P deed w w') {token : Token} {row : Registration}
    (hrow : w'.reactor.table.get? token = some row) : w.RowFrom deed token row := by
  have hset {token' : Token} {interest : Readiness}
      (h : (w.reactor.setInterest token' interest).table.get? token = some row) :
      w.RowFrom deed token row := by
    obtain ⟨old, hold, hfd, hsame⟩ := Reactor.get?_of_setInterest _ _ _ h
    exact .old hold hfd hsame
  cases hact with
  | quiet quiet => exact .old (by rwa [← quiet.table]) rfl rfl
  | resubscribe isOpen applied =>
    unfold World.resubscribe at hrow
    dsimp only at hrow
    split at hrow
    · exact hset hrow
    · exact .old hrow rfl rfl
  | enrol packetInfo =>
    obtain ⟨old, hold, hfd, hsame⟩ := Reactor.get?_of_setInterest _ _ _ hrow
    rcases Reactor.get?_of_add _ _ hold with hold | ⟨hnew, rfl⟩
    · exact .old hold hfd hsame
    · exact .socket hnew hsame
  | dismiss isOpen => exact .old (Reactor.get?_of_remove _ _ hrow) rfl rfl
  | addDescriptor deed_eq =>
    rcases Reactor.get?_of_add _ _ hrow with hold | ⟨hnew, rfl⟩
    · exact .old hold rfl rfl
    · exact .direct hnew rfl deed_eq
  | setDescriptor deed_eq => exact hset hrow
  | removeDescriptor deed_eq => exact .old (Reactor.get?_of_remove _ _ hrow) rfl rfl
  | alter _ | waste => exact .old hrow rfl rfl

/-- A row with a handler of the embedder was there with it before some acts, or the embedder adds
it. -/
theorem Acts.direct_row (hacts : Acts P deed w w') {token : Token} {row : Registration}
    {handler : HandlerRef} (hrow : w'.reactor.table.get? token = some row)
    (hcallback : row.callback = .direct handler) :
    (∃ old, w.reactor.table.get? token = some old ∧ old.fd = row.fd ∧
      old.callback = .direct handler) ∨ deed = .addDescriptor row.fd handler := by
  induction hacts generalizing row with
  | refl => exact .inl ⟨row, hrow, rfl, hcallback⟩
  | tail _ hact ih =>
    cases hact.rowFrom hrow with
    | old isThere fd callback =>
      rw [fd]
      exact ih isThere (callback.symm.trans hcallback)
    | socket isNew callback => simp [callback] at hcallback
    | direct isNew callback deed_eq =>
      obtain rfl := Callback.direct.inj (callback.symm.trans hcallback)
      exact .inr deed_eq

/-- The row under a token that was handed out before is the one that was there, with its descriptor
and its callback. -/
theorem Act.row_stays (hact : Act P deed w w') {token : Token} {row : Registration}
    (hlt : token < w.reactor.nextToken) (hrow : w'.reactor.table.get? token = some row) :
    ∃ old, w.reactor.table.get? token = some old ∧ row.fd = old.fd ∧
      row.callback = old.callback := by
  cases hact.rowFrom hrow with
  | old isThere fd callback => exact ⟨_, isThere, fd, callback⟩
  | socket isNew _ | direct isNew _ _ => exact absurd isNew (Nat.ne_of_lt hlt)

end World

end SocketLoop
