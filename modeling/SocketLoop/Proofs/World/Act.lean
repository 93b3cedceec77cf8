import Mathlib.Logic.Relation
import SocketLoop.Proofs.Reactor.Rows
import SocketLoop.Proofs.Run.Moment
import SocketLoop.Proofs.Socket.Operation

/-!
# What a deed does to the world

The registry, the sockets and the registrations are updated separately, and a deed updates them in a
few ways only. `Act` lists these ways, and a deed is a sequence of acts (`Deed.acts_run`), so that
an invariant of the world has to be checked act by act and not operation by operation.

* A new socket is entered into all three parts at once (`World.enrol`), or its identity is wasted.
* What changes of an open socket is neither its fixed part nor its subscription, unless its
  subscription is what the deed is about; then the reactor is told where needed.
* A socket that is freed leaves all three parts at once.
* The embedder changes registrations directly.

Between acts the library makes calls and records what it did: `Event.IsWork` bounds which
registrations are touched by it.
-/

namespace SocketLoop

/-! ## Work -/

namespace Event

/-- A thing done by the library itself, to no registration but these. -/
structure IsWork (tokens : List Token) (e : Event) : Prop where
  work : ¬e.IsBracket
  token : ∀ token, e.token? = some token → token ∈ tokens

/-- A thing done by the library itself, with no descriptor and to no registration but these. -/
structure IsWorkWith (fds : List Fd) (tokens : List Token) (e : Event) : Prop
    extends e.IsWork tokens where
  fd : ∀ fd, e.fd? = some fd → fd ∈ fds

/-- A call or a close is no bracket. -/
theorem IsSystem.not_isBracket {e : Event} (h : e.IsSystem) : ¬e.IsBracket := by
  cases e with
  | called _ _ | closed _ => exact id
  | _ => exact h.elim

/-- A call or a close touches no registration. -/
theorem IsSystem.isWork {tokens : List Token} {e : Event} (h : e.IsSystem) : e.IsWork tokens := by
  refine ⟨h.not_isBracket, fun token htoken => ?_⟩
  rw [h.token?_eq_none] at htoken
  exact absurd htoken (by simp)

variable {fds : List Fd} {tokens : List Token} {fd : Fd} {token : Token}

/-- A call is work with the descriptor that it names. -/
theorem isWorkWith_called {call : Syscall} {result : Except Errno Int}
    (h : ∀ fd, call.fd? = some fd → fd ∈ fds) : IsWorkWith fds tokens (.called call result) := by
  refine ⟨⟨id, ?_⟩, h⟩
  simp [token?]

/-- A close is work with the descriptor that is closed. -/
theorem isWorkWith_closed (h : fd ∈ fds) : IsWorkWith fds tokens (.closed fd) := by
  refine ⟨⟨id, ?_⟩, ?_⟩
  · simp [token?]
  · simpa [fd?] using h

/-- A registration is work with the descriptor that is registered. -/
theorem isWorkWith_registered {result : Except ReactorError Token} (h : fd ∈ fds) :
    IsWorkWith fds tokens (.registered fd result) := by
  refine ⟨⟨id, ?_⟩, ?_⟩
  · simp [token?]
  · simpa [fd?] using h

/-- Setting an interest is done to its registration. -/
theorem isWorkWith_interestSet {interest : Readiness} (h : token ∈ tokens) :
    IsWorkWith fds tokens (.interestSet token interest) := by
  refine ⟨⟨id, ?_⟩, ?_⟩
  · simpa [token?] using h
  · simp [fd?]

/-- A removal is done to its registration. -/
theorem isWorkWith_deregistered (h : token ∈ tokens) :
    IsWorkWith fds tokens (.deregistered token) := by
  refine ⟨⟨id, ?_⟩, ?_⟩
  · simpa [token?] using h
  · simp [fd?]

/-- A call with a descriptor names no other. -/
theorem IsCallWith.isWorkWith {e : Event} (h : e.IsCallWith fd) (hmem : fd ∈ fds) :
    e.IsWorkWith fds tokens := by
  cases e with
  | called call result =>
    apply isWorkWith_called
    intro fd' hfd'
    obtain rfl := Option.some.inj (h.symm.trans hfd')
    exact hmem
  | _ => exact h.elim

end Event

namespace World

variable {P : Event → Prop} (w : World)

/-! ## Acts -/

/-- A socket made of a descriptor is entered: it has the next identity and the next token. -/
def enrol (origin : Origin) : World :=
  { w with
    registry := w.registry.allocate
    reactor := (w.reactor.add origin.fd (.socket w.registry.nextId)).setInterest
      w.reactor.nextToken ∅
    sockets := w.sockets.push w.registry.nextId
      (origin.socket w.registry.nextId w.reactor.nextToken) }

/-- The next identity is used up without a socket. -/
def waste : World :=
  { w with registry := w.registry.allocate.retire w.registry.nextId }

/-- A socket gets another subscription, of which the reactor is told or not. -/
def resubscribe (s : Socket) (subscription : Subscription) (pushed : Bool) : World :=
  { w with
    sockets := w.sockets.set s.id { s with subscription }
    reactor := if pushed then w.reactor.setInterest s.token subscription.enabled.interest
      else w.reactor }

/-- A socket leaves. -/
def dismiss (s : Socket) : World :=
  { w with
    registry := w.registry.retire s.id
    sockets := w.sockets.erase s.id
    reactor := w.reactor.remove s.token }

/-- One of the things that a deed is made of. -/
inductive Act (P : Event → Prop) (deed : Deed) (w : World) : World → Prop
  /-- The operating system is called, or something is recorded. -/
  | quiet {w' : World} (quiet : w.Quiet P w') : Act P deed w w'
  /-- The changing part of a socket changes. -/
  | alter {id : SocketId} {f : Socket → Socket}
      (kept : ∀ s, w.socket? id = some s → s.Kept (f s)) :
      Act P deed w { w with sockets := w.sockets.modify id f }
  /-- The subscription of a socket changes. -/
  | resubscribe {s : Socket} {change : Change HandlerRef} {subscription : Subscription}
      (isOpen : w.socket? s.id = some s)
      (applied : s.subscription.apply change = .ok subscription) :
      Act P deed w (w.resubscribe s subscription (change.isPushed s.subscription.enabled))
  /-- A socket is opened or accepted. Packet information is on only where it is wanted. -/
  | enrol {origin : Origin} (packetInfo : origin.packetInfo = true →
      origin.cls = .datagram ∧ origin.config.packetInfo = true) :
      Act P deed w (w.enrol origin)
  /-- A socket is refused by the reactor. -/
  | waste : Act P deed w w.waste
  /-- A socket is freed. -/
  | dismiss {s : Socket} (isOpen : w.socket? s.id = some s) : Act P deed w (w.dismiss s)
  /-- The embedder registers a descriptor. -/
  | addDescriptor {fd : Fd} {handler : HandlerRef} (deed_eq : deed = .addDescriptor fd handler) :
      Act P deed w { w with reactor := w.reactor.add fd (.direct handler) }
  /-- The embedder sets the interest of a registration. -/
  | setDescriptor {token : Token} {interest : Readiness}
      (deed_eq : deed = .setDescriptor token interest) :
      Act P deed w { w with reactor := w.reactor.setInterest token interest }
  /-- The embedder removes a registration. -/
  | removeDescriptor {token : Token} (deed_eq : deed = .removeDescriptor token) :
      Act P deed w { w with reactor := w.reactor.remove token }

/-- Acts of one deed, one after the other. -/
abbrev Acts (P : Event → Prop) (deed : Deed) : World → World → Prop :=
  Relation.ReflTransGen (Act P deed)

variable {deed : Deed} {w} {w' : World}

/-- What the library records in an act satisfies the condition. -/
theorem Act.grows (h : Act P deed w w') : Grows P w.kernel.history w'.kernel.history := by
  cases h with
  | quiet quiet => exact quiet.history
  | _ => exact Grows.refl _

/-- What the library records in acts satisfies the condition. -/
theorem Acts.grows (h : Acts P deed w w') : Grows P w.kernel.history w'.kernel.history := by
  induction h with
  | refl => exact Grows.refl _
  | tail _ hact ih => exact ih.trans hact.grows

/-- A weaker condition on what is recorded. -/
theorem Act.mono {Q : Event → Prop} (h : Act P deed w w') (hPQ : ∀ e, P e → Q e) :
    Act Q deed w w' := by
  cases h with
  | quiet quiet => exact .quiet (quiet.mono hPQ)
  | alter kept => exact .alter kept
  | resubscribe isOpen applied => exact .resubscribe isOpen applied
  | enrol packetInfo => exact .enrol packetInfo
  | waste => exact .waste
  | dismiss isOpen => exact .dismiss isOpen
  | addDescriptor deed_eq => exact .addDescriptor deed_eq
  | setDescriptor deed_eq => exact .setDescriptor deed_eq
  | removeDescriptor deed_eq => exact .removeDescriptor deed_eq

/-- A weaker condition on what is recorded in several acts. -/
theorem Acts.mono {Q : Event → Prop} (h : Acts P deed w w') (hPQ : ∀ e, P e → Q e) :
    Acts Q deed w w' :=
  Relation.ReflTransGen.mono (fun _ _ (hact : Act P deed _ _) => hact.mono hPQ) w w' h

/-- **What every act keeps, every deed keeps.** -/
theorem Acts.invariant {I : World → Prop} (h : Acts P deed w w')
    (hact : ∀ w w', Act P deed w w' → I w → I w') (hw : I w) : I w' := by
  induction h with
  | refl => exact hw
  | tail _ hlast ih => exact hact _ _ hlast ih

/-! ## Sockets after an act -/

/-- The sockets after one is entered: the new one, and those that were there. -/
theorem socket?_enrol {origin : Origin} {id : SocketId} {s : Socket}
    (hs : (w.enrol origin).socket? id = some s) :
    w.socket? id = some s ∨ id = w.registry.nextId ∧
      s = origin.socket w.registry.nextId w.reactor.nextToken := by
  simp only [World.socket?, World.enrol, Table.get?_push, Option.or_eq_some_iff] at hs
  rcases hs with hold | ⟨-, hnew⟩
  · exact .inl hold
  · obtain ⟨hid, hsocket⟩ := Option.ite_none_right_eq_some.1 hnew
    exact .inr ⟨hid, (Option.some.inj hsocket).symm⟩

/-- The sockets after one is dismissed: those that were there but that one. -/
theorem socket?_dismiss {s t : Socket} {id : SocketId} (ht : (w.dismiss s).socket? id = some t) :
    w.socket? id = some t ∧ id ≠ s.id := by
  simp only [World.socket?, World.dismiss, Table.get?_erase] at ht
  split at ht
  · simp at ht
  · exact ⟨ht, ‹_›⟩

/-- Where an open socket comes from in an act: it was there and kept all but its changing part, its
subscription changed, or it is new. -/
inductive ComesFrom (w : World) (id : SocketId) : Socket → Prop
  | kept {s t : Socket} (isOpen : w.socket? id = some s) (kept : s.Kept t) : ComesFrom w id t
  | changed {s : Socket} {change : Change HandlerRef} {subscription : Subscription}
      (isOpen : w.socket? id = some s) (applied : s.subscription.apply change = .ok subscription) :
      ComesFrom w id { s with subscription }
  | new {origin : Origin} (id_eq : id = w.registry.nextId) (packetInfo : origin.packetInfo = true →
      origin.cls = .datagram ∧ origin.config.packetInfo = true) :
      ComesFrom w id (origin.socket w.registry.nextId w.reactor.nextToken)

/-- A socket that is there afterwards as it was before. -/
theorem ComesFrom.same {id : SocketId} {t : Socket} (h : w.socket? id = some t) :
    w.ComesFrom id t :=
  .kept h (Socket.Kept.refl t)

/-- **Every open socket comes from somewhere.** -/
theorem Act.comesFrom (h : Act P deed w w') {id : SocketId} {t : Socket}
    (ht : w'.socket? id = some t) : w.ComesFrom id t := by
  cases h with
  | quiet quiet => exact .same ((quiet.socket? id).symm.trans ht)
  | @alter id' f kept =>
    simp only [World.socket?, Table.get?_modify] at ht
    split at ht
    · rename_i heq
      subst heq
      obtain ⟨s, hs, rfl⟩ := Option.map_eq_some_iff.1 ht
      exact .kept hs (kept s hs)
    · exact .same ht
  | @resubscribe s change subscription isOpen applied =>
    simp only [World.resubscribe, World.socket?, Table.get?_set] at ht
    split at ht
    · rename_i heq
      subst heq
      obtain ⟨old, hold, rfl⟩ := Option.map_eq_some_iff.1 ht
      exact .changed isOpen applied
    · exact .same ht
  | enrol packetInfo =>
    rcases socket?_enrol ht with hold | ⟨hid, rfl⟩
    · exact .same hold
    · exact .new hid packetInfo
  | dismiss isOpen => exact .same (socket?_dismiss ht).1
  | waste | addDescriptor _ | setDescriptor _ | removeDescriptor _ => exact .same ht

/-- Identities count up. -/
theorem Act.nextId_le (h : Act P deed w w') : w.registry.nextId ≤ w'.registry.nextId := by
  cases h with
  | quiet quiet => exact Nat.le_of_eq (congrArg Registry.nextId quiet.registry).symm
  | enrol _ | waste => exact Nat.le_succ _
  | _ => exact Nat.le_refl _

/-- Identities count up through several acts. -/
theorem Acts.nextId_le (h : Acts P deed w w') : w.registry.nextId ≤ w'.registry.nextId := by
  induction h with
  | refl => exact Nat.le_refl _
  | tail _ hact ih => exact Nat.le_trans ih hact.nextId_le

/-- Tokens count up. -/
theorem Act.nextToken_le (h : Act P deed w w') : w.reactor.nextToken ≤ w'.reactor.nextToken := by
  cases h with
  | quiet quiet => exact Nat.le_of_eq quiet.nextToken.symm
  | resubscribe _ _ =>
    unfold World.resubscribe
    dsimp only
    split <;> simp
  | enrol _ => simp [World.enrol]
  | dismiss _ => simp [World.dismiss]
  | addDescriptor _ => simp
  | setDescriptor _ => simp
  | removeDescriptor _ => simp
  | alter _ | waste => exact Nat.le_refl _

/-! ## Calls and registrations -/

/-- A call that belongs to no open socket. -/
theorem quiet_call (w : World) (syscall : Syscall) (h : ∀ result, P (.called syscall result)) :
    w.Quiet P (w.call syscall).2 :=
  ⟨rfl, rfl, rfl, rfl, rfl, Kernel.grows_call w.kernel syscall h⟩

/-- A call is recorded with its value, or with its failure. -/
theorem history_call (w : World) (syscall : Syscall) : (w.call syscall).2.kernel.history =
    w.kernel.history ++ [.called syscall ((w.call syscall).1.map (·.value))] :=
  w.kernel.history_call syscall

/-- A close. -/
theorem quiet_close (w : World) {fd : Fd} (h : P (.closed fd)) : w.Quiet P (w.close fd) :=
  Quiet.record w h

/-- Asking whether a registration is refused records nothing. -/
theorem quiet_refuses (w : World) (fd : Fd) : w.Quiet P (w.refuses fd).2 := by
  unfold refuses
  split
  · exact Quiet.refl _
  · exact ⟨rfl, rfl, rfl, rfl, rfl, Grows.refl _⟩

/-- A registration is refused, or it is added under the next token. -/
theorem register_cases (w : World) (fd : Fd) (callback : Callback)
    (h : ∀ result, P (.registered fd result)) :
    (∃ error w', w.register fd callback = (.error error, w') ∧ w.Quiet P w') ∨
      ∃ w', w.register fd callback = (.ok w.reactor.nextToken, w') ∧
        ({ w with reactor := w.reactor.add fd callback } : World).Quiet P w' := by
  have hquiet := quiet_refuses (P := P) w fd
  have hreactor : (w.refuses fd).2.reactor = w.reactor := by
    unfold refuses
    split <;> rfl
  unfold register
  rcases hrefuses : w.refuses fd with ⟨_ | error, kernel, reactor, registry, sockets⟩ <;>
    rw [hrefuses] at hquiet hreactor
  · right
    obtain rfl : reactor = w.reactor := hreactor
    refine ⟨_, rfl, Quiet.trans ?_ (Quiet.record _ (h _))⟩
    exact ⟨hquiet.registry, hquiet.sockets, rfl, rfl, rfl, hquiet.history⟩
  · left
    exact ⟨error, _, rfl, hquiet.trans (Quiet.record _ (h _))⟩

/-- Telling the reactor of an interest. -/
theorem quiet_setInterest (w : World) {token : Token} {interest : Readiness}
    (h : P (.interestSet token interest)) :
    ({ w with reactor := w.reactor.setInterest token interest } : World).Quiet P
      (w.setInterest token interest) :=
  Quiet.record _ h

/-- Removing a registration. -/
theorem quiet_deregister (w : World) {token : Token} (h : P (.deregistered token)) :
    ({ w with reactor := w.reactor.remove token } : World).Quiet P (w.deregister token) :=
  Quiet.record _ h

end World

end SocketLoop
