import SocketLoop.Proofs.World.Act

/-!
# Deeds as sequences of acts

Every operation of the world is taken apart here, once.

* **`Deed.acts_run`**: a deed is a sequence of acts, and touches no registrations but `Deed.tokens`:
  that of the socket that it works for, that of a socket that it makes, or the one that the embedder
  named.
* **`Deed.callsSince_run`**: a deed names no descriptors but `Deed.fds`, that is those of the socket
  that it works for or that the embedder named, and those that it was handed on the way.

A deed that is about an open socket has to find it in the world as it is (`Deed.Fits`).
-/

namespace SocketLoop

namespace Deed

/-- The open socket that a deed works for. -/
def served? (w : World) : Deed → Option Socket
  | .deliver id _ => w.socket? id
  | deed => deed.socket?

/-- The descriptors that a deed may name from the start. -/
def fds (w : World) : Deed → List Fd
  | .addDescriptor fd _ => [fd]
  | deed => ((deed.served? w).map (·.fd)).toList

/-- The registrations that a deed may touch. -/
def tokens (w : World) : Deed → List Token
  | .openSocket .. => [w.reactor.nextToken]
  | .accept _ => [w.reactor.nextToken]
  | .change s _ => [s.token]
  | .free s => [s.token]
  | .setDescriptor token _ => [token]
  | .removeDescriptor token => [token]
  | _ => []

/-- Whether a deed can be handed a descriptor. -/
def isHanded : Deed → Bool
  | .openSocket .. => true
  | .accept _ => true
  | .request .. => true
  | _ => false

/-- Whether a deed can make a socket. -/
def isMaking : Deed → Bool
  | .openSocket .. => true
  | .accept _ => true
  | _ => false

/-- The token by which the embedder changes or removes a registration. -/
def directToken? : Deed → Option Token
  | .setDescriptor token _ => some token
  | .removeDescriptor token => some token
  | _ => none

/-- The socket that a deed works for is open, and it is as the deed has it. -/
def Fits (deed : Deed) (w : World) : Prop :=
  ∀ s, deed.served? w = some s → w.socket? s.id = some s

section Quiet

variable {P : Event → Prop} {w w' : World} {deed : Deed}

/-- A deed works for the same socket after a quiet change. -/
theorem served?_quiet (h : w.Quiet P w') (deed : Deed) : deed.served? w' = deed.served? w := by
  cases deed with
  | deliver id ready => exact h.socket? id
  | _ => rfl

/-- A deed has the same descriptors after a quiet change. -/
theorem fds_quiet (h : w.Quiet P w') (deed : Deed) : deed.fds w' = deed.fds w := by
  cases deed with
  | addDescriptor fd handler => rfl
  | _ => simp only [fds, served?_quiet h]

/-- A deed has the same registrations after a quiet change. -/
theorem tokens_quiet (h : w.Quiet P w') (deed : Deed) : deed.tokens w' = deed.tokens w := by
  cases deed with
  | openSocket _ _ _ | accept _ => simp only [tokens, h.nextToken]
  | _ => rfl

/-- A deed still fits after a quiet change. -/
theorem Fits.quiet (hfits : deed.Fits w) (h : w.Quiet P w') : deed.Fits w' := by
  intro s hs
  rw [served?_quiet h] at hs
  rw [h.socket?]
  exact hfits s hs

end Quiet

end Deed

namespace World

open Event (IsWork IsWorkWith)

variable {P : Event → Prop} {deed : Deed} (w : World)

/-! ## Putting a socket back -/

/-- An operation ends with its socket and the operating system put back. -/
theorem acts_restore {s : Socket} {session : Session} (hopen : w.socket? s.id = some s)
    (hkept : s.Kept session.socket) (hgrows : Grows P w.kernel.history session.kernel.history) :
    Acts P deed w (w.restore session) := by
  have hcalls : w.Quiet P { w with kernel := session.kernel } := ⟨rfl, rfl, rfl, rfl, rfl, hgrows⟩
  refine .tail (.single (.quiet hcalls)) (.alter fun t ht => ?_)
  rw [hkept.id] at ht
  rwa [Option.some.inj (hopen.symm.trans ht)] at hkept

/-- What an operation on a socket did to its session shows in the world. -/
theorem after_perform {α : Type} (s : Socket) (op : SocketM α) :
    (perform s op).after w = w.restore (op.after ⟨s, w.kernel⟩) := by
  simp only [perform, WorldM.after, SocketM.after]
  cases op ⟨s, w.kernel⟩ <;> rfl

/-- A socket that is put back is found as it was put back. -/
theorem socket?_restore {w : World} {id : SocketId} {s : Socket} {session : Session}
    (hopen : w.socket? id = some s) (hid : session.socket.id = id) :
    (w.restore session).socket? id = some session.socket := by
  subst hid
  simp only [World.socket?, restore, Table.get?_set, ↓reduceIte] at hopen ⊢
  rw [hopen, Option.map_some]

/-- The other sockets are not touched when one is put back. -/
theorem socket?_restore_of_ne {w : World} {id : SocketId} {session : Session}
    (h : id ≠ session.socket.id) : (w.restore session).socket? id = w.socket? id := by
  simp only [World.socket?, World.restore, Table.get?_set, if_neg h]

/-- A request is carried out. -/
theorem acts_request {tokens : List Token} {s : Socket} (request : Request)
    (hopen : w.socket? s.id = some s) :
    Acts (IsWork tokens) deed w ((perform s request.run).after w) := by
  obtain ⟨later, hserves⟩ := request.serves_run ⟨s, w.kernel⟩
  rw [after_perform]
  exact acts_restore w hopen hserves.kept
    ⟨later, hserves.history, fun e he => (hserves.system e he).isWork⟩

/-- Readiness is delivered. -/
theorem acts_deliver {id : SocketId} (ready : Readiness)
    (hopen : ∀ s, w.socket? id = some s → w.socket? s.id = some s) :
    Acts (IsWorkWith ((w.socket? id).map (·.fd)).toList []) deed w (w.deliver id ready).2 := by
  unfold deliver
  split
  · exact .refl
  split
  · exact .refl
  rename_i s hs
  have hreset : s.Kept { s with receiveCount := 0 } := ⟨rfl, rfl, rfl, rfl, rfl, rfl, rfl, rfl⟩
  dsimp only
  split
  · obtain ⟨hkept, hcalls⟩ := Session.uses_settleConnect ⟨{ s with receiveCount := 0 }, w.kernel⟩
    have hrestore : Acts (IsWorkWith [s.fd] []) deed w _ :=
      acts_restore w (hopen s hs) (hreset.trans hkept) <|
        hcalls.mono fun _ he => he.isWorkWith (List.mem_singleton_self s.fd)
    split <;> simp_all
  · exact acts_restore w (hopen s hs) hreset (Grows.refl _)

/-! ## Subscriptions -/

section Subscribe

variable {s : Socket} {change : Change HandlerRef} {subscription : Subscription} {breach : Breach}

/-- A change that is refused leaves everything as it was. -/
theorem subscribe_of_error (h : s.subscription.apply change = .error breach) :
    subscribe s change w = .error (.breached breach) w := by
  simp only [subscribe, h]

/-- A change that is made is put into the socket, and the reactor is told where needed. -/
theorem subscribe_of_ok (h : s.subscription.apply change = .ok subscription) :
    subscribe s change w = .ok () (
      let w := w.restore ⟨{ s with subscription }, w.kernel⟩
      if change.isPushed s.subscription.enabled then
        w.setInterest s.token subscription.enabled.interest
      else w) := by
  simp only [subscribe, h]
  rfl

/-- What holds after a change of a subscription. It has to follow where the change is refused, where
it is put into the socket, and where the reactor is told besides. -/
theorem subscribe_rule {B : World → Prop} (hrefused : B w)
    (hmade : ∀ subscription, s.subscription.apply change = .ok subscription →
      change.isPushed s.subscription.enabled = false →
      B (w.restore ⟨{ s with subscription }, w.kernel⟩))
    (htold : ∀ subscription, s.subscription.apply change = .ok subscription →
      change.isPushed s.subscription.enabled = true →
      B ((w.restore ⟨{ s with subscription }, w.kernel⟩).setInterest s.token
        subscription.enabled.interest)) :
    B ((subscribe s change).after w) := by
  unfold WorldM.after
  cases happly : s.subscription.apply change with
  | error breach =>
    rw [subscribe_of_error w happly]
    exact hrefused
  | ok subscription =>
    rw [subscribe_of_ok w happly]
    cases hpushed : change.isPushed s.subscription.enabled with
    | false => exact hmade subscription happly hpushed
    | true => exact htold subscription happly hpushed

end Subscribe

/-- A subscription changes, or the change is refused and nothing happens. -/
theorem acts_subscribe {s : Socket} (change : Change HandlerRef)
    (hopen : w.socket? s.id = some s) :
    Acts (IsWorkWith [s.fd] [s.token]) deed w ((subscribe s change).after w) := by
  have hmade {subscription : Subscription} {pushed : Bool}
      (happly : s.subscription.apply change = .ok subscription)
      (hpushed : change.isPushed s.subscription.enabled = pushed) :
      Act (IsWorkWith [s.fd] [s.token]) deed w (w.resubscribe s subscription pushed) :=
    hpushed ▸ .resubscribe hopen happly
  refine subscribe_rule w .refl (fun subscription happly hpushed => ?_)
    fun subscription happly hpushed => ?_
  · exact .single (hmade happly hpushed)
  · refine .tail (.single (hmade happly hpushed)) (.quiet ?_)
    exact quiet_setInterest (w.restore ⟨{ s with subscription }, w.kernel⟩)
      (Event.isWorkWith_interestSet (List.mem_singleton_self s.token))

/-! ## Opening, accepting and freeing -/

/-- Telling the reactor of an interest keeps a quiet change quiet. -/
theorem Quiet.setInterest {w w' : World} (h : w.Quiet P w') (token : Token)
    (interest : Readiness) :
    ({ w with reactor := w.reactor.setInterest token interest } : World).Quiet P
      { w' with reactor := w'.reactor.setInterest token interest } := by
  have hkind := h.kind
  have htable := h.table
  unfold Reactor.setInterest
  cases hw : w.reactor.kind <;> rw [hw] at hkind <;> simp only [hkind]
  · exact ⟨h.registry, h.sockets, rfl, h.nextToken, by rw [htable], h.history⟩
  · exact ⟨h.registry, h.sockets, h.kind, h.nextToken, h.table, h.history⟩

/-- A descriptor is made a socket, or it is closed and its identity wasted. -/
theorem acts_adopt (deed : Deed) (w : World) (origin : Origin) (hinfo : origin.packetInfo = true →
    origin.cls = .datagram ∧ origin.config.packetInfo = true) :
    Acts (IsWorkWith [origin.fd] [w.reactor.nextToken]) deed w ((adopt origin).after w) := by
  unfold adopt WorldM.after
  have hfd : origin.fd ∈ [origin.fd] := List.mem_singleton_self _
  have htoken : w.reactor.nextToken ∈ [w.reactor.nextToken] := List.mem_singleton_self _
  rcases register_cases { w with registry := w.registry.allocate } origin.fd
    (.socket w.registry.nextId) fun _ => Event.isWorkWith_registered hfd with
    ⟨error, w', heq, hquiet⟩ | ⟨w', heq, hquiet⟩
  · simp only [heq]
    have hclosed : IsWorkWith [origin.fd] [w.reactor.nextToken] (.closed origin.fd) :=
      Event.isWorkWith_closed hfd
    refine .tail (.single .waste) (.quiet (Quiet.trans ?_ (quiet_close _ hclosed)))
    have hregistry := congrArg (·.retire w.registry.nextId) hquiet.registry
    exact ⟨hregistry, hquiet.sockets, hquiet.kind, hquiet.nextToken, hquiet.table, hquiet.history⟩
  · simp only [heq]
    refine .tail (.single (.enrol hinfo)) (.quiet ?_)
    have hinterest := (hquiet.setInterest w.reactor.nextToken ∅).trans
      (quiet_setInterest w' (Event.isWorkWith_interestSet htoken))
    have hsockets := congrArg (·.push w.registry.nextId
      (origin.socket w.registry.nextId w.reactor.nextToken)) hinterest.sockets
    exact ⟨hinterest.registry, hsockets, hinterest.kind, hinterest.nextToken, hinterest.table,
      hinterest.history⟩

/-- Packet information is asked for with the descriptor only. -/
theorem quiet_enablePacketInfo {fd : Fd} (family : AddressFamily) (cls : SocketClass)
    (config : SocketConfig) (h : ∀ option result, P (.called (.enableOption fd option) result)) :
    w.Quiet P (w.enablePacketInfo fd family cls config).2 := by
  unfold enablePacketInfo
  split
  · have hcall := quiet_call w (.enableOption fd (.packetInfo family)) (h _)
    split <;> rename_i heq <;> rw [heq] at hcall <;> exact hcall
  · exact Quiet.refl _

/-- Packet information is on only for a datagram socket that wants it. -/
theorem wants_of_enablePacketInfo (fd : Fd) (family : AddressFamily) (cls : SocketClass)
    (config : SocketConfig) (h : (w.enablePacketInfo fd family cls config).1 = true) :
    cls = .datagram ∧ config.packetInfo = true := by
  unfold enablePacketInfo at h
  split at h
  · assumption
  · simp at h

/-- What holds after opening a socket. It has to follow where there is no descriptor, where it is
closed again, and where it is made a socket, from what holds at the start and is kept by calls that
switch no option on. -/
theorem openSocket_rule {A B : World → Prop} {family : AddressFamily} {cls : SocketClass}
    {config : SocketConfig} (h : A w)
    (hcall : ∀ w syscall, syscall.kind ≠ .enableOption → A w → A (w.call syscall).2)
    (hrefused : ∀ w, A w → B w) (hclosed : ∀ w fd, A w → B (w.close fd))
    (hadopted : ∀ w fd, A w →
      B ((adopt ⟨fd, family, cls, config, (w.enablePacketInfo fd family cls config).1⟩).after
        (w.enablePacketInfo fd family cls config).2)) :
    B ((openSocket family cls config).after w) := by
  simp only [openSocket, WorldM.after]
  have hsocket := hcall w (.socket family cls) CallKind.noConfusion h
  rcases hpair : w.call (.socket family cls) with ⟨code | completion, w₁⟩ <;> rw [hpair] at hsocket
  · exact hrefused w₁ hsocket
  have hready := hcall w₁ (.setNonblocking completion.value) CallKind.noConfusion hsocket
  dsimp only
  rcases hpair : w₁.call (.setNonblocking completion.value) with ⟨code | done, w₂⟩ <;>
    rw [hpair] at hready
  · exact hclosed w₂ completion.value hready
  · exact hadopted w₂ completion.value hready

/-- What holds after accepting a connection: it has to follow where none is left, and where it is
made a socket, whether or not an error is recorded for the listener then. -/
theorem accept_rule {B : World → Prop} {listener : Socket}
    (hrefused : ∀ session, Session.Accepts ⟨listener, w.kernel⟩ session none →
      B (w.restore session))
    (hadopted : ∀ session fd, Session.Accepts ⟨listener, w.kernel⟩ session (some fd) →
      B ((adopt ⟨fd, listener.family, listener.cls, listener.config, false⟩).after
        (w.restore session)))
    (hrecorded : ∀ w, B w → B (w.recordError listener.id .unknown)) :
    B ((accept listener).after w) := by
  simp only [accept, WorldM.after, perform]
  rcases SocketM.acceptReady_cases ⟨listener, w.kernel⟩ with
    ⟨halt, session, heq, haccepts⟩ | ⟨fd, peer, session, heq, haccepts⟩ <;> simp only [heq]
  · exact hrefused session haccepts
  · have hadopt := hadopted session fd haccepts
    simp only [WorldM.after] at hadopt
    split at hadopt <;> rename_i hresult <;> rw [hresult]
    · exact hadopt
    · exact hrecorded _ hadopt

/-- There is no descriptor for a new socket, or all that follows is done with that descriptor. -/
theorem openSocket_cases (deed : Deed) (w : World) (family : AddressFamily) (cls : SocketClass)
    (config : SocketConfig) :
    (openSocket family cls config).after w = (w.call (.socket family cls)).2 ∨
      ∃ completion w', w.call (.socket family cls) = (.ok completion, w') ∧
        Acts (IsWorkWith [completion.value] [w.reactor.nextToken]) deed w'
          ((openSocket family cls config).after w) := by
  simp only [openSocket, WorldM.after]
  rcases hcall : w.call (.socket family cls) with ⟨code | completion, w₁⟩
  · exact .inl rfl
  right
  refine ⟨completion, w₁, rfl, ?_⟩
  have hcalled (call : Syscall) (result : Except Errno Int)
      (h : call.fd? = some completion.value) :
      IsWorkWith [completion.value] [w.reactor.nextToken] (.called call result) := by
    apply Event.isWorkWith_called
    intro fd hfd
    obtain rfl := Option.some.inj (h.symm.trans hfd)
    exact List.mem_singleton_self _
  have htoken : w₁.reactor.nextToken = w.reactor.nextToken :=
    congrArg (fun pair => pair.2.reactor.nextToken) hcall.symm
  have hready := quiet_call w₁ (.setNonblocking completion.value) fun result =>
    hcalled _ result rfl
  dsimp only
  rcases hcalled' : w₁.call (.setNonblocking completion.value) with ⟨code | done, w₂⟩ <;>
    rw [hcalled'] at hready
  · have hclosed : IsWorkWith [completion.value] [w.reactor.nextToken]
        (.closed completion.value) :=
      Event.isWorkWith_closed (List.mem_singleton_self _)
    exact .single (.quiet (hready.trans (quiet_close w₂ hclosed)))
  · have hinfo := quiet_enablePacketInfo w₂ family cls config fun _ result => hcalled _ result rfl
    have hwants := wants_of_enablePacketInfo w₂ completion.value family cls config
    dsimp only
    rcases hpair : w₂.enablePacketInfo completion.value family cls config with ⟨packetInfo, w₃⟩
    rw [hpair] at hinfo hwants
    have hquiet := hready.trans hinfo
    have hadopt := acts_adopt deed w₃ ⟨completion.value, family, cls, config, packetInfo⟩ hwants
    rw [hquiet.nextToken, htoken] at hadopt
    exact Relation.ReflTransGen.head (.quiet hquiet) hadopt

/-- A socket is opened. -/
theorem acts_openSocket (family : AddressFamily) (cls : SocketClass) (config : SocketConfig) :
    Acts (IsWork [w.reactor.nextToken]) deed w ((openSocket family cls config).after w) := by
  have hcall := quiet_call (P := IsWork [w.reactor.nextToken]) w (.socket family cls) fun result =>
    ⟨id, by simp [Event.token?]⟩
  rcases openSocket_cases deed w family cls config with heq | ⟨completion, w', heq, hacts⟩
  · rw [heq]
    exact .single (.quiet hcall)
  · rw [heq] at hcall
    exact Relation.ReflTransGen.head (.quiet hcall) (hacts.mono fun _ h => h.toIsWork)

/-- No connection is accepted, or all that follows is done with its descriptor. -/
theorem accept_cases (deed : Deed) (w : World) (listener : Socket) :
    ∃ session later, Session.Serves ⟨listener, w.kernel⟩ session later ∧
      ((accept listener).after w = w.restore session ∨
        ∃ fd, fd ∈ later.filterMap Event.handsOut? ∧
          Acts (IsWorkWith [fd] [w.reactor.nextToken]) deed (w.restore session)
            ((accept listener).after w)) := by
  simp only [accept, WorldM.after, perform]
  rcases SocketM.acceptReady_cases ⟨listener, w.kernel⟩ with
    ⟨halt, session, heq, haccepts⟩ | ⟨fd, peer, session, heq, haccepts⟩ <;>
    obtain ⟨later, hserves, hout⟩ := haccepts.serves
  · refine ⟨session, later, hserves, .inl ?_⟩
    simp only [heq]
  · refine ⟨session, later, hserves, .inr ⟨fd, hout fd rfl, ?_⟩⟩
    have hadopt := acts_adopt deed (w.restore session)
      ⟨fd, listener.family, listener.cls, listener.config, false⟩ (by simp)
    simp only [heq, WorldM.after] at hadopt ⊢
    split at hadopt
    · rename_i hadopted
      rw [hadopted]
      exact hadopt
    · rename_i hadopted
      rw [hadopted]
      exact hadopt.tail (.alter fun s _ => ⟨rfl, rfl, rfl, rfl, rfl, rfl, rfl, rfl⟩)

/-- A connection is accepted as a socket. -/
theorem acts_accept {listener : Socket} (hopen : w.socket? listener.id = some listener) :
    Acts (IsWork [w.reactor.nextToken]) deed w ((accept listener).after w) := by
  obtain ⟨session, later, hserves, hafter⟩ := accept_cases deed w listener
  have hrestore : Acts (IsWork [w.reactor.nextToken]) deed w (w.restore session) :=
    acts_restore w hopen hserves.kept
      ⟨later, hserves.history, fun e he => (hserves.system e he).isWork⟩
  rcases hafter with heq | ⟨fd, -, hacts⟩
  · rwa [heq]
  · exact hrestore.trans (hacts.mono fun _ h => h.toIsWork)

/-- Freeing a socket dismisses it and records two things. -/
theorem quiet_free (s : Socket) :
    (w.dismiss s).Quiet (IsWorkWith [s.fd] [s.token]) (w.free s) := by
  have hderegistered : IsWorkWith [s.fd] [s.token] (.deregistered s.token) :=
    Event.isWorkWith_deregistered (List.mem_singleton_self _)
  have hclosed : IsWorkWith [s.fd] [s.token] (.closed s.fd) :=
    Event.isWorkWith_closed (List.mem_singleton_self _)
  exact (Quiet.record _ hderegistered).trans (quiet_close _ hclosed)

/-- A socket is freed. -/
theorem acts_free {s : Socket} (hopen : w.socket? s.id = some s) :
    Acts (IsWorkWith [s.fd] [s.token]) deed w (w.free s) :=
  .tail (.single (.dismiss hopen)) (.quiet (quiet_free w s))

/-- Waiting makes one call, or none. -/
theorem quiet_wait (timeout : Option Duration)
    (h : ∀ entries result, P (.called (.poll entries (waitTimeout timeout)) result)) :
    w.Quiet P (w.wait timeout).2 := by
  unfold wait
  dsimp only
  split
  · exact Quiet.refl _
  · have hcall := quiet_call w _ (h (w.reactor.watched.map fun row => Reactor.waitEntry row.2))
    split <;> rename_i heq <;> rw [heq] at hcall
    · exact hcall
    · split <;> exact hcall

/-- Waiting is quiet. -/
theorem acts_wait (timeout : Option Duration) :
    Acts (IsWorkWith [] []) deed w (w.wait timeout).2 := by
  refine .single (.quiet (quiet_wait w timeout fun entries result => ?_))
  apply Event.isWorkWith_called
  intro fd hfd
  simp [Syscall.fd?] at hfd

/-! ## Direct changes of registrations -/

/-- The embedder registers a descriptor, or is refused. -/
theorem acts_addDescriptor (fd : Fd) (handler : HandlerRef) :
    Acts (IsWorkWith [fd] []) (.addDescriptor fd handler) w
      (w.register fd (.direct handler)).2 := by
  have hregistered (result : Except ReactorError Token) :
      IsWorkWith [fd] [] (.registered fd result) :=
    Event.isWorkWith_registered (List.mem_singleton_self fd)
  rcases register_cases w fd (.direct handler) hregistered with
    ⟨error, w', heq, hquiet⟩ | ⟨w', heq, hquiet⟩
  · rw [heq]
    exact .single (.quiet hquiet)
  · rw [heq]
    exact .tail (.single (.addDescriptor rfl)) (.quiet hquiet)

/-- The embedder sets the interest of a registration. -/
theorem acts_setDescriptor (token : Token) (interest : Readiness) :
    Acts (IsWorkWith [] [token]) (.setDescriptor token interest) w
      (w.setInterest token interest) := by
  have hset : IsWorkWith [] [token] (.interestSet token interest) :=
    Event.isWorkWith_interestSet (List.mem_singleton_self token)
  exact .tail (.single (.setDescriptor rfl)) (.quiet (quiet_setInterest w hset))

/-- The embedder removes a registration. -/
theorem acts_removeDescriptor (token : Token) :
    Acts (IsWorkWith [] [token]) (.removeDescriptor token) w (w.deregister token) := by
  have hderegistered : IsWorkWith [] [token] (.deregistered token) :=
    Event.isWorkWith_deregistered (List.mem_singleton_self token)
  exact .tail (.single (.removeDescriptor rfl)) (.quiet (quiet_deregister w hderegistered))

end World

namespace Deed

open World
open Event (IsWork IsWorkWith)

variable (w : World)

/-- A deed that is handed no descriptor names only those that it has. -/
theorem actsWith_run {deed : Deed} (hfits : deed.Fits w) (hhanded : deed.isHanded = false) :
    Acts (IsWorkWith (deed.fds w) (deed.tokens w)) deed w (deed.run w) := by
  cases deed with
  | nothing => exact .refl
  | openSocket _ _ _ | accept _ | request _ _ => simp [isHanded] at hhanded
  | change s change => exact acts_subscribe w change (hfits s rfl)
  | free s => exact acts_free w (hfits s rfl)
  | addDescriptor fd handler => exact acts_addDescriptor w fd handler
  | setDescriptor token interest => exact acts_setDescriptor w token interest
  | removeDescriptor token => exact acts_removeDescriptor w token
  | wait timeout => exact acts_wait w timeout
  | deliver id ready => exact acts_deliver w ready hfits

/-- **A deed is a sequence of acts**, and touches no registrations but its own. -/
theorem acts_run (deed : Deed) (hfits : deed.Fits w) :
    Acts (IsWork (deed.tokens w)) deed w (deed.run w) := by
  cases deed with
  | openSocket family cls config => exact acts_openSocket w family cls config
  | accept listener => exact acts_accept w (hfits listener rfl)
  | request s request => exact acts_request w request (hfits s rfl)
  | _ => exact (actsWith_run w hfits rfl).mono fun _ h => h.toIsWork

end Deed

/-! ## Descriptors -/

/-- From one history to another, no descriptors were named but these and those handed out since. -/
def CallsSince (fds : List Fd) (old new : History) : Prop :=
  ∃ later, new = old ++ later ∧ CallsWith fds later

namespace Deed

open World
open Event (IsWork IsWorkWith)

variable (w : World)

/-- What is done with a few descriptors needs no others. -/
theorem callsSince_of_grows {fds : List Fd} {tokens : List Token} {old new : History}
    (h : Grows (IsWorkWith fds tokens) old new) : CallsSince fds old new := by
  obtain ⟨later, rfl, hlater⟩ := h
  exact ⟨later, rfl, CallsWith.of_forall fun e he => (hlater e he).fd⟩

/-- A socket is opened with a descriptor that was handed out for it. -/
theorem callsSince_openSocket (family : AddressFamily) (cls : SocketClass) (config : SocketConfig) :
    CallsSince [] w.kernel.history
      ((World.openSocket family cls config).after w).kernel.history := by
  have hhistory := w.history_call (.socket family cls)
  rcases openSocket_cases .nothing w family cls config with
    heq | ⟨completion, w', heq, hacts⟩
  · rw [heq]
    exact ⟨_, hhistory, by simp [CallsWith, Event.fd?, Syscall.fd?]⟩
  · obtain ⟨later, hlater, hwork⟩ := hacts.grows
    rw [heq] at hhistory
    refine ⟨.called (.socket family cls) (.ok completion.value) :: later, ?_, ?_, ?_⟩
    · rw [hlater, hhistory, List.append_assoc]
      rfl
    · simp [Event.fd?, Syscall.fd?]
    · exact CallsWith.of_forall fun e he => (hwork e he).fd

/-- A connection is accepted with the descriptor of its listener and one that was handed out. -/
theorem callsSince_accept (listener : Socket) :
    CallsSince [listener.fd] w.kernel.history ((World.accept listener).after w).kernel.history := by
  obtain ⟨session, later, hserves, hafter⟩ := accept_cases .nothing w listener
  rcases hafter with heq | ⟨fd, hout, hacts⟩
  · rw [heq]
    exact ⟨later, hserves.history, hserves.calls⟩
  · obtain ⟨last, hlast, hwork⟩ := hacts.grows
    refine ⟨later ++ last, ?_, hserves.calls.append (CallsWith.of_forall ?_)⟩
    · rw [hlast, ← List.append_assoc]
      exact congrArg (· ++ last) hserves.history
    · intro e he fd' hfd'
      have hmem := (hwork e he).fd fd' hfd'
      rw [List.mem_singleton.1 hmem]
      exact List.mem_append_left _ hout

/-- **A deed names no descriptors but its own** and those that it is handed on the way. -/
theorem callsSince_run (deed : Deed) (hfits : deed.Fits w) :
    CallsSince (deed.fds w) w.kernel.history (deed.run w).kernel.history := by
  cases deed with
  | openSocket family cls config => exact callsSince_openSocket w family cls config
  | accept listener => exact callsSince_accept w listener
  | request s request =>
    obtain ⟨later, hserves⟩ := request.serves_run ⟨s, w.kernel⟩
    simp only [run, after_perform]
    exact ⟨later, hserves.history, hserves.calls⟩
  | _ => exact callsSince_of_grows (actsWith_run w hfits rfl).grows

end Deed

end SocketLoop
