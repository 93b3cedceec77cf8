import SocketLoop.Proofs.World.Orderly

/-!
# Who changes how a socket connects and receives

The connect state of a socket, its receive limit and its count of receives are nobody's business but
its own. Only a request to the socket, or readiness that is delivered to it, can change them, and a
new socket starts idle and with nothing received.

* `World.Steady id` says that this part of one socket is as it was before, or as it is at the start.
* **`Deed.steady_run`**: every deed keeps every socket steady but the one that it concerns.
-/

namespace SocketLoop

/-- What a socket goes by when it connects and receives stayed the same. -/
structure Socket.Steady (s t : Socket) : Prop where
  config : t.config = s.config
  connect : t.connect = s.connect
  receiveLimit : t.receiveLimit = s.receiveLimit
  receiveCount : t.receiveCount = s.receiveCount

/-- A socket has neither connected nor received yet, and its receive limit is that of its
configuration. -/
structure Socket.Unused (s : Socket) : Prop where
  connect : s.connect = .idle
  receiveLimit : s.receiveLimit = s.config.receiveLimit
  receiveCount : s.receiveCount = 0

/-- What changed nothing kept a socket steady. -/
theorem Socket.Steady.refl (s : Socket) : s.Steady s :=
  ⟨rfl, rfl, rfl, rfl⟩

/-- What is steady twice is steady. -/
theorem Socket.Steady.trans {s t u : Socket} (h : s.Steady t) (h' : t.Steady u) : s.Steady u where
  config := h'.config.trans h.config
  connect := h'.connect.trans h.connect
  receiveLimit := h'.receiveLimit.trans h.receiveLimit
  receiveCount := h'.receiveCount.trans h.receiveCount

/-- A socket that is steady since it was unused is unused. -/
theorem Socket.Unused.steady {s t : Socket} (h : s.Unused) (h' : s.Steady t) : t.Unused where
  connect := h'.connect.trans h.connect
  receiveLimit := by rw [h'.receiveLimit, h.receiveLimit, h'.config]
  receiveCount := h'.receiveCount.trans h.receiveCount

/-- A socket starts unused. -/
theorem World.Origin.unused_socket (origin : Origin) (id : SocketId) (token : Token) :
    (origin.socket id token).Unused :=
  ⟨rfl, rfl, rfl⟩

namespace World

variable {w w' w'' : World} {id : SocketId}

/-- From one world to another, a socket that is open stayed open and steady, and one that is new is
unused. -/
structure Steady (id : SocketId) (w w' : World) : Prop where
  stays : ∀ s, w.socket? id = some s → ∃ t, w'.socket? id = some t ∧ s.Steady t
  unused : ∀ t, w.socket? id = none → w'.socket? id = some t → t.Unused

namespace Steady

/-- A socket that was not touched is steady. -/
theorem of_eq (h : w'.socket? id = w.socket? id) : w.Steady id w' := by
  refine ⟨fun s hs => ⟨s, h.trans hs, Socket.Steady.refl s⟩, fun t hnone ht => ?_⟩
  rw [h, hnone] at ht
  simp at ht

/-- What is steady step by step is steady. -/
theorem trans (h : w.Steady id w') (h' : w'.Steady id w'') : w.Steady id w'' := by
  constructor
  · intro s hs
    obtain ⟨t, ht, hst⟩ := h.stays s hs
    obtain ⟨u, hu, htu⟩ := h'.stays t ht
    exact ⟨u, hu, hst.trans htu⟩
  · intro u hnone hu
    cases ht : w'.socket? id with
    | none => exact h'.unused u ht hu
    | some t =>
      obtain ⟨u', hu', htu⟩ := h'.stays t ht
      rw [Option.some.inj (hu.symm.trans hu')]
      exact (h.unused t hnone ht).steady htu

/-- A quiet change keeps every socket steady. -/
theorem of_quiet {P : Event → Prop} (h : w.Quiet P w') : w.Steady id w' :=
  of_eq (h.socket? id)

/-- A change of one socket that keeps it steady. -/
theorem modify {id' : SocketId} {f : Socket → Socket}
    (hsockets : w'.sockets = w.sockets.modify id' f)
    (hf : ∀ s, w.socket? id' = some s → s.Steady (f s)) : w.Steady id w' := by
  by_cases heq : id = id'
  · subst heq
    have hsocket : w'.socket? id = (w.socket? id).map f := by
      simp only [World.socket?, hsockets, Table.get?_modify, ↓reduceIte]
    refine ⟨fun s hs => ⟨f s, by rw [hsocket, hs, Option.map_some], hf s hs⟩, fun t hnone ht => ?_⟩
    rw [hsocket, hnone] at ht
    simp at ht
  · apply of_eq
    simp only [World.socket?, hsockets, Table.get?_modify, if_neg heq]

/-- A new socket leaves the others alone. -/
theorem push {id' : SocketId} {new : Socket} (hsockets : w'.sockets = w.sockets.push id' new)
    (hnew : new.Unused) : w.Steady id w' := by
  have hsocket : w'.socket? id = (w.socket? id).or (if id = id' then some new else none) := by
    simp only [World.socket?, hsockets, Table.get?_push]
  constructor
  · intro s hs
    exact ⟨s, by rw [hsocket, hs, Option.some_or], Socket.Steady.refl s⟩
  · intro t hnone ht
    rw [hsocket, hnone, Option.none_or] at ht
    obtain ⟨-, ht⟩ := Option.ite_none_right_eq_some.1 ht
    rwa [← Option.some.inj ht]

/-- A socket that is put back steady. -/
theorem restore {s : Socket} {session : Session} (hopen : w.socket? s.id = some s)
    (hid : session.socket.id = s.id) (hsteady : s.Steady session.socket) :
    w.Steady id (w.restore session) := by
  refine @modify w _ id s.id (fun _ => session.socket) ?_ fun t ht => ?_
  · rw [World.restore, hid]
    rfl
  · rwa [Option.some.inj (ht.symm.trans hopen)]

end Steady

/-! ## Deeds -/

/-- A descriptor that is made a socket. -/
theorem steady_adopt (w : World) (origin : Origin) : w.Steady id ((adopt origin).after w) := by
  unfold adopt WorldM.after
  rcases register_cases (P := fun _ => True) { w with registry := w.registry.allocate } origin.fd
    (.socket w.registry.nextId) (fun _ => trivial) with
    ⟨error, w₁, heq, hquiet⟩ | ⟨w₁, heq, hquiet⟩
  · simp only [heq]
    exact .of_eq (hquiet.socket? id)
  · simp only [heq]
    have hsockets : w₁.sockets = w.sockets := hquiet.sockets
    refine @Steady.push w _ id w.registry.nextId _ ?_
      (origin.unused_socket w.registry.nextId w.reactor.nextToken)
    exact congrArg (fun sockets => Table.push sockets _ _) hsockets

/-- A socket is opened. -/
theorem steady_openSocket (w : World) (family : AddressFamily) (cls : SocketClass)
    (config : SocketConfig) : w.Steady id ((openSocket family cls config).after w) := by
  refine openSocket_rule w (A := w.Steady id) (.of_eq rfl) ?_ (fun _ h => h) ?_ ?_
  · exact fun w' syscall _ h => h.trans (.of_eq rfl)
  · exact fun w' fd h => h.trans (.of_eq rfl)
  · intro w' fd h
    have hinfo : w'.Quiet (fun _ => True) (w'.enablePacketInfo fd family cls config).2 :=
      quiet_enablePacketInfo w' family cls config fun _ _ => trivial
    exact (h.trans (.of_quiet hinfo)).trans (steady_adopt _ _)

/-- A connection is accepted as a socket. -/
theorem steady_accept {listener : Socket} (hopen : w.socket? listener.id = some listener) :
    w.Steady id ((accept listener).after w) := by
  have hrestore {session : Session} {fd? : Option Fd}
      (h : Session.Accepts ⟨listener, w.kernel⟩ session fd?) : w.Steady id (w.restore session) := by
    refine .restore hopen h.kept.id ?_
    rw [h.socket]
    exact ⟨rfl, rfl, rfl, rfl⟩
  refine accept_rule w (fun _ h => hrestore h)
    (fun _ _ h => (hrestore h).trans (steady_adopt _ _)) fun w' h => ?_
  have herror : w'.Steady id (w'.recordError listener.id .unknown) :=
    @Steady.modify w' _ id listener.id (fun s => { s with lastError := some .unknown }) rfl
      fun s _ => ⟨rfl, rfl, rfl, rfl⟩
  exact h.trans herror

/-- A change of a subscription. -/
theorem steady_subscribe {s : Socket} (hopen : w.socket? s.id = some s)
    (change : Change HandlerRef) : w.Steady id ((subscribe s change).after w) := by
  have hmade (subscription : Subscription) :
      w.Steady id (w.restore ⟨{ s with subscription }, w.kernel⟩) := by
    refine @Steady.modify w _ id s.id (fun _ => { s with subscription }) rfl fun t ht => ?_
    rw [Option.some.inj (ht.symm.trans hopen)]
    exact ⟨rfl, rfl, rfl, rfl⟩
  exact subscribe_rule w (.of_eq rfl) (fun subscription _ _ => hmade subscription)
    fun subscription _ _ => (hmade subscription).trans (.of_eq rfl)

/-- A registration touches no socket. -/
theorem sockets_register (w : World) (fd : Fd) (callback : Callback) :
    (w.register fd callback).2.sockets = w.sockets := by
  rcases register_cases (P := fun _ => True) w fd callback (fun _ => trivial) with
    ⟨error, w', heq, hquiet⟩ | ⟨w', heq, hquiet⟩ <;>
    rw [heq] <;> exact hquiet.sockets

end World

namespace Deed

/-- The socket that a deed concerns: which connects, receives, is told, or leaves. -/
def concerned? : Deed → Option SocketId
  | .request s _ => some s.id
  | .deliver id _ => some id
  | .free s => some s.id
  | _ => none

/-- **Every deed keeps every socket steady** but the open one that it concerns. -/
theorem steady_run {w : World} (hw : w.Orderly) {deed : Deed} (hfits : deed.Fits w) {id : SocketId}
    (hother : deed.concerned? = some id → w.socket? id = none) : w.Steady id (deed.run w) := by
  open World in
  have hne {s : Socket} (hopen : w.socket? s.id = some s)
      (hconcerned : deed.concerned? = some s.id) : id ≠ s.id := by
    rintro rfl
    simp [hother hconcerned] at hopen
  cases deed with
  | nothing | setDescriptor _ _ | removeDescriptor _ => exact .of_eq rfl
  | openSocket family cls config => exact steady_openSocket w family cls config
  | accept listener => exact steady_accept (hfits listener rfl)
  | change s change => exact steady_subscribe (hfits s rfl) change
  | request s request =>
    have hkept := (request.spares_run ⟨s, w.kernel⟩).id
    apply World.Steady.of_eq
    simp only [run, after_perform]
    refine socket?_restore_of_ne ?_
    rw [hkept]
    exact hne (hfits s rfl) rfl
  | free s =>
    apply World.Steady.of_eq
    simp only [run, World.free, World.deregister, World.close, World.record, World.socket?,
      Table.get?_erase, if_neg (hne (hfits s rfl) rfl)]
  | addDescriptor fd handler =>
    apply World.Steady.of_eq
    rw [run, World.socket?, World.socket?, sockets_register]
  | wait timeout =>
    exact .of_quiet (quiet_wait w timeout (P := fun _ => True) fun _ _ => trivial)
  | deliver id' ready =>
    apply World.Steady.of_eq
    simp only [run, World.deliver]
    split
    · rfl
    split
    · rfl
    rename_i s hs
    have hid : s.id = id' := hw.id_eq hs
    have hsettled : (Session.settleConnect ⟨{ s with receiveCount := 0 }, w.kernel⟩).2.socket.id =
        s.id := by
      rw [(Session.keeps_settleConnect _).socket]
    have hother' : id ≠ s.id := hne (hw.socket?_id hs) (congrArg some hid.symm)
    split
    · split <;> rename_i heq <;> rw [heq] at hsettled <;>
        exact socket?_restore_of_ne (by rwa [hsettled])
    · exact socket?_restore_of_ne hother'

end Deed

end SocketLoop
