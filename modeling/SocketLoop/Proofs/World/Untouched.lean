import SocketLoop.Proofs.Run.Request
import SocketLoop.Proofs.World.Making

/-!
# Whom a deed does not touch

Sockets share the table of registrations, the registry and the counters, but each is found there
under numbers of its own.

* `World.Untouched t` says that nothing of a socket changed: neither its state, nor its
  registration, nor whether it is live.
* **`Deed.untouched_run`**: a deed touches no open socket but the one that it is about, as long as
  the embedder does not change the registration of another one directly.
-/

namespace SocketLoop

namespace World

variable {P : Event → Prop} {w w₁ w₂ w' : World} {t : Socket}

/-- Between two worlds nothing of a socket changed. -/
structure Untouched (t : Socket) (w w' : World) : Prop where
  socket : w'.socket? t.id = w.socket? t.id
  row : w'.reactor.table.get? t.token = w.reactor.table.get? t.token
  live : w'.registry.isLive t.id = w.registry.isLive t.id

namespace Untouched

/-- Nothing happened. -/
theorem refl (w : World) : w.Untouched t w :=
  ⟨rfl, rfl, rfl⟩

/-- What is untouched step by step is untouched. -/
theorem trans (h : w.Untouched t w₁) (h' : w₁.Untouched t w₂) : w.Untouched t w₂ where
  socket := h'.socket.trans h.socket
  row := h'.row.trans h.row
  live := h'.live.trans h.live

/-- A quiet change touches no socket. -/
theorem of_quiet (h : w.Quiet P w') : w.Untouched t w' where
  socket := h.socket? t.id
  row := by rw [h.table]
  live := by rw [h.registry]

/-- A change of another socket. -/
theorem modify {id : SocketId} (hne : t.id ≠ id) (f : Socket → Socket) :
    w.Untouched t { w with sockets := w.sockets.modify id f } where
  socket := by simp only [World.socket?, Table.get?_modify, if_neg hne]
  row := rfl
  live := rfl

/-- An operation on another socket. -/
theorem restore {session : Session} (hne : t.id ≠ session.socket.id) :
    w.Untouched t (w.restore session) where
  socket := socket?_restore_of_ne hne
  row := rfl
  live := rfl

/-- The interest of another registration is set. -/
theorem setInterest {token : Token} (hne : t.token ≠ token) (interest : Readiness) :
    w.Untouched t { w with reactor := w.reactor.setInterest token interest } where
  socket := rfl
  row := Reactor.get?_setInterest_of_ne _ _ _ hne
  live := rfl

/-- Another registration is removed. -/
theorem remove {token : Token} (hne : t.token ≠ token) :
    w.Untouched t { w with reactor := w.reactor.remove token } where
  socket := rfl
  row := Reactor.get?_remove_of_ne _ _ hne
  live := rfl

/-- A registration is added under a new token. -/
theorem add (hw : w.Orderly) (hopen : w.socket? t.id = some t) (fd : Fd) (callback : Callback) :
    w.Untouched t { w with reactor := w.reactor.add fd callback } where
  socket := rfl
  row := by
    simp only [Reactor.get?_add, if_neg (Nat.ne_of_lt (hw.token_lt hopen)), Option.or_none]
  live := rfl

end Untouched

/-! ## Parts of deeds -/

/-- An identity is wasted. -/
theorem untouched_waste (hw : w.Orderly) : w.Untouched t w.waste where
  socket := rfl
  row := rfl
  live := by rw [Registry.isLive, live_waste hw, Registry.isLive]

/-- A socket is entered under a new identity and a new token. -/
theorem untouched_enrol (hw : w.Orderly) (hopen : w.socket? t.id = some t) (origin : Origin) :
    w.Untouched t (w.enrol origin) where
  socket := by
    simp only [World.socket?, enrol, Table.get?_push, if_neg (Nat.ne_of_lt (hw.lt_nextId hopen)),
      Option.or_none]
  row := by
    simp only [enrol, Reactor.setInterest_add _ hw.row_nextToken, Reactor.get?_add,
      if_neg (Nat.ne_of_lt (hw.token_lt hopen)), Option.or_none]
  live := by
    have hne : t.id ≠ w.registry.nextId := Nat.ne_of_lt (hw.lt_nextId hopen)
    simp [Registry.isLive, enrol, Registry.allocate, hne]

/-- A descriptor is made a socket, or closed. -/
theorem untouched_adopt (hw : w.Orderly) (hopen : w.socket? t.id = some t) (origin : Origin) :
    w.Untouched t ((adopt origin).after w) := by
  obtain ⟨later, hadopts⟩ := exists_adopts origin w
  simp only [WorldM.after]
  rcases hadopt : adopt origin w with ⟨id, w'⟩ | ⟨halt, w'⟩ <;> rw [hadopt] at hadopts
  · cases hadopts with
    | made quiet _ => exact (untouched_enrol hw hopen origin).trans (.of_quiet quiet)
  · cases hadopts with
    | refused quiet _ => exact (untouched_waste hw).trans (.of_quiet quiet)

/-- A socket is opened. -/
theorem untouched_openSocket (hw : w.Orderly) (hopen : w.socket? t.id = some t)
    (family : AddressFamily) (cls : SocketClass) (config : SocketConfig) :
    w.Untouched t ((openSocket family cls config).after w) := by
  refine openSocket_rule w (A := w.Quiet fun _ => True) (Quiet.refl w) ?_
    (fun _ h => .of_quiet h) ?_ ?_
  · exact fun w' syscall _ h => h.trans (quiet_call w' syscall fun _ => trivial)
  · exact fun w' fd h => .of_quiet (h.trans (quiet_close w' trivial))
  · intro w' fd h
    have hinfo : w.Quiet (fun _ => True) (w'.enablePacketInfo fd family cls config).2 :=
      h.trans (quiet_enablePacketInfo w' family cls config fun _ _ => trivial)
    exact (Untouched.of_quiet hinfo).trans <|
      untouched_adopt (hw.quiet hinfo) ((hinfo.socket? t.id).trans hopen) _

/-- A connection is accepted by another socket. -/
theorem untouched_accept (hw : w.Orderly) (hopen : w.socket? t.id = some t) {listener : Socket}
    (hlistener : w.socket? listener.id = some listener) (hne : t.id ≠ listener.id) :
    w.Untouched t ((accept listener).after w) := by
  have hrestore {session : Session} {fd? : Option Fd}
      (h : Session.Accepts ⟨listener, w.kernel⟩ session fd?) :
      w.Untouched t (w.restore session) :=
    .restore (by rwa [h.kept.id])
  refine accept_rule w (fun _ h => hrestore h) (fun session fd h => ?_) fun w' h =>
    h.trans (.modify hne _)
  obtain ⟨later, hserves, -⟩ := h.serves
  have hput := hrestore h
  exact hput.trans <| untouched_adopt (hw.restore hlistener hserves.kept hserves.history)
    (hput.socket.trans hopen) _

/-- The subscription of another socket changes. -/
theorem untouched_subscribe {s : Socket} (hid : t.id ≠ s.id) (htoken : t.token ≠ s.token)
    (change : Change HandlerRef) : w.Untouched t ((subscribe s change).after w) := by
  have hmade (subscription : Subscription) :
      w.Untouched t (w.restore ⟨{ s with subscription }, w.kernel⟩) :=
    .restore hid
  refine subscribe_rule w (.refl w) (fun subscription _ _ => hmade subscription)
    fun subscription _ _ => ?_
  exact ((hmade subscription).trans (.setInterest htoken _)).trans
    (.of_quiet (quiet_setInterest _ (P := fun _ => True) trivial))

/-- Another socket is freed. -/
theorem untouched_free {s : Socket} (hid : t.id ≠ s.id) (htoken : t.token ≠ s.token) :
    w.Untouched t (w.free s) := by
  have hdismiss : w.Untouched t (w.dismiss s) := by
    refine ⟨?_, Reactor.get?_remove_of_ne _ _ htoken, ?_⟩
    · simp only [World.socket?, dismiss, Table.get?_erase, if_neg hid]
    · simp [dismiss, Registry.isLive, Registry.retire, hid]
  exact hdismiss.trans (.of_quiet (quiet_free w s))

/-- Readiness is delivered to another socket. -/
theorem untouched_deliver (hw : w.Orderly) {id : SocketId} (hne : t.id ≠ id) (ready : Readiness) :
    w.Untouched t (w.deliver id ready).2 := by
  cases hs : w.socket? id with
  | none =>
    have hnothing : (w.deliver id ready).2 = w := by
      unfold deliver
      split <;> simp only [hs]
    rw [hnothing]
    exact .refl w
  | some s =>
    rw [deliver_of_open hw hs]
    refine .restore ?_
    rw [(Session.keeps_delivered ready _).socket]
    rwa [hw.id_eq hs]

end World

/-! ## Deeds -/

namespace Deed

/-- The socket that a deed is about. -/
def subject? : Deed → Option SocketId
  | .deliver id _ => some id
  | deed => deed.socket?.map (·.id)

/-- **A deed touches no open socket but the one that it is about**, if it does not change the
registration of another one directly. -/
theorem untouched_run {w : World} (hw : w.Orderly) {deed : Deed} (hfits : deed.Fits w) {t : Socket}
    (hopen : w.socket? t.id = some t) (hother : deed.subject? ≠ some t.id)
    (hdirect : deed.directToken? ≠ some t.token) : w.Untouched t (deed.run w) := by
  open World in
  have hne {s : Socket} (hs : deed.served? w = some s) (hsubject : deed.subject? = some s.id) :
      t.id ≠ s.id ∧ t.token ≠ s.token := by
    have hid : t.id ≠ s.id := fun heq => hother (heq ▸ hsubject)
    exact ⟨hid, fun heq => hid (hw.token_inj hopen (hfits s hs) heq)⟩
  cases deed with
  | nothing => exact .refl w
  | openSocket family cls config => exact untouched_openSocket hw hopen family cls config
  | accept listener => exact untouched_accept hw hopen (hfits listener rfl) (hne rfl rfl).1
  | request s request =>
    simp only [run, after_perform]
    refine .restore ?_
    rw [(request.spares_run ⟨s, w.kernel⟩).id]
    exact (hne rfl rfl).1
  | change s change => exact untouched_subscribe (hne rfl rfl).1 (hne rfl rfl).2 change
  | free s => exact untouched_free (hne rfl rfl).1 (hne rfl rfl).2
  | addDescriptor fd handler =>
    simp only [run]
    rcases register_cases (P := fun _ => True) w fd (.direct handler) (fun _ => trivial) with
      ⟨error, w', heq, hquiet⟩ | ⟨w', heq, hquiet⟩ <;> rw [heq]
    · exact .of_quiet hquiet
    · exact (Untouched.add hw hopen fd _).trans (.of_quiet hquiet)
  | setDescriptor token interest =>
    have htoken : t.token ≠ token := fun heq => hdirect (congrArg some heq.symm)
    exact (Untouched.setInterest htoken interest).trans
      (.of_quiet (quiet_setInterest w (P := fun _ => True) trivial))
  | removeDescriptor token =>
    have htoken : t.token ≠ token := fun heq => hdirect (congrArg some heq.symm)
    exact (Untouched.remove htoken).trans
      (.of_quiet (quiet_deregister w (P := fun _ => True) trivial))
  | wait timeout => exact .of_quiet (quiet_wait w timeout (P := fun _ => True) fun _ _ => trivial)
  | deliver id ready =>
    exact untouched_deliver hw (fun heq => hother (congrArg some heq.symm)) ready

end Deed

end SocketLoop
