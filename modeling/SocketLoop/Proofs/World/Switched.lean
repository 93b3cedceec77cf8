import SocketLoop.Proofs.World.Steady

/-!
# Packet information is switched on when a socket is opened, or never

* `switchedOn` lists the descriptors for which the operating system switched packet information on.
* **`Deed.decides_run`**: a deed in which a socket becomes open switches packet information on for
  its descriptor if the socket has it, and for no descriptor if not.
* **`Act.fixed`**: while a socket is open its descriptor and its packet information stay as they
  are.
-/

namespace SocketLoop

/-! ## What a history switches on -/

/-- The descriptor for which packet information is switched on. -/
def Event.switchedOn? : Event → Option Fd
  | .called (.enableOption fd (.packetInfo _)) (.ok _) => some fd
  | _ => none

/-- An event that switches nothing on. -/
def Event.SwitchesNothing (e : Event) : Prop :=
  e.switchedOn? = none

/-- The descriptors for which packet information is switched on, in their order. -/
def switchedOn (history : History) : List Fd :=
  history.filterMap Event.switchedOn?

/-- Nothing is switched on. -/
theorem switchedOn_eq_nil {later : History} (h : ∀ e ∈ later, e.SwitchesNothing) :
    switchedOn later = [] :=
  List.filterMap_eq_nil_iff.2 h

/-- A bracket switches nothing on. -/
theorem Event.IsBracket.switchesNothing {e : Event} (h : e.IsBracket) : e.SwitchesNothing := by
  cases e with
  | called _ _ => exact h.elim
  | _ => rfl

/-- Accepting a connection switches nothing on. -/
theorem Accepted.switchesNothing {listener : Fd} {fd? : Option Fd} {later : History}
    (h : Accepted listener fd? later) : ∀ e ∈ later, e.SwitchesNothing := by
  have hamong {fd : Fd} {e : Event} (he : e.IsCallAmong fd [.setNonblocking]) :
      e.SwitchesNothing := by
    cases e with
    | called call result =>
      cases call with
      | enableOption _ _ => simp [Event.IsCallAmong, Syscall.kind] at he
      | _ => rfl
    | _ => rfl
  cases h with
  | refused => simp [Event.SwitchesNothing, Event.switchedOn?]
  | dropped calls =>
    simp only [List.mem_cons, List.mem_append, List.not_mem_nil, or_false]
    rintro e (rfl | he | rfl)
    · rfl
    · exact hamong (calls e he)
    · rfl
  | taken calls =>
    simp only [List.mem_cons]
    rintro e (rfl | he)
    · rfl
    · exact hamong (calls e he)

namespace World

variable {P : Event → Prop} {w w₁ w₂ w' : World} {id : SocketId}

/-! ## Switching on -/

/-- If a socket is open in the second world but not in the first, packet information was switched on
in between for its descriptor, or for none, and the socket has it or not. -/
def Decides (id : SocketId) (w w' : World) : Prop :=
  ∀ t, w.socket? id = none → w'.socket? id = some t →
    ∃ later, w'.kernel.history = w.kernel.history ++ later ∧
      switchedOn later = if t.packetInfo then [t.fd] else []

/-- A socket that did not become open decides nothing. -/
theorem decides_of_none (h : w.socket? id = none → w'.socket? id = none) : w.Decides id w' := by
  intro t hnone ht
  rw [h hnone] at ht
  cases ht

/-- What happens before and after may not switch anything on, nor open the socket. -/
theorem Decides.around (h : w₁.Decides id w₂)
    (hbefore : Grows Event.SwitchesNothing w.kernel.history w₁.kernel.history)
    (hclosed : w.socket? id = none → w₁.socket? id = none)
    (hafter : w₂.Quiet Event.SwitchesNothing w') : w.Decides id w' := by
  intro t hnone ht
  rw [hafter.socket?] at ht
  obtain ⟨middle, hmiddle, hmiddleOn⟩ := h t (hclosed hnone) ht
  obtain ⟨later, hlater, hswitched⟩ :=
    Grows.around Event.switchedOn? hbefore hmiddle hafter.history
  refine ⟨later, hlater, ?_⟩
  rw [switchedOn, hswitched, ← hmiddleOn]
  rfl

/-- A descriptor that is made a socket: nothing is switched on, and a socket that becomes open is
made of it. -/
theorem adopt_cases (w : World) (origin : Origin) :
    Grows Event.SwitchesNothing w.kernel.history ((adopt origin).after w).kernel.history ∧
      ∀ t, w.socket? id = none → ((adopt origin).after w).socket? id = some t →
        t.fd = origin.fd ∧ t.packetInfo = origin.packetInfo := by
  unfold adopt WorldM.after
  rcases register_cases (P := Event.SwitchesNothing) { w with registry := w.registry.allocate }
    origin.fd (.socket w.registry.nextId) (fun _ => rfl) with
    ⟨error, w₁, heq, hquiet⟩ | ⟨w₁, heq, hquiet⟩
  · simp only [heq]
    refine ⟨hquiet.history.trans (Grows.single _ rfl), fun t hnone ht => ?_⟩
    have hclosed : w₁.socket? id = none := (hquiet.socket? id).trans hnone
    exact absurd (hclosed.symm.trans ht) (by simp)
  · simp only [heq]
    refine ⟨hquiet.history.trans (Grows.single _ rfl), fun t hnone ht => ?_⟩
    have hsockets : w₁.sockets = w.sockets := hquiet.sockets
    simp only [World.socket?, World.setInterest, World.record, hsockets, Table.get?_push,
      Option.or_eq_some_iff] at ht hnone
    rcases ht with hold | ⟨-, hnew⟩
    · rw [hnone] at hold
      cases hold
    · obtain ⟨-, hsocket⟩ := Option.ite_none_right_eq_some.1 hnew
      rw [← Option.some.inj hsocket]
      exact ⟨rfl, rfl⟩

/-- Packet information is on if and only if it was switched on. -/
theorem switchedOn_enablePacketInfo (w : World) (fd : Fd) (family : AddressFamily)
    (cls : SocketClass) (config : SocketConfig) :
    ∃ later, (w.enablePacketInfo fd family cls config).2.kernel.history =
        w.kernel.history ++ later ∧
      switchedOn later = if (w.enablePacketInfo fd family cls config).1 then [fd] else [] := by
  unfold enablePacketInfo
  split
  · have hhistory := w.history_call (.enableOption fd (.packetInfo family))
    rcases hcall : w.call (.enableOption fd (.packetInfo family)) with ⟨code | completion, w₁⟩ <;>
      rw [hcall] at hhistory
    · exact ⟨_, hhistory, rfl⟩
    · exact ⟨_, hhistory, rfl⟩
  · exact ⟨[], (List.append_nil _).symm, rfl⟩

/-- A descriptor that is made a socket after packet information was switched on for it, or for
none. -/
theorem decides_adopt {origin : Origin} {middle : History}
    (hmiddle : w₁.kernel.history = w.kernel.history ++ middle)
    (hswitched : switchedOn middle = if origin.packetInfo then [origin.fd] else [])
    (hclosed : w.socket? id = none → w₁.socket? id = none) :
    w.Decides id ((adopt origin).after w₁) := by
  intro t hnone ht
  obtain ⟨hgrows, hmade⟩ := @adopt_cases id w₁ origin
  obtain ⟨hfd, hpacketInfo⟩ := hmade t (hclosed hnone) ht
  obtain ⟨later, hlater, hsame⟩ :=
    Grows.around Event.switchedOn? (Grows.refl _) hmiddle hgrows
  refine ⟨later, hlater, ?_⟩
  rw [switchedOn, hsame, ← switchedOn, hswitched, hfd, hpacketInfo]

/-- A socket that is opened. -/
theorem decides_openSocket (w : World) (family : AddressFamily) (cls : SocketClass)
    (config : SocketConfig) : w.Decides id ((openSocket family cls config).after w) := by
  have hclosed {w' : World} (h : w.Quiet Event.SwitchesNothing w') (hnone : w.socket? id = none) :
      w'.socket? id = none :=
    (h.socket? id).trans hnone
  refine openSocket_rule w (A := w.Quiet Event.SwitchesNothing) (.refl w) ?_ ?_ ?_ ?_
  · intro w' syscall hkind h
    refine h.trans (quiet_call w' syscall fun result => ?_)
    cases syscall with
    | enableOption _ _ => exact absurd rfl hkind
    | _ => rfl
  · exact fun w' h => decides_of_none (hclosed h)
  · exact fun w' fd h => decides_of_none (hclosed (h.trans (quiet_close w' rfl)))
  · intro w' fd h
    have hinfo : w'.Quiet (fun _ => True) (w'.enablePacketInfo fd family cls config).2 :=
      quiet_enablePacketInfo w' family cls config fun _ _ => trivial
    obtain ⟨later, hlater, hon⟩ := switchedOn_enablePacketInfo w' fd family cls config
    obtain ⟨middle, hmiddle, hsame⟩ :=
      Grows.around Event.switchedOn? h.history hlater (Grows.refl _)
    exact decides_adopt hmiddle (hsame.trans hon)
      fun hnone => (hinfo.socket? id).trans (hclosed h hnone)

/-- No socket becomes open when one is put back. -/
theorem socket?_restore_of_none {session : Session} (h : w.socket? id = none) :
    (w.restore session).socket? id = none := by
  unfold World.socket? at h ⊢
  rw [World.restore, Table.get?_set, h, Option.map_none, ite_self]

/-- An error that is recorded decides nothing. -/
theorem Decides.recordError {id' : SocketId} {error : SocketError} (h : w.Decides id w') :
    w.Decides id (w'.recordError id' error) := by
  intro t hnone ht
  simp only [World.recordError, World.socket?, Table.get?_modify] at ht
  split at ht
  · obtain ⟨old, hold, rfl⟩ := Option.map_eq_some_iff.1 ht
    exact h old hnone hold
  · exact h t hnone ht

/-- A connection that is accepted. -/
theorem decides_accept (w : World) (listener : Socket) :
    w.Decides id ((accept listener).after w) := by
  refine accept_rule w (fun _ _ => decides_of_none socket?_restore_of_none)
    (fun session fd haccepts => ?_) fun _ h => h.recordError
  obtain ⟨-, later, hlater, haccepted⟩ := haccepts
  exact decides_adopt hlater (switchedOn_eq_nil haccepted.switchesNothing) socket?_restore_of_none

end World

namespace Deed

/-- **A deed in which a socket becomes open** switches packet information on for it, if it has it,
and for no descriptor if not. -/
theorem decides_run {w : World} (deed : Deed) (id : SocketId) : w.Decides id (deed.run w) := by
  cases deed with
  | nothing | setDescriptor _ _ | removeDescriptor _ => exact World.decides_of_none fun h => h
  | openSocket family cls config => exact World.decides_openSocket w family cls config
  | accept listener => exact World.decides_accept w listener
  | request s request =>
    refine World.decides_of_none fun hnone => ?_
    rw [run, World.after_perform]
    exact World.socket?_restore_of_none hnone
  | change s change =>
    refine World.decides_of_none fun hnone => ?_
    exact World.subscribe_rule w (B := fun w => w.socket? id = none) hnone
      (fun _ _ _ => World.socket?_restore_of_none hnone)
      fun _ _ _ => World.socket?_restore_of_none hnone
  | free s =>
    refine World.decides_of_none fun hnone => ?_
    simp only [World.socket?] at hnone
    simp only [run, World.free, World.deregister, World.close, World.record, World.socket?,
      Table.get?_erase, hnone, ite_self]
  | addDescriptor fd handler =>
    refine World.decides_of_none fun hnone => ?_
    rwa [run, World.socket?, World.sockets_register]
  | wait timeout =>
    have hquiet := World.quiet_wait w timeout (P := fun _ => True) fun _ _ => trivial
    exact World.decides_of_none fun hnone => (hquiet.socket? id).trans hnone
  | deliver id' ready =>
    refine World.decides_of_none fun hnone => ?_
    simp only [run, World.deliver]
    split
    · exact hnone
    split
    · exact hnone
    split
    · split <;> exact World.socket?_restore_of_none hnone
    · exact World.socket?_restore_of_none hnone

end Deed

/-! ## Staying -/

/-- **While a socket is open its descriptor and its packet information stay.** -/
theorem World.Act.fixed {P : Event → Prop} {deed : Deed} {w w' : World} {id : SocketId}
    {s t : Socket} (hact : Act P deed w w') (hlt : id < w.registry.nextId)
    (h : ∀ t, w.socket? id = some t → t.fd = s.fd ∧ t.packetInfo = s.packetInfo)
    (ht : w'.socket? id = some t) : t.fd = s.fd ∧ t.packetInfo = s.packetInfo := by
  cases hact.comesFrom ht with
  | kept isOpen kept =>
    rw [kept.fd, kept.packetInfo]
    exact h _ isOpen
  | @changed old _ _ isOpen _ => exact h old isOpen
  | new hid _ => exact absurd hid (Nat.ne_of_lt hlt)

end SocketLoop
