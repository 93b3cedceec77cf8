import SocketLoop.Proofs.Run.Freed
import SocketLoop.Proofs.Run.Registered
import SocketLoop.Proofs.World.Accounts

/-!
# No descriptor is lost, and none is closed twice

What is assumed of the operating system is that it hands out no descriptor that is still open
(`Ledger.Fresh`). A number may come back after it was closed.

* `next_accounts`: a moment keeps its accounts (`World.Accounts`), whatever the handlers, the
  answers and the breaches are.
* **`accounted_of_reaches`**: at every moment of every run the open descriptors are those of the
  open sockets, and no descriptor was used in the run, or closed, that was not open then.

Descriptors that the embedder registers by itself never enter the ledger: where they come from, and
when they are closed, is not seen by the library. They are used in waits and nowhere else.
-/

namespace SocketLoop

open Ledger (Fresh Rightful openFds after each_append after_append)

/-- Accounts between brackets. -/
theorem World.Accounts.around {w₀ w w' w₁ : World} {ids : List SocketId}
    {first later last : History} (h : Accounts w w' ids later)
    (hbefore : w₀.Quiet Event.IsMark w) (howners : ∀ i, w₁.fdOf? i = w'.fdOf? i)
    (hfirst : ∀ e ∈ first, e.Abstains) (hlast : ∀ e ∈ last, e.Abstains) :
    Accounts w₀ w₁ ids (first ++ later ++ last) := by
  have hsame : w.fdOf? = w₀.fdOf? := funext hbefore.fdOf?
  have howns (fd : Fd) : w.Owns fd ↔ w₀.Owns fd := by
    rw [Owns, Owns, hsame]
  have hborrows (fd : Fd) : w.Borrows fd ↔ w₀.Borrows fd := by
    rw [Borrows, Borrows, hbefore.table]
  cases h with
  | same owners minds =>
    refine .same (fun i => ?_) fun e he => ?_
    · rw [howners, owners, hsame]
    · rcases List.mem_append.1 he with he | he
      · rcases List.mem_append.1 he with he | he
        · exact (hfirst e he).minds
        · exact (minds e he).mono (fun fd => (howns fd).1) fun fd => (hborrows fd).1
      · exact (hlast e he).minds
  | @freed s first' last' isOpen owners before behind =>
    have hsplit : first ++ (first' ++ .deregistered s.token :: .closed s.fd :: last') ++ last =
        (first ++ first') ++ .deregistered s.token :: .closed s.fd :: (last' ++ last) := by
      simp only [List.append_assoc, List.cons_append]
    rw [hsplit]
    rw [hbefore.socket?] at isOpen
    refine .freed isOpen (fun i => ?_) (fun e he => ?_) fun e he => ?_
    · rw [howners, owners, hsame]
    · exact (List.mem_append.1 he).elim (hfirst e) (before e)
    · exact (List.mem_append.1 he).elim (behind e) (hlast e)
  | @handed fd e _ first' later' before handsOut uses placed =>
    have hsplit : first ++ (first' ++ e :: later') ++ last =
        (first ++ first') ++ e :: (later' ++ last) := by
      simp only [List.append_assoc, List.cons_append]
    rw [hsplit]
    have hplaced := placed.around hbefore.fdOf? howners (List.forall_mem_nil _) hlast
    refine .handed (fun e he => ?_) handsOut (fun fd hfd => (howns fd).1 (uses fd hfd)) hplaced
    exact (List.mem_append.1 he).elim (hfirst e) (before e)

namespace Config

variable {c d : Config}

/-! ## One moment -/

/-- Only a polling reactor waits. -/
theorem polling_of_wait {timeout : Option Duration} (h : c.deed = .wait timeout) :
    ∃ limit, c.world.reactor.kind = .polling limit := by
  have hasks := c.asks_deed
  rw [h] at hasks
  cases hasks with
  | command stack leads => cases leads
  | wait stack kind => exact ⟨_, kind⟩

/-- A command keeps its accounts, and it hands out the identity of the socket that it makes. -/
theorem settles_execute (hw : c.world.Orderly) (command : Command HandlerCode) :
    c.world.Settles (c.execute command).2.world (c.execute command).1.newId?.toList := by
  have hnone : c.world.Settles c.world [] :=
    World.settles_of_grows (fun _ => rfl) (Grows.refl _)
  have hleads := c.leads_commandDeed command
  by_cases hmaking : (c.commandDeed command).isMaking = true
  · generalize c.commandDeed command = deed at hleads hmaking
    cases hleads with
    | @openSocket name family cls config =>
      simp only [execute, Config.openSocket]
      split
      · exact hnone
      · rcases World.settles_openSocket hw family cls config with
          ⟨id, w, heq, hsettles⟩ | ⟨halt, w, heq, hsettles⟩
        · simp only [heq]
          exact hsettles
        · simp only [heq, Reply.newId?_ofHalt]
          exact hsettles
    | @accept name newName s named =>
      simp only [execute, withSocket, named, Config.accept]
      split
      · exact hnone
      · rcases World.settles_accept hw (socket?_of_socketOf? hw named) with
          ⟨id, peer, w, heq, hsettles⟩ | ⟨halt, w, heq, hsettles⟩
        · simp only [heq]
          exact hsettles
        · simp only [heq, Reply.newId?_ofHalt]
          exact hsettles
    | _ => simp [Deed.isMaking] at hmaking
  · have hreply : (c.execute command).1.newId? = none := by
      rcases newId?_execute c command with hreply | ⟨hmakes, -⟩
      · exact hreply
      · exact absurd hmakes hmaking
    rw [hreply, world_execute]
    refine Deed.settles_run hw (hleads.fits hw) (Bool.eq_false_iff.2 hmaking) ?_
    intro timeout hdeed
    rw [hdeed] at hleads
    cases hleads

/-- What a moment records hands out what it adds to the identities. -/
theorem newIds_of_append {new : History} {ids : List SocketId}
    (hnew : d.history = c.history ++ new) (hids : newIds d.history = newIds c.history ++ ids) :
    newIds new = ids := by
  rw [hnew, newIds, List.filterMap_append] at hids
  exact List.append_cancel_left hids

/-- **A moment keeps its accounts.** -/
theorem next_accounts (h : c.next = some d) (hw : c.world.Orderly) {new : History}
    (hnew : d.history = c.history ++ new) : c.world.Accounts d.world (newIds new) new := by
  -- brackets open and close no descriptors, and change no owners
  have hbracket {P : Event → Prop} {history : History} (hall : ∀ e ∈ history, P e)
      (hP : ∀ e, P e → e.IsBracket) : ∀ e ∈ history, e.Abstains :=
    fun e he => (hP e (hall e he)).abstains
  have hbetween {w w' : World} {ids : List SocketId} (hbefore : c.world.Quiet Event.IsMark w)
      (hsettles : w.Settles w' ids) (hafter : w'.Quiet Event.IsBracket d.world)
      (hids : newIds d.history = newIds c.history ++ ids) :
      c.world.Accounts d.world (newIds new) new := by
    obtain ⟨later, hlater, haccounts⟩ := hsettles
    obtain ⟨first, hfirst, hmarks⟩ := hbefore.history
    obtain ⟨last, hlast, hbrackets⟩ := hafter.history
    have hsplit : new = first ++ later ++ last := by
      refine List.append_cancel_left (hnew.symm.trans ?_)
      rw [history, hlast, hlater, hfirst]
      simp only [List.append_assoc]
      rfl
    rw [newIds_of_append hnew hids, hsplit]
    exact haccounts.around hbefore hafter.fdOf? (hbracket hmarks fun _ he => he.isBracket)
      (hbracket hbrackets fun _ he => he)
  rcases next_newIds_cases h hw with
    ⟨b, step, command, hbegins, haction, rfl, hids⟩ | ⟨hmaking, hids⟩
  · have hexecute := settles_execute (hw.quiet hbegins.quiet) command
    have hended : (b.execute command).2.world.Quiet Event.IsBracket
        ((b.execute command).2.endStep (b.execute command).1 step.ending).world :=
      quiet_endStep _ _ (fun _ he => he.isBracket) fun _ => trivial
    exact hbetween hbegins.quiet hexecute hended hids
  · obtain ⟨w, hbefore, hafter⟩ := next_world h
    have hdeed : w.Settles (c.deed.run w) [] := by
      refine Deed.settles_run (hw.quiet hbefore) ((fits_deed hw).quiet hbefore) hmaking ?_
      intro timeout hwait
      obtain ⟨limit, hkind⟩ := polling_of_wait hwait
      exact ⟨limit, hbefore.kind.trans hkind⟩
    exact hbetween hbefore hdeed hafter (hids.trans (List.append_nil _).symm)

/-! ## Every run -/

/-- The embedder registered a descriptor at an earlier moment of the run. -/
def Brought (start c : Config) (fd : Fd) : Prop :=
  ∃ b d handler, start.Reaches b ∧ b.next = some d ∧ d.Reaches c ∧
    b.deed = .addDescriptor fd handler

/-- The descriptors of a run are accounted for up to a moment, and in the next one. -/
structure Accounted (start c : Config) : Prop where
  /-- The open descriptors are those of the open sockets, one each. -/
  balanced : c.world.Balanced (openFds c.history)
  /-- No call was made with a descriptor that was not open, and none was closed that was not open.
  Only waits asked about others too, which the embedder had registered. -/
  rightful : Rightful (Brought start c) [] c.history
  /-- A descriptor that is handed out next ends up with a new socket, or is closed at once; one that
  is closed next is that, or that of a socket that is freed. -/
  next : ∀ d new, c.next = some d → d.history = c.history ++ new →
    c.world.Accounts d.world (newIds new) new
  /-- Freeing a socket removes its registration and then closes its descriptor, once each. -/
  free : ∀ s, c.deed = .free s → ∃ d status, c.next = some d ∧
    d.history = c.history ++
      [.began, .deregistered s.token, .closed s.fd, .ended (.ok .done) status]
  /-- The descriptor of an open socket is closed in no moment that leaves the socket open. -/
  stays : ∀ d new id s, c.next = some d → d.history = c.history ++ new → Fresh [] d.history →
    c.world.socket? id = some s → .closed s.fd ∈ new → d.world.socket? id = none

/-- What the embedder registered before a moment it registered before the next one. -/
theorem Brought.later {start : Config} {fd : Fd} (h : Brought start c fd)
    (hnext : c.next = some d) : Brought start d fd := by
  obtain ⟨b, e, handler, hb, he, hlater, hdeed⟩ := h
  exact ⟨b, e, handler, hb, he, hlater.tail hnext, hdeed⟩

/-- A descriptor in the table with a handler of the embedder was brought by the embedder. -/
theorem brought_of_borrows {kind : ReactorKind} {program : List Step}
    (hrun : (Config.initial kind program).Reaches c) {fd : Fd} (h : c.world.Borrows fd) :
    Brought (Config.initial kind program) c fd := by
  obtain ⟨token, row, handler, hrow, rfl, hcallback⟩ := h
  obtain ⟨b, d, hb, hnext, hlater, hdeed⟩ := exists_addDescriptor hrun hrow hcallback
  exact ⟨b, d, handler, hb, hnext, hlater, hdeed⟩

/-- A run goes on from its history. -/
theorem exists_new (h : c.next = some d) (hw : c.world.Orderly) :
    ∃ new, d.history = c.history ++ new := by
  obtain ⟨new, hnew, -⟩ := next_records h hw
  exact ⟨new, hnew⟩

/-- The open descriptors of a run are those of the open sockets, and nobody used another one. -/
theorem balanced_of_reaches {kind : ReactorKind} {program : List Step}
    (hrun : (Config.initial kind program).Reaches c) (hfresh : Fresh [] c.history) :
    c.world.Balanced (openFds c.history) ∧
      Rightful (Brought (Config.initial kind program) c) [] c.history := by
  induction hrun with
  | refl =>
    refine ⟨⟨List.nodup_nil, fun fd => ?_, ?_⟩, trivial⟩
    · simp [Config.initial, World.initial, World.Owns, World.fdOf?, World.socket?, history,
        Kernel.initial, openFds, after]
    · intro id id' fd hid
      simp [Config.initial, World.initial, World.fdOf?, World.socket?] at hid
  | @tail b c hrun hnext ih =>
    have hw := Reaches.orderly hrun
    obtain ⟨new, hnew⟩ := exists_new hnext hw
    rw [hnew] at hfresh
    obtain ⟨hbefore, hafter⟩ := each_append.1 hfresh
    obtain ⟨hbalanced, hrightful⟩ := ih hbefore
    have haccounts := next_accounts hnext hw hnew
    obtain ⟨hrightful', hbalanced'⟩ := haccounts.balanced hbalanced hafter fun fd hborrows =>
      (brought_of_borrows hrun hborrows).later hnext
    rw [hnew, openFds, after_append]
    exact ⟨hbalanced', each_append.2
      ⟨hrightful.mono fun fd hbrought => hbrought.later hnext, hrightful'⟩⟩

/-- **No descriptor is lost, none is closed twice, and none is used after its close.** In every run
whose operating system hands out no descriptor that is open, at every moment the open descriptors
are those of the open sockets; whatever was called or closed was open then; and each moment accounts
for what it is handed out and for what it closes. -/
theorem accounted_of_reaches {kind : ReactorKind} {program : List Step}
    (hrun : (Config.initial kind program).Reaches c) (hfresh : Fresh [] c.history) :
    Accounted (Config.initial kind program) c := by
  have hw := Reaches.orderly hrun
  obtain ⟨hbalanced, hrightful⟩ := balanced_of_reaches hrun hfresh
  refine ⟨hbalanced, hrightful, ?_, ?_, ?_⟩
  · intro d new hnext hnew
    exact next_accounts hnext hw hnew
  · intro s hfree
    exact next_free hfree
  · intro d new id s hnext hnew hlater hs hmem
    rw [hnew] at hlater
    have hafter := (each_append.1 hlater).2
    exact (next_accounts hnext hw hnew).freed_of_closed hbalanced hafter hs hmem

end Config

/-! ### Failures on the way to a socket -/

/-- A connection whose number was closed before; its peer can be read or not. -/
def reusedConnection (address : NativeAddress) : Answer :=
  .success { fd? := some (Kernel.firstFd + 1), address }

/-- A reactor with room for one refuses the second socket. Then a connection is drained, and another
one has a peer that cannot be read; the operating system uses one number for all of them. -/
def refusedProgram : List Step :=
  [.plain (.command (.openSocket "a" .ipv4 .stream .standard)),
    .plain (.command (.openSocket "b" .ipv4 .stream .standard)),
    ⟨.command (.request "a" .drainAccept),
      .only .accept [reusedConnection (.ofBytes [2, 0, 0, 80, 127, 0, 0, 1, 0, 0, 0, 0, 0, 0, 0, 0])],
      ⟨none, true⟩⟩,
    ⟨.command (.accept "a" "c"), .only .accept [reusedConnection ⟨[], 0⟩], ⟨none, true⟩⟩,
    .plain (.command (.free "a"))]

/-- Three descriptors that came to no socket are closed at once, and that of the socket at its end.
-/
theorem accounted_after_failures :
    let start := Config.initial (.polling 1) refusedProgram
    let c := start.skip 5
    Fresh [] c.history ∧ Config.Accounted start c ∧ openFds c.history = [] ∧
      c.history.filterMap Event.handsOut? = [100, 101, 101, 101] ∧
      c.history.filterMap Event.closes? = [101, 101, 101, 100] := by
  have hfresh : Fresh [] ((Config.initial (.polling 1) refusedProgram).skip 5).history := by
    decide
  exact ⟨hfresh, Config.accounted_of_reaches (Config.reaches_skip 5 _) hfresh,
    by decide, by decide, by decide⟩

end SocketLoop
