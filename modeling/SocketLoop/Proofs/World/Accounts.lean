import SocketLoop.Proofs.Run.Ledger
import SocketLoop.Proofs.World.Orderly

/-!
# What becomes of a descriptor

A descriptor that was handed out ends up with a socket that is new, or it is closed before the
operation ends that got it. A socket that is freed closes its descriptor after its registration was
removed. Nothing else opens or closes a descriptor, and no descriptors are used but those of open
sockets, and by a wait those that the embedder registered.

* `World.Accounts w w' ids later` says this of the events `later` between two worlds, where `ids`
  are the identities that were handed out.
* **`Accounts.balanced`**: if the descriptors of the open sockets are those that are open, they are
  so afterwards, and no event used a descriptor that was not open. All that is assumed is that the
  operating system hands out none that is open.
* `Deed.settles_run`, `settles_openSocket`, `settles_accept`: every operation keeps its accounts.
-/

namespace SocketLoop

open Ledger (Fresh Rightful after each_append after_append after_of_minds after_of_abstains
  rightful_of_minds rightful_of_abstains)

namespace World

/-- The descriptor of the open socket with an identity. -/
def fdOf? (w : World) (id : SocketId) : Option Fd :=
  (w.socket? id).map (·.fd)

/-- A descriptor is that of an open socket. -/
def Owns (w : World) (fd : Fd) : Prop :=
  ∃ id, w.fdOf? id = some fd

/-- A descriptor was registered by the embedder, with a handler of its own. -/
def Borrows (w : World) (fd : Fd) : Prop :=
  ∃ token row handler, w.reactor.table.get? token = some row ∧ row.fd = fd ∧
    row.callback = .direct handler

/-- What becomes of a descriptor in hand, of which nobody else knows: a socket is made of it, or it
is closed. Until then it is the only one that is used. -/
inductive Placed (fd : Fd) (w w' : World) : List SocketId → History → Prop
  | kept {id : SocketId} {later : History} (isNew : w.fdOf? id = none)
      (owners : ∀ i, w'.fdOf? i = if i = id then some fd else w.fdOf? i)
      (minds : ∀ e ∈ later, e.MindsOnly fd) : Placed fd w w' [id] later
  | closed {before last : History} (owners : ∀ i, w'.fdOf? i = w.fdOf? i)
      (minds : ∀ e ∈ before, e.MindsOnly fd)
      (silent : ∀ e ∈ last, e.Abstains) :
      Placed fd w w' [] (before ++ .closed fd :: last)

/-- What becomes of the descriptors of a world. -/
inductive Accounts (w w' : World) : List SocketId → History → Prop
  /-- None is opened or closed. -/
  | same {later : History} (owners : ∀ i, w'.fdOf? i = w.fdOf? i)
      (minds : ∀ e ∈ later, e.Minds w.Owns w.Borrows) : Accounts w w' [] later
  /-- A socket is freed: its registration is removed, then its descriptor is closed. -/
  | freed {s : Socket} {first last : History} (isOpen : w.socket? s.id = some s)
      (owners : ∀ i, w'.fdOf? i = if i = s.id then none else w.fdOf? i)
      (before : ∀ e ∈ first, e.Abstains) (behind : ∀ e ∈ last, e.Abstains) :
      Accounts w w' [] (first ++ .deregistered s.token :: .closed s.fd :: last)
  /-- A descriptor is handed out. -/
  | handed {fd : Fd} {e : Event} {ids : List SocketId} {first later : History}
      (before : ∀ e ∈ first, e.Abstains)
      (handsOut : e.handsOut? = some fd) (uses : ∀ fd ∈ e.uses, w.Owns fd)
      (placed : Placed fd w w' ids later) : Accounts w w' ids (first ++ e :: later)

/-- The descriptors of the open sockets, each with one owner, are listed once each. -/
structure Balanced (w : World) (fds : List Fd) : Prop where
  nodup : fds.Nodup
  mem_iff : ∀ fd, fd ∈ fds ↔ w.Owns fd
  owner : ∀ {id id' fd}, w.fdOf? id = some fd → w.fdOf? id' = some fd → id = id'

variable {w w' : World} {fd : Fd} {fds : List Fd} {ids : List SocketId} {later : History}
  {direct : Fd → Prop}

/-! ## The balance -/

/-- The balance is about owners only. -/
theorem Balanced.of_owners (h : w.Balanced fds) (howners : ∀ i, w'.fdOf? i = w.fdOf? i) :
    w'.Balanced fds := by
  have hsame : w'.fdOf? = w.fdOf? := funext howners
  refine ⟨h.nodup, fun fd => ?_, ?_⟩
  · rw [h.mem_iff, Owns, Owns, hsame]
  · rw [hsame]
    exact h.owner

/-- A new socket with a descriptor that nobody had keeps the balance. -/
theorem Balanced.insert (h : w.Balanced fds) {id : SocketId} (hnew : fd ∉ fds)
    (hid : w.fdOf? id = none)
    (howners : ∀ i, w'.fdOf? i = if i = id then some fd else w.fdOf? i) :
    w'.Balanced (fd :: fds) := by
  have hunowned {i : SocketId} : w.fdOf? i ≠ some fd := fun hi =>
    hnew ((h.mem_iff fd).2 ⟨i, hi⟩)
  refine ⟨List.nodup_cons.2 ⟨hnew, h.nodup⟩, fun fd' => ?_, ?_⟩
  · rw [List.mem_cons, h.mem_iff]
    constructor
    · rintro (rfl | ⟨i, hi⟩)
      · exact ⟨id, by rw [howners, if_pos rfl]⟩
      · have hne : i ≠ id := by
          rintro rfl
          simp [hid] at hi
        exact ⟨i, by rw [howners, if_neg hne, hi]⟩
    · rintro ⟨i, hi⟩
      rw [howners] at hi
      split at hi
      · exact .inl (Option.some.inj hi).symm
      · exact .inr ⟨i, hi⟩
  · intro i i' fd' hi hi'
    rw [howners] at hi hi'
    split at hi <;> split at hi'
    · rename_i heq heq'
      rw [heq, heq']
    · obtain rfl := Option.some.inj hi
      exact absurd hi' hunowned
    · obtain rfl := Option.some.inj hi'
      exact absurd hi hunowned
    · exact h.owner hi hi'

/-- A socket that leaves with its descriptor keeps the balance. -/
theorem Balanced.erase (h : w.Balanced fds) {id : SocketId} (hfd : w.fdOf? id = some fd)
    (howners : ∀ i, w'.fdOf? i = if i = id then none else w.fdOf? i) :
    w'.Balanced (fds.erase fd) := by
  refine ⟨h.nodup.erase _, fun fd' => ?_, ?_⟩
  · rw [h.nodup.mem_erase_iff, h.mem_iff]
    constructor
    · rintro ⟨hne, i, hi⟩
      have hother : i ≠ id := by
        rintro rfl
        exact hne (Option.some.inj (hi.symm.trans hfd))
      exact ⟨i, by rw [howners, if_neg hother, hi]⟩
    · rintro ⟨i, hi⟩
      rw [howners] at hi
      split at hi
      · simp at hi
      · rename_i hother
        refine ⟨?_, i, hi⟩
        rintro rfl
        exact hother (h.owner hi hfd)
  · intro i i' fd' hi hi'
    rw [howners] at hi hi'
    split at hi
    · simp at hi
    · split at hi'
      · simp at hi'
      · exact h.owner hi hi'

/-- A descriptor that is new is placed in balance. -/
theorem Placed.balanced (h : Placed fd w w' ids later) (hbalanced : w.Balanced fds)
    (hnew : fd ∉ fds) :
    Rightful direct (fd :: fds) later ∧ w'.Balanced (after (fd :: fds) later) := by
  have hmine (fd' : Fd) (h : fd' = fd) : fd' ∈ fd :: fds := by
    rw [h]
    exact List.mem_cons_self
  cases h with
  | @kept id _ isNew owners minds =>
    have hminds (e : Event) (he : e ∈ later) : e.Minds (· = fd) direct :=
      (minds e he).mono (fun _ h => h) fun _ h => h.elim
    refine ⟨rightful_of_minds hminds hmine, ?_⟩
    rw [after_of_minds hminds]
    exact hbalanced.insert hnew isNew owners
  | @closed before last owners minds silent =>
    have hminds (e : Event) (he : e ∈ before) : e.Minds (· = fd) direct :=
      (minds e he).mono (fun _ h => h) fun _ h => h.elim
    have hclosed : Ledger.enter (fd :: fds) (.closed fd) = fds := List.erase_cons_head ..
    have hafter : after (fd :: fds) (before ++ .closed fd :: last) = fds := by
      rw [after_append, after_of_minds hminds]
      change after (Ledger.enter (fd :: fds) (.closed fd)) last = fds
      rw [hclosed, after_of_abstains silent]
    rw [hafter]
    refine ⟨each_append.2 ⟨rightful_of_minds hminds hmine, ?_, ?_⟩, hbalanced.of_owners owners⟩
    · rw [after_of_minds hminds]
      exact fun fd' hfd' => .inl (hmine fd' (List.mem_singleton.1 hfd'))
    · exact rightful_of_abstains silent

/-- **Accounts keep the balance**: whoever keeps them uses no descriptor that is not open, as long
as none is handed out that is. -/
theorem Accounts.balanced (h : Accounts w w' ids later) (hbalanced : w.Balanced fds)
    (hfresh : Fresh fds later) (hdirect : ∀ fd, w.Borrows fd → direct fd) :
    Rightful direct fds later ∧ w'.Balanced (after fds later) := by
  have hopen (fd : Fd) (h : w.Owns fd) : fd ∈ fds := (hbalanced.mem_iff fd).2 h
  cases h with
  | same owners minds =>
    have hminds (e : Event) (he : e ∈ later) : e.Minds w.Owns direct :=
      (minds e he).mono (fun _ h => h) hdirect
    refine ⟨rightful_of_minds hminds hopen, ?_⟩
    rw [after_of_minds hminds]
    exact hbalanced.of_owners owners
  | @freed s first last isOpen owners before behind =>
    have hfd : w.fdOf? s.id = some s.fd := by
      rw [fdOf?, isOpen]
      rfl
    have hafter :
        after fds (first ++ .deregistered s.token :: .closed s.fd :: last) = fds.erase s.fd := by
      rw [after_append, after_of_abstains before]
      exact after_of_abstains behind
    rw [hafter]
    refine ⟨each_append.2 ⟨rightful_of_abstains before, ?_⟩, hbalanced.erase hfd owners⟩
    rw [after_of_abstains before]
    refine ⟨fun fd' hfd' => absurd hfd' List.not_mem_nil, fun fd' hfd' => ?_, ?_⟩
    · rw [List.mem_singleton.1 hfd']
      exact .inl (hopen _ ⟨s.id, hfd⟩)
    · exact rightful_of_abstains behind
  | @handed fd e _ first later before handsOut uses placed =>
    have hcloses : e.closes? = none := by
      cases e with
      | closed _ => simp [Event.handsOut?] at handsOut
      | _ => rfl
    have henter : Ledger.enter fds e = fd :: fds := by
      simp [Ledger.enter, hcloses, handsOut]
    obtain ⟨-, hfresh⟩ := each_append.1 hfresh
    rw [after_of_abstains before] at hfresh
    have hplaced : Rightful direct (fd :: fds) later ∧ w'.Balanced (after (fd :: fds) later) :=
      placed.balanced hbalanced (hfresh.1 fd handsOut)
    have hafter : after fds (first ++ e :: later) = after (fd :: fds) later := by
      rw [after_append, after_of_abstains before]
      exact congrArg (after · later) henter
    rw [hafter]
    refine ⟨each_append.2 ⟨rightful_of_abstains before, ?_, ?_⟩, hplaced.2⟩
    · rw [after_of_abstains before]
      exact fun fd' hfd' => .inl (hopen fd' (uses fd' hfd'))
    · rw [after_of_abstains before, henter]
      exact hplaced.1

/-- The descriptor of an open socket is closed only if the socket is freed. -/
theorem Accounts.freed_of_closed (h : Accounts w w' ids later) (hbalanced : w.Balanced fds)
    (hfresh : Fresh fds later) {id : SocketId} {s : Socket} (hs : w.socket? id = some s)
    (hmem : .closed s.fd ∈ later) : w'.socket? id = none := by
  have hfd : w.fdOf? id = some s.fd := by
    rw [fdOf?, hs]
    rfl
  have hopen : s.fd ∈ fds := (hbalanced.mem_iff s.fd).2 ⟨id, hfd⟩
  have hnone {own direct : Fd → Prop} (hminds : (Event.closed s.fd).Minds own direct) : False := by
    simpa [Event.closes?] using hminds.closes
  cases h with
  | same owners minds => exact (hnone (minds _ hmem)).elim
  | @freed t first last isOpen owners before behind =>
    rcases List.mem_append.1 hmem with hmem | hmem
    · exact (hnone (before _ hmem)).elim
    · rcases List.mem_cons.1 hmem with heq | hmem
      · simp at heq
      · rcases List.mem_cons.1 hmem with heq | hmem
        · have htfd : w.fdOf? t.id = some s.fd := by
            rw [fdOf?, isOpen, Event.closed.inj heq]
            rfl
          have hclosed := owners id
          rw [if_pos (hbalanced.owner hfd htfd), fdOf?, Option.map_eq_none_iff] at hclosed
          exact hclosed
        · exact (hnone (behind _ hmem)).elim
  | @handed fd e _ first later before handsOut uses placed =>
    obtain ⟨-, hfresh⟩ := each_append.1 hfresh
    rw [after_of_abstains before] at hfresh
    have hnew : fd ∉ fds := hfresh.1 fd handsOut
    rcases List.mem_append.1 hmem with hmem | hmem
    · exact (hnone (before _ hmem)).elim
    · rcases List.mem_cons.1 hmem with heq | hmem
      · rw [← heq] at handsOut
        simp [Event.handsOut?] at handsOut
      · cases placed with
        | kept isNew owners minds => exact (hnone (minds _ hmem)).elim
        | closed owners minds silent =>
          rcases List.mem_append.1 hmem with hmem | hmem
          · exact (hnone (minds _ hmem)).elim
          · rcases List.mem_cons.1 hmem with heq | hmem
            · rw [Event.closed.inj heq] at hopen
              exact absurd hopen hnew
            · exact (hnone (silent _ hmem)).elim

/-! ## Operations -/

/-- From one world to another accounts are kept. -/
def Settles (w w' : World) (ids : List SocketId) : Prop :=
  ∃ later, w'.kernel.history = w.kernel.history ++ later ∧ Accounts w w' ids later

/-- From one world to another a descriptor in hand is placed. -/
def Places (fd : Fd) (w w' : World) (ids : List SocketId) : Prop :=
  ∃ later, w'.kernel.history = w.kernel.history ++ later ∧ Placed fd w w' ids later

/-- A call of one of a few kinds, which do not include accepting, minds its descriptor. -/
theorem minds_of_among {own direct : Fd → Prop} {kinds : List CallKind} {e : Event}
    (h : e.IsCallAmong fd kinds) (hkinds : .accept ∉ kinds) (hown : own fd) :
    e.Minds own direct := by
  cases e with
  | called call result =>
    obtain ⟨hfd, hkind⟩ := h
    refine Event.minds_called hfd ?_ hown result
    rintro heq
    exact hkinds (heq ▸ hkind)
  | _ => exact h.elim

/-- Where owners stay and no descriptor is opened or closed, accounts are kept. -/
theorem settles_of_grows (howners : ∀ i, w'.fdOf? i = w.fdOf? i)
    (hgrows : Grows (fun e => e.Minds w.Owns w.Borrows) w.kernel.history w'.kernel.history) :
    w.Settles w' [] := by
  obtain ⟨later, hlater, hminds⟩ := hgrows
  exact ⟨later, hlater, .same howners hminds⟩

/-- Owners stay in a quiet change. -/
theorem Quiet.fdOf? {P : Event → Prop} (h : w.Quiet P w') (i : SocketId) :
    w'.fdOf? i = w.fdOf? i := by
  rw [World.fdOf?, World.fdOf?, h.socket?]

/-- Owners stay when a socket is put back. -/
theorem fdOf?_restore {s : Socket} {session : Session} (hopen : w.socket? s.id = some s)
    (hid : session.socket.id = s.id) (hfd : session.socket.fd = s.fd) (i : SocketId) :
    (w.restore session).fdOf? i = w.fdOf? i := by
  simp only [fdOf?, World.socket?, restore, Table.get?_set, hid] at hopen ⊢
  split
  · rename_i heq
    rw [heq, hopen, Option.map_some, Option.map_some, Option.map_some, hfd]
  · rfl

/-- What is done with a descriptor before it is placed, and what is recorded after that. -/
theorem Placed.around {w₀ w₁ : World} {first last : History} (h : Placed fd w w' ids later)
    (howners : ∀ i, w.fdOf? i = w₀.fdOf? i) (howners' : ∀ i, w₁.fdOf? i = w'.fdOf? i)
    (hfirst : ∀ e ∈ first, e.MindsOnly fd) (hlast : ∀ e ∈ last, e.Abstains) :
    Placed fd w₀ w₁ ids (first ++ later ++ last) := by
  have hsame : w.fdOf? = w₀.fdOf? := funext howners
  have hsame' : w₁.fdOf? = w'.fdOf? := funext howners'
  cases h with
  | kept isNew owners minds =>
    rw [hsame] at isNew owners
    refine .kept isNew (fun i => (howners' i).trans (owners i)) fun e he => ?_
    rcases List.mem_append.1 he with he | he
    · exact (List.mem_append.1 he).elim (hfirst e) (minds e)
    · exact (hlast e he).mindsOnly fd
  | @closed before last' owners minds silent =>
    rw [hsame] at owners
    have hsplit : first ++ (before ++ .closed fd :: last') ++ last =
        (first ++ before) ++ .closed fd :: (last' ++ last) := by
      simp only [List.append_assoc, List.cons_append]
    rw [hsplit]
    refine .closed (fun i => (howners' i).trans (owners i)) (fun e he => ?_) fun e he => ?_
    · exact (List.mem_append.1 he).elim (hfirst e) (minds e)
    · exact (List.mem_append.1 he).elim (silent e) (hlast e)

/-- What is done with a descriptor before it is placed. -/
theorem Places.prepend {w₀ : World} (h : w.Places fd w' ids)
    (howners : ∀ i, w.fdOf? i = w₀.fdOf? i)
    (hgrows : Grows (Event.MindsOnly fd) w₀.kernel.history w.kernel.history) :
    Places fd w₀ w' ids := by
  obtain ⟨later, hlater, hplaced⟩ := h
  obtain ⟨first, hfirst, hminds⟩ := hgrows
  have hall := hplaced.around howners (fun _ => rfl) hminds (List.forall_mem_nil _)
  rw [List.append_nil] at hall
  exact ⟨first ++ later, by rw [hlater, hfirst, List.append_assoc], hall⟩

/-- What follows a call that handed out a descriptor places it. -/
theorem Places.settles {w₀ : World} {call : Syscall} {between : History}
    (h : w.Places fd w' ids) (howners : ∀ i, w.fdOf? i = w₀.fdOf? i)
    (hhistory : w.kernel.history = w₀.kernel.history ++ .called call (.ok fd) :: between)
    (hbetween : ∀ e ∈ between, e.MindsOnly fd)
    (hhandsOut : (Event.called call (.ok fd)).handsOut? = some fd)
    (huses : ∀ fd' ∈ (Event.called call (.ok fd)).uses, w₀.Owns fd') : w₀.Settles w' ids := by
  obtain ⟨later, hlater, hplaced⟩ := h
  have hall := hplaced.around howners (fun _ => rfl) hbetween (List.forall_mem_nil _)
  rw [List.append_nil] at hall
  refine ⟨.called call (.ok fd) :: (between ++ later), ?_, ?_⟩
  · rw [hlater, hhistory, List.append_assoc]
    rfl
  · exact .handed (List.forall_mem_nil _) hhandsOut huses hall

/-! ### Making sockets -/

/-- A registration uses no descriptor. -/
theorem abstains_registered (fd : Fd) (result : Except ReactorError Token) :
    (Event.registered fd result).Abstains :=
  Event.abstains_of_ne (by simp) (by simp)

/-- Setting an interest uses no descriptor. -/
theorem abstains_interestSet (token : Token) (interest : Readiness) :
    (Event.interestSet token interest).Abstains :=
  Event.abstains_of_ne (by simp) (by simp)

/-- **A descriptor is made a socket, or it is closed.** -/
theorem places_adopt (hw : w.Orderly) (origin : Origin) :
    (∃ id w', adopt origin w = .ok id w' ∧ w.Places origin.fd w' [id]) ∨
      ∃ halt w', adopt origin w = .error halt w' ∧ w.Places origin.fd w' [] := by
  unfold adopt
  rcases register_cases (P := Event.Abstains) { w with registry := w.registry.allocate } origin.fd
    (.socket w.registry.nextId) (abstains_registered origin.fd) with
    ⟨error, w₁, heq, hquiet⟩ | ⟨w₁, heq, hquiet⟩ <;>
    obtain ⟨later, hlater, hnone⟩ := hquiet.history
  · right
    simp only [heq]
    refine ⟨_, _, rfl, later ++ [.closed origin.fd], ?_, ?_⟩
    · exact (congrArg (· ++ [Event.closed origin.fd]) hlater).trans (List.append_assoc _ _ _)
    · exact .closed hquiet.fdOf? (fun e he => (hnone e he).mindsOnly _) (by simp)
  · left
    simp only [heq]
    have hnew : w.socket? w.registry.nextId = none := by
      rw [Option.eq_none_iff_forall_ne_some]
      exact fun s hs => absurd (hw.lt_nextId hs) (Nat.lt_irrefl _)
    refine ⟨_, _, rfl, later ++ [.interestSet w.reactor.nextToken ∅], ?_, ?_⟩
    · exact (congrArg (· ++ [Event.interestSet w.reactor.nextToken ∅]) hlater).trans
        (List.append_assoc _ _ _)
    · refine .kept ?_ (fun i => ?_) fun e he => ?_
      · rw [fdOf?, hnew]
        rfl
      · have hsockets : w₁.sockets = w.sockets := hquiet.sockets
        simp only [fdOf?, World.socket?, setInterest, World.record, hsockets, Table.get?_push]
        split
        · rename_i hi
          rw [hi, show w.sockets.get? w.registry.nextId = none from hnew]
          rfl
        · rw [Option.or_none]
      · rcases List.mem_append.1 he with he | he
        · exact (hnone e he).mindsOnly _
        · rw [List.mem_singleton.1 he]
          exact (abstains_interestSet _ _).mindsOnly _

/-- A socket is opened, or its descriptor is closed, or there is none. -/
theorem settles_openSocket (hw : w.Orderly) (family : AddressFamily) (cls : SocketClass)
    (config : SocketConfig) :
    (∃ id w', openSocket family cls config w = .ok id w' ∧ w.Settles w' [id]) ∨
      ∃ halt w', openSocket family cls config w = .error halt w' ∧ w.Settles w' [] := by
  have hhistory := w.history_call (.socket family cls)
  have hquiet := quiet_call (P := fun _ => True) w (.socket family cls) fun _ => trivial
  unfold openSocket
  rcases hcall : w.call (.socket family cls) with ⟨code | completion, w₁⟩ <;>
    rw [hcall] at hquiet hhistory
  · refine .inr ⟨_, _, rfl, _, hhistory, .same hquiet.fdOf? fun e he => ?_⟩
    rw [List.mem_singleton.1 he]
    exact ⟨rfl, rfl, fun fd hfd => absurd hfd List.not_mem_nil⟩
  · -- all that follows is done with the descriptor in hand
    have hplaced {ids : List SocketId} {w' : World} (h : w₁.Places completion.value w' ids) :
        w.Settles w' ids :=
      h.settles hquiet.fdOf? hhistory (by simp) rfl fun fd hfd => absurd hfd List.not_mem_nil
    have hready := quiet_call w₁ (.setNonblocking completion.value) <|
      Event.mindsOnly_called rfl (by simp [Syscall.kind])
    have hinfo (w : World) : w.Quiet (Event.MindsOnly completion.value)
        (w.enablePacketInfo completion.value family cls config).2 :=
      quiet_enablePacketInfo w family cls config fun _ =>
        Event.mindsOnly_called rfl (by simp [Syscall.kind])
    dsimp only
    rcases hnonblocking : w₁.call (.setNonblocking completion.value) with ⟨code | done, w₂⟩ <;>
      rw [hnonblocking] at hready
    · right
      obtain ⟨later, hlater, hminds⟩ := hready.history
      refine ⟨_, _, rfl, hplaced ⟨later ++ [.closed completion.value], ?_, ?_⟩⟩
      · exact (congrArg (· ++ [Event.closed completion.value]) hlater).trans
          (List.append_assoc _ _ _)
      · exact .closed hready.fdOf? hminds (by simp)
    · have hbefore := hready.trans (hinfo w₂)
      dsimp only
      rcases hpair : w₂.enablePacketInfo completion.value family cls config with ⟨packetInfo, w₃⟩
      rw [hpair] at hbefore
      have hw₃ : w₃.Orderly := (hw.quiet hquiet).quiet hbefore
      rcases places_adopt hw₃ ⟨completion.value, family, cls, config, packetInfo⟩ with
        ⟨id, w', heq, hplaces⟩ | ⟨halt, w', heq, hplaces⟩
      · exact .inl ⟨id, w', heq, hplaced (hplaces.prepend hbefore.fdOf? hbefore.history)⟩
      · exact .inr ⟨halt, w', heq, hplaced (hplaces.prepend hbefore.fdOf? hbefore.history)⟩

/-! ### Accepting -/

/-- An open socket owns its descriptor. -/
theorem owns_fd {s : Socket} (hopen : w.socket? s.id = some s) : w.Owns s.fd := by
  refine ⟨s.id, ?_⟩
  rw [fdOf?, hopen]
  rfl

/-- A call of a listener for a connection uses an open descriptor. -/
theorem owns_of_accept {s : Socket} (hopen : w.socket? s.id = some s) (result : Except Errno Int) :
    ∀ fd ∈ (Event.called (.accept s.fd) result).uses, w.Owns fd := by
  intro fd hfd
  rw [List.mem_singleton.1 hfd]
  exact owns_fd hopen

/-- Calls that make a connection ready mind its descriptor. -/
theorem mindsOnly_of_ready {e : Event} (h : e.IsCallAmong fd [.setNonblocking]) :
    e.MindsOnly fd :=
  @minds_of_among fd (· = fd) (fun _ => False) _ e h (by simp) rfl

/-- A connection of which no descriptor is left was closed, or there was none. -/
theorem settles_restore_of_accepts {s : Socket} {session : Session}
    (hopen : w.socket? s.id = some s) (h : Session.Accepts ⟨s, w.kernel⟩ session none) :
    w.Settles (w.restore session) [] := by
  have howners := fdOf?_restore hopen h.kept.id h.kept.fd
  obtain ⟨-, later, hlater, haccepted⟩ := h
  refine ⟨later, hlater, ?_⟩
  cases haccepted with
  | refused =>
    refine .same howners fun e he => ?_
    rw [List.mem_singleton.1 he]
    exact ⟨rfl, rfl, fun fd hfd => .inl (owns_of_accept hopen _ fd hfd)⟩
  | @dropped fd between hcalls =>
    refine .handed (List.forall_mem_nil _) rfl (owns_of_accept hopen _) ?_
    exact .closed howners (fun e he => mindsOnly_of_ready (hcalls e he)) (List.forall_mem_nil _)

/-- A connection is accepted as a socket, or it is closed, or there is none. -/
theorem settles_accept (hw : w.Orderly) {listener : Socket}
    (hopen : w.socket? listener.id = some listener) :
    (∃ id peer w', accept listener w = .ok (id, peer) w' ∧ w.Settles w' [id]) ∨
      ∃ halt w', accept listener w = .error halt w' ∧ w.Settles w' [] := by
  unfold accept perform
  rcases SocketM.acceptReady_cases ⟨listener, w.kernel⟩ with
    ⟨halt, session, heq, haccepts⟩ | ⟨fd, peer, session, heq, haccepts⟩
  · simp only [heq]
    exact .inr ⟨_, _, rfl, settles_restore_of_accepts hopen haccepts⟩
  · simp only [heq]
    have hkept := haccepts.kept
    have howners := fdOf?_restore hopen hkept.id hkept.fd
    obtain ⟨-, later, hlater, haccepted⟩ := haccepts
    have hrestored : (w.restore session).Orderly := by
      have hgrows : Grows (fun _ => True) w.kernel.history session.kernel.history :=
        ⟨later, hlater, fun _ _ => trivial⟩
      have hacts : Acts (fun _ => True) .nothing w (w.restore session) :=
        acts_restore w hopen hkept hgrows
      exact hacts.orderly hw
    cases haccepted with
    | @taken _ between hcalls =>
      have hplaced {w' : World} {ids : List SocketId}
          (h : (w.restore session).Places fd w' ids) : w.Settles w' ids :=
        h.settles howners hlater (fun e he => mindsOnly_of_ready (hcalls e he)) rfl
          (owns_of_accept hopen _)
      rcases places_adopt hrestored
        ⟨fd, listener.family, listener.cls, listener.config, false⟩ with
        ⟨id, w', heq, hplaces⟩ | ⟨halt, w', heq, hplaces⟩
      · simp only [heq]
        exact .inl ⟨id, peer, w', rfl, hplaced hplaces⟩
      · -- the failure is recorded as the last error of the listener
        simp only [heq]
        refine .inr ⟨halt, _, rfl, hplaced ?_⟩
        obtain ⟨calls, hcalls, hplaced⟩ := hplaces
        have howners' (i : SocketId) :
            (w'.recordError listener.id .unknown).fdOf? i = w'.fdOf? i := by
          simp only [fdOf?, recordError, World.socket?, Table.get?_modify]
          split
          · cases w'.sockets.get? i <;> rfl
          · rfl
        have hall := hplaced.around (fun _ => rfl) howners' (List.forall_mem_nil _)
          (List.forall_mem_nil _)
        rw [List.nil_append, List.append_nil] at hall
        exact ⟨calls, hcalls, hall⟩

/-! ### All other deeds -/

/-- A request keeps its accounts. -/
theorem settles_request {s : Socket} (hopen : w.socket? s.id = some s) (request : Request) :
    w.Settles ((perform s request.run).after w) [] := by
  rw [after_perform]
  by_cases hdrain : request = .drainAccept
  · subst hdrain
    exact settles_restore_of_accepts hopen (Request.accepts_run_drainAccept ⟨s, w.kernel⟩)
  · obtain ⟨hspares, hcalls⟩ := request.keeps_run hdrain ⟨s, w.kernel⟩ rfl
    have hkinds : CallKind.accept ∉ request.kinds := by
      cases request with
      | drainAccept => exact absurd rfl hdrain
      | _ => simp [Request.kinds]
    refine settles_of_grows (fdOf?_restore hopen hspares.id hspares.fd) (hcalls.mono fun e he => ?_)
    exact minds_of_among he hkinds (owns_fd hopen)

/-- Delivering readiness keeps its accounts. -/
theorem settles_deliver (hw : w.Orderly) (id : SocketId) (ready : Readiness) :
    w.Settles (w.deliver id ready).2 [] := by
  have hnone : w.Settles w [] := settles_of_grows (fun _ => rfl) (Grows.refl _)
  unfold deliver
  split
  · exact hnone
  split
  · exact hnone
  rename_i s hs
  have hopen := hw.socket?_id hs
  dsimp only
  split
  · obtain ⟨hsocket, hcalls⟩ :=
      Session.keeps_settleConnect ⟨{ s with receiveCount := 0 }, w.kernel⟩
    have hsettles : w.Settles (w.restore
        (Session.settleConnect ⟨{ s with receiveCount := 0 }, w.kernel⟩).2) [] := by
      refine settles_of_grows (fdOf?_restore hopen ?_ ?_) (hcalls.mono fun e he => ?_)
      · rw [hsocket]
      · rw [hsocket]
      · exact minds_of_among he (by simp) (owns_fd (s := s) hopen)
    split <;> rename_i heq <;> rw [heq] at hsettles <;> exact hsettles
  · exact settles_of_grows (fdOf?_restore hopen rfl rfl) (Grows.refl _)

/-- A change of a subscription keeps its accounts. -/
theorem settles_subscribe {s : Socket} (hopen : w.socket? s.id = some s)
    (change : Change HandlerRef) : w.Settles ((subscribe s change).after w) [] := by
  have howners (subscription : Subscription) (i : SocketId) :
      (w.restore ⟨{ s with subscription }, w.kernel⟩).fdOf? i = w.fdOf? i :=
    fdOf?_restore hopen rfl rfl i
  refine subscribe_rule w (B := fun w' => w.Settles w' []) ?_ (fun subscription _ _ => ?_)
    fun subscription _ _ => ?_
  · exact settles_of_grows (fun _ => rfl) (Grows.refl _)
  · exact settles_of_grows (howners subscription) (Grows.refl _)
  · exact settles_of_grows (howners subscription) (Grows.single _ (abstains_interestSet _ _).minds)

/-- Freeing a socket keeps its accounts. -/
theorem settles_free {s : Socket} (hopen : w.socket? s.id = some s) : w.Settles (w.free s) [] := by
  refine ⟨[.deregistered s.token, .closed s.fd], List.append_assoc _ _ _, ?_⟩
  refine @Accounts.freed w (w.free s) s [] [] hopen (fun i => ?_) (List.forall_mem_nil _)
    (List.forall_mem_nil _)
  simp only [fdOf?, World.socket?, free, close, deregister, World.record, Table.get?_erase]
  split <;> rfl

/-- A registration, whether it is refused or not, keeps its accounts. -/
theorem settles_register (fd : Fd) (callback : Callback) :
    w.Settles (w.register fd callback).2 [] := by
  rcases register_cases (P := Event.Abstains) w fd callback (abstains_registered fd) with
    ⟨error, w', heq, hquiet⟩ | ⟨w', heq, hquiet⟩ <;> rw [heq]
  · exact settles_of_grows hquiet.fdOf? (hquiet.history.mono fun e he => he.minds)
  · have howners (i : SocketId) : w'.fdOf? i = w.fdOf? i := hquiet.fdOf? i
    exact settles_of_grows howners (hquiet.history.mono fun e he => he.minds)

/-- A wait asks about descriptors of open sockets and of the embedder. -/
theorem minds_poll (hw : w.Orderly) {limit : Nat} (hkind : w.reactor.kind = .polling limit)
    (timeout : Int) (result : Except Errno Int) :
    (Event.called (.poll (w.reactor.watched.map fun row => Reactor.waitEntry row.2) timeout)
      result).Minds w.Owns w.Borrows := by
  refine ⟨rfl, rfl, fun fd hfd => ?_⟩
  simp only [Event.uses, List.map_map, List.mem_map] at hfd
  obtain ⟨⟨token, row⟩, hmem, rfl⟩ := hfd
  have hrow : w.reactor.table.get? token = some row :=
    Table.get?_of_mem_rows hw.rows (List.mem_filter.1 hmem).1
  cases hcallback : row.callback with
  | direct handler => exact .inr ⟨trivial, token, row, handler, hrow, rfl, hcallback⟩
  | socket id =>
    obtain ⟨s, hs⟩ := Table.exists_of_mem_keys (hw.row_open hkind hrow hcallback)
    refine .inl ⟨id, ?_⟩
    rw [fdOf?, World.socket?, hs, Option.map_some, (hw.row_socket hrow hcallback hs).2]
    rfl

/-- Waiting keeps its accounts. -/
theorem settles_wait (hw : w.Orderly) {limit : Nat} (hkind : w.reactor.kind = .polling limit)
    (timeout : Option Duration) : w.Settles (w.wait timeout).2 [] := by
  have hpoll := quiet_call w _ (minds_poll hw hkind (waitTimeout timeout))
  have hsettles := settles_of_grows hpoll.fdOf? hpoll.history
  unfold wait
  dsimp only
  split
  · exact settles_of_grows (fun _ => rfl) (Grows.refl _)
  · split <;> rename_i heq <;> rw [heq] at hsettles
    · exact hsettles
    · split <;> exact hsettles

end World

/-- **Every deed keeps its accounts.** Those that make a socket are looked at with their result. -/
theorem Deed.settles_run {w : World} (hw : w.Orderly) {deed : Deed} (hfits : deed.Fits w)
    (hmaking : deed.isMaking = false)
    (hwait : ∀ timeout, deed = .wait timeout → ∃ limit, w.reactor.kind = .polling limit) :
    w.Settles (deed.run w) [] := by
  open World in
  cases deed with
  | nothing => exact settles_of_grows (fun _ => rfl) (Grows.refl _)
  | openSocket _ _ _ | accept _ => simp [isMaking] at hmaking
  | request s request => exact settles_request (hfits s rfl) request
  | change s change => exact settles_subscribe (hfits s rfl) change
  | free s => exact settles_free (hfits s rfl)
  | addDescriptor fd handler => exact settles_register fd (.direct handler)
  | setDescriptor token interest =>
    exact settles_of_grows (fun _ => rfl) (Grows.single _ (abstains_interestSet _ _).minds)
  | removeDescriptor token =>
    have hremoved : (Event.deregistered token).Abstains :=
      Event.abstains_of_ne (by simp) (by simp)
    exact settles_of_grows (fun _ => rfl) (Grows.single _ hremoved.minds)
  | wait timeout =>
    obtain ⟨limit, hkind⟩ := hwait timeout rfl
    exact settles_wait hw hkind timeout
  | deliver id ready => exact settles_deliver hw id ready

end SocketLoop
