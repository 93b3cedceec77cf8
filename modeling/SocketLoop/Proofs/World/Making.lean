import SocketLoop.Proofs.World.Answers

/-!
# Making a socket

Opening and accepting go through the same last steps: a descriptor is registered under a new
identity, and it becomes a socket, or the registration is refused and the descriptor is closed.
Before that there are other points at which they can fail. This module follows both from call to
call.

* `Adopts`, `Opens`, `Accepting` list what can come of making a descriptor a socket, of opening and
  of accepting: the result, what is recorded, and what becomes of the world.
* **`Opens.undone`**, **`Accepting.undone`**: what fails leaves everything as it was, but for an
  identity that is used up, and for the last error of the listener.
* **`Opens.entered`**, **`Accepting.entered`**: what succeeds enters one socket, in the state in
  which sockets start.
-/

namespace SocketLoop

/-- A call or a registration failed that a new socket needs. An option that is refused is none of
these. -/
def Event.IsFault : Event → Prop
  | .called (.socket ..) (.error _) => True
  | .called (.setNonblocking _) (.error _) => True
  | .called (.accept _) (.error _) => True
  | .registered _ (.error _) => True
  | _ => False

/-! ## Accepting a connection -/

/-- What can come of accepting a connection and making it non-blocking, and what is recorded. -/
inductive Session.Readies (a : Session) :
    EStateM.Result Halt Session (Fd × Address) → History → Prop
  /-- There is no connection. -/
  | refused {code : Errno} {kernel : Kernel}
      (history : kernel.history =
        a.kernel.history ++ [.called (.accept a.socket.fd) (.error code)]) :
      Readies a
        (.error (.failed (Operation.accept.classifyErrno a.socket.cls code))
          ⟨{ a.socket with
            lastError := some (Operation.accept.classifyErrno a.socket.cls code) }, kernel⟩)
        [.called (.accept a.socket.fd) (.error code)]
  /-- The address of the other end cannot be read, and the connection is closed. -/
  | unreadable {fd : Fd} {fault : NativeFault} {kernel : Kernel}
      (history : kernel.history =
        a.kernel.history ++ [.called (.accept a.socket.fd) (.ok fd), .closed fd]) :
      Readies a
        (.error (.breached (.nativeAddress fault)) ⟨{ a.socket with lastError := none }, kernel⟩)
        [.called (.accept a.socket.fd) (.ok fd), .closed fd]
  /-- The connection cannot be made non-blocking, and is closed. -/
  | blocking {fd : Fd} {code : Errno} {kernel : Kernel}
      (history : kernel.history = a.kernel.history ++
        [.called (.accept a.socket.fd) (.ok fd), .called (.setNonblocking fd) (.error code),
          .closed fd]) :
      Readies a
        (.error (.failed .unknown) ⟨{ a.socket with lastError := some .unknown }, kernel⟩)
        [.called (.accept a.socket.fd) (.ok fd), .called (.setNonblocking fd) (.error code),
          .closed fd]
  | ready {fd : Fd} {peer : Address} {n : Int} {kernel : Kernel}
      (history : kernel.history = a.kernel.history ++
        [.called (.accept a.socket.fd) (.ok fd), .called (.setNonblocking fd) (.ok n)]) :
      Readies a (.ok (fd, peer) ⟨{ a.socket with lastError := none }, kernel⟩)
        [.called (.accept a.socket.fd) (.ok fd), .called (.setNonblocking fd) (.ok n)]

/-- The error with which an operation that did not return failed. -/
def Halt.error? : Halt → Option SocketError
  | .failed error => some error
  | .breached _ => none

namespace Session.Readies

variable {a b : Session} {later : History}

/-- Where there is no connection, the listener has the error as its last one. Something failed then,
or the address of the other end cannot be read. -/
theorem of_error {halt : Halt} (h : a.Readies (.error halt b) later) :
    b.kernel.history = a.kernel.history ++ later ∧
      b.socket = { a.socket with lastError := halt.error? } ∧ (∀ e ∈ later, e.IsSystem) ∧
      ((∃ error, halt = .failed error ∧ ∃ e ∈ later, e.IsFault) ∨
        ∃ fault, halt = .breached (.nativeAddress fault)) := by
  cases h with
  | refused history =>
    exact ⟨history, rfl, by simp [Event.IsSystem],
      .inl ⟨_, rfl, _, List.mem_cons_self, trivial⟩⟩
  | unreadable history => exact ⟨history, rfl, by simp [Event.IsSystem], .inr ⟨_, rfl⟩⟩
  | blocking history =>
    exact ⟨history, rfl, by simp [Event.IsSystem],
      .inl ⟨_, rfl, _, List.mem_cons_of_mem _ List.mem_cons_self, trivial⟩⟩

/-- Where there is one, the last error of the listener is cleared. -/
theorem of_ok {x : Fd × Address} (h : a.Readies (.ok x b) later) :
    b.kernel.history = a.kernel.history ++ later ∧
      b.socket = { a.socket with lastError := none } ∧ (∀ e ∈ later, e.IsSystem) ∧
      ∀ e ∈ later, ¬e.IsFault := by
  cases h with
  | ready history =>
    exact ⟨history, rfl, by simp [Event.IsSystem], by simp [Event.IsFault]⟩

end Session.Readies

namespace SocketM

/-- Accepting a connection and making it non-blocking, call by call. -/
theorem run_acceptReady (a : Session) :
    acceptReady a =
      match a.kernel.call (.accept a.socket.fd) with
      | (.error code, kernel) =>
        let error := Operation.accept.classifyErrno a.socket.cls code
        .error (.failed error) ⟨{ a.socket with lastError := some error }, kernel⟩
      | (.ok completion, kernel) =>
        let socket := { a.socket with lastError := none }
        match Address.ofNative completion.address with
        | .error fault =>
          .error (.breached (.nativeAddress fault)) ⟨socket, kernel.close completion.value⟩
        | .ok peer =>
          match kernel.call (.setNonblocking completion.value) with
          | (.ok _, kernel) => .ok (completion.value, peer) ⟨socket, kernel⟩
          | (.error _, kernel) =>
            .error (.failed .unknown)
              ⟨{ socket with lastError := some .unknown }, kernel.close completion.value⟩ := by
  simp only [acceptReady, run_bind, run_acceptConnection]
  rcases a.kernel.call (.accept a.socket.fd) with ⟨code | completion, kernel⟩
  · rfl
  dsimp only
  cases Address.ofNative completion.address with
  | error fault => rfl
  | ok peer =>
    simp only [run_call]
    rcases kernel.call (.setNonblocking completion.value) with ⟨code | done, kernel'⟩ <;> rfl

/-- Accepting a connection comes to one of these. -/
theorem exists_readies (a : Session) : ∃ later, a.Readies (acceptReady a) later := by
  have haccept := a.kernel.history_call (.accept a.socket.fd)
  rw [run_acceptReady]
  rcases hcall : a.kernel.call (.accept a.socket.fd) with ⟨code | completion, kernel⟩ <;>
    rw [hcall] at haccept
  · exact ⟨_, .refused haccept⟩
  have hclosed {kernel' : Kernel} {calls : History}
      (h : kernel'.history = a.kernel.history ++ calls) :
      (kernel'.close completion.value).history =
        a.kernel.history ++ (calls ++ [.closed completion.value]) :=
    (congrArg (· ++ [Event.closed completion.value]) h).trans (List.append_assoc ..)
  dsimp only
  cases Address.ofNative completion.address with
  | error fault => exact ⟨_, .unreadable (hclosed haccept)⟩
  | ok peer =>
    have hready := kernel.history_call (.setNonblocking completion.value)
    rw [show kernel.history = _ from haccept, List.append_assoc] at hready
    dsimp only
    rcases hcall' : kernel.call (.setNonblocking completion.value) with
      ⟨code | done, kernel'⟩ <;> rw [hcall'] at hready
    · exact ⟨_, .blocking (hclosed hready)⟩
    · exact ⟨_, .ready hready⟩

end SocketM

namespace World

variable {w w' : World} {origin : Origin} {family : AddressFamily} {cls : SocketClass}
  {config : SocketConfig} {listener : Socket} {later : History}

/-! ## Making a descriptor a socket -/

/-- A registration is recorded with its result. -/
theorem history_register (w : World) (fd : Fd) (callback : Callback) :
    (w.register fd callback).2.kernel.history =
      w.kernel.history ++ [.registered fd (w.register fd callback).1] := by
  have hasked : (w.refuses fd).2.kernel.history = w.kernel.history := by
    unfold refuses
    split <;> rfl
  unfold register
  rcases hrefuses : w.refuses fd with ⟨_ | error, w'⟩ <;> rw [hrefuses] at hasked <;>
    exact congrArg (· ++ [_]) hasked

/-- What can come of making a non-blocking descriptor a socket, and what is recorded. -/
inductive Adopts (origin : Origin) (w : World) : EStateM.Result Halt World SocketId → History → Prop
  /-- The reactor refuses the registration, the identity is wasted and the descriptor closed. -/
  | refused {error : ReactorError} {w' : World} (quiet : w.waste.Quiet (fun _ => True) w')
      (history : w'.kernel.history =
        w.kernel.history ++ [.registered origin.fd (.error error), .closed origin.fd]) :
      Adopts origin w (.error (.failed .unknown) w')
        [.registered origin.fd (.error error), .closed origin.fd]
  | made {w' : World} (quiet : (w.enrol origin).Quiet (fun _ => True) w')
      (history : w'.kernel.history = w.kernel.history ++
        [.registered origin.fd (.ok w.reactor.nextToken), .interestSet w.reactor.nextToken ∅]) :
      Adopts origin w (.ok w.registry.nextId w')
        [.registered origin.fd (.ok w.reactor.nextToken), .interestSet w.reactor.nextToken ∅]

/-- Making a descriptor a socket comes to one of these. -/
theorem exists_adopts (origin : Origin) (w : World) :
    ∃ later, Adopts origin w (adopt origin w) later := by
  have hregistered := history_register { w with registry := w.registry.allocate } origin.fd
    (.socket w.registry.nextId)
  unfold adopt
  rcases register_cases (P := fun _ => True) { w with registry := w.registry.allocate } origin.fd
    (.socket w.registry.nextId) (fun _ => trivial) with
    ⟨error, w₁, heq, hquiet⟩ | ⟨w₁, heq, hquiet⟩ <;> rw [heq] at hregistered <;> simp only [heq]
  · have hclosed := (congrArg (· ++ [Event.closed origin.fd]) hregistered).trans
      (List.append_assoc ..)
    refine ⟨_, .refused ?_ hclosed⟩
    exact ⟨congrArg (·.retire w.registry.nextId) hquiet.registry, hquiet.sockets, hquiet.kind,
      hquiet.nextToken, hquiet.table, hquiet.history.trans (Grows.single _ trivial)⟩
  · have hset := (congrArg (· ++ [Event.interestSet w.reactor.nextToken ∅]) hregistered).trans
      (List.append_assoc ..)
    refine ⟨_, .made ?_ hset⟩
    have hinterest := (hquiet.setInterest w.reactor.nextToken ∅).trans
      (quiet_setInterest w₁ trivial)
    have hsockets := congrArg (·.push w.registry.nextId
      (origin.socket w.registry.nextId w.reactor.nextToken)) hinterest.sockets
    exact ⟨hinterest.registry, hsockets, hinterest.kind, hinterest.nextToken, hinterest.table,
      hinterest.history⟩

/-! ## Opening and accepting -/

/-- Whether a new socket has packet information, and the call by which it is switched on. -/
inductive Informs (family : AddressFamily) (cls : SocketClass) (config : SocketConfig) (fd : Fd) :
    Bool → History → Prop
  | unwanted (isUnwanted : ¬(cls = .datagram ∧ config.packetInfo = true)) :
      Informs family cls config fd false []
  | refused {code : Errno} (isWanted : cls = .datagram ∧ config.packetInfo = true) :
      Informs family cls config fd false
        [.called (.enableOption fd (.packetInfo family)) (.error code)]
  | granted {n : Int} (isWanted : cls = .datagram ∧ config.packetInfo = true) :
      Informs family cls config fd true [.called (.enableOption fd (.packetInfo family)) (.ok n)]

/-- What can come of opening a socket, and what is recorded. -/
inductive Opens (family : AddressFamily) (cls : SocketClass) (config : SocketConfig) (w : World) :
    EStateM.Result Halt World SocketId → History → Prop
  /-- There is no descriptor. -/
  | refused {code : Errno} {w' : World} (quiet : w.Quiet (fun _ => True) w')
      (history : w'.kernel.history =
        w.kernel.history ++ [.called (.socket family cls) (.error code)]) :
      Opens family cls config w (.error (.failed .unknown) w')
        [.called (.socket family cls) (.error code)]
  /-- The descriptor cannot be made non-blocking, and is closed. -/
  | blocking {fd : Fd} {code : Errno} {w' : World} (quiet : w.Quiet (fun _ => True) w')
      (history : w'.kernel.history = w.kernel.history ++
        [.called (.socket family cls) (.ok fd), .called (.setNonblocking fd) (.error code),
          .closed fd]) :
      Opens family cls config w (.error (.failed .unknown) w')
        [.called (.socket family cls) (.ok fd), .called (.setNonblocking fd) (.error code),
          .closed fd]
  /-- The descriptor is made a socket, or refused. -/
  | adopted {fd : Fd} {n : Int} {packetInfo : Bool} {options later : History} {w' : World}
      {result : EStateM.Result Halt World SocketId} (quiet : w.Quiet (fun _ => True) w')
      (history : w'.kernel.history = w.kernel.history ++
        (.called (.socket family cls) (.ok fd) :: .called (.setNonblocking fd) (.ok n) :: options))
      (informs : Informs family cls config fd packetInfo options)
      (adopts : Adopts ⟨fd, family, cls, config, packetInfo⟩ w' result later) :
      Opens family cls config w result
        (.called (.socket family cls) (.ok fd) :: .called (.setNonblocking fd) (.ok n) :: options ++
          later)

/-- What can come of accepting a connection as a socket, and what is recorded. -/
inductive Accepting (listener : Socket) (w : World) :
    EStateM.Result Halt World (SocketId × Address) → History → Prop
  /-- There is no connection that is ready. -/
  | refused {halt : Halt} {session : Session} {later : History}
      (readies : Session.Readies ⟨listener, w.kernel⟩ (.error halt session) later) :
      Accepting listener w (.error halt (w.restore session)) later
  /-- The reactor refuses the connection. -/
  | unregistered {fd : Fd} {peer : Address} {session : Session} {first last : History}
      {halt : Halt} {w' : World}
      (readies : Session.Readies ⟨listener, w.kernel⟩ (.ok (fd, peer) session) first)
      (adopts : Adopts ⟨fd, listener.family, listener.cls, listener.config, false⟩
        (w.restore session) (.error halt w') last) :
      Accepting listener w (.error halt (w'.recordError listener.id .unknown)) (first ++ last)
  | accepted {fd : Fd} {peer : Address} {session : Session} {first last : History} {id : SocketId}
      {w' : World} (readies : Session.Readies ⟨listener, w.kernel⟩ (.ok (fd, peer) session) first)
      (adopts : Adopts ⟨fd, listener.family, listener.cls, listener.config, false⟩
        (w.restore session) (.ok id w') last) :
      Accepting listener w (.ok (id, peer) w') (first ++ last)

/-- Accepting a connection as a socket comes to one of these. -/
theorem exists_accepting (listener : Socket) (w : World) :
    ∃ later, Accepting listener w (accept listener w) later := by
  obtain ⟨first, hreadies⟩ := SocketM.exists_readies ⟨listener, w.kernel⟩
  unfold accept perform
  rcases hready : SocketM.acceptReady ⟨listener, w.kernel⟩ with
    ⟨⟨fd, peer⟩, session⟩ | ⟨halt, session⟩ <;> rw [hready] at hreadies
  · obtain ⟨last, hadopts⟩ := exists_adopts
      ⟨fd, listener.family, listener.cls, listener.config, false⟩ (w.restore session)
    dsimp only
    rcases hadopt : adopt ⟨fd, listener.family, listener.cls, listener.config, false⟩
      (w.restore session) with ⟨id, w'⟩ | ⟨halt, w'⟩ <;> rw [hadopt] at hadopts
    · exact ⟨_, .accepted hreadies hadopts⟩
    · exact ⟨_, .unregistered hreadies hadopts⟩
  · exact ⟨_, .refused hreadies⟩

/-! ## What fails is undone -/

/-- From one world to another, with this recorded between them, no registration was made and no
identity is in use that was not. The next identity was used up if a registration was asked for. -/
structure Undone (w w' : World) (later : History) : Prop where
  history : w'.kernel.history = w.kernel.history ++ later
  table : w'.reactor.table = w.reactor.table
  nextToken : w'.reactor.nextToken = w.reactor.nextToken
  live : w'.registry.live = w.registry.live
  nextId : w'.registry.nextId =
    w.registry.nextId + if (registrationsOf later).isEmpty then 0 else 1

namespace Undone

variable {w₁ : World} {first : History} {P : Event → Prop}

/-- Where no registration was asked for there is nothing to undo. -/
theorem of_quiet (h : w.Quiet P w') (hhistory : w'.kernel.history = w.kernel.history ++ later)
    (hnone : registrationsOf later = []) : w.Undone w' later where
  history := hhistory
  table := h.table
  nextToken := h.nextToken
  live := by rw [h.registry]
  nextId := by rw [h.registry, hnone]; rfl

/-- What was done before an identity was wasted is no registration. -/
theorem around (h : w₁.Undone w' later) (hregistry : w₁.registry = w.registry)
    (htable : w₁.reactor.table = w.reactor.table)
    (hnextToken : w₁.reactor.nextToken = w.reactor.nextToken)
    (hhistory : w₁.kernel.history = w.kernel.history ++ first)
    (hnone : registrationsOf first = []) : w.Undone w' (first ++ later) where
  history := by rw [h.history, hhistory, List.append_assoc]
  table := h.table.trans htable
  nextToken := h.nextToken.trans hnextToken
  live := by rw [h.live, hregistry]
  nextId := by rw [h.nextId, hregistry, registrationsOf_append, hnone, List.nil_append]

end Undone

/-- What is left alone of the sockets but one. -/
def OthersStay (id : SocketId) (w w' : World) : Prop :=
  ∀ id', id' ≠ id → w'.socket? id' = w.socket? id'

/-- A wasted identity is not in use. -/
theorem live_waste (hw : w.Orderly) : w.waste.registry.live = w.registry.live := by
  rw [hw.waste.live, hw.live]
  rfl

/-- A descriptor that is refused leaves nothing behind but a wasted identity. -/
theorem Adopts.undone {halt : Halt} (h : Adopts origin w (.error halt w') later)
    (hw : w.Orderly) :
    halt = .failed .unknown ∧ w'.sockets = w.sockets ∧ w.Undone w' later ∧
      ∃ e ∈ later, e.IsFault := by
  cases h with
  | refused quiet history =>
    refine ⟨rfl, quiet.sockets, ⟨history, quiet.table, quiet.nextToken, ?_, ?_⟩, _,
      List.mem_cons_self, trivial⟩
    · rw [quiet.registry, live_waste hw]
    · rw [quiet.registry]
      rfl

/-- **A socket that is not opened leaves nothing behind** but a wasted identity, and something
failed on the way to it. -/
theorem Opens.undone {halt : Halt} (h : Opens family cls config w (.error halt w') later)
    (hw : w.Orderly) :
    halt = .failed .unknown ∧ w'.sockets = w.sockets ∧ w.Undone w' later ∧
      ∃ e ∈ later, e.IsFault := by
  cases h with
  | refused quiet history =>
    exact ⟨rfl, quiet.sockets, .of_quiet quiet history rfl, _, List.mem_cons_self, trivial⟩
  | blocking quiet history =>
    exact ⟨rfl, quiet.sockets, .of_quiet quiet history rfl, _,
      List.mem_cons_of_mem _ List.mem_cons_self, trivial⟩
  | @adopted fd n packetInfo options last w₁ _ quiet history informs adopts =>
    obtain ⟨hhalt, hsockets, hundone, e, he, hfault⟩ := adopts.undone (hw.quiet quiet)
    have hnone : registrationsOf (Event.called (.socket family cls) (.ok fd) ::
        .called (.setNonblocking fd) (.ok n) :: options) = [] := by
      cases informs <;> rfl
    exact ⟨hhalt, hsockets.trans quiet.sockets,
      hundone.around quiet.registry quiet.table quiet.nextToken history hnone, e,
      List.mem_append_right _ he, hfault⟩

/-- An operation that keeps its socket keeps the world orderly. -/
theorem Orderly.restore (hw : w.Orderly) {s : Socket} {session : Session}
    (hopen : w.socket? s.id = some s) (hkept : s.Kept session.socket)
    (hhistory : session.kernel.history = w.kernel.history ++ later) :
    (w.restore session).Orderly := by
  have hacts : Acts (fun _ => True) .nothing w (w.restore session) :=
    acts_restore w hopen hkept ⟨later, hhistory, fun _ _ => trivial⟩
  exact hacts.orderly hw

/-- The last error of a socket is nothing that is fixed. -/
theorem kept_lastError (s : Socket) (error? : Option SocketError) :
    s.Kept { s with lastError := error? } :=
  ⟨rfl, rfl, rfl, rfl, rfl, rfl, rfl, rfl⟩

/-- An operation leaves the sockets alone that it is not about. -/
theorem othersStay_restore {id : SocketId} {session : Session} (h : session.socket.id = id) :
    w.OthersStay id (w.restore session) := by
  intro id' hne
  exact socket?_restore_of_ne (by rwa [h])

/-- An error that is recorded for an open socket is found there. -/
theorem socket?_recordError {id : SocketId} {s : Socket} (h : w.socket? id = some s)
    (error : SocketError) :
    (w.recordError id error).socket? id = some { s with lastError := some error } := by
  have hget : w.sockets.get? id = some s := h
  simp only [recordError, socket?, Table.get?_modify, ↓reduceIte, hget, Option.map_some]

/-- An error is recorded for one socket only. -/
theorem othersStay_recordError (w : World) (id : SocketId) (error : SocketError) :
    w.OthersStay id (w.recordError id error) := by
  intro id' hne
  simp only [recordError, socket?, Table.get?_modify, if_neg hne]

/-- **A connection that is not accepted leaves nothing behind** but a wasted identity and the last
error of its listener. Something failed then, or the address of the other end cannot be read. -/
theorem Accepting.undone {halt : Halt} (h : Accepting listener w (.error halt w') later)
    (hw : w.Orderly) (hopen : w.socket? listener.id = some listener) :
    w'.socket? listener.id = some { listener with lastError := halt.error? } ∧
      w.OthersStay listener.id w' ∧ w.Undone w' later ∧
      ((∃ error, halt = .failed error ∧ ∃ e ∈ later, e.IsFault) ∨
        ∃ fault, halt = .breached (.nativeAddress fault)) := by
  cases h with
  | @refused _ session _ readies =>
    obtain ⟨hhistory, hsocket, hsystem, hfault⟩ := readies.of_error
    have hid : session.socket.id = listener.id := by rw [hsocket]
    have hnone := registrationsOf_eq_nil fun e he => (hsystem e he).asksNothing
    refine ⟨(socket?_restore hopen hid).trans (congrArg some hsocket), othersStay_restore hid,
      ⟨hhistory, rfl, rfl, rfl, ?_⟩, hfault⟩
    rw [hnone]
    rfl
  | @unregistered fd peer session first last _ w₁ readies adopts =>
    obtain ⟨hhistory, hsocket, hsystem, -⟩ := readies.of_ok
    have hid : session.socket.id = listener.id := by rw [hsocket]
    have hnone := registrationsOf_eq_nil fun e he => (hsystem e he).asksNothing
    have hrestored := hw.restore hopen (hsocket ▸ kept_lastError listener none) hhistory
    obtain ⟨rfl, hsockets, hundone, e, he, hfault⟩ := adopts.undone hrestored
    have hput : w₁.socket? listener.id = some { listener with lastError := none } := by
      rw [socket?, hsockets]
      exact (socket?_restore hopen hid).trans (congrArg some hsocket)
    have hothers : w.OthersStay listener.id w₁ := by
      intro id' hne
      rw [socket?, hsockets]
      exact othersStay_restore hid id' hne
    have hbefore : w.Undone w₁ (first ++ last) := hundone.around rfl rfl rfl hhistory hnone
    refine ⟨socket?_recordError hput .unknown, fun id' hne => ?_, ?_,
      .inl ⟨_, rfl, e, List.mem_append_right _ he, hfault⟩⟩
    · exact (othersStay_recordError w₁ listener.id .unknown id' hne).trans (hothers id' hne)
    · exact ⟨hbefore.history, hbefore.table, hbefore.nextToken, hbefore.live, hbefore.nextId⟩

/-! ## What succeeds is entered -/

/-- From one world to another a socket was entered: it is live under the next identity, it is
registered under the next token without an interest, and it is in the state in which sockets
start. -/
structure Enters (origin : Origin) (id : SocketId) (w w' : World) : Prop where
  id_eq : id = w.registry.nextId
  nextId : w'.registry.nextId = id + 1
  live : w'.registry.isLive id = true
  socket : w'.socket? id = some (origin.socket id w.reactor.nextToken)
  row : w'.reactor.table.get? w.reactor.nextToken = some ⟨origin.fd, ∅, .socket id⟩

/-- What happens before a socket is entered does not matter, if nothing is registered. -/
theorem Enters.around {w₁ : World} {id : SocketId} (h : w₁.Enters origin id w')
    (hregistry : w₁.registry = w.registry)
    (hnextToken : w₁.reactor.nextToken = w.reactor.nextToken) : w.Enters origin id w' where
  id_eq := h.id_eq.trans (congrArg Registry.nextId hregistry)
  nextId := h.nextId
  live := h.live
  socket := hnextToken ▸ h.socket
  row := hnextToken ▸ h.row

/-- A descriptor that is not refused is entered as a socket. -/
theorem Adopts.entered {id : SocketId} (h : Adopts origin w (.ok id w') later) (hw : w.Orderly) :
    w.Enters origin id w' ∧ w.OthersStay id w' ∧
      w'.kernel.history = w.kernel.history ++ later ∧ ∀ e ∈ later, ¬e.IsFault := by
  cases h with
  | made quiet history =>
    have hnone : w.sockets.get? w.registry.nextId = none :=
      (Table.get?_eq_none_iff _ _).2 fun hmem => absurd (hw.id_lt _ hmem) (Nat.lt_irrefl _)
    refine ⟨⟨rfl, ?_, ?_, ?_, ?_⟩, fun id' hne => ?_, history, by simp [Event.IsFault]⟩
    · rw [quiet.registry]
      rfl
    · rw [quiet.registry]
      simp [enrol, Registry.allocate, Registry.isLive]
    · rw [quiet.socket?]
      simp [enrol, World.socket?, Table.get?_push, hnone]
    · rw [quiet.table, enrol, Reactor.setInterest_add _ hw.row_nextToken, Reactor.get?_add,
        hw.row_nextToken]
      simp
    · rw [quiet.socket?]
      simp [enrol, World.socket?, Table.get?_push, hne]

/-- Packet information is on if and only if it is wanted and the system switched it on. -/
theorem Informs.packetInfo_iff {fd : Fd} {packetInfo : Bool}
    (h : Informs family cls config fd packetInfo later) :
    packetInfo = true ↔ cls = .datagram ∧ config.packetInfo = true ∧
      ∃ n, .called (.enableOption fd (.packetInfo family)) (.ok n) ∈ later := by
  cases h with
  | unwanted isUnwanted =>
    simp
  | refused isWanted => simp
  | granted isWanted => simp [isWanted]

/-- **A socket that is opened is entered**, with packet information if and only if it is wanted and
the system switched it on. Nothing failed on the way to it. -/
theorem Opens.entered {id : SocketId} (h : Opens family cls config w (.ok id w') later)
    (hw : w.Orderly) :
    ∃ fd packetInfo, w.Enters ⟨fd, family, cls, config, packetInfo⟩ id w' ∧ w.OthersStay id w' ∧
      w'.kernel.history = w.kernel.history ++ later ∧ (∀ e ∈ later, ¬e.IsFault) ∧
      (packetInfo = true ↔ cls = .datagram ∧ config.packetInfo = true ∧
        ∃ n, .called (.enableOption fd (.packetInfo family)) (.ok n) ∈ later) := by
  cases h with
  | @adopted fd n packetInfo options last w₁ _ quiet history informs adopts =>
    obtain ⟨henters, hothers, hhistory, hsound⟩ := adopts.entered (hw.quiet quiet)
    have hoptions : ∀ e ∈ options, ¬e.IsFault := by
      cases informs <;> simp [Event.IsFault]
    have hlast (n : Int) :
        .called (.enableOption fd (.packetInfo family)) (.ok n) ∉ last := by
      cases adopts
      simp
    refine ⟨fd, packetInfo, henters.around quiet.registry quiet.nextToken,
      fun id' hne => (hothers id' hne).trans (quiet.socket? id'), ?_, ?_, ?_⟩
    · rw [hhistory, history, List.append_assoc]
    · simp only [List.cons_append, List.mem_cons, List.mem_append]
      rintro e (rfl | rfl | he | he)
      · exact not_false
      · exact not_false
      · exact hoptions e he
      · exact hsound e he
    · rw [informs.packetInfo_iff]
      simp [hlast]

/-- **A connection that is accepted is entered** as a socket that has the family, the class and the
configuration of its listener, and no packet information. The last error of the listener is cleared,
and nothing failed on the way. -/
theorem Accepting.entered {id : SocketId} {peer : Address}
    (h : Accepting listener w (.ok (id, peer) w') later) (hw : w.Orderly)
    (hopen : w.socket? listener.id = some listener) :
    ∃ fd, w.Enters ⟨fd, listener.family, listener.cls, listener.config, false⟩ id w' ∧
      (∀ id', id' ≠ id → id' ≠ listener.id → w'.socket? id' = w.socket? id') ∧
      w'.socket? listener.id = some { listener with lastError := none } ∧
      w'.kernel.history = w.kernel.history ++ later ∧ ∀ e ∈ later, ¬e.IsFault := by
  cases h with
  | @accepted fd _ session first last _ _ readies adopts =>
    obtain ⟨hbefore, hsocket, -, hready⟩ := readies.of_ok
    have hid : session.socket.id = listener.id := by rw [hsocket]
    have hrestored := hw.restore hopen (hsocket ▸ kept_lastError listener none) hbefore
    obtain ⟨henters, hothers, hhistory, hsound⟩ := adopts.entered hrestored
    have hent : w.Enters _ id w' := henters.around rfl rfl
    have hne : listener.id ≠ id := by
      rw [hent.id_eq]
      exact Nat.ne_of_lt (hw.lt_nextId hopen)
    refine ⟨fd, hent, fun id' hnew hother => ?_, ?_, ?_, ?_⟩
    · exact (hothers id' hnew).trans (othersStay_restore hid id' hother)
    · exact (hothers _ hne).trans ((socket?_restore hopen hid).trans (congrArg some hsocket))
    · rw [hhistory, ← List.append_assoc]
      exact congrArg (· ++ last) hbefore
    · intro e he
      rcases List.mem_append.1 he with he | he
      · exact hready e he
      · exact hsound e he

end World

end SocketLoop
