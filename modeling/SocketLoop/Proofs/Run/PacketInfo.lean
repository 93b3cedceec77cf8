import SocketLoop.Proofs.Run.Request
import SocketLoop.Proofs.Socket.PacketInfo
import SocketLoop.Proofs.World.Switched

/-!
# Packet information along a run

A socket has packet information from the moment in which it is opened, or it never has it. So it is
fixed then which of the two ways of sending and receiving its operations go, and what they tell of
it.

* **`exists_opening`**: every open socket has packet information if and only if it was switched on
  for its descriptor in the moment in which the socket was opened.
* **`packetInfo_of_reaches`**: at every moment of every run, the operations with packet information
  agree with the plain ones.
-/

namespace SocketLoop

/-- The reply to plain receiving, told like one to receiving with the destination. -/
def Reply.ofPlain : Reply → Reply
  | .ok (.receivedFrom data sender) => .ok (.datagram data sender .invalid false)
  | reply => reply

namespace Config

variable {b c d : Config} {kind : ReactorKind} {program : List Step} {id : SocketId} {s t : Socket}

/-! ## Openings -/

/-- The moment in which a socket becomes open. If it has packet information, that was switched on
for its descriptor then, and if not, for none. -/
structure Opening (b d : Config) (id : SocketId) (s : Socket) : Prop where
  next : b.next = some d
  closed : b.world.socket? id = none
  isOpen : d.world.socket? id ≠ none
  switched : ∃ new, d.history = b.history ++ new ∧
    switchedOn new = if s.packetInfo then [s.fd] else []

/-- A moment in which a socket becomes open decides whether it has packet information. -/
theorem next_decides (h : c.next = some d) (id : SocketId) : c.world.Decides id d.world := by
  obtain ⟨w, hbefore, hafter⟩ := next_world h
  have hnothing (e : Event) (he : e.IsMark) : e.SwitchesNothing := he.isBracket.switchesNothing
  exact (c.deed.decides_run id).around (hbefore.history.mono hnothing)
    (fun hnone => (hbefore.socket? id).trans hnone)
    (hafter.mono fun _ he => he.switchesNothing)

/-- While a socket is open its descriptor and its packet information stay. -/
theorem Reaches.fixed (hrun : c.Reaches d) (hw : c.world.Orderly) (hs : c.world.socket? id = some s)
    (ht : d.world.socket? id = some t) : t.fd = s.fd ∧ t.packetInfo = s.packetInfo := by
  have hfixed := hrun.invariant hw
    (I := fun w => id < w.registry.nextId ∧
      ∀ t, w.socket? id = some t → t.fd = s.fd ∧ t.packetInfo = s.packetInfo) ?_ ?_
  · exact hfixed.2 t ht
  · rintro deed w w' hact - ⟨hlt, hsame⟩
    exact ⟨Nat.lt_of_lt_of_le hlt hact.nextId_le, fun t ht => hact.fixed hlt hsame ht⟩
  · refine ⟨hw.lt_nextId hs, fun t ht => ?_⟩
    rw [Option.some.inj (ht.symm.trans hs)]
    exact ⟨rfl, rfl⟩

/-- **Every open socket was opened**, and its packet information was decided then. -/
theorem exists_opening (hrun : (initial kind program).Reaches c)
    (hs : c.world.socket? id = some s) :
    ∃ b d, (initial kind program).Reaches b ∧ b.Opening d id s ∧ d.Reaches c := by
  induction hrun generalizing s with
  | refl => simp [initial, World.initial, World.socket?] at hs
  | @tail c d hrun hnext ih =>
    cases hold : c.world.socket? id with
    | none =>
      have hopen : d.world.socket? id ≠ none := by simp [hs]
      exact ⟨c, d, hrun, ⟨hnext, hold, hopen, next_decides hnext id s hold hs⟩, .refl⟩
    | some old =>
      obtain ⟨b, b', hb, hopening, hrest⟩ := ih hold
      obtain ⟨hfd, hinfo⟩ := Reaches.fixed (.single hnext) (Reaches.orderly hrun) hold hs
      refine ⟨b, b', hb, { hopening with switched := ?_ }, hrest.tail hnext⟩
      rw [hfd, hinfo]
      exact hopening.switched

/-! ## Operations -/

/-- Without packet information a command and the plain one do the same to everything. -/
structure PlainCommands (c : Config) (name : SocketName) : Prop where
  send : ∀ data remote source, c.execute (.request name (.sendToFrom data remote source)) =
    c.execute (.request name (.sendTo data remote))
  receive : ∀ room,
    let plain := c.execute (.request name (.receiveFrom room))
    c.execute (.request name (.receiveFromTo room)) = (plain.1.ofPlain, plain.2)

/-- Commands for a plain socket are plain. -/
theorem plainCommands_of_plain {name : SocketName} (hs : c.socketOf? name = some s)
    (h : s.Plain) : c.PlainCommands name := by
  constructor
  · intro data remote source
    have hrun : (Request.sendToFrom data remote source).run ⟨s, c.world.kernel⟩ =
        (Request.sendTo data remote).run ⟨s, c.world.kernel⟩ := by
      simp only [Request.run, SocketM.run_bind, h.send]
    simp only [execute, withSocket, hs, carryOut_perform, SocketM.after, hrun]
  · intro room
    simp only [execute, withSocket, hs, carryOut_perform, SocketM.after, Request.run,
      SocketM.run_bind, h.receive, SocketM.run_map]
    cases SocketM.receiveFrom room ⟨s, c.world.kernel⟩ with
    | ok received session => rfl
    | error halt session => cases halt <;> rfl

/-- What holds of the operations of an open socket that have to do with packet information. -/
structure PacketInfo (kind : ReactorKind) (program : List Step) (c : Config) (id : SocketId)
    (s : Socket) : Prop where
  /-- When the socket was opened its packet information was switched on or not. -/
  opened : ∃ b d, (initial kind program).Reaches b ∧ b.Opening d id s ∧ d.Reaches c
  /-- That stays so. -/
  fixed : ∀ d t, c.Reaches d → d.world.socket? id = some t → t.packetInfo = s.packetInfo
  /-- Without it there are only plain operations. -/
  plain : s.packetInfo = false → s.Plain ∧ ∀ name, c.socketOf? name = some s → c.PlainCommands name
  /-- With it there is another call, and on the same answer all ends alike. -/
  informed : s.packetInfo = true → s.Informed
  /-- Every datagram tells which of the two it is. -/
  via : ∀ kernel room datagram after,
    SocketM.receiveFromTo room ⟨s, kernel⟩ = .ok datagram after →
      datagram.viaPacketInfo = s.packetInfo
  /-- All that is sent is sent without a signal. -/
  flags : ∀ (request : Request) kernel later,
    (SocketM.after request.run ⟨s, kernel⟩).kernel.history = kernel.history ++ later →
      ∀ call result, (call, result) ∈ callsOf later →
        ∀ flags, call.sendFlags? = some flags → flags = noSignalFlag

/-- **The operations with packet information agree with the plain ones**, for every open socket at
every moment of every run: without packet information they are the plain ones, and with it they make
one call in the place of another and end alike on the same answer. Which of the two it is was
decided when the socket was opened. -/
theorem packetInfo_of_reaches (hrun : (initial kind program).Reaches c)
    (hs : c.world.socket? id = some s) : c.PacketInfo kind program id s where
  opened := exists_opening hrun hs
  fixed _ _ hlater ht := (Reaches.fixed hlater (Reaches.orderly hrun) hs ht).2
  plain h :=
    have hplain := Socket.plain_of_packetInfo h
    ⟨hplain, fun _ hname => plainCommands_of_plain hname hplain⟩
  informed := Socket.informed_of_packetInfo
  via _ _ _ _ := Socket.via_of_receiveFromTo
  flags _ _ _ hlater _ _ hmem _ := Request.flags_of_send hlater hmem

end Config

/-! ### With and without -/

/-- Packet information is switched on for the first of two datagram sockets, and refused to the
second one. -/
def informingProgram : List Step :=
  [.plain (.command (.openSocket "u" .ipv4 .datagram .standard)),
    ⟨.command (.openSocket "v" .ipv6 .datagram .standard), .only .enableOption [.failure 92],
      ⟨none, false⟩⟩]

/-- Although both sockets want packet information, the first one is informed and the second one is
plain. -/
theorem packetInfo_when_refused :
    let c := (Config.initial .retaining informingProgram).skip 2
    switchedOn c.history = [100] ∧
      (∃ s, c.world.socket? 1 = some s ∧ s.config.packetInfo = true ∧ s.Informed) ∧
      ∃ s, c.world.socket? 2 = some s ∧ s.config.packetInfo = true ∧ s.Plain := by
  have hreach := Config.reaches_skip 2 (Config.initial .retaining informingProgram)
  have hfirst : ∃ s,
      ((Config.initial .retaining informingProgram).skip 2).world.socket? 1 = some s ∧
        s.config.packetInfo = true ∧ s.packetInfo = true :=
    ⟨_, rfl, rfl, rfl⟩
  have hsecond : ∃ s,
      ((Config.initial .retaining informingProgram).skip 2).world.socket? 2 = some s ∧
        s.config.packetInfo = true ∧ s.packetInfo = false :=
    ⟨_, rfl, rfl, rfl⟩
  obtain ⟨s, hs, hwants, hinfo⟩ := hfirst
  obtain ⟨t, ht, hwants', hnoInfo⟩ := hsecond
  refine ⟨rfl, ⟨s, hs, hwants, ?_⟩, t, ht, hwants', ?_⟩
  · exact (Config.packetInfo_of_reaches hreach hs).informed hinfo
  · exact ((Config.packetInfo_of_reaches hreach ht).plain hnoInfo).1

end SocketLoop
