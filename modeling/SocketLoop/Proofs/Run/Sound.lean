import SocketLoop.Proofs.Run.Reach
import SocketLoop.Proofs.Socket.Subscription

/-!
# Every open socket is sound

**`sound_of_reaches`**: at every moment of every run, the subscription of every open socket is
sound, and packet information is on only for a datagram socket that wants it. Only an accepted
change touches a subscription (`World.Act.comesFrom`), so it does not matter what handlers do, nor
where a breach ends a step.
-/

namespace SocketLoop

/-- The subscription of a socket is sound, and packet information is on only where it is wanted. -/
structure Socket.Sound (s : Socket) : Prop where
  subscription : s.subscription.Sound
  packetInfo : s.packetInfo = true → s.cls = .datagram ∧ s.config.packetInfo = true

/-- Every act keeps open sockets sound. -/
theorem World.Act.sound {P : Event → Prop} {deed : Deed} {w w' : World} (hact : Act P deed w w')
    (h : ∀ id s, w.socket? id = some s → s.Sound) : ∀ id s, w'.socket? id = some s → s.Sound := by
  intro id t ht
  cases hact.comesFrom ht with
  | @kept s _ isOpen kept =>
    obtain ⟨hsubscription, hinfo⟩ := h id s isOpen
    constructor
    · rwa [kept.subscription]
    · rwa [kept.packetInfo, kept.cls, kept.config]
  | @changed s _ _ isOpen applied =>
    obtain ⟨hsubscription, hinfo⟩ := h id s isOpen
    exact ⟨hsubscription.apply applied, hinfo⟩
  | new _ packetInfo => exact ⟨Subscription.sound_initial, packetInfo⟩

/-- **Every open socket is sound** at every moment of every run. -/
theorem Config.sound_of_reaches {kind : ReactorKind} {program : List Step} {c : Config}
    (hrun : (Config.initial kind program).Reaches c) {id : SocketId} {s : Socket}
    (hs : c.world.socket? id = some s) : s.Sound := by
  have hnone : ∀ id s, (Config.initial kind program).world.socket? id = some s → s.Sound := by
    intro id s hs
    simp [Config.initial, World.initial, World.socket?, Table.get?_empty] at hs
  have hsound := Reaches.invariant hrun (World.Orderly.initial kind)
    (fun _ _ _ hact _ => hact.sound) hnone
  exact hsound id s hs

/-! ### After a breach -/

/-- A datagram socket with a handler for reading, which is enabled, is asked to enable writing too.
-/
def breachingProgram : List Step :=
  [.plain (.command (.openSocket "u" .ipv4 .datagram .standard)),
    .plain (.command (.change "u" (.addHandler .read []))),
    .plain (.command (.change "u" (.enable .read))),
    .plain (.command (.change "u" (.enable .write)))]

/-- The socket as the breach leaves it. -/
def breachingSocket : Socket where
  id := 1
  fd := Kernel.firstFd
  token := 1
  family := .ipv4
  cls := .datagram
  config := .standard
  packetInfo := true
  lastError := none
  subscription := ⟨.perEvent ⟨some 0, none, none, none⟩, EventSet.single .read⟩
  connect := .idle
  receiveLimit := .perDispatch defaultReceiveMax
  receiveCount := 0

/-- The breach that enabling writing is ends the program, and the socket is sound as before. -/
theorem sound_after_breach :
    let c := (Config.initial .retaining breachingProgram).skip 4
    c.stack.length = 0 ∧ c.world.socket? 1 = some breachingSocket ∧ breachingSocket.Sound := by
  have hopen : ((Config.initial .retaining breachingProgram).skip 4).world.socket? 1 =
      some breachingSocket := by
    decide
  exact ⟨rfl, hopen, Config.sound_of_reaches (Config.reaches_skip 4 _) hopen⟩

end SocketLoop
