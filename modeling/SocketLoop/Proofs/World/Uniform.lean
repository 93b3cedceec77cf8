import SocketLoop.Proofs.Run.Command
import SocketLoop.Proofs.Socket.Uniform

/-!
# Tasks in two worlds

Many sockets share a world, but what is done to one of them looks at no other. So in two worlds that
have the same socket, and nothing else in common, a task on this socket comes to the same.

* A `Task` is anything that is done to one open socket and makes no other.
* `World.MovesAs` says that two worlds went on to the same socket and that the same was recorded.
* **`Task.uniform_run`**: a task ends alike in two worlds that have its socket, if the calls of its
  kinds are answered alike.
-/

namespace SocketLoop

open History (GrowAlike)

variable {f : HandlerRef → HandlerRef}

/-! ## Tasks -/

/-- What is done to one open socket. -/
inductive Task
  | request (request : Request)
  | change (change : Change HandlerRef)
  | free
  | deliver (ready : Readiness)
  deriving DecidableEq

namespace Task

/-- The deed that does a task to a socket. -/
def deed (s : Socket) : Task → Deed
  | .request r => .request s r
  | .change ch => .change s ch
  | .free => .free s
  | .deliver ready => .deliver s.id ready

/-- The task, where handlers have other names. -/
def rename (f : HandlerRef → HandlerRef) : Task → Task
  | .request r => .request r
  | .change ch => .change (ch.map f)
  | .free => .free
  | .deliver ready => .deliver ready

/-- The kinds of calls that a task makes. -/
def kinds : Task → List CallKind
  | .request r => r.kinds
  | .change _ => []
  | .free => []
  | .deliver _ => [.pendingError]

end Task

/-! ## Two worlds -/

/-- Readiness comes to the same in two sessions, if the pending error is the same. -/
theorem Session.delivered_uniform {a b : Session} (ready : Readiness)
    (h : a.Agrees f [.pendingError] b) :
    (b.delivered ready).1 = (a.delivered ready).1 ∧
      MovesAs f a (a.delivered ready).2 b (b.delivered ready).2 := by
  have henabled : b.socket.subscription.enabled = a.socket.subscription.enabled :=
    congrArg (·.subscription.enabled) h.socket
  unfold delivered
  rw [henabled]
  split
  · exact settleConnect_uniform h
  · exact ⟨rfl, h.stays⟩

namespace World

variable {id : SocketId} {s : Socket} {w v : World}

/-- Two worlds went on to the same socket, up to the names of its handlers, and the same was
recorded. -/
structure MovesAs (f : HandlerRef → HandlerRef) (id : SocketId) (w w' v v' : World) : Prop where
  socket : v'.socket? id = (w'.socket? id).map (Socket.rename f)
  history : GrowAlike w.kernel.history w'.kernel.history v.kernel.history v'.kernel.history

/-- Two worlds move alike if they move alike step by step. -/
theorem MovesAs.trans {w₁ w₂ v₁ v₂ : World} (h : MovesAs f id w w₁ v v₁)
    (h' : MovesAs f id w₁ w₂ v₁ v₂) : MovesAs f id w w₂ v v₂ :=
  ⟨h'.socket, h.history.trans h'.history⟩

/-- The reactor is told of an interest. -/
theorem movesAs_setInterest (hsame : v.socket? id = (w.socket? id).map (Socket.rename f))
    (token : Token) (interest : Readiness) :
    MovesAs f id w (w.setInterest token interest) v (v.setInterest token interest) :=
  ⟨hsame, [.interestSet token interest], rfl, rfl⟩

/-- An operation leaves in two worlds what it leaves in two sessions. -/
theorem movesAs_restore {a b : Session} (hs : w.socket? id = some s)
    (hs' : v.socket? id = some (s.rename f)) (hid : a.socket.id = id)
    (hsocket : b.socket = a.socket.rename f)
    (hhistory : GrowAlike w.kernel.history a.kernel.history v.kernel.history b.kernel.history) :
    MovesAs f id w (w.restore a) v (v.restore b) where
  socket := by
    have hid' : b.socket.id = id := (congrArg Socket.id hsocket).trans hid
    rw [socket?_restore hs hid, socket?_restore hs' hid', hsocket, Option.map_some]
  history := hhistory

/-- A request is carried out. -/
theorem uniform_perform (request : Request) (hs : w.socket? s.id = some s)
    (hs' : v.socket? s.id = some (s.rename f))
    (hkernel : w.kernel.Agrees request.kinds v.kernel) :
    (perform (s.rename f) request.run).reply (·) v = (perform s request.run).reply (·) w ∧
      MovesAs f s.id w ((perform s request.run).after w) v
        ((perform (s.rename f) request.run).after v) := by
  have hid := (request.spares_run ⟨s, w.kernel⟩).id
  have hends := request.uniform_run f ⟨s, w.kernel⟩ ⟨s.rename f, v.kernel⟩ ⟨rfl, hkernel⟩
  simp only [WorldM.reply, WorldM.after, perform, SocketM.after] at hid ⊢
  generalize request.run ⟨s, w.kernel⟩ = ended, request.run ⟨s.rename f, v.kernel⟩ = ended' at *
  cases hends with
  | returned moves _ => exact ⟨rfl, movesAs_restore hs hs' hid moves.socket moves.history⟩
  | halted moves => exact ⟨rfl, movesAs_restore hs hs' hid moves.socket moves.history⟩

/-- A subscription changes. -/
theorem uniform_subscribe (change : Change HandlerRef) (hs : w.socket? s.id = some s)
    (hs' : v.socket? s.id = some (s.rename f)) :
    (subscribe (s.rename f) (change.map f)).reply (fun _ => .done) v =
        (subscribe s change).reply (fun _ => .done) w ∧
      MovesAs f s.id w ((subscribe s change).after w) v
        ((subscribe (s.rename f) (change.map f)).after v) := by
  have hrenamed : (s.rename f).subscription.apply (change.map f) =
      (s.subscription.apply change).map (Subscription.rename f) :=
    s.subscription.apply_rename f change
  cases happly : s.subscription.apply change with
  | error breach =>
    rw [happly] at hrenamed
    simp only [WorldM.reply, WorldM.after, subscribe_of_error w happly,
      subscribe_of_error v hrenamed]
    exact ⟨trivial, by rw [hs', hs, Option.map_some], GrowAlike.refl _ _⟩
  | ok subscription =>
    rw [happly] at hrenamed
    have hset : MovesAs f s.id w (w.restore ⟨{ s with subscription }, w.kernel⟩) v
        (v.restore ⟨{ s with subscription }.rename f, v.kernel⟩) :=
      movesAs_restore hs hs' rfl rfl (GrowAlike.refl _ _)
    simp only [WorldM.reply, WorldM.after, subscribe_of_ok w happly,
      subscribe_of_ok v hrenamed, Change.isPushed_map]
    refine ⟨trivial, ?_⟩
    have henabled : (s.rename f).subscription.enabled = s.subscription.enabled := rfl
    rw [henabled]
    cases change.isPushed s.subscription.enabled with
    | false => exact hset
    | true => exact hset.trans (movesAs_setInterest hset.socket s.token _)

/-- A socket is freed. -/
theorem uniform_free (s : Socket) : MovesAs f s.id w (w.free s) v (v.free (s.rename f)) where
  socket := by
    have hgone (w : World) (t : Socket) : (w.free t).socket? t.id = none := by
      simp only [free, close, deregister, record, World.socket?, Table.get?_erase, ↓reduceIte]
    have hgone' : (v.free (s.rename f)).socket? s.id = none := hgone v (s.rename f)
    rw [hgone', hgone, Option.map_none]
  history := ⟨[.deregistered s.token, .closed s.fd], by simp [free, close, deregister, record,
    Kernel.close, Kernel.record], by simp [free, close, deregister, record, Kernel.close,
    Kernel.record, Socket.rename]⟩

/-- Readiness is delivered. -/
theorem uniform_deliver (hw : w.Orderly) (hv : v.Orderly) (ready : Readiness)
    (hs : w.socket? s.id = some s) (hs' : v.socket? s.id = some (s.rename f))
    (hkernel : w.kernel.Agrees [.pendingError] v.kernel) :
    (v.deliver s.id ready).1 = (w.deliver s.id ready).1 ∧
      MovesAs f s.id w (w.deliver s.id ready).2 v (v.deliver s.id ready).2 := by
  have hsettled := Session.delivered_uniform (f := f) ready
    (a := ⟨{ s with receiveCount := 0 }, w.kernel⟩)
    (b := ⟨{ s with receiveCount := 0 }.rename f, v.kernel⟩) ⟨rfl, hkernel⟩
  have hid := congrArg Socket.id
    (Session.keeps_delivered ready ⟨{ s with receiveCount := 0 }, w.kernel⟩).socket
  rw [deliver_of_open hw hs, deliver_of_open hv hs']
  exact ⟨congrArg (Except.map _) hsettled.1,
    movesAs_restore hs hs' hid hsettled.2.socket hsettled.2.history⟩

end World

/-! ## All tasks -/

/-- A task ends alike in two worlds: it is replied to alike, or the same events, if any, are to be
dispatched, and the worlds go on to the same socket. -/
structure Task.EndsAs (task : Task) (f : HandlerRef → HandlerRef) (s : Socket) (w v : World) :
    Prop where
  reply : ((task.rename f).deed (s.rename f)).reply? v = (task.deed s).reply? w
  report : ∀ ready, task = .deliver ready → (v.deliver s.id ready).1 = (w.deliver s.id ready).1
  moves : World.MovesAs f s.id w ((task.deed s).run w) v
    (((task.rename f).deed (s.rename f)).run v)

/-- **A task ends alike in two worlds that have its socket**, whatever else there is in them. -/
theorem Task.uniform_run (task : Task) {s : Socket} {w v : World} (hw : w.Orderly)
    (hv : v.Orderly) (hs : w.socket? s.id = some s) (hs' : v.socket? s.id = some (s.rename f))
    (hkernel : w.kernel.Agrees task.kinds v.kernel) : task.EndsAs f s w v := by
  cases task with
  | request request =>
    obtain ⟨hreply, hmoves⟩ := World.uniform_perform request hs hs' hkernel
    exact ⟨congrArg some hreply, nofun, hmoves⟩
  | change change =>
    obtain ⟨hreply, hmoves⟩ := World.uniform_subscribe change hs hs'
    exact ⟨congrArg some hreply, nofun, hmoves⟩
  | free => exact ⟨rfl, nofun, World.uniform_free s⟩
  | deliver ready =>
    obtain ⟨hreport, hmoves⟩ := World.uniform_deliver hw hv ready hs hs' hkernel
    refine ⟨rfl, fun ready' heq => ?_, hmoves⟩
    obtain rfl := Task.deliver.inj heq
    exact hreport

end SocketLoop
