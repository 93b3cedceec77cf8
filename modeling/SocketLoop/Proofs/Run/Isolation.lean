import SocketLoop.Proofs.Run.Undisturbed
import SocketLoop.Proofs.World.Uniform
import SocketLoop.Proofs.World.Untouched

/-!
# Sockets do not interfere

**`Config.isolated_of_reaches`**: in every run, what is done to one socket touches no other one, and
no other one has a say in it. Whatever sockets there are besides, whatever kind of reactor there is
and whatever happened before: two runs that have the socket in the same state, and whose systems
answer alike, do the same calls, give the same result and leave the socket in the same state.

Two runs number their handlers apart, so that the same state of a socket is the same up to the names
of its handlers. Systems answer alike if they do so for the kinds of calls that the task makes; they
may hand out different descriptors, if the task asks for none.
-/

namespace SocketLoop

/-! ## What is done -/

/-- What is asked of the system or told the reactor. -/
def Event.work? : Event → Option Event
  | .called call result => some (.called call result)
  | .closed fd => some (.closed fd)
  | .registered fd result => some (.registered fd result)
  | .interestSet token interest => some (.interestSet token interest)
  | .deregistered token => some (.deregistered token)
  | _ => none

/-- A bracket asks and tells nothing. -/
theorem Event.IsBracket.work?_eq_none {e : Event} (h : e.IsBracket) : e.work? = none := by
  cases e with
  | began | ended _ _ | entered _ _ _ | left => rfl
  | _ => exact h.elim

/-- What the system was asked and the reactor was told, in this order. -/
def worksOf (history : History) : History :=
  history.filterMap Event.work?

namespace Config

variable {c c' e e' : Config} {deed : Deed} {f : HandlerRef → HandlerRef} {s t : Socket}
  {task : Task}

/-- The operating system as the next moment finds it. -/
def system (c : Config) : Kernel :=
  { c.world.kernel with script := c.answers }

/-- Up to another configuration a deed is done and nothing else: the next moment carries out a
command, or it delivers readiness and the handlers do nothing. -/
inductive Performs (c e : Config) : Deed → Prop
  | command (isCommanded : c.deed.isCommanded = true) (next : c.next = some e) : Performs c e c.deed
  | delivery {id : SocketId} {ready : Readiness} (undisturbed : c.Undisturbed id ready e) :
      Performs c e (.deliver id ready)

namespace Performs

/-- It is the deed of the next moment. -/
theorem deed_eq (h : c.Performs e deed) : c.deed = deed := by
  cases h with
  | command _ _ => rfl
  | delivery undisturbed => exact undisturbed.deed

/-- It is all that is done. If it has a reply this is what is replied, and if readiness is
delivered it is delivered with this result. -/
theorem exists_does (h : c.Performs e deed) (hw : c.world.Orderly) :
    ∃ w, c.Does e w ∧
      (∀ reply, deed.reply? w = some reply → replyOf? (c.recorded e) = some reply) ∧
      ∀ id ready, deed = .deliver id ready → c.ComesTo id ready (w.deliver id ready).1 := by
  cases h with
  | command isCommanded next =>
    obtain ⟨w, reply, hcarried⟩ := exists_carriedOut next isCommanded
    obtain ⟨new, hnew, -, -⟩ := next_records next hw
    refine ⟨w, hcarried.toDoes, fun reply' hreply' => ?_, fun id ready hdeed => ?_⟩
    · rw [recorded_eq hnew, hcarried.replyOf?_eq hw hnew, ← hcarried.replied, hreply']
    · simp [hdeed, Deed.isCommanded] at isCommanded
  | @delivery id ready undisturbed =>
    obtain ⟨w, hdoes, hcomes⟩ := undisturbed.exists_comesTo
    refine ⟨w, hdoes, fun reply hreply => ?_, fun id' ready' hdeed => ?_⟩
    · simp only [Deed.reply?, reduceCtorEq] at hreply
    · obtain ⟨rfl, rfl⟩ := Deed.deliver.inj hdeed
      exact hcomes

/-- It is a part of the run. -/
theorem reaches (h : c.Performs e deed) : c.Reaches e := by
  cases h with
  | command isCommanded next => exact .single next
  | delivery undisturbed => exact undisturbed.reaches

end Performs

/-- A task that is to come is performed. -/
theorem exists_performs (hdeed : c.deed = task.deed s) : ∃ e, c.Performs e (task.deed s) := by
  cases task with
  | deliver ready =>
    obtain ⟨e, hundisturbed⟩ := exists_undisturbed hdeed
    exact ⟨e, .delivery hundisturbed⟩
  | _ =>
    obtain ⟨e, hnext⟩ := c.exists_next_of_deed (by rw [hdeed]; nofun)
    rw [← hdeed]
    exact ⟨e, .command (by rw [hdeed]; rfl) hnext⟩

/-! ## Other sockets -/

/-- **Nothing is done to another socket.** -/
theorem Performs.untouched (h : c.Performs e deed) (hw : c.world.Orderly)
    (ht : c.world.socket? t.id = some t) (hother : deed.subject? ≠ some t.id)
    (hdirect : deed.directToken? ≠ some t.token) : c.world.Untouched t e.world := by
  obtain ⟨w, hdoes, -, -⟩ := h.exists_does hw
  obtain rfl := h.deed_eq
  have hbefore := hdoes.quiet
  have hopen : w.socket? t.id = some t := (hbefore.socket? t.id).trans ht
  have hrun := Deed.untouched_run (hw.quiet hbefore) ((fits_deed hw).quiet hbefore) hopen hother
    hdirect
  exact (World.Untouched.of_quiet hbefore).trans (hrun.trans (.of_quiet hdoes.world))

/-! ## Other runs -/

/-- A task on a socket is the same in two runs. -/
structure SameTask (f : HandlerRef → HandlerRef) (task : Task) (s : Socket) (c e c' e' : Config) :
    Prop where
  /-- An operation is replied to, in both runs alike. -/
  reply : (∀ ready, task ≠ .deliver ready) →
    ∃ reply, replyOf? (c.recorded e) = some reply ∧ replyOf? (c'.recorded e') = some reply
  /-- A delivery has a result, in both runs the same. -/
  report : ∀ ready, task = .deliver ready →
    ∃ result, c.ComesTo s.id ready result ∧ c'.ComesTo s.id ready result
  /-- The same is asked of the system and told the reactor. -/
  works : worksOf (c'.recorded e') = worksOf (c.recorded e)
  socket : e'.world.socket? s.id = (e.world.socket? s.id).map (Socket.rename f)
  live : e'.world.registry.isLive s.id = e.world.registry.isLive s.id

/-- In the world in which a deed is done, calls are answered as the moment finds the system. -/
theorem Does.agrees {w w' : World} {kinds : List CallKind} (h : c.Does e w) (h' : c'.Does e' w')
    (hsystem : c.system.Agrees kinds c'.system) : w.kernel.Agrees kinds w'.kernel := by
  intro call hkind
  have hfound := Kernel.result_congr c.system w.kernel h.answers h.nextFd call
  have hfound' := Kernel.result_congr c'.system w'.kernel h'.answers h'.nextFd call
  rw [hfound, hfound', hsystem call hkind]

/-- **A task is the same in two runs** that agree on its socket. -/
theorem sameTask_of_performs (hw : c.world.Orderly) (hw' : c'.world.Orderly)
    (h : c.Performs e (task.deed s)) (h' : c'.Performs e' ((task.rename f).deed (s.rename f)))
    (hs : c.world.socket? s.id = some s) (hs' : c'.world.socket? s.id = some (s.rename f))
    (hsystem : c.system.Agrees task.kinds c'.system) : SameTask f task s c e c' e' := by
  obtain ⟨w, hdoes, hreply, hcomes⟩ := h.exists_does hw
  obtain ⟨w', hdoes', hreply', hcomes'⟩ := h'.exists_does hw'
  have hends := task.uniform_run (hw.quiet hdoes.quiet) (hw'.quiet hdoes'.quiet)
    ((hdoes.quiet.socket? s.id).trans hs) ((hdoes'.quiet.socket? s.id).trans hs')
    (hdoes.agrees hdoes' hsystem)
  obtain ⟨hreplies, hreports, hmoves⟩ := hends
  rw [← h.deed_eq, ← h'.deed_eq] at hmoves
  have hsocket : e'.world.socket? s.id = (e.world.socket? s.id).map (Socket.rename f) := by
    rw [hdoes'.world.socket?, hdoes.world.socket?]
    exact hmoves.socket
  constructor
  · intro hcommand
    obtain ⟨reply, hsome⟩ : ∃ reply, (task.deed s).reply? w = some reply := by
      cases task with
      | deliver ready => exact absurd rfl (hcommand ready)
      | _ => simp only [Task.deed, Deed.reply?, Option.some.injEq, exists_eq']
    exact ⟨reply, hreply reply hsome, hreply' reply (hreplies.trans hsome)⟩
  · rintro ready rfl
    refine ⟨(w.deliver s.id ready).1, hcomes s.id ready rfl, ?_⟩
    rw [← hreports ready rfl]
    exact hcomes' s.id ready rfl
  · obtain ⟨later, hlater, hlater'⟩ := hmoves.history
    have hwork (e : Event) (he : e.IsBracket) : e.work? = none := he.work?_eq_none
    exact (hdoes'.filterMap_recorded hwork hlater').trans
      (hdoes.filterMap_recorded hwork hlater).symm
  · exact hsocket
  · have hlive := (Reaches.orderly_of h.reaches hw).isLive_iff s.id
    have hlive' := (Reaches.orderly_of h'.reaches hw').isLive_iff s.id
    rw [Bool.eq_iff_iff, hlive', hlive, hsocket, ← Option.isSome_iff_exists,
      ← Option.isSome_iff_exists, Option.isSome_map]

/-- The sockets of a configuration are isolated from each other. -/
structure Isolated (c : Config) : Prop where
  /-- What is done to one socket, or by the embedder, touches no other open one. -/
  others : ∀ deed e t, c.Performs e deed → c.world.socket? t.id = some t →
    deed.subject? ≠ some t.id → deed.directToken? ≠ some t.token → c.world.Untouched t e.world
  /-- A task on a socket is performed. -/
  performs : ∀ task s, c.deed = Task.deed s task → ∃ e, c.Performs e (task.deed s)
  /-- It is the same in every other run that has come to the same socket, where the handlers may
  have other names. -/
  same : ∀ kind program c', (Config.initial kind program).Reaches c' → ∀ f task s e e',
    c.Performs e (task.deed s) → c'.Performs e' ((task.rename f).deed (s.rename f)) →
    c.world.socket? s.id = some s → c'.world.socket? s.id = some (s.rename f) →
    c.system.Agrees task.kinds c'.system → SameTask f task s c e c' e'

/-- **Sockets do not interfere**, in every run. -/
theorem isolated_of_reaches {kind : ReactorKind} {program : List Step}
    (hrun : (Config.initial kind program).Reaches c) : c.Isolated where
  others _ _ _ h ht hother hdirect := h.untouched (Reaches.orderly hrun) ht hother hdirect
  performs _ _ hdeed := exists_performs hdeed
  same _ _ _ hrun' _ _ _ _ _ h h' hs hs' hsystem :=
    sameTask_of_performs (Reaches.orderly hrun) (Reaches.orderly hrun') h h' hs hs' hsystem

end Config

/-! ### Two runs with one socket in common -/

/-- A socket gets a handler and is asked to send, for which the system has no room. -/
def sendingProgram : List Step :=
  [.plain (.command (.change "a" (.addHandler .write []))),
    ⟨.command (.request "a" (.send [1])),
      { answers := fun kind => if kind = .send then [.failure Errno.wouldBlock] else []
        registrations := [] }, ⟨none, false⟩⟩]

/-- The socket is alone. -/
def aloneProgram : List Step :=
  .plain (.command (.openSocket "a" .ipv4 .stream .standard)) :: sendingProgram

/-- There is another socket beside it, which has a handler already. -/
def accompaniedProgram : List Step :=
  [.plain (.command (.openSocket "a" .ipv4 .stream .standard)),
    .plain (.command (.openSocket "b" .ipv4 .stream .standard)),
    .plain (.command (.change "b" (.addHandler .read [])))] ++ sendingProgram

/-- The two runs have different reactors, sockets, descriptors and handlers, but the socket that
they have in common does the same in both. The second handler of one run is the first one of the
other. -/
theorem isolated_when_accompanied :
    let c := (Config.initial (.polling 4) accompaniedProgram).skip 3
    let c' := (Config.initial .retaining aloneProgram).skip 1
    let f := fun handler : HandlerRef => handler - 1
    (∃ s, Config.SameTask f (.change (.addHandler .write 1)) s c (c.skip 1) c' (c'.skip 1)) ∧
      ∃ s t, Config.SameTask f (.request (.send [1])) s (c.skip 1) (c.skip 2) (c'.skip 1)
          (c'.skip 2) ∧
        replyOf? ((c.skip 1).recorded (c.skip 2)) = some (.failed .later) ∧
        (c.skip 1).world.socket? 2 = some t ∧ (c.skip 1).world.Untouched t (c.skip 2).world := by
  have hchanging := Config.isolated_of_reaches
    (Config.reaches_skip 3 (Config.initial (.polling 4) accompaniedProgram))
  have hsending := Config.isolated_of_reaches
    (Config.reaches_skip 4 (Config.initial (.polling 4) accompaniedProgram))
  have hsends : Config.Performs ((Config.initial (.polling 4) accompaniedProgram).skip 4)
      ((Config.initial (.polling 4) accompaniedProgram).skip 5) _ := .command rfl rfl
  refine ⟨⟨_, hchanging.same _ _ _ (Config.reaches_skip 1 (Config.initial .retaining aloneProgram))
    _ _ _ _ _ (.command rfl rfl) (.command rfl rfl) rfl rfl
    fun _ hkind => absurd hkind List.not_mem_nil⟩,
    _, _, hsending.same _ _ _ (Config.reaches_skip 2 (Config.initial .retaining aloneProgram))
    _ _ _ _ _ hsends (.command rfl rfl) rfl rfl ?_, rfl, rfl, ?_⟩
  · -- the runs differ in the next descriptor, which a send does not ask for
    refine Kernel.agrees_of_next (fun kind hkind => ?_) (by decide) (by decide)
    obtain rfl := List.mem_singleton.1 hkind
    rfl
  · exact hsending.others _ _ _ hsends rfl (by decide) (by decide)

end SocketLoop
