import SocketLoop.Proofs.Run.Entry

/-!
# Identities are handed out once

An identity is handed out by the reply that opens or accepts a socket. Opening and accepting take
the next identity and count on whether they succeed or not, and nobody else does.

* **`next_newIds`**: a moment hands out no identity, or it ends a step by handing out the next one.
* **`newIds_increasing`**: the identities that a run hands out, in the order in which it does, are
  strictly increasing, and all of them are below the next one.
-/

namespace SocketLoop

/-! ## Replies -/

/-- What succeeds in two parts succeeds in each. -/
theorem SocketM.exists_of_bind_eq_ok {α β : Type} {op : SocketM α} {next : α → SocketM β} {b : β}
    {session session' : Session} (h : (op >>= next) session = .ok b session') :
    ∃ a between, op session = .ok a between ∧ next a between = .ok b session' := by
  rw [run_bind] at h
  cases hop : op session with
  | ok a between =>
    rw [hop] at h
    exact ⟨a, between, rfl, h⟩
  | error halt between => simp [hop] at h

/-- A request hands out no identity. -/
theorem Request.newId?_eq_none (request : Request) {session session' : Session} {value : Value}
    (h : request.run session = .ok value session') : (Reply.ok value).newId? = none := by
  cases request with
  | receiveFrom room =>
    obtain ⟨⟨data, sender⟩, _, -, hvalue⟩ := SocketM.exists_of_bind_eq_ok h
    cases hvalue
    rfl
  | _ =>
    obtain ⟨_, _, -, hvalue⟩ := SocketM.exists_of_bind_eq_ok h
    cases hvalue
    rfl

/-- A reply to an operation that did not return hands out no identity. -/
theorem Reply.newId?_ofHalt (halt : Halt) : (Reply.ofHalt halt).newId? = none := by
  cases halt <;> rfl

/-! ## Opening and accepting -/

namespace World

variable {w w' : World} {id : SocketId}

/-- A descriptor that is made a socket takes the next identity. -/
theorem adopt_ok {origin : Origin} (h : adopt origin w = .ok id w') :
    id = w.registry.nextId ∧ w'.registry.nextId = w.registry.nextId + 1 := by
  unfold adopt at h
  rcases register_cases (P := fun _ => True) { w with registry := w.registry.allocate } origin.fd
    (.socket w.registry.nextId) (fun _ => trivial) with
    ⟨error, w₁, heq, hquiet⟩ | ⟨w₁, heq, hquiet⟩
  · simp [heq] at h
  · simp only [heq] at h
    cases h
    refine ⟨rfl, ?_⟩
    simp only [World.setInterest, World.record, hquiet.registry]
    rfl

/-- A socket that is opened takes the next identity. -/
theorem openSocket_ok {family : AddressFamily} {cls : SocketClass} {config : SocketConfig}
    (h : openSocket family cls config w = .ok id w') :
    id = w.registry.nextId ∧ w'.registry.nextId = w.registry.nextId + 1 := by
  have hcall (w : World) (syscall : Syscall) : (w.call syscall).2.registry = w.registry := rfl
  have hinfo (w : World) (fd : Fd) :
      (w.enablePacketInfo fd family cls config).2.registry = w.registry := by
    have hquiet : w.Quiet (fun _ => True) (w.enablePacketInfo fd family cls config).2 :=
      quiet_enablePacketInfo w family cls config fun _ _ => trivial
    exact hquiet.registry
  unfold openSocket at h
  split at h
  · simp at h
  rename_i completion w₁ hsocket
  dsimp only at h
  split at h
  · simp at h
  rename_i done w₂ hready
  have hregistry : (w₂.enablePacketInfo completion.value family cls config).2.registry =
      w.registry := by
    rw [hinfo, ← hcall w (.socket family cls), hsocket,
      ← hcall w₁ (.setNonblocking completion.value), hready]
  have hadopted := adopt_ok h
  rwa [hregistry] at hadopted

/-- A connection that is accepted takes the next identity. -/
theorem accept_ok {listener : Socket} {peer : Address}
    (h : accept listener w = .ok (id, peer) w') :
    id = w.registry.nextId ∧ w'.registry.nextId = w.registry.nextId + 1 := by
  unfold accept at h
  split at h
  · simp at h
  rename_i fd peer' w₁ hperform
  have hregistry : w₁.registry = w.registry := by
    have hafter := after_perform w listener SocketM.acceptReady
    rw [WorldM.after, hperform] at hafter
    dsimp only at hafter
    rw [hafter]
    rfl
  split at h
  · rename_i hadopt
    cases h
    have hadopted := adopt_ok hadopt
    rwa [hregistry] at hadopted
  · simp at h

end World

/-! ## Moments -/

/-- The identities that are handed out in a history. -/
def newIds (history : History) : List SocketId :=
  history.filterMap Event.newId?

/-- Where no identity is handed out, there are no more of them. -/
theorem newIds_of_grows {old new : History} (h : Grows Event.IsPlain old new) :
    newIds new = newIds old := by
  obtain ⟨later, rfl, hlater⟩ := h
  have hnone : later.filterMap Event.newId? = [] :=
    List.filterMap_eq_nil_iff.2 fun e he => (hlater e he).2
  rw [newIds, List.filterMap_append, hnone, List.append_nil]
  rfl

namespace Config

variable {c d : Config}

/-- A reply with the next identity, in a world that has counted on. -/
def HandsOut (c : Config) (result : Reply × Config) : Prop :=
  result.1.newId? = some c.world.registry.nextId ∧
    result.2.world.registry.nextId = c.world.registry.nextId + 1

/-- A command for an open socket hands out no identity if it hands out none for that socket. -/
theorem newId?_withSocket {name : SocketName} {f : Socket → Reply × Config}
    (hf : ∀ s, (f s).1.newId? = none) : (c.withSocket name f).1.newId? = none := by
  unfold withSocket
  split
  · rfl
  · exact hf _

/-- A command hands out no identity, or it makes a socket and hands out the next one. -/
theorem newId?_execute (c : Config) (command : Command HandlerCode) :
    (c.execute command).1.newId? = none ∨
      (c.commandDeed command).isMaking = true ∧ c.HandsOut (c.execute command) := by
  cases command with
  | openSocket name family cls config =>
    simp only [execute, Config.openSocket, commandDeed]
    split
    · exact .inl rfl
    · split
      · rename_i hopen
        obtain ⟨rfl, hnext⟩ := World.openSocket_ok hopen
        exact .inr ⟨rfl, rfl, hnext⟩
      · exact .inl (Reply.newId?_ofHalt _)
  | accept name newName =>
    simp only [execute, withSocket, commandDeed]
    cases c.socketOf? name with
    | none => exact .inl rfl
    | some s =>
      simp only [Option.elim_some, Config.accept]
      split
      · exact .inl rfl
      · split
        · rename_i haccept
          obtain ⟨rfl, hnext⟩ := World.accept_ok haccept
          exact .inr ⟨rfl, rfl, hnext⟩
        · exact .inl (Reply.newId?_ofHalt _)
  | request name request =>
    refine .inl (newId?_withSocket fun s => ?_)
    unfold carryOut World.perform
    cases hrun : request.run ⟨s, c.world.kernel⟩ with
    | ok value session => exact request.newId?_eq_none hrun
    | error halt session => exact Reply.newId?_ofHalt _
  | change name change =>
    refine .inl (newId?_withSocket fun s => ?_)
    unfold Config.change
    split
    · rfl
    · exact Reply.newId?_ofHalt _
  | free name | info name => exact .inl (newId?_withSocket fun s => rfl)
  | addDescriptor fd label code =>
    simp only [execute, Config.addDescriptor]
    split <;> exact .inl rfl
  | reactorInfo =>
    simp only [execute, Config.reactorInfo]
    split <;> exact .inl rfl
  | isLive _ | compareIds _ _ | setDescriptor _ _ | removeDescriptor _ => exact .inl rfl

/-- Ending a step with a reply that hands out an identity hands out that one, and leaves the
registry alone. -/
theorem newIds_endStep_of_some {reply : Reply} {id : SocketId} (ending : StepEnding)
    (h : reply.newId? = some id) :
    newIds (c.endStep reply ending).history = newIds c.history ++ [id] ∧
      (c.endStep reply ending).world.registry = c.world.registry := by
  have hended : c.endStep reply ending = c.record (.ended reply (c.statusOf? ending.watched)) := by
    unfold endStep
    split
    · simp [Reply.newId?] at h
    · rfl
  rw [hended]
  refine ⟨?_, rfl⟩
  simp only [newIds, history, Config.record, World.record, Kernel.record, List.filterMap_append,
    List.filterMap_cons, List.filterMap_nil, Event.newId?, h]

/-- A moment hands out the identity that the reply to its command hands out, or it makes no socket
and hands out none. -/
theorem next_newIds_cases (h : c.next = some d) (hw : c.world.Orderly) :
    (∃ b step command, Begins c b step ∧ step.action = .command command ∧
        d = (b.execute command).2.endStep (b.execute command).1 step.ending ∧
        newIds d.history = newIds c.history ++ (b.execute command).1.newId?.toList) ∨
      c.deed.isMaking = false ∧ newIds d.history = newIds c.history := by
  rcases next_cases h hw with
    ⟨b, step, command, hbegins, haction, rfl⟩ | ⟨hmaking, hgrows⟩ |
      ⟨b, handler, notice, hcalls, rfl⟩
  · left
    refine ⟨b, step, command, hbegins, haction, rfl, ?_⟩
    have hexecute := newIds_of_grows (hbegins.grows_execute haction hw)
    cases hreply : (b.execute command).1.newId? with
    | none =>
      rw [newIds_of_grows (grows_endStep step.ending hreply), hexecute]
      exact (List.append_nil _).symm
    | some id =>
      rw [(newIds_endStep_of_some step.ending hreply).1, hexecute]
      rfl
  · exact .inr ⟨hmaking, newIds_of_grows hgrows⟩
  · have hcalled : newIds (b.invoke handler notice).history = newIds b.history := by
      simp only [newIds, history, invoke, Config.record, World.record, Kernel.record,
        List.filterMap_append, List.filterMap_cons, List.filterMap_nil, Event.newId?,
        List.append_nil]
    exact .inr ⟨hcalls.not_making, hcalled.trans (newIds_of_grows (hcalls.grows hw))⟩

/-- **A moment hands out no identity, or the next one.** -/
theorem next_newIds (h : c.next = some d) (hw : c.world.Orderly) :
    newIds d.history = newIds c.history ∨
      newIds d.history = newIds c.history ++ [c.world.registry.nextId] ∧
        d.world.registry.nextId = c.world.registry.nextId + 1 := by
  rcases next_newIds_cases h hw with
    ⟨b, step, command, hbegins, haction, rfl, hids⟩ | ⟨-, hids⟩
  · rcases newId?_execute b command with hnone | ⟨-, hsome, hnext⟩
    · left
      rw [hids, hnone]
      exact List.append_nil _
    · right
      obtain ⟨-, hregistry⟩ := newIds_endStep_of_some (c := (b.execute command).2)
        step.ending hsome
      rw [hbegins.quiet.registry] at hsome hnext
      rw [hids, hsome, hregistry, hnext]
      exact ⟨rfl, rfl⟩
  · exact .inl hids

/-! ## Runs -/

/-- **Identities are handed out counting up**: those that a run has handed out are strictly
increasing in the order in which it did, and all of them are below the next one. -/
theorem newIds_increasing {kind : ReactorKind} {program : List Step}
    (h : (Config.initial kind program).Reaches c) :
    (newIds c.history).Pairwise (· < ·) ∧
      ∀ id ∈ newIds c.history, id < c.world.registry.nextId := by
  induction h with
  | refl => exact ⟨List.Pairwise.nil, fun id hid => absurd hid List.not_mem_nil⟩
  | @tail b c hrun hnext ih =>
    obtain ⟨hincreasing, hlt⟩ := ih
    have hw := Reaches.orderly hrun
    rcases next_newIds hnext hw with hids | ⟨hids, hnextId⟩
    · rw [hids]
      refine ⟨hincreasing, fun id hid => Nat.lt_of_lt_of_le (hlt id hid) ?_⟩
      exact (next_acts hnext hw).nextId_le
    · rw [hids, hnextId]
      exact ⟨pairwise_lt_concat hincreasing hlt, lt_succ_concat hlt⟩

end Config

end SocketLoop
