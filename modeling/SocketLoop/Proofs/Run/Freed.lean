import SocketLoop.Proofs.Run.Entry

/-!
# Nothing of a freed socket runs

A socket can be freed at any time: in its own handler with the rest of its batch pending, in the
handler of another socket while a wake has still to come to it, in a dispatch within a dispatch. A
reactor that keeps its callback can call it at any time after that.

* `Silent s` is what holds of one moment: neither readiness nor a pending event leads to the socket,
  the library works for others only, and what it records is none of the socket's.
* **`silent_of_free`**: freeing a socket removes its registration and closes its descriptor, once
  each, and every moment that the run comes by from then on is silent.

The argument is an invariant of the world (`World.Gone`), which looks at neither stack nor code: the
identity and the token of the socket were handed out, and nobody has them any more. A number of a
descriptor can be handed out again, so calls are told apart by whom they are made for: a call is
made with a descriptor that the deed of its moment has, or that it was handed on the way.
-/

namespace SocketLoop

namespace Config

variable {c d e : Config} {s : Socket}

/-- Nothing of a socket runs in the next moment. -/
structure Silent (c : Config) (s : Socket) : Prop where
  /-- Readiness that is reported to it does nothing at all. -/
  report : ∀ ready, c.report s.id ready = c
  /-- An event that is pending for it is given up with the rest of its batch. -/
  turn : ∀ event, c.world.turn s.id event = .abandoned
  /-- No registration that a wait is about leads to it. -/
  unwatched : ∀ {limit token row}, c.world.reactor.kind = .polling limit →
    c.world.reactor.table.get? token = some row → row.callback ≠ .socket s.id
  /-- The library works for another socket, or for none. -/
  unserved : ∀ t, c.deed.served? c.world = some t → t.id ≠ s.id
  /-- No handler is told about it, calls are made for others, and its registration is touched by the
  embedder only. -/
  next : ∀ d, c.next = some d → ∃ new, d.history = c.history ++ new ∧
    (∀ handler label notice, .entered handler label notice ∈ new → notice.socket? ≠ some s.id) ∧
    CallsWith (c.deed.fds c.world) new ∧
    ∀ e ∈ new, e.token? = some s.token → c.deed.directToken? = some s.token

/-! ## A socket that is gone -/

/-- The deed of a moment touches no registration of a socket that is gone, unless the embedder does.
-/
theorem directToken?_of_token (hw : c.world.Orderly) (hgone : c.world.Gone s)
    (h : s.token ∈ c.deed.tokens c.world) : c.deed.directToken? = some s.token := by
  have hfits := fits_deed hw
  have hopen {t : Socket} (ht : c.deed.served? c.world = some t) (heq : s.token = t.token) :
      False :=
    hgone.token_free (hfits t ht) heq.symm
  have hnew (heq : s.token = c.world.reactor.nextToken) : False :=
    absurd heq (Nat.ne_of_lt hgone.token_lt)
  cases hdeed : c.deed with
  | openSocket family cls config =>
    rw [hdeed] at h
    exact (hnew (List.mem_singleton.1 h)).elim
  | accept listener =>
    rw [hdeed] at h
    exact (hnew (List.mem_singleton.1 h)).elim
  | change t change =>
    rw [hdeed] at h hopen
    exact (hopen rfl (List.mem_singleton.1 h)).elim
  | free t =>
    rw [hdeed] at h hopen
    exact (hopen rfl (List.mem_singleton.1 h)).elim
  | setDescriptor token interest =>
    rw [hdeed] at h
    rw [List.mem_singleton.1 h]
    rfl
  | removeDescriptor token =>
    rw [hdeed] at h
    rw [List.mem_singleton.1 h]
    rfl
  | nothing | request _ _ | addDescriptor _ _ | wait _ | deliver _ _ =>
    rw [hdeed] at h
    simp [Deed.tokens] at h

/-- **Nothing of a socket runs that is gone.** -/
theorem silent_of_gone (hw : c.world.Orderly) (hgone : c.world.Gone s) : c.Silent s := by
  have hlive : c.world.registry.isLive s.id = false := by
    rw [Bool.eq_false_iff]
    intro hlive
    obtain ⟨t, ht⟩ := (hw.isLive_iff s.id).1 hlive
    simp [hgone.closed] at ht
  constructor
  · intro ready
    simp only [Config.report, World.deliver, hlive, Bool.not_false, ↓reduceIte, dispatch]
    rfl
  · intro event
    simp only [World.turn, hlive, Bool.not_false, ↓reduceIte]
  · intro limit token row hkind hrow hcallback
    obtain ⟨t, ht⟩ := Table.exists_of_mem_keys (hw.row_open hkind hrow hcallback)
    have hclosed := hgone.closed
    simp [World.socket?, ht] at hclosed
  · intro t ht hid
    have hopen := fits_deed hw t ht
    rw [hid, hgone.closed] at hopen
    simp at hopen
  · intro d hnext
    obtain ⟨new, hnew, hcalls, htokens⟩ := next_records hnext hw
    refine ⟨new, hnew, ?_, hcalls, ?_⟩
    · intro handler label notice hmem hnotice
      obtain ⟨hauthorised, -⟩ := authorised_of_entered hnext hw hnew hmem
      obtain ⟨t, ht⟩ := hauthorised.socket? hnotice
      have hgone' := (next_acts hnext hw).invariant (fun _ _ hact => hact.gone) hgone
      simp [hgone'.closed] at ht
    · intro e he htoken
      exact directToken?_of_token hw hgone (htokens e he s.token htoken)

/-! ## Freeing -/

/-- A socket is freed by a step that names it. -/
theorem stack_of_free (h : c.deed = .free s) : ∃ name answers ending steps script isHandler rest,
    c.stack = .steps (⟨.command (.free name), answers, ending⟩ :: steps) script isHandler :: rest ∧
      c.socketOf? name = some s := by
  have hasks := c.asks_deed
  rw [h] at hasks
  cases hasks with
  | command stack leads =>
    cases leads with
    | free named => exact ⟨_, _, _, _, _, _, _, stack, named⟩

/-- **Freeing a socket** removes its registration and closes its descriptor, and that is all. -/
theorem next_free (h : c.deed = .free s) : ∃ d status, c.next = some d ∧
    d.history = c.history ++
      [.began, .deregistered s.token, .closed s.fd, .ended (.ok .done) status] := by
  obtain ⟨name, answers, ending, steps, script, isHandler, rest, hstack, hname⟩ := stack_of_free h
  obtain ⟨b, hbegins, hbegan, hnext⟩ := next_command hstack
  have hexecute : b.execute (.free name) = (.ok .done, { b with world := b.world.free s }) := by
    simp only [execute, withSocket, (hbegins.socketOf? name).trans hname]
  rw [hexecute] at hnext
  refine ⟨_, statusOf? { b with world := b.world.free s } ending.watched, hnext, ?_⟩
  change b.history ++ [_] ++ [_] ++ [_] = _
  rw [hbegan]
  simp only [List.append_assoc]
  rfl

/-- **Nothing of a socket runs after it is freed.** In every run, the moment that frees a socket
removes one registration and closes one descriptor, those of the socket, and no later moment calls a
handler of the socket, makes a call for it, or does anything when readiness is reported to it. -/
theorem silent_of_free {kind : ReactorKind} {program : List Step}
    (hrun : (Config.initial kind program).Reaches c) (hfree : c.deed = .free s) :
    ∃ d status, c.next = some d ∧
      d.history = c.history ++
        [.began, .deregistered s.token, .closed s.fd, .ended (.ok .done) status] ∧
      ∀ e, d.Reaches e → e.Silent s := by
  have hw := Reaches.orderly hrun
  obtain ⟨d, status, hnext, hhistory⟩ := next_free hfree
  refine ⟨d, status, hnext, hhistory, fun e hlater => ?_⟩
  -- the moment of the free leaves the socket gone
  have hgone : d.world.Gone s := by
    obtain ⟨w, hbefore, hafter⟩ := next_world hnext
    rw [hfree] at hafter
    have hfits := fits_deed hw
    rw [hfree] at hfits
    have hdismissed := (hw.quiet hbefore).gone_dismiss (hfits.quiet hbefore s rfl)
    exact (hdismissed.quiet (World.quiet_free w s)).quiet hafter
  -- and gone it stays
  have hw' := next_orderly hnext hw
  have hlater' := Reaches.invariant hlater hw' (fun _ _ _ hact _ => hact.gone) hgone
  exact silent_of_gone (Reaches.orderly_of hlater hw') hlater'

end Config

/-! ### A socket that is freed by its own handler -/

/-- Readiness in both directions is reported to a socket whose handler for reading frees it. -/
def freeingProgram : List Step :=
  [.plain (.command (.openSocket "a" .ipv4 .stream .standard)),
    .plain (.command (.change "a" (.addHandler .read [[.plain (.command (.free "a"))]]))),
    .plain (.command (.change "a" (.addHandler .write []))),
    .plain (.command (.change "a" (.enable .read))),
    .plain (.command (.change "a" (.enable .write))),
    .plain (.fire 1 ⟨true, true, 0⟩)]

/-- The socket as the handler finds it. -/
def freedSocket : Socket where
  id := 1
  fd := Kernel.firstFd
  token := 1
  family := .ipv4
  cls := .stream
  config := .standard
  packetInfo := false
  lastError := none
  subscription := ⟨.perEvent ⟨some 0, some 1, none, none⟩, ⟨true, true, false, false, 0⟩⟩
  connect := .idle
  receiveLimit := .perDispatch defaultReceiveMax
  receiveCount := 0

/-- Writing is still pending when the handler for reading frees the socket, and nothing of the
socket runs after that. -/
theorem silent_of_free_in_handler :
    let c := (Config.initial .retaining freeingProgram).skip 7
    c.deed = .free freedSocket ∧ c.stack[1]? = some (.batch 1 [.write]) ∧
      ∃ d status, c.next = some d ∧
        d.history = c.history ++
          [.began, .deregistered 1, .closed Kernel.firstFd, .ended (.ok .done) status] ∧
        ∀ e, d.Reaches e → e.Silent freedSocket := by
  have hfree : ((Config.initial .retaining freeingProgram).skip 7).deed = .free freedSocket := by
    decide
  exact ⟨hfree, rfl, Config.silent_of_free (Config.reaches_skip 7 _) hfree⟩

end SocketLoop
