import SocketLoop.Proofs.Run.Request

/-!
# How often a socket receives

A socket with a receive limit may make so many receives until it is reported ready again, or until
its limit is replaced. Each receive that is not refused takes a slot and makes one call; what
becomes of the call does not matter.

* **`ReceiveTurn`** is what becomes of a receive: it is refused, or it makes one call.
* `Slot`: what happens to the slots of a socket. `Slot.Counts` says how many were used since they
  were last freed, and `Slot.Bounded` that there were never more than the limit allowed.
* `SlotTurn`: a moment is one such thing at most (`slotTurn_of_next`), and so the counter of a socket
  counts its slots along every run (`counted_of_noted`).
* **`receives_of_reaches`**: in every run, between two resets a socket makes no more calls than its
  limit allows, and what it asks for beyond that is refused and changes nothing.
-/

namespace SocketLoop

/-- What happens to the slots of a socket. -/
inductive Slot
  /-- All slots are free again, and this is the limit from now on. -/
  | reset (limit : ReceiveLimit)
  /-- A slot was used for a call. -/
  | used
  deriving DecidableEq, Repr

namespace Slot

/-- What is kept of the slots: the limit, and how many were used since it was set or all were freed.
-/
def enter : Option (ReceiveLimit × Nat) → Slot → Option (ReceiveLimit × Nat)
  | _, reset limit => some (limit, 0)
  | tally?, used => tally?.map fun tally => (tally.1, tally.2 + 1)

/-- The limit and the number of used slots after all that happened to them. -/
def tally (log : List Slot) : Option (ReceiveLimit × Nat) :=
  log.foldl enter none

/-- What happens last is entered last. -/
theorem tally_concat (log : List Slot) (slot : Slot) :
    tally (log ++ [slot]) = enter (tally log) slot := by
  rw [tally, List.foldl_append]
  rfl

/-- Slots that were used since they were freed. -/
theorem tally_replicate (before : List Slot) (limit : ReceiveLimit) (n : Nat) :
    tally (before ++ .reset limit :: List.replicate n .used) = some (limit, n) := by
  induction n with
  | zero => exact tally_concat before (.reset limit)
  | succ n ih =>
    rw [List.replicate_succ', ← List.cons_append, ← List.append_assoc, tally_concat, ih]
    rfl

/-- At no time were more slots used than the limit of that time allowed. -/
def Bounded (log : List Slot) : Prop :=
  ∀ first, first <+: log → ∀ most n, tally first = some (.perDispatch most, n) →
    most ≤ maxReceiveCount → n ≤ most

/-- No slot was used yet. -/
theorem bounded_nil : Bounded [] := by
  intro first hfirst most n htally
  rw [List.prefix_nil.1 hfirst] at htally
  simp [tally] at htally

/-- It is enough to look at the time after the last thing that happened. -/
theorem Bounded.concat {log : List Slot} {slot : Slot} (h : Bounded log)
    (hlast : ∀ most n, enter (tally log) slot = some (.perDispatch most, n) →
      most ≤ maxReceiveCount → n ≤ most) : Bounded (log ++ [slot]) := by
  intro first hfirst most n htally hmost
  rcases List.prefix_concat_iff.1 hfirst with rfl | hbefore
  · rw [tally_concat] at htally
    exact hlast most n htally hmost
  · exact h first hbefore most n htally hmost

/-- Free slots are within every limit. -/
theorem Bounded.reset {log : List Slot} (h : Bounded log) (limit : ReceiveLimit) :
    Bounded (log ++ [.reset limit]) := by
  refine h.concat fun most n htally _ => ?_
  obtain ⟨-, rfl⟩ := Prod.mk.inj (Option.some.inj htally)
  exact Nat.zero_le most

/-- This is the limit since slots were last freed, and so many were used since then, up to the
largest value of a counter. -/
def Counts (log : List Slot) (limit : ReceiveLimit) (count : Nat) : Prop :=
  ∃ before used, log = before ++ .reset limit :: List.replicate used .used ∧
    count = min used maxReceiveCount

/-- Free slots are counted from zero. -/
theorem counts_reset (log : List Slot) (limit : ReceiveLimit) :
    Counts (log ++ [.reset limit]) limit 0 :=
  ⟨log, 0, rfl, rfl⟩

variable {log : List Slot} {limit : ReceiveLimit} {count : Nat}

/-- A slot that is used counts. -/
theorem Counts.used (h : Counts log limit count) :
    Counts (log ++ [.used]) limit (min (count + 1) maxReceiveCount) := by
  obtain ⟨before, used, rfl, rfl⟩ := h
  refine ⟨before, used + 1, ?_, ?_⟩
  · rw [List.replicate_succ', List.append_assoc, List.cons_append]
  · omega

/-- A slot that is used while the limit is not reached is within it. -/
theorem Bounded.used (h : Bounded log) (hcounts : Counts log limit count)
    (hleft : limit.isReached count = false) : Bounded (log ++ [.used]) := by
  obtain ⟨before, used, rfl, rfl⟩ := hcounts
  refine h.concat fun most n htally hmost => ?_
  rw [tally_replicate] at htally
  obtain ⟨rfl, rfl⟩ := Prod.mk.inj (Option.some.inj htally)
  have hlt : min used maxReceiveCount < most := Nat.lt_of_not_le (of_decide_eq_false hleft)
  omega

/-- A limit is reached if and only if all its slots are used. -/
theorem Counts.isReached_iff {before : List Slot} {most used : Nat}
    (h : Counts (before ++ .reset (.perDispatch most) :: List.replicate used .used) limit count)
    (hbounded : Bounded (before ++ .reset (.perDispatch most) :: List.replicate used .used))
    (hmost : most ≤ maxReceiveCount) : limit.isReached count = true ↔ used = most := by
  obtain ⟨before', used', hlog, rfl⟩ := h
  have htally := congrArg tally hlog
  rw [tally_replicate, tally_replicate] at htally
  obtain ⟨rfl, rfl⟩ := Prod.mk.inj (Option.some.inj htally)
  have hle := hbounded _ (List.prefix_refl _) most used (tally_replicate _ _ _) hmost
  simp only [ReceiveLimit.isReached, decide_eq_true_eq]
  omega

end Slot

/-- A limit that is reached is a limit. -/
theorem ReceiveLimit.isReached_iff {limit : ReceiveLimit} {count : Nat} :
    limit.isReached count = true ↔ ∃ most, limit = .perDispatch most ∧ most ≤ count := by
  cases limit with
  | unlimited => simp [isReached]
  | perDispatch most => simp [isReached]

/-- How many calls of a history receive. -/
def receivesIn (history : History) : Nat :=
  (callsOf history).countP fun call => call.1.kind.isReceive

/-- No call receives. -/
theorem receivesIn_eq_zero {history : History}
    (h : ∀ call result, (call, result) ∈ callsOf history → call.kind.isReceive = false) :
    receivesIn history = 0 := by
  refine List.countP_eq_zero.2 fun ⟨call, result⟩ hmem => ?_
  simp [h call result hmem]

/-- The limit from now on, if a deed frees the slots of a socket: readiness that is delivered keeps
it, and otherwise it is the one that is asked for. -/
def Deed.newLimit? (s : Socket) : Deed → Option ReceiveLimit
  | .deliver id _ => if id = s.id then some s.receiveLimit else none
  | .request s' (.setReceiveLimit limit) => if s'.id = s.id then some limit else none
  | _ => none

/-- What does not concern a socket frees no slot of it. -/
theorem Deed.newLimit?_of_unconcerned {deed : Deed} {s : Socket}
    (h : deed.concerned? ≠ some s.id) : deed.newLimit? s = none := by
  unfold newLimit?
  split <;> simp_all [concerned?]

namespace Config

variable {c d : Config} {new : History} {s t : Socket} {id : SocketId}

/-! ## One receive -/

/-- What becomes of a receive that the next moment requests. -/
inductive ReceiveTurn (c d : Config) (new : History) (s t : Socket) : Prop
  /-- The limit is reached: the receive is to be tried later, there is no call, and nothing changes
  but the last error. -/
  | refused {most : Nat} {status : Option Status} (limit : s.receiveLimit = .perDispatch most)
      (isReached : most ≤ s.receiveCount)
      (recorded : new = [.began, .ended (.failed .later) status])
      (socket : t = { s with lastError := some .later })
      (sockets : d.world.sockets = c.world.sockets.set s.id t)
      (registry : d.world.registry = c.world.registry) (reactor : d.world.reactor = c.world.reactor)
  /-- The limit is not reached: a slot is taken and one call is made, whatever becomes of it. -/
  | served {call : Syscall} {result : Except Errno Int}
      (isLeft : s.receiveLimit.isReached s.receiveCount = false)
      (isReceive : call.kind.isReceive = true) (fd : call.fd? = some s.fd)
      (calls : callsOf new = [(call, result)])
      (socket : t = { s with
        receiveCount := min (s.receiveCount + 1) maxReceiveCount, lastError := t.lastError })

/-- **A receive is refused, or makes one call.** -/
theorem receiveTurn_of_request {request : Request} (h : c.next = some d)
    (hnew : d.history = c.history ++ new) (hdeed : c.deed = .request s request)
    (hreceive : request.isReceive = true) (hs : c.world.socket? s.id = some s)
    (ht : d.world.socket? s.id = some t) : c.ReceiveTurn d new s t := by
  obtain ⟨a, hrequested⟩ := exists_requested h hdeed
  have hsocket := Option.some.inj (ht.symm.trans (hrequested.socket? hs))
  obtain rfl := hrequested.socket
  cases hreached : a.socket.receiveLimit.isReached a.socket.receiveCount with
  | true =>
    obtain ⟨most, hlimit, hmost⟩ := ReceiveLimit.isReached_iff.1 hreached
    have hrun := Request.run_of_isReached hreceive hreached
    have hafter : SocketM.after request.run a =
        ⟨{ a.socket with lastError := some .later }, a.kernel⟩ := by
      simp only [SocketM.after, hrun]
    have hworld := hrequested.world
    rw [hafter] at hsocket hworld
    have hlater : (SocketM.after request.run a).kernel.history = a.kernel.history ++ [] := by
      rw [hafter, List.append_nil]
    obtain ⟨status, unwound, hsplit, -, hunwound⟩ := hrequested.exists_new hlater hnew
    rw [hrun] at hsplit hunwound
    have hkept : ∀ breach, Reply.ofResult (.error (.failed .later)
        (⟨{ a.socket with lastError := some .later }, a.kernel⟩ : Session)) ≠ .breached breach := by
      simp [Reply.ofResult, Reply.ofHalt]
    have hreactor := hrequested.ends.reactor
    rw [hrun] at hreactor
    rw [hunwound hkept] at hsplit
    refine .refused hlimit hmost hsplit hsocket ?_ hworld.registry (hreactor hkept)
    rw [hsocket]
    exact hworld.sockets
  | false =>
    obtain ⟨call, hcall, hfd, hsame, result, hhistory⟩ := Request.callsOnce_run hreceive hreached
    refine .served hreached hcall hfd (hrequested.callsOf_eq hhistory hnew) ?_
    rw [hsocket]
    exact hsame

/-! ## What a moment does to the slots -/

/-- What a moment does to the slots of a socket. They are free at its opening; after that it may
free them, and each call that it makes to receive for the socket uses one. -/
def slots (id : SocketId) (c d : Config) : List Slot :=
  match c.world.socket? id, d.world.socket? id with
  | _, none => []
  | none, some t => [.reset t.config.receiveLimit]
  | some s, some _ =>
    ((c.deed.newLimit? s).map .reset).toList ++
      if c.deed.concerned? = some id then List.replicate (receivesIn (c.recorded d)) .used else []

/-- What a moment does to the slots of a socket that is open before and after it. -/
inductive SlotTurn (c d : Config) (s t : Socket) : Prop
  | reset (slots : c.slots s.id d = [.reset t.receiveLimit]) (count : t.receiveCount = 0)
  | used (slots : c.slots s.id d = [.used]) (limit : t.receiveLimit = s.receiveLimit)
      (isLeft : s.receiveLimit.isReached s.receiveCount = false)
      (count : t.receiveCount = min (s.receiveCount + 1) maxReceiveCount)
  | untouched (slots : c.slots s.id d = []) (limit : t.receiveLimit = s.receiveLimit)
      (count : t.receiveCount = s.receiveCount)

/-- The slots of a socket that stays open, in a moment that concerns it. -/
theorem slots_of_concerned (hs : c.world.socket? id = some s) (ht : d.world.socket? id = some t)
    (hconcerned : c.deed.concerned? = some id) (hnew : d.history = c.history ++ new) :
    c.slots id d = ((c.deed.newLimit? s).map .reset).toList ++
      List.replicate (receivesIn new) .used := by
  simp only [slots, hs, ht, if_pos hconcerned, recorded_eq hnew]

/-- A request to the socket. -/
theorem slotTurn_of_request {request : Request} (h : c.next = some d)
    (hnew : d.history = c.history ++ new) (hdeed : c.deed = .request s request)
    (hs : c.world.socket? s.id = some s) (ht : d.world.socket? s.id = some t) :
    c.SlotTurn d s t := by
  have hslots := slots_of_concerned hs ht (congrArg Deed.concerned? hdeed) hnew
  rw [hdeed] at hslots
  by_cases hreceive : request.isReceive = true
  · have hkept : (Deed.request s request).newLimit? s = none := by
      cases request with
      | setReceiveLimit limit => simp [Request.isReceive] at hreceive
      | _ => rfl
    rw [hkept] at hslots
    cases receiveTurn_of_request h hnew hdeed hreceive hs ht with
    | refused limit isReached recorded socket sockets registry reactor =>
      rw [recorded] at hslots
      exact .untouched hslots (by rw [socket]) (by rw [socket])
    | served isLeft isReceive fd calls socket =>
      rw [receivesIn, calls, List.countP_singleton, if_pos isReceive] at hslots
      exact .used hslots (by rw [socket]) isLeft (by rw [socket])
  · -- a request of another kind makes no call that receives
    obtain ⟨a, hrequested⟩ := exists_requested h hdeed
    have hsocket := Option.some.inj (ht.symm.trans (hrequested.socket? hs))
    obtain ⟨later, hserves⟩ := request.serves_run a
    have hcalls := hrequested.callsOf_eq hserves.history hnew
    have hother : request.isReceive = false := Bool.eq_false_iff.2 hreceive
    have hnone : receivesIn new = 0 := by
      refine receivesIn_eq_zero fun call result hmem => ?_
      rw [hcalls] at hmem
      exact Request.kind_of_isReceive hother (request.kind_of_call hserves.history hmem)
    have hspares := request.spares_run a
    obtain rfl := hrequested.socket
    rw [hnone, List.replicate_zero, List.append_nil] at hslots
    cases request with
    | setReceiveLimit limit =>
      have hlimit : t.receiveLimit = limit := by
        rw [hsocket]
        rfl
      have hcount : t.receiveCount = 0 := by
        rw [hsocket]
        rfl
      simp only [Deed.newLimit?, ↓reduceIte, Option.map_some, Option.toList_some, ← hlimit]
        at hslots
      exact .reset hslots hcount
    | receive room | receiveFrom room | receiveFromTo room => exact absurd rfl hreceive
    | _ =>
      rw [← hsocket] at hspares
      exact .untouched hslots (hspares.receiveLimit rfl) (hspares.receiveCount rfl rfl)

/-- Readiness that is delivered. -/
theorem slotTurn_of_deliver {ready : Readiness} (h : c.next = some d) (hw : c.world.Orderly)
    (hnew : d.history = c.history ++ new) (hdeed : c.deed = .deliver s.id ready)
    (hs : c.world.socket? s.id = some s) (ht : d.world.socket? s.id = some t) :
    c.SlotTurn d s t := by
  have hslots := slots_of_concerned hs ht (congrArg Deed.concerned? hdeed) hnew
  obtain ⟨a, hdelivered⟩ := exists_delivered h hw hdeed hs
  have hsocket := Option.some.inj (ht.symm.trans (hdelivered.socket? hs))
  obtain ⟨hkept, later, hlater, hamong⟩ := a.keeps_delivered ready
  have hnone : receivesIn new = 0 := by
    refine receivesIn_eq_zero fun call result hmem => ?_
    rw [hdelivered.callsOf_eq hlater hnew] at hmem
    rw [List.mem_singleton.1 (kind_of_mem_callsOf hamong hmem)]
    rfl
  have hlimit : t.receiveLimit = s.receiveLimit := by
    rw [hsocket, hkept, hdelivered.socket]
  have hcount : t.receiveCount = 0 := by
    rw [hsocket, hkept, hdelivered.socket]
  simp only [hdeed, hnone, Deed.newLimit?, ↓reduceIte, Option.map_some, Option.toList_some,
    List.replicate_zero, List.append_nil, ← hlimit] at hslots
  exact .reset hslots hcount

/-- **A moment frees all slots of a socket, uses one, or leaves them alone.** -/
theorem slotTurn_of_next (h : c.next = some d) (hw : c.world.Orderly)
    (hs : c.world.socket? s.id = some s) (ht : d.world.socket? s.id = some t) :
    c.SlotTurn d s t := by
  rcases concerned_cases h hw hs ht with
    ⟨request, hdeed⟩ | ⟨ready, hdeed⟩ | ⟨hconcerned, hsteady⟩
  · obtain ⟨new, hnew, -⟩ := next_records h hw
    exact slotTurn_of_request h hnew hdeed hs ht
  · obtain ⟨new, hnew, -⟩ := next_records h hw
    exact slotTurn_of_deliver h hw hnew hdeed hs ht
  · have hslots : c.slots s.id d = [] := by
      simp only [slots, hs, ht, if_neg hconcerned, Deed.newLimit?_of_unconcerned hconcerned]
      rfl
    exact .untouched hslots hsteady.receiveLimit hsteady.receiveCount

/-! ## The slots of a run -/

/-- **The counter is the number of slots used since they were last freed**, up to its largest value,
and no more slots are ever used than the limit allows. -/
theorem counted_of_noted {kind : ReactorKind} {program : List Step} {log : List Slot}
    (h : Noted (slots id) (Config.initial kind program) c log) :
    Slot.Bounded log ∧
      ∀ s, c.world.socket? id = some s → Slot.Counts log s.receiveLimit s.receiveCount := by
  induction h with
  | start =>
    refine ⟨Slot.bounded_nil, fun s hs => ?_⟩
    simp [Config.initial, World.initial, World.socket?] at hs
  | @next c d log hbefore hnext ih =>
    obtain ⟨hbounded, hcounts⟩ := ih
    have hw := Reaches.orderly hbefore.reaches
    cases ht : d.world.socket? id with
    | none =>
      have hslots : c.slots id d = [] := by simp [slots, ht]
      rw [hslots, List.append_nil]
      exact ⟨hbounded, by simp⟩
    | some t =>
      -- the socket stays open, or it is new
      suffices hafter : Slot.Bounded (log ++ c.slots id d) ∧
          Slot.Counts (log ++ c.slots id d) t.receiveLimit t.receiveCount by
        refine ⟨hafter.1, fun t' ht' => ?_⟩
        rw [← Option.some.inj ht']
        exact hafter.2
      cases hs : c.world.socket? id with
      | none =>
        have hunused := (unused_of_opened hnext hw hs ht).1
        have hslots : c.slots id d = [.reset t.receiveLimit] := by
          simp only [slots, hs, ht, hunused.receiveLimit]
        rw [hslots, hunused.receiveCount]
        exact ⟨hbounded.reset _, Slot.counts_reset _ _⟩
      | some s =>
        obtain rfl := hw.id_eq hs
        cases slotTurn_of_next hnext hw hs ht with
        | reset slots count =>
          rw [slots, count]
          exact ⟨hbounded.reset _, Slot.counts_reset _ _⟩
        | untouched slots limit count =>
          rw [slots, List.append_nil, limit, count]
          exact ⟨hbounded, hcounts s hs⟩
        | used slots limit isLeft count =>
          rw [slots, limit, count]
          exact ⟨hbounded.used (hcounts s hs) isLeft, (hcounts s hs).used⟩

/-! ## Every run -/

/-- How the sockets of a run receive, up to a moment and in the next one. -/
structure Receives (start c : Config) : Prop where
  /-- A receive that is requested next is refused or makes one call. -/
  turn : ∀ s request, c.deed = .request s request → request.isReceive = true →
    ∃ d new t, c.next = some d ∧ d.history = c.history ++ new ∧
      d.world.socket? s.id = some t ∧ c.ReceiveTurn d new s t
  /-- The next moment frees all slots of a socket, uses one, or leaves them alone. -/
  slot : ∀ d s t, c.next = some d → c.world.socket? s.id = some s →
    d.world.socket? s.id = some t → c.SlotTurn d s t
  /-- Notes can be taken of the slots of every socket. -/
  noted : ∀ id, ∃ log, Noted (slots id) start c log
  /-- The counter is the number of slots used since they were last freed, up to its largest
  value. -/
  counted : ∀ id log s, Noted (slots id) start c log → c.world.socket? id = some s →
    Slot.Counts log s.receiveLimit s.receiveCount
  /-- Receives are refused if and only if so many slots are used as the limit allows. -/
  spent : ∀ id before most used s, most ≤ maxReceiveCount → c.world.socket? id = some s →
    Noted (slots id) start c (before ++ .reset (.perDispatch most) :: List.replicate used .used) →
    (s.receiveLimit.isReached s.receiveCount = true ↔ used = most)
  /-- Whenever slots were freed, no more were used after that than the limit allowed. -/
  bounded : ∀ id before most used rest, most ≤ maxReceiveCount →
    Noted (slots id) start c
      (before ++ .reset (.perDispatch most) :: (List.replicate used .used ++ rest)) →
    used ≤ most

/-- **Between two readiness reports no socket receives more often than its limit allows**, and what
it asks for beyond that is refused and changes nothing. -/
theorem receives_of_reaches {kind : ReactorKind} {program : List Step}
    (hrun : (Config.initial kind program).Reaches c) :
    Receives (Config.initial kind program) c := by
  have hw := Reaches.orderly hrun
  constructor
  · intro s request hdeed hreceive
    have hsome : c.deed ≠ .nothing := by simp [hdeed]
    obtain ⟨d, hnext⟩ := exists_next_of_deed hsome
    obtain ⟨new, hnew, -⟩ := next_records hnext hw
    have hs := open_of_request hw hdeed
    obtain ⟨a, hrequested⟩ := exists_requested hnext hdeed
    have ht := hrequested.socket? hs
    exact ⟨d, new, _, hnext, hnew, ht, receiveTurn_of_request hnext hnew hdeed hreceive hs ht⟩
  · intro d s t hnext hs ht
    exact slotTurn_of_next hnext hw hs ht
  · exact fun id => exists_noted (slots id) hrun
  · intro id log s hlog hs
    exact (counted_of_noted hlog).2 s hs
  · intro id before most used s hmost hs hlog
    obtain ⟨hbounded, hcounts⟩ := counted_of_noted hlog
    exact (hcounts s hs).isReached_iff hbounded hmost
  · intro id before most used rest hmost hlog
    have hprefix : before ++ .reset (.perDispatch most) :: List.replicate used .used <+:
        before ++ .reset (.perDispatch most) :: (List.replicate used .used ++ rest) :=
      ⟨rest, by simp⟩
    exact (counted_of_noted hlog).1 _ hprefix most used (Slot.tally_replicate _ _ _) hmost

end Config

/-! ### A limit of two -/

/-- A datagram socket may receive twice. Its first receive finds nothing, and the sender of the
second cannot be read; a third one is refused, and readiness allows another one. -/
def receivingProgram : List Step :=
  [.plain (.command (.openSocket "u" .ipv4 .datagram .standard)),
    .plain (.command (.request "u" (.receive 8))),
    ⟨.command (.request "u" (.receiveFrom 8)), .only .receiveFrom [.success { data := [1] }],
      ⟨none, true⟩⟩,
    .plain (.command (.request "u" (.receiveFromTo 8))),
    .plain (.fire 1 ⟨true, false, 0⟩),
    .plain (.command (.request "u" (.receiveFromTo 8)))]

/-- Both calls count although neither brought anything. The third receive makes no call. -/
theorem receives_when_limited :
    let start := Config.initial .retaining receivingProgram
    Config.Receives start (start.skip 3) ∧
      (∃ s t, (start.skip 3).deed = .request s (.receiveFromTo 8) ∧ s.receiveCount = 2 ∧
        (start.skip 4).world.socket? s.id = some t ∧
        (start.skip 3).ReceiveTurn (start.skip 4) [.began, .ended (.failed .later) none] s t) ∧
      Config.Noted (Config.slots 1) start (start.skip 9)
        [.reset (.perDispatch 2), .used, .used, .reset (.perDispatch 2), .used] := by
  have hreceives := Config.receives_of_reaches
    (Config.reaches_skip 3 (Config.initial .retaining receivingProgram))
  have hrefused : ((Config.initial .retaining receivingProgram).skip 4).history =
      ((Config.initial .retaining receivingProgram).skip 3).history ++
        [.began, .ended (.failed .later) none] :=
    rfl
  obtain ⟨d, new, t, hnext, hnew, ht, hturn⟩ := hreceives.turn _ (.receiveFromTo 8) rfl rfl
  obtain rfl : d = (Config.initial .retaining receivingProgram).skip 4 :=
    Option.some.inj (hnext.symm.trans rfl)
  rw [List.append_cancel_left (hnew.symm.trans hrefused)] at hturn
  have hnotes := Config.noted_notes (Config.slots 1) 9
    (Config.initial .retaining receivingProgram)
  exact ⟨hreceives, ⟨_, t, rfl, rfl, ht, hturn⟩, hnotes⟩

end SocketLoop
