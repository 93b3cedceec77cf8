import SocketLoop.Proofs.Run.Request

/-!
# What a moment can do to a connect

An idle socket becomes pending when the operating system leaves its connect in progress, a pending
one learns its outcome when it is reported ready for writing, and taking the outcome makes it idle
again. **`ConnectTurn`** lists all that a moment can do to the connect of a socket that stays open:
these three things, what is refused, what is over at once, and what changes nothing.
**`connectTurn_of_next`** says that there is nothing else.

A moment that concerns the socket is a request to it or a delivery to it, and each of these has its
own lemma here. All other moments keep the socket steady.
-/

namespace SocketLoop

/-- Connecting is signalled if it is enabled and the socket is ready for writing. -/
theorem EventSet.connect_mem_signalled {enabled : EventSet} {ready : Readiness} :
    SocketEvent.connect ∈ enabled.signalled ready ↔
      ready.write = true ∧ SocketEvent.connect ∈ enabled :=
  Bool.and_eq_true_iff

namespace Config

variable {c d : Config} {new : History} {s t : Socket} {id : SocketId}

/-- What a moment can do to the connect of a socket that is open before and after it. -/
inductive ConnectTurn (c d : Config) (new : History) (s t : Socket) : Prop
  /-- The moment is about something else. If it is about this socket, it makes no call for its
  connect. -/
  | untouched (unasked : ∀ request, c.deed = .request s request → request.isConnecting = false)
      (untold : ∀ ready, c.deed = .deliver s.id ready →
        ¬(ready.write = true ∧ SocketEvent.connect ∈ s.subscription.enabled))
      (silent : c.deed.concerned? = some s.id → ∀ call result, (call, result) ∈ callsOf new →
        call.kind ≠ .connect ∧ call.kind ≠ .pendingError)
      (same : t.connect = s.connect)
  /-- A connect is requested with no address, or in a state other than idle. -/
  | refused {addr : Address} (asked : c.deed = .request s (.connect addr))
      (isRefused : addr.toNative = none ∨ s.connect ≠ .idle) (silent : callsOf new = [])
      (reply : ∃ breach, replyOf? new = some (.breached breach)) (same : t.connect = s.connect)
  /-- A connect is requested, and it is over at once. -/
  | answered {addr : Address} {native : NativeAddress} {result : Except Errno Int}
      (asked : c.deed = .request s (.connect addr)) (isIdle : s.connect = .idle)
      (toNative : addr.toNative = some native)
      (calls : callsOf new = [(.connect s.fd native, result)])
      (isOver : result ≠ .error Errno.inProgress) (same : t.connect = .idle)
  /-- A connect is requested and left in progress. -/
  | started {addr : Address} {native : NativeAddress} (asked : c.deed = .request s (.connect addr))
      (isIdle : s.connect = .idle) (toNative : addr.toNative = some native)
      (calls : callsOf new = [(.connect s.fd native, .error Errno.inProgress)])
      (reply : replyOf? new = some (.failed .inProgress)) (moved : t.connect = .pending)
  /-- The outcome is requested where there is none. -/
  | untaken (asked : c.deed = .request s .connectResult)
      (isUnresolved : ∀ outcome, s.connect ≠ .resolved outcome) (silent : callsOf new = [])
      (reply : ∃ breach, replyOf? new = some (.breached breach)) (same : t.connect = s.connect)
  /-- The outcome is requested and given away. -/
  | taken {outcome : ConnectOutcome} (asked : c.deed = .request s .connectResult)
      (isResolved : s.connect = .resolved outcome)
      (ended : ∃ status, new = [.began, .ended (outcome.elim (.ok .done) .failed) status])
      (lastError : t.lastError = outcome) (moved : t.connect = .idle)
  /-- Connecting is signalled, but nothing was started. -/
  | unstarted {ready : Readiness} (told : c.deed = .deliver s.id ready)
      (isWritable : ready.write = true) (isEnabled : SocketEvent.connect ∈ s.subscription.enabled)
      (isIdle : s.connect = .idle) (silent : callsOf new = [])
      (breached : Breached c.history d.history) (same : t.connect = .idle)
  /-- Connecting is signalled, and the pending error tells the outcome. -/
  | settled {ready : Readiness} {code : Errno} {outcome : ConnectOutcome}
      (told : c.deed = .deliver s.id ready) (isWritable : ready.write = true)
      (isEnabled : SocketEvent.connect ∈ s.subscription.enabled) (isPending : s.connect = .pending)
      (calls : callsOf new = [(.pendingError s.fd, .ok code)])
      (outcome_eq : outcome = .ofPendingError code) (tells : Tells code outcome)
      (moved : t.connect = .resolved outcome)
  /-- Connecting is signalled, but the pending error cannot be read. -/
  | unreadable {ready : Readiness} {code : Errno} (told : c.deed = .deliver s.id ready)
      (isWritable : ready.write = true) (isEnabled : SocketEvent.connect ∈ s.subscription.enabled)
      (isPending : s.connect = .pending)
      (calls : callsOf new = [(.pendingError s.fd, .error code)])
      (breached : Breached c.history d.history) (same : t.connect = .pending)
  /-- Connecting is signalled again, before the outcome was taken. -/
  | signalledAgain {ready : Readiness} {outcome : ConnectOutcome}
      (told : c.deed = .deliver s.id ready) (isWritable : ready.write = true)
      (isEnabled : SocketEvent.connect ∈ s.subscription.enabled)
      (isResolved : s.connect = .resolved outcome) (silent : callsOf new = [])
      (same : t.connect = .resolved outcome)

/-! ### Requests -/

/-- A request to connect. -/
theorem connectTurn_of_connect {addr : Address} (h : c.next = some d)
    (hnew : d.history = c.history ++ new) (hdeed : c.deed = .request s (.connect addr))
    (hs : c.world.socket? s.id = some s) (ht : d.world.socket? s.id = some t) :
    c.ConnectTurn d new s t := by
  obtain ⟨a, hrequested⟩ := exists_requested h hdeed
  have hsocket := Option.some.inj (ht.symm.trans (hrequested.socket? hs))
  have hreply := hrequested.replyOf?_eq hnew
  have hcalls (later : History)
      (hlater : (SocketM.after (Request.connect addr).run a).kernel.history =
        a.kernel.history ++ later) : callsOf new = callsOf later :=
    hrequested.callsOf_eq hlater hnew
  have hrun := Request.run_connect a addr
  obtain rfl := hrequested.socket
  simp only [SocketM.after, hrun] at hsocket hcalls
  rw [hrun] at hreply
  cases hnative : addr.toNative with
  | none =>
    simp only [hnative] at hsocket hreply hcalls
    have hsilent := hcalls [] (List.append_nil _).symm
    exact .refused hdeed (.inl hnative) hsilent ⟨_, hreply⟩ (congrArg _ hsocket)
  | some native =>
    simp only [hnative] at hsocket hreply hcalls
    by_cases hidle : a.socket.connect = .idle
    · rw [if_pos hidle] at hreply
      simp only [if_pos hidle] at hsocket hcalls
      have hhistory := a.kernel.history_call (.connect a.socket.fd native)
      rcases hcall : a.kernel.call (.connect a.socket.fd native) with
        ⟨code | completion, kernel⟩ <;> rw [hcall] at hhistory
      · simp only [hcall] at hsocket hreply hcalls
        by_cases hcode : code = Errno.inProgress
        · subst hcode
          exact .started hdeed hidle hnative (hcalls _ hhistory) hreply (congrArg _ hsocket)
        · simp only [if_neg hcode] at hsocket hcalls
          have hover : (Except.error code : Except Errno Int) ≠ .error Errno.inProgress :=
            fun heq => hcode (Except.error.inj heq)
          exact .answered hdeed hidle hnative (hcalls _ hhistory) hover
            ((congrArg Socket.connect hsocket).trans hidle)
      · simp only [hcall] at hsocket hcalls
        exact .answered hdeed hidle hnative (hcalls _ hhistory) (by simp [Except.map])
          ((congrArg Socket.connect hsocket).trans hidle)
    · rw [if_neg hidle] at hreply
      simp only [if_neg hidle] at hsocket hcalls
      have hsilent := hcalls [] (List.append_nil _).symm
      exact .refused hdeed (.inr hidle) hsilent ⟨_, hreply⟩ (congrArg _ hsocket)

/-- A request for the outcome of a connect. -/
theorem connectTurn_of_connectResult (h : c.next = some d) (hnew : d.history = c.history ++ new)
    (hdeed : c.deed = .request s .connectResult) (hs : c.world.socket? s.id = some s)
    (ht : d.world.socket? s.id = some t) : c.ConnectTurn d new s t := by
  obtain ⟨a, hrequested⟩ := exists_requested h hdeed
  have hsocket := Option.some.inj (ht.symm.trans (hrequested.socket? hs))
  have hreply := hrequested.replyOf?_eq hnew
  have hrun := Request.run_connectResult a
  obtain rfl := hrequested.socket
  have hlater : (SocketM.after Request.connectResult.run a).kernel.history =
      a.kernel.history ++ [] := by
    rw [List.append_nil]
    simp only [SocketM.after, hrun]
    rcases a.socket.connect with _ | _ | _ | error <;> rfl
  have hsilent : callsOf new = [] := hrequested.callsOf_eq hlater hnew
  obtain ⟨status, unwound, hsplit, -, hunwound⟩ := hrequested.exists_new hlater hnew
  simp only [SocketM.after, hrun] at hsocket
  rw [hrun] at hreply hunwound hsplit
  cases hstate : a.socket.connect with
  | idle =>
    simp only [hstate] at hsocket hreply
    exact .untaken hdeed (by simp [hstate]) hsilent ⟨_, hreply⟩ (congrArg _ hsocket)
  | pending =>
    simp only [hstate] at hsocket hreply
    exact .untaken hdeed (by simp [hstate]) hsilent ⟨_, hreply⟩ (congrArg _ hsocket)
  | resolved outcome =>
    cases outcome with
    | none =>
      simp only [hstate] at hsocket hunwound hsplit
      rw [hunwound (by simp [Reply.ofResult])] at hsplit
      exact .taken hdeed hstate ⟨status, hsplit⟩ (congrArg _ hsocket) (congrArg _ hsocket)
    | some error =>
      simp only [hstate] at hsocket hunwound hsplit
      rw [hunwound (by simp [Reply.ofResult, Reply.ofHalt])] at hsplit
      exact .taken hdeed hstate ⟨status, hsplit⟩ (congrArg _ hsocket) (congrArg _ hsocket)

/-- A request that has nothing to do with connecting. -/
theorem connectTurn_of_request {request : Request} (h : c.next = some d)
    (hnew : d.history = c.history ++ new) (hdeed : c.deed = .request s request)
    (hother : request.isConnecting = false) (hs : c.world.socket? s.id = some s)
    (ht : d.world.socket? s.id = some t) : c.ConnectTurn d new s t := by
  obtain ⟨a, hrequested⟩ := exists_requested h hdeed
  have hsocket := Option.some.inj (ht.symm.trans (hrequested.socket? hs))
  obtain ⟨later, hserves⟩ := request.serves_run a
  have hcalls := hrequested.callsOf_eq hserves.history hnew
  have hspares := request.spares_run a
  obtain rfl := hrequested.socket
  refine .untouched ?_ ?_ ?_ ?_
  · intro request' hdeed'
    rw [hdeed] at hdeed'
    rwa [← (Deed.request.inj hdeed').2]
  · intro ready hdeed'
    simp [hdeed] at hdeed'
  · intro _ call result hmem
    rw [hcalls] at hmem
    exact Request.kind_of_isConnecting hother (request.kind_of_call hserves.history hmem)
  · rw [hsocket]
    exact hspares.connect hother

/-! ### Deliveries -/

/-- Readiness that is delivered. -/
theorem connectTurn_of_deliver {ready : Readiness} (h : c.next = some d) (hw : c.world.Orderly)
    (hnew : d.history = c.history ++ new) (hdeed : c.deed = .deliver s.id ready)
    (hs : c.world.socket? s.id = some s) (ht : d.world.socket? s.id = some t) :
    c.ConnectTurn d new s t := by
  obtain ⟨a, hdelivered⟩ := exists_delivered h hw hdeed hs
  have hsocket := Option.some.inj (ht.symm.trans (hdelivered.socket? hs))
  have hcalls (later : History)
      (hlater : (a.delivered ready).2.kernel.history = a.kernel.history ++ later) :
      callsOf new = callsOf later :=
    hdelivered.callsOf_eq hlater hnew
  have hbreached := hdelivered.breached
  have hsubscription : a.socket.subscription = s.subscription := by rw [hdelivered.socket]
  have hconnect : a.socket.connect = s.connect := by rw [hdelivered.socket]
  have hfd : a.socket.fd = s.fd := by rw [hdelivered.socket]
  simp only [Session.delivered, hsubscription] at hsocket hcalls hbreached
  by_cases hsignalled : SocketEvent.connect ∈ s.subscription.enabled.signalled ready
  · obtain ⟨hwritable, henabled⟩ := EventSet.connect_mem_signalled.1 hsignalled
    simp only [if_pos hsignalled, Session.settleConnect, hconnect, hfd] at hsocket hcalls hbreached
    cases hstate : s.connect with
    | idle =>
      simp only [hstate] at hsocket hcalls hbreached
      have hsilent := hcalls [] (List.append_nil _).symm
      exact .unstarted hdeed hwritable henabled hstate hsilent (hbreached _ rfl)
        (by rw [hsocket, hconnect, hstate])
    | resolved outcome =>
      simp only [hstate] at hsocket hcalls
      have hsilent := hcalls [] (List.append_nil _).symm
      exact .signalledAgain hdeed hwritable henabled hstate hsilent
        (by rw [hsocket, hconnect, hstate])
    | pending =>
      have hhistory := a.kernel.history_call (.pendingError s.fd)
      rcases hcall : a.kernel.call (.pendingError s.fd) with ⟨code | completion, kernel⟩ <;>
        rw [hcall] at hhistory <;> simp only [hstate, hcall] at hsocket hcalls hbreached
      · exact .unreadable hdeed hwritable henabled hstate (hcalls _ hhistory) (hbreached _ rfl)
          (by rw [hsocket, hconnect, hstate])
      · exact .settled hdeed hwritable henabled hstate (hcalls _ hhistory) rfl
          (tells_ofPendingError _) (congrArg _ hsocket)
  · simp only [if_neg hsignalled] at hsocket hcalls
    have hsilent : callsOf new = [] := hcalls [] (List.append_nil _).symm
    refine .untouched ?_ ?_ ?_ ?_
    · intro request hdeed'
      simp [hdeed] at hdeed'
    · intro ready' hdeed'
      rw [hdeed] at hdeed'
      obtain rfl := (Deed.deliver.inj hdeed').2
      exact fun hmem => hsignalled (EventSet.connect_mem_signalled.2 hmem)
    · intro _ call result hmem
      simp [hsilent] at hmem
    · rw [hsocket, hconnect]

/-! ### All moments -/

/-- **All that a moment can do to the connect** of a socket that stays open. -/
theorem connectTurn_of_next (h : c.next = some d) (hw : c.world.Orderly)
    (hnew : d.history = c.history ++ new) (hs : c.world.socket? s.id = some s)
    (ht : d.world.socket? s.id = some t) : c.ConnectTurn d new s t := by
  rcases concerned_cases h hw hs ht with
    ⟨request, hdeed⟩ | ⟨ready, hdeed⟩ | ⟨hconcerned, hsteady⟩
  · by_cases hconnecting : request.isConnecting = false
    · exact connectTurn_of_request h hnew hdeed hconnecting hs ht
    · cases request with
      | connect addr => exact connectTurn_of_connect h hnew hdeed hs ht
      | connectResult => exact connectTurn_of_connectResult h hnew hdeed hs ht
      | _ => exact absurd rfl hconnecting
  · exact connectTurn_of_deliver h hw hnew hdeed hs ht
  · refine .untouched ?_ ?_ (fun heq => absurd heq hconcerned) hsteady.connect
    · intro request hdeed
      exact absurd (congrArg Deed.concerned? hdeed) hconcerned
    · intro ready hdeed
      exact absurd (congrArg Deed.concerned? hdeed) hconcerned

end Config

end SocketLoop
