import SocketLoop.Proofs.Run.Connect
import SocketLoop.Proofs.Run.Making
import SocketLoop.Proofs.Run.Undisturbed
import SocketLoop.Proofs.Socket.Reporting

/-!
# What a socket remembers of its errors

**`Config.remembers_of_reaches`**: in every run, the last error of a socket is what its last
operation reported: nothing if it returned, and otherwise the error that it told, which is among
those documented for it. Nobody else touches the last error: not a change of the subscription, not a
new receive limit, and not a delivery in which the handlers do nothing.

An outcome of a connect is told long after it was learned. That it is among the documented ones is
an invariant of runs (`Config.outcomeListed_of_reaches`).
-/

namespace SocketLoop

/-! ## Outcomes that are kept -/

namespace Config

variable {c d e : Config} {s t : Socket} {id : SocketId}

/-- What a moment does to the connect of a socket keeps its outcome documented. -/
theorem ConnectTurn.outcomeListed {new : History} (h : c.ConnectTurn d new s t)
    (hs : s.OutcomeListed) : t.OutcomeListed := by
  intro error herror
  have hkept (hsame : t.connect = s.connect) :
      error ∈ Operation.connectResult.errors t.cls :=
    hs error (hsame.symm.trans herror)
  cases h with
  | untouched _ _ _ same => exact hkept same
  | refused _ _ _ _ same => exact hkept same
  | untaken _ _ _ _ same => exact hkept same
  | signalledAgain _ _ _ isResolved _ same => exact hkept (same.trans isResolved.symm)
  | answered _ _ _ _ _ same => simp [same] at herror
  | started _ _ _ _ _ moved => simp [moved] at herror
  | taken _ _ _ _ moved => simp [moved] at herror
  | unstarted _ _ _ _ _ _ same => simp [same] at herror
  | unreadable _ _ _ _ _ _ same => simp [same] at herror
  | settled _ _ _ _ _ _ tells moved =>
    obtain rfl := ConnectState.resolved.inj (moved.symm.trans herror)
    exact tells.mem_errors t.cls

/-- **The outcome that an open socket keeps is documented** at every moment of every run. -/
theorem outcomeListed_of_reaches {kind : ReactorKind} {program : List Step}
    (hrun : (Config.initial kind program).Reaches c) (hs : c.world.socket? id = some s) :
    s.OutcomeListed := by
  induction hrun generalizing s with
  | refl => simp [Config.initial, World.initial, World.socket?] at hs
  | @tail b c hrun hnext ih =>
    have hw := Reaches.orderly hrun
    cases hbefore : b.world.socket? id with
    | none =>
      intro error herror
      simp [(unused_of_opened hnext hw hbefore hs).1.connect] at herror
    | some old =>
      obtain ⟨new, hnew, -, -⟩ := next_records hnext hw
      have hid : old.id = id := hw.id_eq hbefore
      have hturn := connectTurn_of_next hnext hw hnew (hw.socket?_id hbefore) (hid ▸ hs)
      exact hturn.outcomeListed (ih hbefore)

/-! ## What a moment reports -/

/-- An operation reported with its reply what is the last error of its socket now. -/
inductive Reports (new : History) (errors : List SocketError) (t : Socket) : Prop
  | returned {value : Value} (reply : replyOf? new = some (.ok value))
      (lastError : t.lastError = none)
  | failed {error : SocketError} (reply : replyOf? new = some (.failed error))
      (isListed : error ∈ errors) (lastError : t.lastError = some error)
  /-- The operation did not return. -/
  | breached {breach : Breach} (reply : replyOf? new = some (.breached breach))

/-- A request reports. -/
theorem exists_reports_of_request {kind : ReactorKind} {program : List Step} {request : Request}
    (hrun : (Config.initial kind program).Reaches c) (hdeed : c.deed = .request s request)
    (hfallible : request.isLimiting = false) :
    ∃ d t, c.next = some d ∧ d.world.socket? s.id = some t ∧
      Reports (c.recorded d) (request.errors s.cls) t := by
  have hw := Reaches.orderly hrun
  have hopen := open_of_request hw hdeed
  obtain ⟨d, hnext⟩ := c.exists_next_of_deed (by simp [hdeed])
  obtain ⟨new, hnew, -, -⟩ := next_records hnext hw
  obtain ⟨a, hrequested⟩ := exists_requested hnext hdeed
  have hsocket := hrequested.socket? hopen
  have hreply := hrequested.replyOf?_eq hnew
  refine ⟨d, _, hnext, hsocket, ?_⟩
  rw [recorded_eq hnew]
  obtain rfl := hrequested.socket
  have hreports := request.reports_run hfallible (outcomeListed_of_reaches hrun hopen)
  simp only [SocketM.after]
  generalize request.run a = ended at hreports hreply
  cases hreports with
  | returned lastError => exact .returned hreply lastError
  | failed isListed lastError => exact .failed hreply isListed lastError
  | breached => exact .breached hreply

end Config

/-- What accepting fails with is documented. -/
theorem World.mem_errors_of_accept {w w' : World} {listener : Socket} {error : SocketError}
    (h : accept listener w = .error (.failed error) w') :
    error ∈ Operation.accept.errors listener.cls := by
  have hready := SocketM.reports_acceptReady (P := fun _ => True) ⟨listener, w.kernel⟩ rfl trivial
  unfold accept perform at h
  cases hresult : SocketM.acceptReady ⟨listener, w.kernel⟩ with
  | error halt session =>
    simp only [hresult] at h hready
    cases h
    cases hready with
    | failed isListed _ => exact isListed
  | ok connection session =>
    obtain ⟨fd, peer⟩ := connection
    obtain ⟨later, hadopts⟩ := exists_adopts
      ⟨fd, listener.family, listener.cls, listener.config, false⟩ (w.restore session)
    simp only [hresult] at h
    cases hadopt : adopt ⟨fd, listener.family, listener.cls, listener.config, false⟩
      (w.restore session) with
    | ok id w₁ => simp [hadopt] at h
    | error halt w₁ =>
      rw [hadopt] at h hadopts
      cases hadopts
      cases h
      simp [Operation.errors]

namespace Config

variable {c d e : Config} {s t : Socket} {id : SocketId}

/-- Accepting a connection reports. -/
theorem exists_reports_of_accept {kind : ReactorKind} {program : List Step}
    (hrun : (Config.initial kind program).Reaches c) (hdeed : c.deed = .accept s) :
    ∃ d t, c.next = some d ∧ d.world.socket? s.id = some t ∧
      Reports (c.recorded d) (Operation.accept.errors s.cls) t := by
  have hw := Reaches.orderly hrun
  obtain ⟨d, hnext⟩ := c.exists_next_of_deed (by simp [hdeed])
  obtain ⟨new, hnew, -, -⟩ := next_records hnext hw
  obtain ⟨w, reply, hcarried⟩ := exists_carriedOut hnext (congrArg Deed.isCommanded hdeed)
  have hsocket : c.deed.socket? = some s := congrArg Deed.socket? hdeed
  refine ⟨d, ?_⟩
  rw [recorded_eq hnew]
  cases hcarried.makes_accept hrun hnew hdeed with
  | @failed error reply_eq _ unmade =>
    refine ⟨_, hnext, unmade.listener s hsocket, .failed reply_eq ?_ rfl⟩
    have hreplied := hcarried.replied
    obtain rfl := Option.some.inj ((hcarried.replyOf?_eq hw hnew).symm.trans reply_eq)
    simp only [hdeed, Deed.reply?, WorldM.reply, Option.some.injEq] at hreplied
    cases haccept : World.accept s w with
    | ok _ _ => simp [haccept] at hreplied
    | error halt w' =>
      cases halt with
      | failed error' =>
        simp only [haccept, Reply.ofHalt, Reply.failed.injEq] at hreplied
        subst hreplied
        exact World.mem_errors_of_accept haccept
      | breached breach => simp [haccept, Reply.ofHalt] at hreplied
  | unreadable _ reply_eq unmade =>
    exact ⟨_, hnext, unmade.listener s hsocket, .breached reply_eq⟩
  | @made reply id reply_eq handsOut _ made =>
    refine ⟨_, hnext, made.listener s hsocket, ?_⟩
    cases reply with
    | ok value => exact .returned reply_eq rfl
    | _ => simp [Reply.newId?] at handsOut

/-! ## What is no operation -/

/-- A change of the subscription leaves the last error alone. -/
theorem lastError_of_change {change : Change HandlerRef} (hw : c.world.Orderly)
    (hdeed : c.deed = .change s change) (hnext : c.next = some d) :
    ∃ t, d.world.socket? s.id = some t ∧ t.lastError = s.lastError := by
  obtain ⟨w, hbefore, hafter⟩ := next_world hnext
  have hopen : w.socket? s.id = some s := by
    have hfits := (fits_deed hw).quiet hbefore
    rw [hdeed] at hfits
    exact hfits s rfl
  rw [hdeed] at hafter
  rw [hafter.socket?]
  refine World.subscribe_rule w
    (B := fun w => ∃ t, w.socket? s.id = some t ∧ t.lastError = s.lastError)
    ⟨s, hopen, rfl⟩ (fun subscription _ _ => ?_) fun subscription _ _ => ?_
  · exact ⟨_, World.socket?_restore hopen rfl, rfl⟩
  · exact ⟨_, World.socket?_restore hopen rfl, rfl⟩

/-- A new receive limit leaves the last error alone. -/
theorem lastError_of_setReceiveLimit {limit : ReceiveLimit} (hw : c.world.Orderly)
    (hdeed : c.deed = .request s (.setReceiveLimit limit)) (hnext : c.next = some d) :
    ∃ t, d.world.socket? s.id = some t ∧ t.lastError = s.lastError := by
  obtain ⟨a, hrequested⟩ := exists_requested hnext hdeed
  refine ⟨_, hrequested.socket? (open_of_request hw hdeed), ?_⟩
  obtain rfl := hrequested.socket
  rfl

/-- A delivery in which nothing else is done leaves the last error alone. -/
theorem lastError_of_undisturbed {ready : Readiness} (hw : c.world.Orderly)
    (h : c.Undisturbed id ready e) (hs : c.world.socket? id = some s) :
    ∃ t, e.world.socket? id = some t ∧ t.lastError = s.lastError := by
  obtain ⟨w, hdoes⟩ := h.exists_does
  have hworld := hdoes.world
  have hopen : w.socket? id = some s := (hdoes.quiet.socket? id).trans hs
  rw [h.deed, Deed.run, World.deliver_of_open (hw.quiet hdoes.quiet) hopen] at hworld
  have hkept := (Session.keeps_delivered ready ⟨{ s with receiveCount := 0 }, w.kernel⟩).socket
  have hid : s.id = id := hw.id_eq hs
  have hsame := congrArg Socket.lastError hkept
  refine ⟨_, (hworld.socket? id).trans (World.socket?_restore hopen ?_), hsame⟩
  exact (congrArg Socket.id hkept).trans hid

/-- The sockets of a configuration remember what their operations report. -/
structure Remembers (c : Config) : Prop where
  /-- An operation reports what it leaves as the last error, and no other errors than documented. -/
  request : ∀ s request, c.deed = .request s request → request.isLimiting = false →
    ∃ d t, c.next = some d ∧ d.world.socket? s.id = some t ∧
      Reports (c.recorded d) (request.errors s.cls) t
  /-- So does accepting a connection. -/
  accept : ∀ s, c.deed = .accept s →
    ∃ d t, c.next = some d ∧ d.world.socket? s.id = some t ∧
      Reports (c.recorded d) (Operation.accept.errors s.cls) t
  change : ∀ s change d, c.deed = .change s change → c.next = some d →
    ∃ t, d.world.socket? s.id = some t ∧ t.lastError = s.lastError
  setReceiveLimit : ∀ s limit d, c.deed = .request s (.setReceiveLimit limit) → c.next = some d →
    ∃ t, d.world.socket? s.id = some t ∧ t.lastError = s.lastError
  delivery : ∀ s id ready e, c.world.socket? id = some s → c.Undisturbed id ready e →
    ∃ t, e.world.socket? id = some t ∧ t.lastError = s.lastError

/-- **Sockets remember what their operations report**, in every run and whatever the system
answers. -/
theorem remembers_of_reaches {kind : ReactorKind} {program : List Step}
    (hrun : (Config.initial kind program).Reaches c) : c.Remembers where
  request _ _ hdeed hfallible := exists_reports_of_request hrun hdeed hfallible
  accept _ hdeed := exists_reports_of_accept hrun hdeed
  change _ _ _ hdeed hnext := lastError_of_change (Reaches.orderly hrun) hdeed hnext
  setReceiveLimit _ _ _ hdeed hnext :=
    lastError_of_setReceiveLimit (Reaches.orderly hrun) hdeed hnext
  delivery _ _ _ _ hs h := lastError_of_undisturbed (Reaches.orderly hrun) h hs

end Config

/-! ### A late failure -/

/-- The reactor refuses the connection that a stream socket accepts. Then the socket is reported
ready, and its handler asks it about itself. -/
def rememberingProgram : List Step :=
  [.plain (.command (.openSocket "l" .ipv4 .stream .standard)),
    .plain (.command (.change "l" (.addHandler .accept [[.plain (.command (.info "l"))]]))),
    .plain (.command (.change "l" (.enable .accept))),
    ⟨.command (.accept "l" "a"),
      { answers := fun kind => if kind = .accept then
          [.success { address := ⟨[2, 0, 31, 144, 127, 0, 0, 1], 16⟩ }] else []
        registrations := [some .io] }, ⟨none, false⟩⟩,
    .plain (.fire 1 ⟨true, false, 0⟩)]

/-- Accepting cleared the last error before it failed, and the failure is what is remembered. The
delivery leaves it alone. -/
theorem remembers_when_refused :
    let c := (Config.initial .retaining rememberingProgram).skip 3
    let d := c.skip 1
    (∃ s t, c.next = some d ∧ c.deed = .accept s ∧ d.world.socket? s.id = some t ∧
        Config.Reports (c.recorded d) [.later, .unknown] t ∧ t.lastError = some .unknown) ∧
      ∃ s t, d.world.socket? 1 = some s ∧ (d.skip 6).world.socket? 1 = some t ∧
        t.lastError = s.lastError ∧ s.lastError = some .unknown := by
  have hrefused := Config.remembers_of_reaches
    (Config.reaches_skip 3 (Config.initial .retaining rememberingProgram))
  have hready := Config.remembers_of_reaches
    (Config.reaches_skip 4 (Config.initial .retaining rememberingProgram))
  obtain ⟨d, t, hnext, ht, hreports⟩ := hrefused.accept _ rfl
  obtain rfl : ((Config.initial .retaining rememberingProgram).skip 3).skip 1 = d :=
    Option.some.inj (Eq.trans rfl hnext)
  -- the handler is called, asks and returns; then the batch and the callback end
  have hidle : Config.Undisturbed 1 ⟨true, false, 0⟩
      ((Config.initial .retaining rememberingProgram).skip 4)
      (((Config.initial .retaining rememberingProgram).skip 4).skip 6) :=
    .mk (.fire (.mk rfl) rfl rfl) rfl <|
      .head ⟨rfl, ⟨[.callback 1], rfl⟩, rfl⟩ <|
      .head ⟨rfl, ⟨[.batch 1 [], .callback 1], rfl⟩, rfl⟩ <|
      .head ⟨rfl, ⟨[.batch 1 [], .callback 1], rfl⟩, rfl⟩ <|
      .head ⟨rfl, ⟨[.callback 1], rfl⟩, rfl⟩ <|
      .head ⟨rfl, ⟨[], rfl⟩, rfl⟩ .refl
  obtain ⟨u, hu, hsame⟩ := hready.delivery _ 1 _ _ rfl hidle
  refine ⟨⟨_, t, rfl, rfl, ht, hreports, ?_⟩, _, u, rfl, hu, hsame, rfl⟩
  exact congrArg (fun s? : Option Socket => s?.bind (·.lastError)) ht.symm

end SocketLoop
