import SocketLoop.Proofs.Run.Passive
import SocketLoop.Proofs.Run.Sound
import SocketLoop.Proofs.Run.Undisturbed
import SocketLoop.Proofs.Socket.PacketInfo

/-!
# A global handler is told what handlers for single events are told

Readiness is dispatched in two ways. A global handler gets the whole set of events in one call, and
nothing is looked up any more. Handlers for single events are called one after the other, and at
each turn it is looked up whether the event is still enabled and who handles it. As long as handlers
perform no operation this makes no difference.

* `Socket.Alike` relates two sockets that differ in their identity and in their handlers.
* `Session.delivered_alike`: the same readiness and the same answer to the query for the pending
  error lead to the same breach, or to none, and to sockets that are alike again.
* `Config.Concludes` follows a delivery to its end, which is the only one (`Concludes.unique`).
* **`Config.modes_agree`**: a socket with a global handler and one with handlers for single events
  deliver the same events, or neither delivers any, and they are alike afterwards.
-/

namespace SocketLoop

/-! ## Sockets that are alike -/

/-- Two sockets differ at most in their identity, their descriptor, their registration and their
handlers. -/
structure Socket.Alike (s t : Socket) : Prop where
  family : t.family = s.family
  cls : t.cls = s.cls
  config : t.config = s.config
  packetInfo : t.packetInfo = s.packetInfo
  lastError : t.lastError = s.lastError
  enabled : t.subscription.enabled = s.subscription.enabled
  connect : t.connect = s.connect
  receiveLimit : t.receiveLimit = s.receiveLimit
  receiveCount : t.receiveCount = s.receiveCount

/-- The query for the pending error is answered alike for all descriptors. -/
theorem Kernel.result_pendingError {kernel kernel' : Kernel} (fd fd' : Fd)
    (hanswer : (kernel'.script.next .pendingError).1 = (kernel.script.next .pendingError).1) :
    (kernel'.call (.pendingError fd')).1 = (kernel.call (.pendingError fd)).1 := by
  rw [SocketM.result_call, SocketM.result_call]
  have hkinds : (kernel'.script.next (Syscall.pendingError fd').kind).1 =
      (kernel.script.next (Syscall.pendingError fd).kind).1 := hanswer
  rw [hkinds]
  rfl

/-- **Readiness means the same to sockets that are alike.** -/
theorem Session.delivered_alike {a b : Session} (h : a.socket.Alike b.socket) (ready : Readiness)
    (hanswer : (b.kernel.script.next .pendingError).1 = (a.kernel.script.next .pendingError).1) :
    (b.delivered ready).1 = (a.delivered ready).1 ∧
      (a.delivered ready).2.socket.Alike (b.delivered ready).2.socket := by
  unfold delivered
  rw [h.enabled]
  split
  · have hresult := Kernel.result_pendingError a.socket.fd b.socket.fd hanswer
    unfold settleConnect
    cases hstate : a.socket.connect with
    | idle =>
      simp only [hstate, h.connect.trans hstate]
      exact ⟨trivial, h⟩
    | resolved outcome =>
      simp only [hstate, h.connect.trans hstate]
      exact ⟨trivial, h⟩
    | pending =>
      rcases hcall : a.kernel.call (.pendingError a.socket.fd) with ⟨result, kernel⟩
      rcases hcall' : b.kernel.call (.pendingError b.socket.fd) with ⟨result', kernel'⟩
      obtain rfl : result' = result := by rwa [hcall, hcall'] at hresult
      simp only [hstate, h.connect.trans hstate, hcall, hcall']
      cases result' with
      | error code => exact ⟨rfl, h⟩
      | ok completion => exact ⟨rfl, { h with connect := rfl }⟩
  · exact ⟨rfl, h⟩

namespace Config

variable {b c d e : Config} {token : Token} {id : SocketId} {ready : Readiness}

/-! ## Deliveries that come to their end -/

/-- The delivery of readiness that the next moment begins comes to its end: a breach breaks it off
at once, or all that is due has been dispatched and the callback has returned to where it was
called. -/
inductive Concludes (id : SocketId) (ready : Readiness) (c : Config) :
    Except Breach EventSet → Config → Prop
  | broken {b e : Config} {token : Token} {breach : Breach}
      (calls : CallsBack c b token (.socket id) ready)
      (reported : ((b.enterCallback token).world.deliver id ready).1 = .error breach)
      (next : c.next = some e) : Concludes id ready c (.error breach) e
  | returned {b e : Config} {token : Token} {due : EventSet}
      (calls : CallsBack c b token (.socket id) ready)
      (reported : ((b.enterCallback token).world.deliver id ready).1 = .ok due)
      (next : c.next = some (b.callBack token (.socket id) ready))
      (returns : Returns b.stack (b.callBack token (.socket id) ready) e) :
      Concludes id ready c (.ok due) e

/-- A moment calls one callback, from one place. -/
theorem CallsBack.unique {b' : Config} {token' : Token} {callback callback' : Callback}
    {ready' : Readiness} (h : CallsBack c b token callback ready)
    (h' : CallsBack c b' token' callback' ready') : b = b' ∧ token = token' := by
  have hsame := Option.some.inj (h.callback?.symm.trans h'.callback?)
  refine ⟨?_, congrArg Prod.fst hsame⟩
  cases h with
  | wake hstack hwoken =>
    cases h' with
    | wake hstack' hwoken' =>
      obtain ⟨hframe, rfl⟩ := List.cons.inj (hstack.symm.trans hstack')
      obtain ⟨hpending, rfl, rfl⟩ := Frame.wake.inj hframe
      obtain ⟨-, rfl⟩ := List.cons.inj hpending
      rfl
    | fire hbegins' haction' hfired' =>
      obtain ⟨_, _, _, _, hstack', -⟩ := hbegins'.stack
      exact absurd (hstack.symm.trans hstack') (by simp)
  | fire hbegins haction hfired =>
    obtain ⟨hstack⟩ := hbegins
    cases h' with
    | wake hstack' hwoken' => exact absurd (hstack.symm.trans hstack') (by simp)
    | fire hbegins' haction' hfired' =>
      obtain ⟨hstack'⟩ := hbegins'
      obtain ⟨hframe, rfl⟩ := List.cons.inj (hstack.symm.trans hstack')
      obtain ⟨hsteps, rfl, rfl⟩ := Frame.steps.inj hframe
      obtain ⟨rfl, rfl⟩ := List.cons.inj hsteps
      rfl

/-- A delivery has one end. -/
theorem Concludes.unique {result result' : Except Breach EventSet}
    (h : c.Concludes id ready result d) (h' : c.Concludes id ready result' e) :
    result = result' ∧ d = e := by
  cases h with
  | broken hcalls hreported hnext =>
    cases h' with
    | broken hcalls' hreported' hnext' =>
      obtain ⟨rfl, rfl⟩ := hcalls.unique hcalls'
      exact ⟨hreported.symm.trans hreported', Option.some.inj (hnext.symm.trans hnext')⟩
    | returned hcalls' hreported' hnext' hreturns' =>
      obtain ⟨rfl, rfl⟩ := hcalls.unique hcalls'
      exact absurd (hreported.symm.trans hreported') nofun
  | returned hcalls hreported hnext hreturns =>
    cases h' with
    | broken hcalls' hreported' hnext' =>
      obtain ⟨rfl, rfl⟩ := hcalls.unique hcalls'
      exact absurd (hreported.symm.trans hreported') nofun
    | returned hcalls' hreported' hnext' hreturns' =>
      obtain ⟨rfl, rfl⟩ := hcalls.unique hcalls'
      exact ⟨hreported.symm.trans hreported', hreturns.unique hreturns'⟩

/-! ## Dispatching to passive handlers -/

/-- **A passive global handler** is called once with all that is due, if anything is due. -/
theorem exists_returns_of_global {handler : HandlerRef} (due : EventSet)
    (hglobal : c.world.globalHandler? id = some handler)
    (hpassive : (c.handlerOf handler).IsPassive) : ∃ d, Returns c.stack (c.dispatch id due) d ∧
      OnlyCalls (if due = ∅ then [] else [(handler, .events id due)]) c d := by
  by_cases hempty : due = ∅
  · rw [if_pos hempty, hempty]
    exact ⟨c, ⟨.refl, rfl⟩, .refl c⟩
  · have hdispatch : c.dispatch id due = c.invoke handler (.events id due) := by
      unfold dispatch
      rw [if_neg (mt (EventSet.isEmpty_iff due).1 hempty), hglobal]
    rw [if_neg hempty, hdispatch]
    exact exists_returns_of_passive c (.events id due) hpassive

/-- **Passive handlers for single events** are called for all that is due, one after the other, if
all of it is enabled and has a handler. -/
theorem exists_returns_of_single {s : Socket} {due : EventSet} (hw : c.world.Orderly)
    (hs : c.world.socket? id = some s) (hsingle : s.subscription.handlers.global? = none)
    (henabled : ∀ event ∈ due.events, event ∈ s.subscription.enabled)
    (hinstalled : ∀ event ∈ due.events, ∃ handler,
      s.subscription.handlers.get? event = some handler ∧ (c.handlerOf handler).IsPassive) :
    ∃ d entries, Returns c.stack (c.dispatch id due) d ∧ OnlyCalls entries c d ∧
      List.Forall₂ (CalledFor id s.subscription.handlers) due.events entries := by
  by_cases hempty : due = ∅
  · rw [hempty]
    exact ⟨c, [], ⟨.refl, rfl⟩, .refl c, .nil⟩
  · have hdispatch : c.dispatch id due = { c with stack := .batch id due.events :: c.stack } := by
      unfold dispatch
      rw [if_neg (mt (EventSet.isEmpty_iff due).1 hempty),
        World.globalHandler?_of_open hw hs, hsingle]
    obtain ⟨d, entries, hreturns, hcalls, hentries⟩ := exists_returns_of_batch
      (c := { c with stack := .batch id due.events :: c.stack }) hw rfl hs henabled hinstalled
    rw [hdispatch]
    exact ⟨d, entries, hreturns, ⟨hcalls.world, hcalls.entered, hcalls.passive⟩, hentries⟩

/-! ## The end of a delivery -/

namespace CallsBack

variable {w : World}

/-- Delivering readiness keeps the numbers in order, and calls no handler. -/
theorem deliver (h : CallsBack c b token (.socket id) ready) (hw : c.world.Orderly) :
    ((b.enterCallback token).world.deliver id ready).2.Orderly ∧
      RecordsEntries [] c.history
        ((b.enterCallback token).world.deliver id ready).2.kernel.history := by
  have hfits := (fits_deed hw).quiet h.quiet
  have hsilent := (grows_run hw h.quiet).mono fun e he => he.1
  rw [h.deed_socket] at hfits hsilent
  exact ⟨(Deed.acts_run _ _ hfits).orderly (hw.quiet h.quiet), .of_grows hsilent⟩

/-- After a breach nothing is dispatched. -/
theorem concludes_of_error {breach : Breach} (h : CallsBack c b token (.socket id) ready)
    (hnext : c.next = some (b.callBack token (.socket id) ready))
    (hdeliver : (b.enterCallback token).world.deliver id ready = (.error breach, w)) :
    ∃ e, c.Concludes id ready (.error breach) e ∧ w.Quiet Event.IsMark e.world := by
  have hreport : b.callBack token (.socket id) ready =
      Config.unwind breach { b.enterCallback token with world := w }
        (b.enterCallback token).stack := by
    simp only [callBack, report, hdeliver]
  rw [hreport] at hnext
  have hunwound := quiet_unwind { b.enterCallback token with world := w } breach
    (b.enterCallback token).stack
  exact ⟨_, .broken h (congrArg Prod.fst hdeliver) hnext, hunwound⟩

/-- When all has been dispatched, the callback returns. -/
theorem concludes_of_ok {due : EventSet} {entries : List (HandlerRef × Notice)}
    (h : CallsBack c b token (.socket id) ready)
    (hnext : c.next = some (b.callBack token (.socket id) ready))
    (hdeliver : (b.enterCallback token).world.deliver id ready = (.ok due, w))
    (hreturns : Returns (.callback token :: b.stack)
      (dispatch { b.enterCallback token with world := w } id due) d)
    (hcalled : OnlyCalls entries { b.enterCallback token with world := w } d) :
    ∃ e, c.Concludes id ready (.ok due) e ∧ w.Quiet Event.IsBracket e.world ∧
      RecordsEntries entries w.kernel.history e.history := by
  have hreport : b.callBack token (.socket id) ready =
      dispatch { b.enterCallback token with world := w } id due := by
    simp only [callBack, report, hdeliver]
  have hstack := hreturns.stack
  have hleave : d.next = some (leaveCallback { d with stack := b.stack } token) := by
    simp only [next, hstack]
  have hleft : OnlyCalls [] d (leaveCallback { d with stack := b.stack } token) :=
    .of_marks (quiet_leaveCallback { d with stack := b.stack } token) rfl
  have hall := hcalled.trans hleft
  rw [List.append_nil] at hall
  refine ⟨_, .returned h (congrArg Prod.fst hdeliver) hnext ?_, hall.world, hall.entered⟩
  rw [hreport]
  exact hreturns.trans (List.suffix_cons _ _) (.head hstack hleave ⟨.refl, rfl⟩)

end CallsBack

/-- A delivery of readiness to an open socket: the session in which it is carried out, its end, and
the handlers that are called if there is no breach. -/
structure DeliveryRun (c : Config) (s : Socket) (ready : Readiness)
    (Called : List (HandlerRef × Notice) → Prop) (a : Session) (e : Config) : Prop where
  socket : a.socket = { s with receiveCount := 0 }
  answers : a.kernel.script = c.answers
  concludes : c.Concludes s.id ready
    ((a.delivered ready).1.map fun _ => s.subscription.enabled.signalled ready) e
  after : e.world.socket? s.id = some (a.delivered ready).2.socket
  broken : ∀ breach, (a.delivered ready).1 = .error breach → entriesOf (c.recorded e) = []
  told : (a.delivered ready).1 = .ok () → Called (entriesOf (c.recorded e))

/-- The session in which a callback delivers readiness to an open socket. -/
def deliverySession (b : Config) (token : Token) (s : Socket) : Session :=
  ⟨{ s with receiveCount := 0 }, (b.enterCallback token).world.kernel⟩

section Open

variable {s : Socket} {Called : List (HandlerRef × Notice) → Prop} {session : Session}

/-- What a delivery leaves, if the socket is open. -/
theorem CallsBack.deliver_of_open (h : CallsBack c b token (.socket s.id) ready)
    (hw : c.world.Orderly) (hs : c.world.socket? s.id = some s) {result : Except Breach Unit}
    (hresult : (b.deliverySession token s).delivered ready = (result, session)) :
    (b.enterCallback token).world.deliver s.id ready =
        (result.map fun _ => s.subscription.enabled.signalled ready,
          (b.enterCallback token).world.restore session) ∧
      ((b.enterCallback token).world.restore session).socket? s.id = some session.socket ∧
      session.socket.subscription = s.subscription := by
  have hopen := (h.quiet.socket? s.id).trans hs
  have hdeliver := World.deliver_of_open (hw.quiet h.quiet) hopen ready
  have hkept := (Session.keeps_delivered ready (b.deliverySession token s)).socket
  unfold deliverySession at hresult hkept
  rw [hresult] at hdeliver hkept
  have hid : session.socket.id = s.id := by rw [hkept]
  exact ⟨hdeliver, World.socket?_restore hopen hid, by rw [hkept]⟩

/-- A delivery that a breach breaks off. -/
theorem CallsBack.exists_deliveryRun_of_error (h : CallsBack c b token (.socket s.id) ready)
    (hnext : c.next = some (b.callBack token (.socket s.id) ready)) (hw : c.world.Orderly)
    (hs : c.world.socket? s.id = some s) {breach : Breach}
    (hresult : (b.deliverySession token s).delivered ready = (.error breach, session)) :
    ∃ e, c.DeliveryRun s ready Called (b.deliverySession token s) e := by
  obtain ⟨hdeliver, hafter, -⟩ := h.deliver_of_open hw hs hresult
  obtain ⟨e, hconcludes, hquiet⟩ := h.concludes_of_error hnext hdeliver
  have hsilent := (h.deliver hw).2
  rw [hdeliver] at hsilent
  have hunwound := hquiet.history.mono fun e he => he.isPlain.1
  refine ⟨e, rfl, h.answers, ?_, ?_, ?_, ?_⟩
  · rwa [hresult]
  · rw [hresult]
    exact (hquiet.socket? s.id).trans hafter
  · intro _ _
    exact entriesOf_recorded (hsilent.trans (.of_grows hunwound))
  · intro hok
    rw [hresult] at hok
    exact absurd hok nofun

/-- A delivery whose events are dispatched. -/
theorem CallsBack.exists_deliveryRun_of_ok (h : CallsBack c b token (.socket s.id) ready)
    (hnext : c.next = some (b.callBack token (.socket s.id) ready)) (hw : c.world.Orderly)
    (hs : c.world.socket? s.id = some s)
    (hresult : (b.deliverySession token s).delivered ready = (.ok (), session))
    {entries : List (HandlerRef × Notice)}
    (hreturns : Returns (.callback token :: b.stack) (dispatch { b.enterCallback token with
      world := (b.enterCallback token).world.restore session } s.id
        (s.subscription.enabled.signalled ready)) d)
    (hcalled : OnlyCalls entries { b.enterCallback token with
      world := (b.enterCallback token).world.restore session } d)
    (hentries : Called entries) :
    ∃ e, c.DeliveryRun s ready Called (b.deliverySession token s) e := by
  obtain ⟨hdeliver, hafter, -⟩ := h.deliver_of_open hw hs hresult
  obtain ⟨e, hconcludes, hquiet, hentered⟩ := h.concludes_of_ok hnext hdeliver hreturns hcalled
  have hsilent := (h.deliver hw).2
  rw [hdeliver] at hsilent
  refine ⟨e, rfl, h.answers, ?_, ?_, ?_, ?_⟩
  · rwa [hresult]
  · rw [hresult]
    exact (hquiet.socket? s.id).trans hafter
  · intro breach herror
    rw [hresult] at herror
    exact absurd herror nofun
  · intro _
    rwa [entriesOf_recorded (hsilent.trans hentered)]

/-- **A delivery comes to its end** if dispatching does. -/
theorem exists_deliveryRun (hw : c.world.Orderly)
    (hcallback : c.callback? = some (token, .socket s.id, ready))
    (hs : c.world.socket? s.id = some s)
    (hdispatch : ∀ b t, b.world.Orderly → b.world.socket? s.id = some t →
      t.subscription = s.subscription → (∀ handler, b.handlerOf handler = c.handlerOf handler) →
        ∃ d entries, Returns b.stack (b.dispatch s.id (s.subscription.enabled.signalled ready)) d ∧
          OnlyCalls entries b d ∧ Called entries) :
    ∃ a e, c.DeliveryRun s ready Called a e := by
  obtain ⟨b, hcalls, hnext⟩ := exists_callsBack hcallback
  refine ⟨b.deliverySession token s, ?_⟩
  cases hresult : (b.deliverySession token s).delivered ready with
  | mk result session =>
    cases result with
    | error breach => exact hcalls.exists_deliveryRun_of_error hnext hw hs hresult
    | ok done =>
      obtain ⟨hdeliver, hafter, hsubscription⟩ := hcalls.deliver_of_open hw hs hresult
      have horderly := (hcalls.deliver hw).1
      rw [hdeliver] at horderly
      obtain ⟨d, entries, hreturns, hcalled, hentries⟩ := hdispatch { b.enterCallback token with
        world := (b.enterCallback token).world.restore session } _
        horderly hafter hsubscription hcalls.handlerOf
      exact hcalls.exists_deliveryRun_of_ok hnext hw hs hresult hreturns hcalled hentries

end Open

/-! ## The two modes -/

/-- Readiness is delivered to a socket with a global handler and to one with handlers for single
events, and it makes no difference. -/
structure SameDelivery (handler : HandlerRef) (s s' : Socket) (ready : Readiness)
    (c e c' e' : Config) (result result' : Except Breach EventSet) : Prop where
  /-- Both are broken off by the same breach, or neither is. -/
  result_eq : result' = result
  /-- After a breach no handler was called. -/
  broken : ∀ breach, result = .error breach →
    entriesOf (c.recorded e) = [] ∧ entriesOf (c'.recorded e') = []
  /-- What is due is enabled and signalled, and it is no more than its events. -/
  due : ∀ due, result = .ok due →
    due = s.subscription.enabled.signalled ready ∧ due.other = 0
  /-- It was given to the global handler in one call, if it is not empty. -/
  global : ∀ due, result = .ok due → entriesOf (c.recorded e) =
    if due = ∅ then [] else [(handler, .events s.id due)]
  /-- Each of its events was given to the handler for it, in the order of delivery. -/
  single : ∀ due, result = .ok due → List.Forall₂ (CalledFor s'.id s'.subscription.handlers)
    due.events (entriesOf (c'.recorded e'))
  /-- Afterwards the sockets are alike, as before. -/
  after : ∃ t t', e.world.socket? s.id = some t ∧ e'.world.socket? s'.id = some t' ∧ t.Alike t'

variable {kind kind' : ReactorKind} {program program' : List Step} {c' : Config} {s s' : Socket}
  {token' : Token} {handler : HandlerRef}

/-- In every run, enabled events have handlers, unless there is a global one. -/
theorem exists_handler_of_reaches (hrun : (Config.initial kind program).Reaches c)
    (hs : c.world.socket? id = some s) (hsingle : s.subscription.handlers.global? = none)
    {event : SocketEvent} (hevent : event ∈ s.subscription.enabled) :
    ∃ handler, s.subscription.handlers.get? event = some handler := by
  have hsound := Reaches.invariant (I := fun w => ∀ id s, w.socket? id = some s → s.Sound) hrun
    (World.Orderly.initial kind) (fun _ _ _ hact _ => hact.sound) fun id s hs => by
      simp [Config.initial, World.initial, World.socket?] at hs
  have hsupports := (hsound id s hs).subscription.supports
  cases hhandlers : s.subscription.handlers with
  | empty =>
    rw [hhandlers] at hsupports
    have hnone : s.subscription.enabled = ∅ := hsupports
    rw [hnone, EventSet.mem_iff, EventSet.contains_empty] at hevent
    exact absurd hevent Bool.false_ne_true
  | global installed =>
    rw [hhandlers] at hsingle
    exact absurd hsingle (Option.some_ne_none installed)
  | perEvent handlers =>
    rw [hhandlers] at hsupports
    exact Option.isSome_iff_exists.1 (hsupports.2.2 event hevent)

/-- A delivery to a socket with a passive global handler. -/
theorem exists_deliveryRun_of_global (hw : c.world.Orderly)
    (hcallback : c.callback? = some (token, .socket s.id, ready))
    (hs : c.world.socket? s.id = some s) (hglobal : s.subscription.handlers = .global handler)
    (hpassive : (c.handlerOf handler).IsPassive) :
    ∃ a e, c.DeliveryRun s ready (fun entries => entries =
      if s.subscription.enabled.signalled ready = ∅ then []
      else [(handler, .events s.id (s.subscription.enabled.signalled ready))]) a e := by
  apply exists_deliveryRun hw hcallback hs
  intro b t hb ht hsubscription hhandlers
  have hinstalled : b.world.globalHandler? s.id = some handler := by
    rw [World.globalHandler?_of_open hb ht, hsubscription, hglobal]
    rfl
  rw [← hhandlers] at hpassive
  obtain ⟨d, hreturns, hcalls⟩ := exists_returns_of_global
    (s.subscription.enabled.signalled ready) hinstalled hpassive
  exact ⟨d, _, hreturns, hcalls, rfl⟩

/-- A delivery to a socket with passive handlers for single events. -/
theorem exists_deliveryRun_of_single (hrun : (Config.initial kind program).Reaches c)
    (hcallback : c.callback? = some (token, .socket s.id, ready))
    (hs : c.world.socket? s.id = some s) (hsingle : s.subscription.handlers.global? = none)
    (hpassive : ∀ event handler, s.subscription.handlers.get? event = some handler →
      (c.handlerOf handler).IsPassive) :
    ∃ a e, c.DeliveryRun s ready (List.Forall₂ (CalledFor s.id s.subscription.handlers)
      (s.subscription.enabled.signalled ready).events) a e := by
  apply exists_deliveryRun (Reaches.orderly hrun) hcallback hs
  intro b t hb ht hsubscription hhandlers
  have henabled (event : SocketEvent)
      (hevent : event ∈ (s.subscription.enabled.signalled ready).events) :
      event ∈ s.subscription.enabled :=
    EventSet.mem_of_mem_signalled (EventSet.mem_events.1 hevent)
  have hinstalled (event : SocketEvent)
      (hevent : event ∈ (s.subscription.enabled.signalled ready).events) : ∃ handler,
        s.subscription.handlers.get? event = some handler ∧ (b.handlerOf handler).IsPassive := by
    obtain ⟨handler, hget⟩ := exists_handler_of_reaches hrun hs hsingle (henabled event hevent)
    refine ⟨handler, hget, ?_⟩
    rw [hhandlers]
    exact hpassive event handler hget
  generalize s.subscription.enabled.signalled ready = due at henabled hinstalled ⊢
  rw [← hsubscription] at hsingle henabled hinstalled ⊢
  exact exists_returns_of_single hb ht hsingle henabled hinstalled

/-- Deliveries that are carried out alike are the same. -/
theorem DeliveryRun.same {a a' : Session} {e' : Config} (halike : s.Alike s')
    (h : c.DeliveryRun s ready (fun entries => entries =
      if s.subscription.enabled.signalled ready = ∅ then []
      else [(handler, .events s.id (s.subscription.enabled.signalled ready))]) a e)
    (h' : c'.DeliveryRun s' ready (List.Forall₂ (CalledFor s'.id s'.subscription.handlers)
      (s'.subscription.enabled.signalled ready).events) a' e')
    (hanswer : (c'.answers.next .pendingError).1 = (c.answers.next .pendingError).1) :
    SameDelivery handler s s' ready c e c' e'
      ((a.delivered ready).1.map fun _ => s.subscription.enabled.signalled ready)
      ((a'.delivered ready).1.map fun _ => s'.subscription.enabled.signalled ready) := by
  have hsockets : a.socket.Alike a'.socket := by
    rw [h.socket, h'.socket]
    exact { halike with receiveCount := rfl }
  rw [← h.answers, ← h'.answers] at hanswer
  obtain ⟨hresult, hafter⟩ := Session.delivered_alike hsockets ready hanswer
  have htold := h'.told
  have hbroken := h'.broken
  rw [hresult] at htold hbroken
  rw [halike.enabled] at htold ⊢
  rw [hresult]
  have hpeers : ∃ t t', e.world.socket? s.id = some t ∧ e'.world.socket? s'.id = some t' ∧
      t.Alike t' := ⟨_, _, h.after, h'.after, hafter⟩
  cases houtcome : (a.delivered ready).1 with
  | error breach =>
    exact ⟨rfl, fun _ _ => ⟨h.broken breach houtcome, hbroken breach houtcome⟩, nofun, nofun, nofun,
      hpeers⟩
  | ok done =>
    refine ⟨rfl, nofun, fun due hdue => ?_, fun due hdue => ?_, fun due hdue => ?_, hpeers⟩ <;>
      obtain rfl := Except.ok.inj hdue
    · exact ⟨rfl, rfl⟩
    · exact h.told houtcome
    · exact htold houtcome

/-- **A global handler is told what handlers for single events are told.** Take any two moments of
any two runs at which the same readiness is delivered, to a socket with a global handler and to one
with handlers for single events, where the sockets are alike in everything else, the handlers
perform no operation, and the query for the pending error would be answered alike. Both deliveries
come to their end, and they are the same. -/
theorem modes_agree (hrun : (Config.initial kind program).Reaches c)
    (hrun' : (Config.initial kind' program').Reaches c')
    (hcallback : c.callback? = some (token, .socket s.id, ready))
    (hcallback' : c'.callback? = some (token', .socket s'.id, ready))
    (hs : c.world.socket? s.id = some s) (hs' : c'.world.socket? s'.id = some s')
    (halike : s.Alike s') (hglobal : s.subscription.handlers = .global handler)
    (hsingle : s'.subscription.handlers.global? = none)
    (hpassive : (c.handlerOf handler).IsPassive)
    (hpassive' : ∀ event handler', s'.subscription.handlers.get? event = some handler' →
      (c'.handlerOf handler').IsPassive)
    (hanswer : (c'.answers.next .pendingError).1 = (c.answers.next .pendingError).1) :
    (∃ result e, c.Concludes s.id ready result e) ∧
      (∃ result' e', c'.Concludes s'.id ready result' e') ∧
      ∀ result e result' e', c.Concludes s.id ready result e →
        c'.Concludes s'.id ready result' e' →
          SameDelivery handler s s' ready c e c' e' result result' := by
  obtain ⟨a, d, hdelivery⟩ := exists_deliveryRun_of_global (Reaches.orderly hrun) hcallback hs
    hglobal hpassive
  obtain ⟨a', d', hdelivery'⟩ := exists_deliveryRun_of_single hrun' hcallback' hs' hsingle hpassive'
  refine ⟨⟨_, d, hdelivery.concludes⟩, ⟨_, d', hdelivery'.concludes⟩, ?_⟩
  intro result e result' e' hend hend'
  -- the ends are those that were found
  obtain ⟨rfl, rfl⟩ := hdelivery.concludes.unique hend
  obtain ⟨rfl, rfl⟩ := hdelivery'.concludes.unique hend'
  exact hdelivery.same halike hdelivery' hanswer

end Config

/-! ### Readiness in both directions -/

/-- A stream socket gets its handlers and is reported ready in both directions. -/
def readyProgram (changes : List (Change HandlerCode)) : List Step :=
  .plain (.command (.openSocket "a" .ipv4 .stream .standard)) ::
    changes.map (fun change => .plain (.command (.change "a" change))) ++
      [.plain (.fire 1 ⟨true, true, 0⟩)]

/-- A global handler, which asks the socket about itself. -/
def globalChanges : List (Change HandlerCode) :=
  [.addGlobal [[.plain (.command (.info "a"))]], .setGlobal ⟨true, true, false, false, 0⟩]

/-- Two handlers for the same events, which do nothing. -/
def singleChanges : List (Change HandlerCode) :=
  [.addHandler .read [], .addHandler .write [], .enable .read, .enable .write]

/-- The socket when it is reported ready. -/
def readySocket (handlers : Handlers) : Socket where
  id := 1
  fd := 100
  token := 1
  family := .ipv4
  cls := .stream
  config := .standard
  packetInfo := false
  lastError := none
  subscription := ⟨handlers, ⟨true, true, false, false, 0⟩⟩
  connect := .idle
  receiveLimit := .perDispatch 2
  receiveCount := 0

/-- The global handler is called once with both events, and the handlers for single events are
called one after the other. -/
theorem modes_agree_when_ready :
    let c := (Config.initial .retaining (readyProgram globalChanges)).skip 3
    let c' := (Config.initial .retaining (readyProgram singleChanges)).skip 5
    let s := readySocket (.global 0)
    let s' := readySocket (.perEvent ⟨some 0, some 1, none, none⟩)
    (∃ result e result' e', c.Concludes 1 ⟨true, true, 0⟩ result e ∧
      c'.Concludes 1 ⟨true, true, 0⟩ result' e' ∧
      Config.SameDelivery 0 s s' ⟨true, true, 0⟩ c e c' e' result result') ∧
      entriesOf (c.recorded (c.skip 4)) = [(0, .events 1 ⟨true, true, false, false, 0⟩)] ∧
      entriesOf (c'.recorded (c'.skip 7)) = [(0, .event 1 .read), (1, .event 1 .write)] := by
  intro c c' s s'
  have hcallback : c.callback? = some (1, .socket s.id, ⟨true, true, 0⟩) := by decide
  have hcallback' : c'.callback? = some (1, .socket s'.id, ⟨true, true, 0⟩) := by decide
  have hs : c.world.socket? s.id = some s := by decide
  have hs' : c'.world.socket? s'.id = some s' := by decide
  have hpassive : (c.handlerOf 0).IsPassive := by
    intro steps hsteps step hstep
    obtain rfl := List.mem_singleton.1 hsteps
    obtain rfl := List.mem_singleton.1 hstep
    exact ⟨_, rfl, trivial⟩
  have hpassive' (event : SocketEvent) (handler : HandlerRef)
      (hget : s'.subscription.handlers.get? event = some handler) :
      (c'.handlerOf handler).IsPassive := by
    cases event with
    | read =>
      obtain rfl := Option.some.inj hget
      exact fun steps hsteps => absurd hsteps List.not_mem_nil
    | write =>
      obtain rfl := Option.some.inj hget
      exact fun steps hsteps => absurd hsteps List.not_mem_nil
    | accept => exact absurd hget nofun
    | connect => exact absurd hget nofun
  have hanswers : c.answers = .blank := rfl
  have hanswers' : c'.answers = .blank := rfl
  obtain ⟨⟨result, e, hend⟩, ⟨result', e', hend'⟩, hsame⟩ := Config.modes_agree
    (Config.reaches_skip 3 (Config.initial .retaining (readyProgram globalChanges)))
    (Config.reaches_skip 5 (Config.initial .retaining (readyProgram singleChanges)))
    hcallback hcallback' hs hs' (by constructor <;> rfl) rfl rfl hpassive hpassive'
    (by rw [hanswers, hanswers'])
  exact ⟨⟨result, e, result', e', hend, hend', hsame _ _ _ _ hend hend'⟩, by decide, by decide⟩

end SocketLoop
