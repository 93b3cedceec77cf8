import SocketLoop.Proofs.Run.Tokens

/-!
# No callback is entered twice

A callback can wait itself, so that wakes are nested in callbacks and callbacks in wakes. The marks
of running callbacks keep one from being entered again, and they are taken away on every way out.

* **`next_marked`**: the marks are the callbacks on the stack, each of which is there once.
* **`next_table`**: the table changes only in moments that carry out a command, and in none that
  ends in a breach.
* **`callbacks_of_reaches`**: what a wake does with a callback that is running, and what is left
  when the outermost wake has come to its end.
-/

namespace SocketLoop

/-- The callback that a frame belongs to. -/
def Frame.callbackToken? : Frame → Option Token
  | .callback token => some token
  | _ => none

/-- The callbacks on a stack, the innermost first. -/
def runningOn (frames : List Frame) : List Token :=
  frames.filterMap Frame.callbackToken?

/-- What is left of a stack has no callbacks but those that it had. -/
theorem runningOn_sublist {frames rest : List Frame} (h : rest <:+ frames) :
    (runningOn rest).Sublist (runningOn frames) :=
  h.sublist.filterMap _

namespace Config

variable {c d b : Config}

/-- The callbacks that are running. -/
def running (c : Config) : List Token :=
  runningOn c.stack

/-- The marks of a reactor are the callbacks on some frames, each of which is there once. -/
structure MarkedOn (c : Config) (frames : List Frame) : Prop where
  active : c.world.reactor.active = runningOn frames
  nodup : (runningOn frames).Nodup

/-- The marks are the callbacks on the stack, each of which is there once. -/
abbrev Marked (c : Config) : Prop :=
  c.MarkedOn c.stack

/-- Marks stay right as long as neither they nor the callbacks change. -/
theorem MarkedOn.of_same {frames frames' : List Frame} (h : c.MarkedOn frames)
    (hactive : d.world.reactor.active = c.world.reactor.active)
    (hframes : runningOn frames' = runningOn frames) : d.MarkedOn frames' := by
  refine ⟨?_, ?_⟩
  · rw [hactive, hframes, h.active]
  · rw [hframes]
    exact h.nodup

/-! ## Ending and unwinding -/

/-- Leaving steps touches no mark. -/
theorem active_leaveSteps (c : Config) (script : Script) (isHandler : Bool) :
    (c.leaveSteps script isHandler).world.reactor.active = c.world.reactor.active := by
  cases isHandler <;> rfl

/-- The mark of the innermost callback is taken away with it. -/
theorem MarkedOn.leaveCallback {token : Token} {rest : List Frame}
    (h : c.MarkedOn (.callback token :: rest)) : (c.leaveCallback token).MarkedOn rest := by
  have hactive : c.world.reactor.active = token :: runningOn rest := h.active
  have hnodup : (token :: runningOn rest).Nodup := h.nodup
  refine ⟨?_, (List.nodup_cons.1 hnodup).2⟩
  change c.world.reactor.active.erase token = runningOn rest
  rw [hactive, List.erase_cons_head]

/-- **Unwinding takes away the marks of all callbacks that it leaves.** -/
theorem MarkedOn.unwind {frames : List Frame} (h : c.MarkedOn frames) (breach : Breach) :
    (c.unwind breach frames).Marked := by
  induction frames generalizing c with
  | nil => exact h.of_same rfl rfl
  | cons frame rest ih =>
    cases frame with
    | steps _ script isHandler => exact ih (h.of_same (active_leaveSteps c script isHandler) rfl)
    | batch _ _ => exact ih (h.of_same rfl rfl)
    | callback token => exact ih h.leaveCallback
    | wake _ _ ending =>
      rcases ending with ⟨_, _ | _⟩
      · exact ih (h.of_same rfl rfl)
      · exact h.of_same rfl rfl
    | fire ending =>
      rcases ending with ⟨_, _ | _⟩
      · exact ih (h.of_same rfl rfl)
      · exact h.of_same rfl rfl

/-- Ending a step leaves the marks right. -/
theorem MarkedOn.endStep (h : c.Marked) (reply : Reply) (ending : StepEnding) :
    (c.endStep reply ending).Marked := by
  unfold Config.endStep
  split
  · split
    · exact h.of_same rfl rfl
    · exact MarkedOn.unwind (c := c.record _) (h.of_same rfl rfl) _
  · exact h.of_same rfl rfl

/-! ## Calling -/

/-- Dispatching calls a handler or begins a batch, and no callback. -/
theorem MarkedOn.dispatch (h : c.Marked) (id : SocketId) (events : EventSet) :
    (c.dispatch id events).Marked := by
  unfold Config.dispatch
  split
  · exact h
  · split
    · exact h.of_same rfl rfl
    · exact h.of_same rfl rfl

/-- A callback that is called is marked. -/
theorem MarkedOn.callBack (h : c.Marked) {token : Token}
    (hidle : c.world.reactor.isActive token = false) (callback : Callback) (ready : Readiness) :
    (c.callBack token callback ready).Marked := by
  have hfresh : token ∉ c.running := by
    rw [running, ← h.active, ← List.contains_iff_mem]
    exact fun hmem => Bool.false_ne_true (hidle.symm.trans hmem)
  have hentered : (c.enterCallback token).Marked :=
    ⟨congrArg (token :: ·) h.active, List.nodup_cons.2 ⟨hfresh, h.nodup⟩⟩
  cases callback with
  | direct handler => exact hentered.of_same rfl rfl
  | socket id =>
    have hreactor := (World.leavesReactor_deliver (c.enterCallback token).world id ready).reactor
    have hdelivered (world : World)
        (hsame : world.reactor = (c.enterCallback token).world.reactor) :
        ({ c.enterCallback token with world } : Config).Marked :=
      hentered.of_same (congrArg Reactor.active hsame) rfl
    unfold Config.callBack Config.report
    dsimp only
    split <;> rename_i hdeliver <;> rw [hdeliver] at hreactor
    · exact (hdelivered _ hreactor).dispatch _ _
    · exact (hdelivered _ hreactor).unwind _

/-! ## The next moment -/

variable {limit : Nat} {program : List Step}

/-- A command leaves the marks and the stack alone. -/
theorem MarkedOn.execute (h : c.Marked) (hw : c.world.Orderly)
    (hkind : c.world.reactor.kind = .polling limit) (command : Command HandlerCode) :
    (c.execute command).2.Marked := by
  obtain ⟨_, -, hanswers⟩ := (c.commandDeed command).answers_run hw hkind
  have hactive := hanswers.active
  rw [← world_execute] at hactive
  exact h.of_same hactive (congrArg runningOn (boundedBy_execute c command).1)

/-- A step that begins leaves the marks right. -/
theorem Begins.marked {step : Step} (h : Begins c b step) (hmarked : c.Marked) : b.Marked := by
  obtain ⟨hstack⟩ := h
  refine hmarked.of_same rfl ?_
  rw [hstack]
  rfl

/-- A wait leaves the marks right, whether it fails or begins a wake. -/
theorem MarkedOn.runOnce (h : c.Marked) (timeout : Option Duration) (ending : StepEnding) :
    (c.runOnce timeout ending).Marked := by
  have hreactor := (World.leavesReactor_wait c.world timeout).reactor
  unfold Config.runOnce
  split
  · exact h.endStep _ _
  · split <;> rename_i hwait <;> rw [hwait] at hreactor
    · exact h.of_same (congrArg Reactor.active hreactor) rfl
    · exact MarkedOn.endStep (c := { c with world := _ })
        (h.of_same (congrArg Reactor.active hreactor) rfl) _ _

/-- **The marks are the callbacks on the stack** after every moment. -/
theorem next_marked (h : c.next = some d) (hw : c.world.Orderly)
    (hkind : c.world.reactor.kind = .polling limit) (hmarked : c.Marked) : d.Marked := by
  -- frame by frame, as `Moment` does not tell apart the moments in which frames are only left
  have hleft {frame : Frame} {rest : List Frame} (hstack : c.stack = frame :: rest)
      (hframe : frame.callbackToken? = none) : c.MarkedOn rest := by
    refine hmarked.of_same rfl ?_
    rw [hstack]
    exact (List.filterMap_cons_none hframe).symm
  unfold Config.next at h
  split at h
  · simp at h
  · rename_i script isHandler rest hstack
    obtain rfl := Option.some.inj h
    refine (hleft hstack rfl).of_same (active_leaveSteps _ script isHandler) ?_
    rw [stack_leaveSteps]
  · rename_i step steps script isHandler rest hstack
    obtain rfl := Option.some.inj h
    have hbegins := Begins.mk hstack
    have hbegan := hbegins.marked hmarked
    have hkind' := hbegins.quiet.kind.trans hkind
    unfold takeStep
    dsimp only
    split
    · exact (hbegan.execute (hw.quiet hbegins.quiet) hkind' _).endStep _ _
    · exact hbegan.runOnce _ _
    · unfold Config.fire
      rw [hkind']
      exact hbegan.endStep _ _
  · rename_i hstack
    obtain rfl := Option.some.inj h
    exact (hleft hstack rfl).of_same rfl rfl
  · rename_i id event events rest hstack
    obtain rfl := Option.some.inj h
    unfold batchTurn
    split <;> exact (hleft hstack rfl).of_same rfl rfl
  · rename_i token rest hstack
    obtain rfl := Option.some.inj h
    rw [Marked, hstack] at hmarked
    exact MarkedOn.leaveCallback (c := { c with stack := rest }) (hmarked.of_same rfl rfl)
  · rename_i count ending rest hstack
    obtain rfl := Option.some.inj h
    exact MarkedOn.endStep (c := { c with stack := rest }) ((hleft hstack rfl).of_same rfl rfl) _ _
  · rename_i token revents pending count ending rest hstack
    obtain rfl := Option.some.inj h
    have hturn (count : Nat) :
        ({ c with stack := .wake pending count ending :: rest } : Config).Marked :=
      (hleft hstack rfl).of_same rfl rfl
    unfold wakeTurn
    split
    · exact hturn count
    · split
      · exact hmarked.unwind _
      · rename_i hidle
        exact (hturn (count + 1)).callBack (Bool.eq_false_iff.2 hidle) _ _
  · rename_i ending rest hstack
    obtain rfl := Option.some.inj h
    exact MarkedOn.endStep (c := { c with stack := rest }) ((hleft hstack rfl).of_same rfl rfl) _ _

/-! ## The table -/

/-- The next moment carries out a command. -/
def TakesCommand (c : Config) : Prop :=
  ∃ b step command, c.Begins b step ∧ step.action = .command command

/-- A moment whose deed leaves the reactor alone leaves the table as it is. -/
theorem unmarked_of_deed (h : c.next = some d)
    (hdeed : ∀ w, (c.deed.run w).reactor = w.reactor) :
    d.world.reactor.unmarked = c.world.reactor.unmarked := by
  obtain ⟨w, hbefore, hafter⟩ := next_world h
  rw [hafter.unmarked, hdeed, hbefore.unmarked]

/-- Where no breach is recorded there is none. -/
theorem not_breached_of_grows {old new : History} (h : Grows (fun e => ¬e.IsBreach) old new) :
    ¬Breached old new := by
  rintro ⟨later, hlater, e, he, hbreach⟩
  exact h.forall_of_eq hlater e he hbreach

/-- A command that does not end in a breach records none. -/
theorem Begins.not_breached {step : Step} {command : Command HandlerCode} (h : Begins c b step)
    (haction : step.action = .command command) (hw : c.world.Orderly)
    (hreply : ∀ breach, (b.execute command).1 ≠ .breached breach) :
    ¬Breached c.history
      ((b.execute command).2.endStep (b.execute command).1 step.ending).history := by
  have hbegan : Grows (fun e => ¬e.IsBreach) c.history b.history := by
    obtain ⟨_⟩ := h
    exact Grows.single _ id
  have hfits := (fits_deed hw).quiet h.quiet
  rw [h.deed_command haction] at hfits
  have hwork := ((b.commandDeed command).acts_run b.world hfits).grows
  rw [← world_execute] at hwork
  have hended : ¬(Event.ended (b.execute command).1
      ((b.execute command).2.statusOf? step.ending.watched)).IsBreach := by
    intro hbreach
    cases hreply' : (b.execute command).1 with
    | breached breach => exact hreply breach hreply'
    | _ => rw [hreply'] at hbreach; exact hbreach
  rw [endStep_eq_record _ _ hreply]
  refine not_breached_of_grows ((hbegan.trans (hwork.mono fun e he hbreach => ?_)).trans
    (Grows.single _ hended))
  exact he.work hbreach.isBracket

/-- A socket that could not be made ends in a failure and not in a breach. -/
theorem halt_of_adopt {origin : World.Origin} {w w' : World} {halt : Halt}
    (h : World.adopt origin w = .error halt w') : halt = .failed .unknown := by
  unfold World.adopt at h
  dsimp only at h
  split at h <;> cases h
  rfl

/-- Neither is opening one ever a breach. -/
theorem halt_of_openSocket {family : AddressFamily} {cls : SocketClass} {config : SocketConfig}
    {w w' : World} {halt : Halt} (h : World.openSocket family cls config w = .error halt w') :
    halt = .failed .unknown := by
  unfold World.openSocket at h
  split at h
  · cases h
    rfl
  dsimp only at h
  split at h
  · cases h
    rfl
  · exact halt_of_adopt h

/-- Accepting a connection can be a breach only before the reactor is asked. -/
theorem reactor_of_accept {listener : Socket} {w w' : World} {halt : Halt} {breach : Breach}
    (h : World.accept listener w = .error halt w')
    (hbreach : Reply.ofHalt halt = .breached breach) :
    w'.reactor = w.reactor := by
  unfold World.accept at h
  split at h
  · rename_i hperform
    cases h
    have hafter := World.after_perform w listener SocketM.acceptReady
    simp only [WorldM.after, hperform] at hafter
    rw [hafter]
    rfl
  · split at h
    · cases h
    · rename_i hadopt
      cases h
      rw [halt_of_adopt hadopt] at hbreach
      cases hbreach

/-- A command that ends in a breach leaves the reactor alone. -/
theorem reactor_of_breached {command : Command HandlerCode} {breach : Breach}
    (h : (c.execute command).1 = .breached breach) :
    (c.execute command).2.world.reactor = c.world.reactor := by
  have hnamed {name : SocketName} {f : Socket → Reply × Config}
      (h : (c.withSocket name f).1 = .breached breach)
      (hf : ∀ s, (f s).1 = .breached breach → (f s).2.world.reactor = c.world.reactor) :
      (c.withSocket name f).2.world.reactor = c.world.reactor := by
    unfold withSocket at h ⊢
    split
    · rfl
    · rename_i s hs
      rw [hs] at h
      exact hf s h
  cases command with
  | openSocket name family cls config =>
    simp only [execute, Config.openSocket] at h ⊢
    split at h
    · cases h
    split at h
    · cases h
    · rename_i halt world hopen
      rw [halt_of_openSocket hopen] at h
      cases h
  | free name => exact hnamed h fun s hs => by cases hs
  | info name => exact hnamed h fun s hs => by cases hs
  | request name request =>
    refine hnamed h fun s _ => ?_
    rw [world_carryOut, World.after_perform]
    rfl
  | accept name newName =>
    refine hnamed h fun s hs => ?_
    unfold Config.accept at hs ⊢
    split at hs
    · cases hs
    split at hs
    · cases hs
    · rename_i htaken _ halt world haccept
      rw [if_neg htaken]
      exact reactor_of_accept haccept hs
  | change name change =>
    refine hnamed h fun s hs => ?_
    have hworld := world_change c name s change
    unfold Config.change World.subscribe at hs
    cases happly : s.subscription.apply (change.map fun _ => c.nextHandler) with
    | error breach =>
      rw [hworld]
      simp only [Deed.run, WorldM.after, World.subscribe, happly]
    | ok subscription =>
      rw [happly] at hs
      cases hs
  | addDescriptor fd label code =>
    simp only [execute, Config.addDescriptor] at h
    split at h <;> cases h
  | reactorInfo =>
    simp only [execute, Config.reactorInfo] at h
    split at h <;> cases h
  | _ => cases h

/-- **The table changes only in moments that carry out a command**, and in none in which there is a
breach. -/
theorem next_table (h : c.next = some d) (hw : c.world.Orderly) :
    d.world.reactor.unmarked = c.world.reactor.unmarked ∨
      c.TakesCommand ∧ ¬Breached c.history d.history := by
  cases moment_next h with
  | idle hidle => exact .inl hidle.quiet.unmarked
  | @command b step command hbegins haction =>
    by_cases hreply : ∃ breach, (b.execute command).1 = .breached breach
    · left
      obtain ⟨breach, hbreach⟩ := hreply
      have hmark (status : Option Status) :
          Event.IsMark (.ended (b.execute command).1 status) := by
        rw [hbreach]
        rfl
      have hended := quiet_endStep (b.execute command).2 step.ending (fun _ h => h) hmark
      rw [hended.unmarked, reactor_of_breached hbreach, hbegins.quiet.unmarked]
    · right
      exact ⟨⟨b, step, command, hbegins, haction⟩,
        hbegins.not_breached haction hw (not_exists.1 hreply)⟩
  | wait hbegins haction hkind =>
    left
    refine unmarked_of_deed h fun w => ?_
    rw [hbegins.deed_wait haction hkind]
    exact (w.leavesReactor_wait _).reactor
  | turn hstack hturn =>
    left
    refine unmarked_of_deed h fun w => ?_
    simp only [deed, callback?, hstack, Deed.run]
  | @callBack b token callback ready hcalls =>
    left
    refine unmarked_of_deed h fun w => ?_
    cases callback with
    | direct handler =>
      rw [hcalls.deed_direct]
      rfl
    | socket id =>
      rw [hcalls.deed_socket]
      exact (w.leavesReactor_deliver _ _).reactor

/-! ## Turns of a wake -/

/-- A registration of which something is ready and of interest leads to its callback. -/
theorem readyCallback?_of_row {w : World} {token : Token} {revents : Revents} {row : Registration}
    (hrow : w.reactor.table.get? token = some row) (hready : revents.readiness ∩ row.interest ≠ ∅) :
    w.readyCallback? token revents = some (row.callback, revents.readiness ∩ row.interest) := by
  cases hcallback : w.readyCallback? token revents with
  | none => exact absurd (World.readyCallback?_eq_none_iff.1 hcallback row hrow) hready
  | some found =>
    obtain ⟨row', hrow', hfound, hready', -⟩ := World.readyCallback?_eq_some hcallback
    obtain rfl := Option.some.inj (hrow.symm.trans hrow')
    exact congrArg some (Prod.ext hfound hready')

/-- From one configuration to the next a wake breaks off because a callback is running. Nobody is
called, no socket and no registration is touched, and frames are left up to where the breach is
contained. -/
structure BreaksOff (ending : StepEnding) (rest : List Frame) (c d : Config) : Prop where
  breached : ∃ breach status marks, breach.message = "RefCell already borrowed" ∧
    d.history = c.history ++ .ended (.breached breach) status :: marks ∧ ∀ e ∈ marks, e.IsMark
  quiet : c.world.Quiet Event.IsMark d.world
  left : d.stack <:+ rest
  contained : ending.contained = true → d.stack = rest

variable {token : Token} {revents : Revents} {pending : List (Token × Revents)} {count : Nat}
  {ending : StepEnding} {rest outer : List Frame}

/-- Unwinding from a wake breaks it off. -/
theorem breaksOff_unwind (c : Config) (pending : List (Token × Revents)) (count : Nat)
    (ending : StepEnding) (rest : List Frame) :
    BreaksOff ending rest c
      (c.unwind .callbackRunning (.wake pending count ending :: rest)) := by
  have hquiet := quiet_unwind c .callbackRunning (.wake pending count ending :: rest)
  have hsuffix := stack_unwind_suffix .callbackRunning c (.wake pending count ending :: rest)
  rcases ending with ⟨watched, _ | _⟩
  · have hmore := quiet_unwind (c.record (.ended (.breached .callbackRunning)
      (c.statusOf? watched))) .callbackRunning rest
    obtain ⟨marks, hmarks, hall⟩ := hmore.history
    have hbreached := hmarks.trans (List.append_assoc _ _ _)
    exact ⟨⟨_, _, marks, rfl, hbreached, hall⟩, hquiet, hsuffix, fun h => by cases h⟩
  · exact ⟨⟨_, _, [], rfl, rfl, List.forall_mem_nil _⟩, hquiet, hsuffix, fun _ => rfl⟩

/-! ## Whole wakes -/

/-- The last moment of a wake: no registration is left, or a breach leaves it. -/
theorem Wakes.exists_last {pending : List (Token × Revents)} {count : Nat} {calls : List WakeCall}
    {result : Option Nat} {ending : StepEnding} {outer : List Frame}
    (h : Wakes ending outer pending count calls result c d) :
    ∃ a, c.Reaches a ∧ a.next = some d ∧
      ((∃ n, a.stack = .wake [] n ending :: outer ∧ d.stack = outer) ∨
        Breached a.history d.history ∧ d.stack <:+ outer) := by
  induction h with
  | finished stack next ended left => exact ⟨_, .refl, next, .inl ⟨_, stack, left⟩⟩
  | passed stack unready next later ih =>
    obtain ⟨a, hrun, hlast⟩ := ih
    exact ⟨a, .head next hrun, hlast⟩
  | called begins body later ih =>
    obtain ⟨a, hrun, hlast⟩ := ih
    exact ⟨a, .head begins.next (body.above.reaches.trans hrun), hlast⟩
  | @broken c b d call pending count begins body =>
    rcases body with ⟨rfl, hbreach, hleft⟩ | ⟨e, habove, hnext, hbreach, hleft⟩
    · exact ⟨c, .refl, begins.next, .inr ⟨hbreach, hleft⟩⟩
    · exact ⟨e, .head begins.next habove.reaches, hnext, .inr ⟨hbreach, hleft⟩⟩
  | running stack isActive next breached left => exact ⟨_, .refl, next, .inr ⟨breached, left⟩⟩

/-- A wait comes to its end: it returns, or it is left by a breach. The last moment leaves the table
as the callbacks left it, and no mark is left. -/
structure Closes (outer : List Frame) (c d : Config) : Prop where
  last : ∃ a, c.Reaches a ∧ a.next = some d ∧
    d.world.reactor.unmarked = a.world.reactor.unmarked ∧
    (d.stack = outer ∨ Breached a.history d.history ∧ d.stack <:+ outer)
  unmarked : d.world.reactor.active = []

/-- The last moment of a wake leaves the table alone. -/
theorem Wakes.exists_last_table {pending : List (Token × Revents)} {count : Nat}
    {calls : List WakeCall} {result : Option Nat} {ending : StepEnding} {outer : List Frame}
    (h : Wakes ending outer pending count calls result c d) (hw : c.world.Orderly) :
    ∃ a, c.Reaches a ∧ a.next = some d ∧
      d.world.reactor.unmarked = a.world.reactor.unmarked ∧
      (d.stack = outer ∨ Breached a.history d.history ∧ d.stack <:+ outer) := by
  obtain ⟨a, hrun, hnext, hlast⟩ := h.exists_last
  refine ⟨a, hrun, hnext, ?_, hlast.imp (fun ⟨_, _, hleft⟩ => hleft) id⟩
  have hd := Reaches.orderly_of hrun hw
  rcases next_table hnext hd with hsame | ⟨⟨b, step, _, hbegins, -⟩, hnone⟩
  · exact hsame
  · rcases hlast with ⟨n, hstack, -⟩ | ⟨hbreach, -⟩
    · obtain ⟨_, _, _, _, hsteps, -⟩ := hbegins.stack
      rw [hstack] at hsteps
      cases hsteps
    · exact absurd hbreach hnone

/-- What callbacks keep to, and what wakes keep to with regard to them, between two moments. -/
structure Guarded (c : Config) : Prop where
  /-- The callbacks that are marked are those on the stack, and each is there once. -/
  active : c.world.reactor.active = c.running
  once : c.running.Nodup
  /-- A wake passes over a registration that is gone or of which nothing that is ready is of
  interest, whether its callback is running or not. -/
  passed : ∀ {token revents pending count ending rest},
    c.stack = .wake ((token, revents) :: pending) count ending :: rest →
    (∀ row, c.world.reactor.table.get? token = some row →
      revents.readiness ∩ row.interest = ∅) →
    c.next = some { c with stack := .wake pending count ending :: rest }
  /-- It calls the callback of any other registration, if it is not running, -/
  called : ∀ {token revents pending count ending rest row},
    c.stack = .wake ((token, revents) :: pending) count ending :: rest →
    c.world.reactor.table.get? token = some row → revents.readiness ∩ row.interest ≠ ∅ →
    token ∉ c.running →
    c.next = some (Config.callBack { c with stack := .wake pending (count + 1) ending :: rest }
      token row.callback (revents.readiness ∩ row.interest))
  /-- and breaks off if it is running. -/
  brokenOff : ∀ {token revents pending count ending rest row},
    c.stack = .wake ((token, revents) :: pending) count ending :: rest →
    c.world.reactor.table.get? token = some row → revents.readiness ∩ row.interest ≠ ∅ →
    token ∈ c.running → ∃ d, c.next = some d ∧ BreaksOff ending rest c d
  /-- The table changes only when a command is carried out, and not if there is a breach. -/
  table : ∀ d, c.next = some d → d.world.reactor.unmarked = c.world.reactor.unmarked ∨
    c.TakesCommand ∧ ¬Breached c.history d.history
  /-- A wait outside of all callbacks comes to its end, and then no callback is marked. -/
  outermost : ∀ {timeout answers ending steps script isHandler rest},
    c.stack = .steps (⟨.run timeout, answers, ending⟩ :: steps) script isHandler :: rest →
    c.running = [] → ∃ d, Closes (.steps steps script isHandler :: rest) c d

/-- The marks are right at every moment. -/
theorem marked_of_reaches (hrun : (Config.initial (.polling limit) program).Reaches c) :
    c.Marked := by
  induction hrun with
  | refl => exact ⟨rfl, List.nodup_nil⟩
  | tail hrun hnext ih =>
    exact next_marked hnext (Reaches.orderly hrun) (kind_of_reaches hrun) ih

/-- A wait outside of all callbacks comes to its end. -/
theorem exists_closes {timeout : Option Duration} {answers : Script} {ending : StepEnding}
    {steps : List Step} {script : Script} {isHandler : Bool} {rest : List Frame}
    (hrun : (Config.initial (.polling limit) program).Reaches c)
    (hstack : c.stack = .steps (⟨.run timeout, answers, ending⟩ :: steps) script isHandler :: rest)
    (hidle : c.running = []) : ∃ d, Closes (.steps steps script isHandler :: rest) c d := by
  have hw := Reaches.orderly hrun
  have hunmarked {d : Config} (hd : c.Reaches d)
      (hleft : d.stack <:+ .steps steps script isHandler :: rest) :
      d.world.reactor.active = [] := by
    have hsublist := runningOn_sublist hleft
    rw [(marked_of_reaches (hrun.trans hd)).active]
    refine List.sublist_nil.1 ?_
    rw [← hidle, running, hstack]
    exact hsublist
  obtain ⟨b, hreactor, hscript, -, hbelow, hnext⟩ := next_runOnce hstack
  obtain ⟨polls, -, hsame, hlearns⟩ := World.learns_wait b.world timeout
  rw [hreactor] at hlearns hsame
  rw [runOnce, hreactor, kind_of_reaches hrun] at hnext
  dsimp only at hnext
  rcases hwait : b.world.wait timeout with ⟨error | reports, world⟩ <;>
    rw [hwait] at hsame hlearns hnext
  · have hleft : (Config.endStep { b with world } (.reactorFailed error) ending).stack =
        .steps steps script isHandler :: rest :=
      hbelow
    refine ⟨_, ⟨c, .refl, hnext, congrArg Reactor.unmarked hsame, .inl hleft⟩, ?_⟩
    exact hunmarked (.single hnext) (hleft ▸ List.suffix_rfl)
  · obtain ⟨calls, result, d, hwakesUp⟩ := exists_wakesUp hw hnext hlearns (congrArg _ hbelow)
    obtain ⟨a, hwoken, hlast, htable, hleft⟩ :=
      hwakesUp.wakes.exists_last_table (next_orderly hnext hw)
    have hreached : c.Reaches a := .head hnext hwoken
    refine ⟨d, ⟨a, hreached, hlast, htable, hleft⟩, hunmarked (hreached.tail hlast) ?_⟩
    exact hleft.elim (fun heq => heq ▸ List.suffix_rfl) And.right

/-- **No callback is entered twice**, at every moment of every run, however deep waits are nested in
callbacks. -/
theorem callbacks_of_reaches (hrun : (Config.initial (.polling limit) program).Reaches c) :
    c.Guarded := by
  have hw := Reaches.orderly hrun
  have hmarked := marked_of_reaches hrun
  have hactive (token : Token) : c.world.reactor.isActive token = true ↔ token ∈ c.running := by
    rw [Reactor.isActive, List.contains_iff_mem, hmarked.active]
    rfl
  refine ⟨hmarked.active, hmarked.nodup, ?_, ?_, ?_, fun d hnext => next_table hnext hw, ?_⟩
  · intro token revents pending count ending rest hstack hunready
    simp only [Config.next, hstack, wakeTurn, World.readyCallback?_eq_none_iff.2 hunready]
  · intro token revents pending count ending rest row hstack hrow hready hidle
    simp only [Config.next, hstack, wakeTurn, readyCallback?_of_row hrow hready,
      if_neg (mt (hactive token).1 hidle)]
  · intro token revents pending count ending rest row hstack hrow hready hrunning
    refine ⟨_, ?_, breaksOff_unwind c ((token, revents) :: pending) count ending rest⟩
    simp only [Config.next, hstack, wakeTurn, readyCallback?_of_row hrow hready,
      if_pos ((hactive token).2 hrunning)]
  · intro timeout answers ending steps script isHandler rest hstack hidle
    exact exists_closes hrun hstack hidle

/-! ### A handler that waits again -/

/-- A wait that reports the first registration as readable, and contains breaches. -/
def readableWait : Step :=
  ⟨.run none, .only .poll [.success { revents := [1] }], ⟨none, true⟩⟩

/-- The handler of a descriptor waits while the descriptor is still ready, and then the program
waits again. -/
def reenteringProgram : List Step :=
  [.plain (.command (.addDescriptor 7 "a" [[readableWait]])),
    .plain (.command (.setDescriptor 1 ⟨true, false, 0⟩)),
    readableWait, readableWait]

/-- The inner wake comes to the callback that is running and breaks off. The outer one comes to its
end, no callback is marked then, and the next one calls the callback again. -/
theorem callbacks_when_reentered :
    let c := (Config.initial (.polling 4) reenteringProgram).skip 2
    (c.skip 3).running = [1] ∧
      (∃ d, (c.skip 3).next = some d ∧ BreaksOff ⟨none, true⟩ (c.skip 3).stack.tail (c.skip 3) d) ∧
      (∃ d, Closes [.steps [readableWait] .blank false] c d) ∧
      (c.skip 11).history.filterMap Event.notice? =
        [.ready 1 ⟨true, false, 0⟩, .ready 1 ⟨true, false, 0⟩] := by
  have hreached := reaches_skip 2 (Config.initial (.polling 4) reenteringProgram)
  have hinner := callbacks_of_reaches (hreached.trans (reaches_skip 3 _))
  have houter := callbacks_of_reaches hreached
  refine ⟨rfl, ?_, ?_, by decide⟩
  · exact hinner.brokenOff rfl rfl (by decide) (List.mem_singleton_self 1)
  · exact houter.outermost rfl rfl

end Config

end SocketLoop
