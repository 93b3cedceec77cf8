import SocketLoop.Proofs.Run.Quiet

/-!
# What one moment does

This module says once what a moment of a run can be, and everything about runs is derived from it.

* A `Deed` is one thing that the library is asked to do: an operation on a socket, a direct change
  of a registration, a wait, or the delivery of readiness to a socket. `Config.deed` is the deed of
  the next moment, and `Deed.run` is what it does to the world.
* `Moment` lists the shapes of a moment; `moment_next` says that there are no others.
* `next_world`: apart from brackets, a moment does its deed to the world and nothing else.
-/

namespace SocketLoop

/-! ## Deeds -/

/-- The world in which an operation ends, whether it returns or not. -/
def WorldM.after {α : Type} (op : WorldM α) (w : World) : World :=
  match op w with
  | .ok _ w => w
  | .error _ w => w

/-- What the library is asked to do in one moment. -/
inductive Deed
  | nothing
  | openSocket (family : AddressFamily) (cls : SocketClass) (config : SocketConfig)
  | accept (listener : Socket)
  | request (s : Socket) (request : Request)
  | change (s : Socket) (change : Change HandlerRef)
  | free (s : Socket)
  | addDescriptor (fd : Fd) (handler : HandlerRef)
  | setDescriptor (token : Token) (interest : Readiness)
  | removeDescriptor (token : Token)
  | wait (timeout : Option Duration)
  | deliver (id : SocketId) (ready : Readiness)
  deriving DecidableEq

namespace Deed

/-- What a deed does to the world. -/
def run : Deed → World → World
  | .nothing, w => w
  | .openSocket family cls config, w => WorldM.after (World.openSocket family cls config) w
  | .accept listener, w => WorldM.after (World.accept listener) w
  | .request s r, w => WorldM.after (World.perform s r.run) w
  | .change s ch, w => WorldM.after (World.subscribe s ch) w
  | .free s, w => w.free s
  | .addDescriptor fd handler, w => (w.register fd (.direct handler)).2
  | .setDescriptor token interest, w => w.setInterest token interest
  | .removeDescriptor token, w => w.deregister token
  | .wait timeout, w => (w.wait timeout).2
  | .deliver id ready, w => (w.deliver id ready).2

/-- The open socket that an operation is about. -/
def socket? : Deed → Option Socket
  | .accept s => some s
  | .request s _ => some s
  | .change s _ => some s
  | .free s => some s
  | _ => none

end Deed

/-- The callback that a wake calls for a reported registration. One that is running is not called:
there the wake breaks off. -/
def World.wokenCallback? (w : World) (token : Token) (revents : Revents) :
    Option (Callback × Readiness) :=
  if w.reactor.isActive token then none else w.readyCallback? token revents

/-- The callback that a retaining reactor calls for a token. One that is running is not called. -/
def World.firedCallback? (w : World) (token : Token) : Option Callback :=
  match w.reactor.kind with
  | .polling _ => none
  | .retaining =>
    if w.reactor.isActive token then none else (w.reactor.table.get? token).map (·.callback)

namespace Config

/-- The deed of a command. A name that stands for no open socket leads to nothing, and so does one
that is taken. -/
def commandDeed (c : Config) : Command HandlerCode → Deed
  | .openSocket name family cls config =>
    if (c.socketOf? name).isSome then .nothing else .openSocket family cls config
  | .free name => (c.socketOf? name).elim .nothing .free
  | .request name request => (c.socketOf? name).elim .nothing fun s => .request s request
  | .accept name newName =>
    (c.socketOf? name).elim .nothing fun s =>
      if (c.socketOf? newName).isSome then .nothing else .accept s
  | .change name change =>
    (c.socketOf? name).elim .nothing fun s => .change s (change.map fun _ => c.nextHandler)
  | .addDescriptor fd _ _ => .addDescriptor fd c.nextHandler
  | .setDescriptor token interest => .setDescriptor token interest
  | .removeDescriptor token => .removeDescriptor token
  | _ => .nothing

/-- The callback that the next moment calls, with its token and the directions that are ready. -/
def callback? (c : Config) : Option (Token × Callback × Readiness) :=
  match c.stack with
  | .steps (⟨.fire token ready, _, _⟩ :: _) _ _ :: _ =>
    (c.world.firedCallback? token).map fun callback => (token, callback, ready)
  | .wake ((token, revents) :: _) _ _ :: _ => (c.world.wokenCallback? token revents).map (token, ·)
  | _ => none

/-- The deed of the next moment. -/
def deed (c : Config) : Deed :=
  match c.callback? with
  | some (_, .socket id, ready) => .deliver id ready
  | some (_, .direct _, _) => .nothing
  | none =>
    match c.stack with
    | .steps (⟨.command command, _, _⟩ :: _) _ _ :: _ => c.commandDeed command
    | .steps (⟨.run timeout, _, _⟩ :: _) _ _ :: _ =>
      match c.world.reactor.kind with
      | .polling _ => .wait timeout
      | .retaining => .nothing
    | _ => .nothing

/-! ## Where a deed comes from -/

/-- What a command leads to: the deed that it names, for the open socket that it names, or nothing. -/
inductive Leads (c : Config) : Command HandlerCode → Deed → Prop
  | nothing {command : Command HandlerCode} : Leads c command .nothing
  | openSocket {name : SocketName} {family : AddressFamily} {cls : SocketClass}
      {config : SocketConfig} :
      Leads c (.openSocket name family cls config) (.openSocket family cls config)
  | free {name : SocketName} {s : Socket} (named : c.socketOf? name = some s) :
      Leads c (.free name) (.free s)
  | request {name : SocketName} {request : Request} {s : Socket}
      (named : c.socketOf? name = some s) : Leads c (.request name request) (.request s request)
  | accept {name newName : SocketName} {s : Socket} (named : c.socketOf? name = some s) :
      Leads c (.accept name newName) (.accept s)
  | change {name : SocketName} {change : Change HandlerCode} {s : Socket}
      (named : c.socketOf? name = some s) :
      Leads c (.change name change) (.change s (change.map fun _ => c.nextHandler))
  | addDescriptor {fd : Fd} {label : String} {code : HandlerCode} :
      Leads c (.addDescriptor fd label code) (.addDescriptor fd c.nextHandler)
  | setDescriptor {token : Token} {interest : Readiness} :
      Leads c (.setDescriptor token interest) (.setDescriptor token interest)
  | removeDescriptor {token : Token} :
      Leads c (.removeDescriptor token) (.removeDescriptor token)

/-- A command leads to its deed. -/
theorem leads_commandDeed (c : Config) (command : Command HandlerCode) :
    c.Leads command (c.commandDeed command) := by
  have hnamed {command : Command HandlerCode} {name : SocketName} {f : Socket → Deed}
      (hf : ∀ s, c.socketOf? name = some s → c.Leads command (f s)) :
      c.Leads command ((c.socketOf? name).elim .nothing f) := by
    cases hname : c.socketOf? name with
    | none => exact .nothing
    | some s => exact hf s hname
  cases command with
  | openSocket name family cls config =>
    simp only [commandDeed]
    split
    · exact .nothing
    · exact .openSocket
  | free name => exact hnamed fun s hs => .free hs
  | request name request => exact hnamed fun s hs => .request hs
  | accept name newName =>
    refine hnamed fun s hs => ?_
    split
    · exact .nothing
    · exact .accept hs
  | change name change => exact hnamed fun s hs => .change hs
  | addDescriptor fd label code => exact .addDescriptor
  | setDescriptor token interest => exact .setDescriptor
  | removeDescriptor token => exact .removeDescriptor
  | _ => exact .nothing

/-- Where the deed of the next moment can come from: from a command, from a wait of a polling
reactor, or from the callback of a socket. -/
inductive Asks (c : Config) : Deed → Prop
  | nothing : Asks c .nothing
  | command {command : Command HandlerCode} {answers : Script} {ending : StepEnding}
      {steps : List Step} {script : Script} {isHandler : Bool} {rest : List Frame} {deed : Deed}
      (stack : c.stack =
        .steps (⟨.command command, answers, ending⟩ :: steps) script isHandler :: rest)
      (leads : c.Leads command deed) : Asks c deed
  | wait {timeout : Option Duration} {answers : Script} {ending : StepEnding} {steps : List Step}
      {script : Script} {isHandler : Bool} {rest : List Frame} {limit : Nat}
      (stack : c.stack = .steps (⟨.run timeout, answers, ending⟩ :: steps) script isHandler :: rest)
      (kind : c.world.reactor.kind = .polling limit) : Asks c (.wait timeout)
  | deliver {token : Token} {id : SocketId} {ready : Readiness}
      (callback : c.callback? = some (token, .socket id, ready)) : Asks c (.deliver id ready)

/-- The deed of the next moment comes from somewhere. -/
theorem asks_deed (c : Config) : c.Asks c.deed := by
  unfold deed
  split
  · exact .deliver ‹_›
  · exact .nothing
  · split
    · exact .command ‹_› (c.leads_commandDeed _)
    · split
      · exact .wait ‹_› ‹_›
      · exact .nothing
    · exact .nothing

/-! ## Moments -/

/-- A step is taken: from the stack it is gone, its answers are laid out and its bracket is open. -/
inductive Begins (c : Config) : Config → Step → Prop
  | mk {step : Step} {steps : List Step} {script : Script} {isHandler : Bool} {rest : List Frame}
      (stack : c.stack = .steps (step :: steps) script isHandler :: rest) :
      Begins c
        ((Config.withScript { c with stack := .steps steps script isHandler :: rest }
          step.script).record .began) step

/-- The next moment calls a callback: the stack below it is that of the second configuration. -/
inductive CallsBack (c : Config) : Config → Token → Callback → Readiness → Prop
  /-- A wake gives a reported registration its turn. -/
  | wake {token : Token} {revents : Revents} {pending : List (Token × Revents)} {count : Nat}
      {ending : StepEnding} {rest : List Frame} {callback : Callback} {ready : Readiness}
      (stack : c.stack = .wake ((token, revents) :: pending) count ending :: rest)
      (woken : c.world.wokenCallback? token revents = some (callback, ready)) :
      CallsBack c { c with stack := .wake pending (count + 1) ending :: rest } token callback ready
  /-- A retaining reactor is told to call. -/
  | fire {b : Config} {step : Step} {token : Token} {callback : Callback} {ready : Readiness}
      (begins : Begins c b step) (action : step.action = .fire token ready)
      (fired : c.world.firedCallback? token = some callback) :
      CallsBack c { b with stack := .fire step.ending :: b.stack } token callback ready

/-- No batch is begun: what is pending in a batch was pending in it before, perhaps behind the event
whose turn it was. -/
def NoNewBatch (c d : Config) : Prop :=
  ∀ id events, .batch id events ∈ d.stack →
    .batch id events ∈ c.stack ∨ ∃ event rest, c.stack = .batch id (event :: events) :: rest

/-- A moment in which frames are left and brackets are recorded, and no more. -/
structure Idle (c d : Config) : Prop where
  deed : c.deed = .nothing
  quiet : c.world.Quiet Event.IsMark d.world
  stack : c.stack.tail <:+ d.stack ∨ c.CutShort d
  noNewBatch : c.NoNewBatch d

/-- What the next moment is. -/
inductive Moment (c : Config) : Config → Prop
  | idle {d : Config} (idle : Idle c d) : Moment c d
  /-- A command is carried out. -/
  | command {b : Config} {step : Step} {command : Command HandlerCode}
      (begins : Begins c b step) (action : step.action = .command command) :
      Moment c ((b.execute command).2.endStep (b.execute command).1 step.ending)
  /-- A polling reactor waits. -/
  | wait {b : Config} {step : Step} {timeout : Option Duration} {limit : Nat}
      (begins : Begins c b step) (action : step.action = .run timeout)
      (kind : c.world.reactor.kind = .polling limit) :
      Moment c (b.runOnce timeout step.ending)
  /-- The handler for an event of a batch is called. -/
  | turn {id : SocketId} {event : SocketEvent} {events : List SocketEvent} {rest : List Frame}
      {handler : HandlerRef} (stack : c.stack = .batch id (event :: events) :: rest)
      (turn : c.world.turn id event = .handled handler) :
      Moment c
        (Config.invoke { c with stack := .batch id events :: rest } handler (.event id event))
  /-- A callback is called. -/
  | callBack {b : Config} {token : Token} {callback : Callback} {ready : Readiness}
      (calls : CallsBack c b token callback ready) : Moment c (b.callBack token callback ready)

/-! ## Steps that begin -/

namespace Begins

variable {c b : Config} {step : Step}

/-- Taking a step is quiet. -/
theorem quiet (h : Begins c b step) : c.world.Quiet Event.IsMark b.world := by
  obtain ⟨_⟩ := h
  exact ⟨rfl, rfl, rfl, rfl, rfl, Grows.single _ trivial⟩

/-- The step was the first of those on top of the stack. -/
theorem stack (h : Begins c b step) : ∃ steps script isHandler rest,
    c.stack = .steps (step :: steps) script isHandler :: rest ∧
      b.stack = .steps steps script isHandler :: rest := by
  obtain ⟨hstack⟩ := h
  exact ⟨_, _, _, _, hstack, rfl⟩

/-- What lies below the steps is still there. -/
theorem tail_stack (h : Begins c b step) : b.stack.tail = c.stack.tail := by
  obtain ⟨_, _, _, _, hc, hb⟩ := h.stack
  rw [hc, hb]
  rfl

/-- A batch that lies below the steps was there before. -/
theorem batch_mem (h : Begins c b step) {id : SocketId} {events : List SocketEvent}
    (hmem : .batch id events ∈ b.stack) : .batch id events ∈ c.stack := by
  obtain ⟨_, _, _, _, hc, hb⟩ := h.stack
  rw [hc]
  simpa [hb] using hmem

/-- Names stand for the same sockets. -/
theorem socketOf? (h : Begins c b step) (name : SocketName) :
    b.socketOf? name = c.socketOf? name := by
  obtain ⟨_⟩ := h
  rfl

/-- The commands lead to the same deeds. -/
theorem commandDeed (h : Begins c b step) (command : Command HandlerCode) :
    b.commandDeed command = c.commandDeed command := by
  obtain ⟨_⟩ := h
  rfl

/-- Taking a step with a command does the deed of the command. -/
theorem deed_command (h : Begins c b step) {command : Command HandlerCode}
    (haction : step.action = .command command) : c.deed = b.commandDeed command := by
  obtain ⟨action, answers, ending⟩ := step
  obtain rfl : action = .command command := haction
  obtain ⟨_, _, _, _, hstack, -⟩ := h.stack
  simp only [deed, callback?, hstack, h.commandDeed]

/-- Taking a step that waits is to wait. -/
theorem deed_wait (h : Begins c b step) {timeout : Option Duration} {limit : Nat}
    (haction : step.action = .run timeout) (hkind : c.world.reactor.kind = .polling limit) :
    c.deed = .wait timeout := by
  obtain ⟨action, answers, ending⟩ := step
  obtain rfl : action = .run timeout := haction
  obtain ⟨_, _, _, _, hstack, -⟩ := h.stack
  simp only [deed, callback?, hstack, hkind]

end Begins

/-- The deed of a moment that calls a callback. -/
theorem CallsBack.callback? {c b : Config} {token : Token} {callback : Callback} {ready : Readiness}
    (h : CallsBack c b token callback ready) : c.callback? = some (token, callback, ready) := by
  cases h with
  | wake stack woken => simp only [Config.callback?, stack, woken, Option.map_some]
  | @fire b step _ _ _ begins action fired =>
    obtain ⟨action', answers, ending⟩ := step
    obtain rfl : action' = .fire token ready := action
    obtain ⟨_, _, _, _, hc, -⟩ := begins.stack
    simp only [Config.callback?, hc, fired, Option.map_some]

/-- Calling the callback of a socket delivers readiness to it. -/
theorem CallsBack.deed_socket {c b : Config} {token : Token} {id : SocketId} {ready : Readiness}
    (h : CallsBack c b token (.socket id) ready) : c.deed = .deliver id ready := by
  simp only [deed, h.callback?]

/-- Calling a handler of the embedder is no deed. -/
theorem CallsBack.deed_direct {c b : Config} {token : Token} {handler : HandlerRef}
    {ready : Readiness} (h : CallsBack c b token (.direct handler) ready) : c.deed = .nothing := by
  simp only [deed, h.callback?]

/-- Up to the call of a callback nothing but brackets and marks changes. -/
theorem CallsBack.quiet {c b : Config} {token : Token} {callback : Callback} {ready : Readiness}
    (h : CallsBack c b token callback ready) :
    c.world.Quiet Event.IsMark (b.enterCallback token).world := by
  cases h with
  | wake stack woken => exact ⟨rfl, rfl, rfl, rfl, rfl, Grows.refl _⟩
  | fire begins action fired =>
    exact begins.quiet.trans ⟨rfl, rfl, rfl, rfl, rfl, Grows.refl _⟩

/-! ## There are no other moments -/

variable {c d : Config}

/-- Frames that are left in place begin no batch. -/
theorem noNewBatch_of_suffix (h : d.stack <:+ c.stack) : c.NoNewBatch d := by
  intro id events hmem
  exact .inl (h.subset hmem)

/-- A frame on top that changes into another one, and not into a batch, begins no batch. -/
theorem noNewBatch_of_cons {frame frame' : Frame} {rest : List Frame}
    (hc : c.stack = frame :: rest) (hd : d.stack <:+ frame' :: rest)
    (hframe : ∀ id events, frame' ≠ .batch id events) : c.NoNewBatch d := by
  intro id events hmem
  rcases List.mem_cons.1 (hd.subset hmem) with heq | hrest
  · exact absurd heq.symm (hframe id events)
  · rw [hc]
    exact .inl (List.mem_cons_of_mem _ hrest)

/-- Ending a wake or a call of one callback with a result is idle. -/
theorem idle_endStep {reply : Reply} {frame : Frame} {rest : List Frame} (ending : StepEnding)
    (hdeed : c.deed = .nothing) (hstack : c.stack = frame :: rest) (hreply : reply.newId? = none) :
    Idle c (({ c with stack := rest } : Config).endStep reply ending) := by
  have hquiet : c.world.Quiet Event.IsMark
      (({ c with stack := rest } : Config).endStep reply ending).world :=
    quiet_endStep { c with stack := rest } ending (fun _ h => h) fun _ => hreply
  refine ⟨hdeed, hquiet, ?_, ?_⟩
  · rcases stack_endStep { c with stack := rest } reply ending with heq | ⟨hsuffix, hbreach⟩
    · left
      rw [heq, hstack]
      exact List.suffix_rfl
    · right
      constructor
      · rw [hstack]
        exact hsuffix.trans (List.tail_suffix _)
      · exact hbreach
  · apply noNewBatch_of_suffix
    rw [hstack]
    exact (stack_endStep_suffix _ reply ending).trans (List.suffix_cons _ _)

/-- A step that is refused is idle. -/
theorem Begins.idle_endStep {b : Config} {step : Step} {reply : Reply} (h : Begins c b step)
    (hdeed : c.deed = .nothing) (hreply : reply.newId? = none) :
    Idle c (b.endStep reply step.ending) := by
  have hquiet : b.world.Quiet Event.IsMark (b.endStep reply step.ending).world :=
    quiet_endStep _ _ (fun _ h => h) fun _ => hreply
  refine ⟨hdeed, h.quiet.trans hquiet, ?_, ?_⟩
  · rcases stack_endStep b reply step.ending with heq | ⟨hsuffix, hbreach⟩
    · left
      rw [heq, ← h.tail_stack]
      exact List.tail_suffix _
    · right
      constructor
      · rwa [← h.tail_stack]
      · exact hbreach.prepend h.quiet.history
  · obtain ⟨_, _, _, _, hc, hb⟩ := h.stack
    have hsuffix := stack_endStep_suffix b reply step.ending
    rw [hb] at hsuffix
    exact noNewBatch_of_cons hc hsuffix (by simp)

/-- The turn of a reported registration. -/
theorem moment_wakeTurn {token : Token} {revents : Revents} {pending : List (Token × Revents)}
    {count : Nat} {ending : StepEnding} {rest : List Frame}
    (hstack : c.stack = .wake ((token, revents) :: pending) count ending :: rest) :
    Moment c (c.wakeTurn token revents pending count ending rest) := by
  have hcallback : c.callback? = (c.world.wokenCallback? token revents).map (token, ·) := by
    simp only [callback?, hstack]
  unfold wakeTurn
  split
  · rename_i hnone
    have hwoken : c.world.wokenCallback? token revents = none := by
      simp only [World.wokenCallback?, hnone, ite_self]
    apply Moment.idle
    refine ⟨?_, World.Quiet.refl _, .inl ?_, ?_⟩
    · simp only [deed, hcallback, hwoken, Option.map_none, hstack]
    · rw [hstack]
      exact List.suffix_cons _ _
    · exact noNewBatch_of_cons hstack List.suffix_rfl (by simp)
  · rename_i callback ready hready
    split
    · -- the callback is running already, so the wake breaks off
      rename_i hactive
      have hwoken : c.world.wokenCallback? token revents = none := by
        simp only [World.wokenCallback?, hactive, ↓reduceIte]
      apply Moment.idle
      have hsuffix := stack_unwind_suffix .callbackRunning c c.stack
      refine ⟨?_, quiet_unwind _ _ _, .inr ⟨hsuffix, ?_⟩, ?_⟩
      · simp only [deed, hcallback, hwoken, Option.map_none, hstack]
      · rw [hstack]
        exact breached_unwind_wake _ _ _ _ _ _
      · exact noNewBatch_of_suffix (hsuffix.trans (List.tail_suffix _))
    · rename_i hactive
      refine Moment.callBack (CallsBack.wake hstack ?_)
      simp only [World.wokenCallback?, hactive, hready, Bool.false_eq_true, ↓reduceIte]

/-- The turn of an event in a batch. -/
theorem moment_batchTurn {id : SocketId} {event : SocketEvent} {events : List SocketEvent}
    {rest : List Frame} (hstack : c.stack = .batch id (event :: events) :: rest) :
    Moment c (c.batchTurn id event events rest) := by
  have hdeed : c.deed = .nothing := by
    simp only [deed, callback?, hstack]
  unfold batchTurn
  split
  · refine Moment.idle ⟨hdeed, World.Quiet.refl _, .inl ?_, noNewBatch_of_suffix ?_⟩
    · rw [hstack]
      exact List.suffix_rfl
    · rw [hstack]
      exact List.suffix_cons _ _
  · refine Moment.idle ⟨hdeed, World.Quiet.refl _, .inl ?_, ?_⟩
    · rw [hstack]
      exact List.suffix_cons _ _
    · intro id' events' hmem
      rcases List.mem_cons.1 hmem with heq | hrest
      · obtain ⟨rfl, rfl⟩ := Frame.batch.inj heq
        exact .inr ⟨event, rest, hstack⟩
      · rw [hstack]
        exact .inl (List.mem_cons_of_mem _ hrest)
  · exact Moment.turn hstack ‹_›

/-- A step that calls one callback of a retaining reactor. -/
theorem moment_fire {token : Token} {ready : Readiness} {answers : Script} {ending : StepEnding}
    {steps : List Step} {script : Script} {isHandler : Bool} {rest : List Frame} {b : Config}
    (hstack :
      c.stack = .steps (⟨.fire token ready, answers, ending⟩ :: steps) script isHandler :: rest)
    (hbegins : Begins c b ⟨.fire token ready, answers, ending⟩)
    (hreactor : b.world.reactor = c.world.reactor) :
    Moment c (b.fire token ready ending) := by
  have hcallback : c.callback? =
      (c.world.firedCallback? token).map fun callback => (token, callback, ready) := by
    simp only [callback?, hstack]
  have hrefused (hfired : c.world.firedCallback? token = none) : c.deed = .nothing := by
    simp only [deed, hcallback, hfired, Option.map_none, hstack]
  unfold fire
  rw [hreactor]
  split
  · rename_i limit hkind
    have hfired : c.world.firedCallback? token = none := by
      simp only [World.firedCallback?, hkind]
    exact Moment.idle (hbegins.idle_endStep (hrefused hfired) rfl)
  · rename_i hkind
    split
    · rename_i hnone
      have hfired : c.world.firedCallback? token = none := by
        simp only [World.firedCallback?, hkind, hnone, Option.map_none, ite_self]
      exact Moment.idle (hbegins.idle_endStep (hrefused hfired) rfl)
    · rename_i registration hget
      split
      · rename_i hactive
        have hfired : c.world.firedCallback? token = none := by
          simp only [World.firedCallback?, hkind, hactive, ↓reduceIte]
        exact Moment.idle (hbegins.idle_endStep (hrefused hfired) rfl)
      · rename_i hactive
        refine Moment.callBack (CallsBack.fire hbegins rfl ?_)
        simp only [World.firedCallback?, hkind, hactive, hget, Option.map_some, Bool.false_eq_true,
          ↓reduceIte]

/-- A step begins when it is on top of the stack. -/
theorem moment_takeStep {step : Step} {steps : List Step} {script : Script} {isHandler : Bool}
    {rest : List Frame} (hstack : c.stack = .steps (step :: steps) script isHandler :: rest) :
    Moment c (Config.takeStep { c with stack := .steps steps script isHandler :: rest } step) := by
  have hbegins := Begins.mk hstack
  obtain ⟨action, answers, ending⟩ := step
  unfold takeStep
  cases action with
  | command command => exact Moment.command hbegins rfl
  | run timeout =>
    cases hkind : c.world.reactor.kind with
    | polling limit => exact Moment.wait hbegins rfl hkind
    | retaining =>
      have hdeed : c.deed = .nothing := by
        simp only [deed, callback?, hstack, hkind]
      simp only [runOnce, hbegins.quiet.kind.trans hkind]
      exact Moment.idle (hbegins.idle_endStep hdeed rfl)
  | fire token ready => exact moment_fire hstack hbegins rfl

/-- **There are no other moments.** -/
theorem moment_next (h : c.next = some d) : Moment c d := by
  unfold next at h
  split at h
  · simp at h
  · rename_i script isHandler rest hstack
    obtain rfl := Option.some.inj h
    refine Moment.idle ⟨?_, quiet_leaveSteps { c with stack := rest } _ _, .inl ?_, ?_⟩
    · simp only [deed, callback?, hstack]
    · rw [stack_leaveSteps, hstack]
      exact List.suffix_rfl
    · apply noNewBatch_of_suffix
      rw [stack_leaveSteps, hstack]
      exact List.suffix_cons _ _
  · rename_i hstack
    obtain rfl := Option.some.inj h
    exact moment_takeStep hstack
  · rename_i rest hstack
    obtain rfl := Option.some.inj h
    refine Moment.idle ⟨?_, World.Quiet.refl _, .inl ?_, noNewBatch_of_suffix ?_⟩
    · simp only [deed, callback?, hstack]
    · rw [hstack]
      exact List.suffix_rfl
    · rw [hstack]
      exact List.suffix_cons _ _
  · rename_i hstack
    obtain rfl := Option.some.inj h
    exact moment_batchTurn hstack
  · rename_i token rest hstack
    obtain rfl := Option.some.inj h
    refine Moment.idle ⟨?_, quiet_leaveCallback { c with stack := rest } _, .inl ?_, ?_⟩
    · simp only [deed, callback?, hstack]
    · rw [hstack]
      exact List.suffix_rfl
    · apply noNewBatch_of_suffix
      rw [hstack]
      exact List.suffix_cons _ _
  · rename_i count ending rest hstack
    obtain rfl := Option.some.inj h
    refine Moment.idle (idle_endStep ending ?_ hstack rfl)
    simp only [deed, callback?, hstack]
  · rename_i hstack
    obtain rfl := Option.some.inj h
    exact moment_wakeTurn hstack
  · rename_i ending rest hstack
    obtain rfl := Option.some.inj h
    refine Moment.idle (idle_endStep ending ?_ hstack rfl)
    simp only [deed, callback?, hstack]

/-- A command on top of the stack is carried out. -/
theorem next_command {command : Command HandlerCode} {answers : Script} {ending : StepEnding}
    {steps : List Step} {script : Script} {isHandler : Bool} {rest : List Frame}
    (hstack : c.stack =
      .steps (⟨.command command, answers, ending⟩ :: steps) script isHandler :: rest) :
    ∃ b, Begins c b ⟨.command command, answers, ending⟩ ∧ b.history = c.history ++ [.began] ∧
      c.next = some ((b.execute command).2.endStep (b.execute command).1 ending) := by
  refine ⟨_, Begins.mk hstack, rfl, ?_⟩
  simp only [next, hstack]
  rfl

/-! ## What a moment does to the world -/

/-- The world after an operation that is carried out for its value. -/
theorem world_carryOut (c : Config) (op : WorldM Value) :
    (c.carryOut op).2.world = op.after c.world := by
  unfold carryOut WorldM.after
  split <;> simp_all

/-- The world after opening a socket. -/
theorem world_openSocket (c : Config) (name : SocketName) (family : AddressFamily)
    (cls : SocketClass) (config : SocketConfig) :
    (c.openSocket name family cls config).2.world =
      Deed.run (if (c.socketOf? name).isSome then .nothing else .openSocket family cls config)
        c.world := by
  unfold openSocket
  split
  · rfl
  · simp only [Deed.run, WorldM.after]
    split <;> simp_all [keep]

/-- The world after accepting a connection. -/
theorem world_accept (c : Config) (listener : Socket) (newName : SocketName) :
    (c.accept listener newName).2.world =
      Deed.run (if (c.socketOf? newName).isSome then .nothing else .accept listener) c.world := by
  unfold Config.accept
  split
  · rfl
  · simp only [Deed.run, WorldM.after]
    split <;> simp_all [keep]

/-- The world after a change of a subscription. -/
theorem world_change (c : Config) (name : SocketName) (s : Socket) (change : Change HandlerCode) :
    (c.change name s change).2.world =
      Deed.run (.change s (change.map fun _ => c.nextHandler)) c.world := by
  unfold Config.change
  simp only [Deed.run, WorldM.after]
  split
  · cases change.handler? <;> simp_all [install]
  · simp_all

/-- The world after registering a plain descriptor. -/
theorem world_addDescriptor (c : Config) (fd : Fd) (label : String) (code : HandlerCode) :
    (c.addDescriptor fd label code).2.world =
      (c.world.register fd (.direct c.nextHandler)).2 := by
  unfold addDescriptor
  split <;> simp_all [install]

/-- A command does its deed. -/
theorem world_execute (c : Config) (command : Command HandlerCode) :
    (c.execute command).2.world = (c.commandDeed command).run c.world := by
  cases command with
  | openSocket name family cls config => exact world_openSocket c name family cls config
  | free name =>
    simp only [execute, withSocket, commandDeed]
    cases c.socketOf? name <;> rfl
  | request name request =>
    simp only [execute, withSocket, commandDeed]
    cases c.socketOf? name with
    | none => rfl
    | some s => exact world_carryOut c _
  | accept name newName =>
    simp only [execute, withSocket, commandDeed]
    cases c.socketOf? name with
    | none => rfl
    | some s => exact world_accept c s newName
  | change name change =>
    simp only [execute, withSocket, commandDeed]
    cases c.socketOf? name with
    | none => rfl
    | some s => exact world_change c name s change
  | info name =>
    simp only [execute, withSocket, commandDeed]
    cases c.socketOf? name <;> rfl
  | addDescriptor fd label code => exact world_addDescriptor c fd label code
  | _ => rfl

/-- Calling a handler records it and does nothing else to the world. -/
theorem quiet_invoke (c : Config) (handler : HandlerRef) (notice : Notice) :
    c.world.Quiet Event.IsBracket (c.invoke handler notice).world :=
  ⟨rfl, rfl, rfl, rfl, rfl, Grows.single _ trivial⟩

/-- Dispatching calls at most one handler at once. -/
theorem quiet_dispatch (c : Config) (id : SocketId) (events : EventSet) :
    c.world.Quiet Event.IsBracket (c.dispatch id events).world := by
  unfold dispatch
  split
  · exact World.Quiet.refl _
  · split
    · exact quiet_invoke c _ _
    · exact World.Quiet.refl _

/-- Reporting readiness delivers it. -/
theorem quiet_report (c : Config) (id : SocketId) (ready : Readiness) :
    ((Deed.deliver id ready).run c.world).Quiet Event.IsBracket (c.report id ready).world := by
  unfold report
  simp only [Deed.run]
  split
  · rename_i events world hdeliver
    rw [hdeliver]
    exact quiet_dispatch { c with world } id events
  · rename_i breach world hdeliver
    rw [hdeliver]
    exact (quiet_unwind { c with world } breach c.stack).mono fun _ h => h.isBracket

/-- **A moment does its deed**, and apart from brackets it does nothing else to the world. -/
theorem next_world (h : c.next = some d) :
    ∃ w, c.world.Quiet Event.IsMark w ∧ (c.deed.run w).Quiet Event.IsBracket d.world := by
  cases moment_next h with
  | idle hidle =>
    refine ⟨d.world, hidle.quiet, ?_⟩
    rw [hidle.deed]
    exact World.Quiet.refl _
  | @command b step command hbegins haction =>
    refine ⟨b.world, hbegins.quiet, ?_⟩
    rw [hbegins.deed_command haction, ← world_execute]
    exact quiet_endStep _ _ (fun _ h => h.isBracket) fun _ => trivial
  | @wait b step timeout limit hbegins haction hkind =>
    refine ⟨b.world, hbegins.quiet, ?_⟩
    rw [hbegins.deed_wait haction hkind]
    unfold runOnce
    rw [hbegins.quiet.kind, hkind]
    simp only [Deed.run]
    split
    · rename_i pending world hwait
      rw [hwait]
      exact World.Quiet.refl _
    · rename_i error world hwait
      rw [hwait]
      exact quiet_endStep { b with world } _ (fun _ h => h.isBracket) fun _ => trivial
  | turn hstack hturn =>
    refine ⟨c.world, World.Quiet.refl _, ?_⟩
    have hdeed : c.deed = .nothing := by
      simp only [deed, callback?, hstack]
    rw [hdeed]
    exact quiet_invoke _ _ _
  | @callBack b token callback ready hcalls =>
    refine ⟨_, hcalls.quiet, ?_⟩
    cases callback with
    | direct handler =>
      rw [hcalls.deed_direct]
      exact quiet_invoke _ _ _
    | socket id =>
      rw [hcalls.deed_socket]
      exact quiet_report _ _ _

end Config

end SocketLoop
