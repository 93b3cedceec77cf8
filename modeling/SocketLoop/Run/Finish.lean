import SocketLoop.Run.Next

/-!
# Every run ends

A run ends because its steps are used up. The measure has two parts, compared in this order:

* the *work*: the sizes of all steps that are still to be taken, in the stack and in the code of the
  installed handlers. Taking a step uses it up, and the code of a handler that it installs is
  smaller than the step. Calling a handler only moves steps from its code to the stack.
* the *load*: a weight for what the frames of the stack have still to do without taking a step. A
  reported registration outweighs the callback and the batch that it leads to, and an event of a
  batch outweighs the call of its handler.

Each moment lowers the work, or keeps it from growing and lowers the load.
-/

namespace SocketLoop

/-! ## Work -/

/-- The work of a list of steps. -/
noncomputable def stepsWork : List Step → Nat
  | [] => 0
  | step :: steps => sizeOf step + stepsWork steps

/-- The work of the code of a handler. -/
noncomputable def codeWork : HandlerCode → Nat
  | [] => 0
  | steps :: code => stepsWork steps + codeWork code

/-- The work of all handlers. -/
noncomputable def handlersWork : List InstalledHandler → Nat
  | [] => 0
  | handler :: handlers => codeWork handler.code + handlersWork handlers

/-- The work of a frame. -/
noncomputable def Frame.work : Frame → Nat
  | .steps todo _ _ => stepsWork todo
  | _ => 0

/-- The work of a stack. -/
noncomputable def stackWork : List Frame → Nat
  | [] => 0
  | frame :: frames => frame.work + stackWork frames

/-- The work of a run. -/
noncomputable def Config.work (c : Config) : Nat :=
  stackWork c.stack + handlersWork c.handlers

theorem stepsWork_le (steps : List Step) : stepsWork steps ≤ sizeOf steps := by
  induction steps with
  | nil => simp [stepsWork]
  | cons step steps ih =>
    simp only [stepsWork, List.cons.sizeOf_spec]
    omega

theorem codeWork_le (code : HandlerCode) : codeWork code ≤ sizeOf code := by
  induction code with
  | nil => simp [codeWork]
  | cons steps code ih =>
    have := stepsWork_le steps
    simp only [codeWork, List.cons.sizeOf_spec]
    omega

theorem work_split (handler : InstalledHandler) :
    stepsWork handler.nextSteps + codeWork handler.afterCall.code = codeWork handler.code := by
  obtain ⟨label, code⟩ := handler
  cases code <;> simp [InstalledHandler.nextSteps, InstalledHandler.afterCall, codeWork, stepsWork]

theorem handlersWork_append (hs ks : List InstalledHandler) :
    handlersWork (hs ++ ks) = handlersWork hs + handlersWork ks := by
  induction hs with
  | nil => simp [handlersWork]
  | cons h hs ih => simp [handlersWork, ih, Nat.add_assoc]

theorem handlersWork_set {hs : List InstalledHandler} {i : Nat} {h : InstalledHandler}
    (k : InstalledHandler) (hi : hs[i]? = some h) :
    handlersWork (hs.set i k) + codeWork h.code = handlersWork hs + codeWork k.code := by
  induction hs generalizing i with
  | nil => simp at hi
  | cons g hs ih =>
    cases i with
    | zero =>
      obtain rfl : g = h := by simpa using hi
      simp only [List.set_cons_zero, handlersWork]
      omega
    | succ i =>
      have := ih (i := i) (by simpa using hi)
      simp only [List.set_cons_succ, handlersWork]
      omega

/-! ## Load -/

/-- The load of a frame. -/
def Frame.load : Frame → Nat
  | .steps _ _ _ => 1
  | .batch _ events => 2 * events.length + 1
  | .callback _ => 1
  | .wake pending _ _ => 12 * pending.length + 1
  | .fire _ => 1

/-- The load of a stack. -/
def stackLoad : List Frame → Nat
  | [] => 0
  | frame :: frames => frame.load + stackLoad frames

/-- The load of a run. -/
def Config.load (c : Config) : Nat :=
  stackLoad c.stack

theorem EventSet.length_events_le (s : EventSet) : s.events.length ≤ 4 :=
  List.length_filter_le _ _

/-! ## What a moment does to the measure -/

namespace Config

/-! ### Unwinding and ending steps -/

theorem handlers_leaveSteps (c : Config) (script : Script) (isHandler : Bool) :
    (c.leaveSteps script isHandler).handlers = c.handlers := by
  cases isHandler <;> rfl

theorem stack_leaveSteps (c : Config) (script : Script) (isHandler : Bool) :
    (c.leaveSteps script isHandler).stack = c.stack := by
  cases isHandler <;> rfl

theorem handlers_unwind (breach : Breach) (c : Config) (frames : List Frame) :
    (c.unwind breach frames).handlers = c.handlers := by
  induction frames generalizing c with
  | nil => rfl
  | cons frame rest ih =>
    cases frame with
    | steps _ _ isHandler => rw [unwind, ih, handlers_leaveSteps]
    | batch _ _ => exact ih c
    | callback token => exact ih (c.leaveCallback token)
    | wake _ _ ending =>
      rcases ending with ⟨_, _ | _⟩
      · exact ih (c.record _)
      · rfl
    | fire ending =>
      rcases ending with ⟨_, _ | _⟩
      · exact ih (c.record _)
      · rfl

/-- What is left after unwinding is an end of the stack. -/
theorem stack_unwind_suffix (breach : Breach) (c : Config) (frames : List Frame) :
    (c.unwind breach frames).stack <:+ frames.tail := by
  induction frames generalizing c with
  | nil => exact List.suffix_rfl
  | cons frame rest ih =>
    have inner : ∀ d : Config, (d.unwind breach rest).stack <:+ rest := fun d =>
      (ih d).trans (List.tail_suffix rest)
    cases frame with
    | steps _ _ _ => exact inner _
    | batch _ _ => exact inner c
    | callback _ => exact inner _
    | wake _ _ ending =>
      rcases ending with ⟨_, _ | _⟩
      · exact inner _
      · exact List.suffix_rfl
    | fire ending =>
      rcases ending with ⟨_, _ | _⟩
      · exact inner _
      · exact List.suffix_rfl

end Config

theorem stackWork_le_of_suffix {xs ys : List Frame} (h : xs <:+ ys) :
    stackWork xs ≤ stackWork ys := by
  obtain ⟨zs, rfl⟩ := h
  induction zs with
  | nil => exact Nat.le_refl _
  | cons z zs ih =>
    simp only [List.cons_append, stackWork]
    omega

theorem stackLoad_le_of_suffix {xs ys : List Frame} (h : xs <:+ ys) :
    stackLoad xs ≤ stackLoad ys := by
  obtain ⟨zs, rfl⟩ := h
  induction zs with
  | nil => exact Nat.le_refl _
  | cons z zs ih =>
    simp only [List.cons_append, stackLoad]
    omega

namespace Config

theorem work_unwind_le (breach : Breach) (c : Config) :
    (c.unwind breach c.stack).work ≤ c.work := by
  have := stackWork_le_of_suffix <|
    (stack_unwind_suffix breach c c.stack).trans (List.tail_suffix c.stack)
  simp only [work, handlers_unwind]
  omega

theorem load_unwind_le (breach : Breach) (c : Config) :
    (c.unwind breach c.stack).load ≤ stackLoad c.stack.tail :=
  stackLoad_le_of_suffix (stack_unwind_suffix breach c c.stack)

theorem work_endStep_le (c : Config) (reply : Reply) (ending : StepEnding) :
    (c.endStep reply ending).work ≤ c.work := by
  unfold endStep
  split
  · split
    · exact Nat.le_refl _
    · exact work_unwind_le _ (c.record _)
  · exact Nat.le_refl _

theorem load_endStep_le (c : Config) (reply : Reply) (ending : StepEnding) :
    (c.endStep reply ending).load ≤ c.load := by
  unfold endStep
  split
  · split
    · exact Nat.le_refl _
    · exact Nat.le_trans (load_unwind_le _ (c.record _))
        (stackLoad_le_of_suffix (List.tail_suffix _))
  · exact Nat.le_refl _

/-! ### Calling handlers -/

theorem work_invoke_le (c : Config) (handler : HandlerRef) (notice : Notice) :
    (c.invoke handler notice).work ≤ c.work := by
  simp only [invoke, record, work, stackWork, Frame.work]
  rcases hi : c.handlers[handler]? with _ | h
  · -- a handler that was never installed has no code
    have hle : c.handlers.length ≤ handler := List.getElem?_eq_none_iff.1 hi
    simp [handlerOf, hi, List.set_eq_of_length_le hle, InstalledHandler.nextSteps, stepsWork]
  · have hset := handlersWork_set h.afterCall hi
    have hsplit := work_split h
    simp only [handlerOf, hi, Option.getD_some]
    omega

theorem load_invoke (c : Config) (handler : HandlerRef) (notice : Notice) :
    (c.invoke handler notice).load = 1 + c.load :=
  rfl

theorem work_dispatch_le (c : Config) (id : SocketId) (events : EventSet) :
    (c.dispatch id events).work ≤ c.work := by
  unfold dispatch
  split
  · exact Nat.le_refl _
  · split
    · exact work_invoke_le c _ _
    · simp [work, stackWork, Frame.work]

theorem load_dispatch_le (c : Config) (id : SocketId) (events : EventSet) :
    (c.dispatch id events).load ≤ 9 + c.load := by
  unfold dispatch
  split
  · omega
  · split
    · rw [load_invoke]
      omega
    · have := EventSet.length_events_le events
      simp only [load, stackLoad, Frame.load]
      omega

theorem work_enterCallback (c : Config) (token : Token) :
    (c.enterCallback token).work = c.work := by
  simp [enterCallback, work, stackWork, Frame.work]

theorem work_report_le (c : Config) (id : SocketId) (ready : Readiness) :
    (c.report id ready).work ≤ c.work := by
  unfold report
  split
  · exact work_dispatch_le _ _ _
  · exact work_unwind_le _ _

theorem load_report_le (c : Config) (id : SocketId) (ready : Readiness) :
    (c.report id ready).load ≤ 9 + c.load := by
  unfold report
  split
  · exact load_dispatch_le _ _ _
  · exact Nat.le_trans
      (stackLoad_le_of_suffix ((stack_unwind_suffix _ _ _).trans (List.tail_suffix _)))
      (Nat.le_add_left _ _)

theorem work_callBack_le (c : Config) (token : Token) (callback : Callback) (ready : Readiness) :
    (c.callBack token callback ready).work ≤ c.work := by
  rw [← work_enterCallback c token]
  cases callback with
  | direct handler => exact work_invoke_le _ _ _
  | socket id => exact work_report_le _ _ _

theorem load_callBack_le (c : Config) (token : Token) (callback : Callback) (ready : Readiness) :
    (c.callBack token callback ready).load ≤ 10 + c.load := by
  have henter : (c.enterCallback token).load = 1 + c.load := rfl
  cases callback with
  | direct handler =>
    simp only [callBack, load_invoke, henter]
    omega
  | socket id =>
    have := load_report_le (c.enterCallback token) id ready
    simp only [callBack]
    omega

/-! ### Steps -/

/-- The work that a command can bring into a run. -/
noncomputable def commandWork : Command HandlerCode → Nat
  | .change _ change => change.handler?.elim 0 codeWork
  | .addDescriptor _ _ code => codeWork code
  | _ => 0

theorem commandWork_lt (command : Command HandlerCode) : commandWork command < sizeOf command := by
  cases command with
  | change name change =>
    cases change with
    | addGlobal code =>
      have := codeWork_le code
      simp only [commandWork, Change.handler?, Option.elim, Command.change.sizeOf_spec,
        Change.addGlobal.sizeOf_spec]
      omega
    | addHandler event code =>
      have := codeWork_le code
      simp only [commandWork, Change.handler?, Option.elim, Command.change.sizeOf_spec,
        Change.addHandler.sizeOf_spec]
      omega
    | _ =>
      simp only [commandWork, Change.handler?, Option.elim, Command.change.sizeOf_spec]
      omega
  | addDescriptor fd label code =>
    have := codeWork_le code
    simp only [commandWork, Command.addDescriptor.sizeOf_spec]
    omega
  | reactorInfo => exact Nat.one_pos
  | _ =>
    simp only [commandWork, Command.openSocket.sizeOf_spec, Command.free.sizeOf_spec,
      Command.info.sizeOf_spec, Command.isLive.sizeOf_spec, Command.request.sizeOf_spec,
      Command.accept.sizeOf_spec, Command.compareIds.sizeOf_spec,
      Command.setDescriptor.sizeOf_spec, Command.removeDescriptor.sizeOf_spec]
    omega

/-- One run has the stack of another and at most `n` more work in its handlers. -/
def BoundedBy (c : Config) (n : Nat) (d : Config) : Prop :=
  d.stack = c.stack ∧ handlersWork d.handlers ≤ handlersWork c.handlers + n

theorem boundedBy_world (c : Config) (n : Nat) (world : World)
    (names : List (SocketName × SocketId)) :
    BoundedBy c n { c with world, names } :=
  ⟨rfl, Nat.le_add_right _ _⟩

theorem boundedBy_install (c : Config) (label : String) (code : HandlerCode) :
    BoundedBy c (codeWork code) (c.install label code) := by
  refine ⟨rfl, ?_⟩
  simp [install, handlersWork_append, handlersWork]

theorem boundedBy_withSocket {c : Config} {n : Nat} (name : SocketName)
    {f : Socket → Reply × Config} (hf : ∀ s, BoundedBy c n (f s).2) :
    BoundedBy c n (c.withSocket name f).2 := by
  unfold withSocket
  split
  · exact boundedBy_world c n c.world c.names
  · exact hf _

theorem boundedBy_carryOut (c : Config) (n : Nat) (op : WorldM Value) :
    BoundedBy c n (c.carryOut op).2 := by
  unfold carryOut
  split <;> exact boundedBy_world c n _ _

theorem boundedBy_openSocket (c : Config) (n : Nat) (name : SocketName) (family : AddressFamily)
    (cls : SocketClass) (config : SocketConfig) :
    BoundedBy c n (c.openSocket name family cls config).2 := by
  unfold openSocket
  split
  · exact boundedBy_world c n _ _
  · split <;> exact boundedBy_world c n _ _

theorem boundedBy_accept (c : Config) (n : Nat) (listener : Socket) (newName : SocketName) :
    BoundedBy c n (c.accept listener newName).2 := by
  unfold accept
  split
  · exact boundedBy_world c n _ _
  · split <;> exact boundedBy_world c n _ _

theorem boundedBy_change (c : Config) (name : SocketName) (s : Socket)
    (change : Change HandlerCode) :
    BoundedBy c (change.handler?.elim 0 codeWork) (c.change name s change).2 := by
  unfold Config.change
  split
  · rename_i world _
    cases change.handler? with
    | none => exact boundedBy_world c _ world c.names
    | some code => exact boundedBy_install { c with world } name code
  · exact boundedBy_world c _ _ _

theorem boundedBy_addDescriptor (c : Config) (fd : Fd) (label : String) (code : HandlerCode) :
    BoundedBy c (codeWork code) (c.addDescriptor fd label code).2 := by
  unfold addDescriptor
  split
  · exact boundedBy_install { c with world := _ } label code
  · exact boundedBy_world c _ _ _

theorem boundedBy_execute (c : Config) (command : Command HandlerCode) :
    BoundedBy c (commandWork command) (c.execute command).2 := by
  cases command with
  | openSocket name family cls config => exact boundedBy_openSocket c _ name family cls config
  | free name => exact boundedBy_withSocket name fun _ => boundedBy_world c _ _ _
  | info name => exact boundedBy_withSocket name fun _ => boundedBy_world c _ _ _
  | request name request => exact boundedBy_withSocket name fun _ => boundedBy_carryOut c _ _
  | accept name newName => exact boundedBy_withSocket name fun _ => boundedBy_accept c _ _ _
  | change name change => exact boundedBy_withSocket name fun _ => boundedBy_change c name _ change
  | addDescriptor fd label code => exact boundedBy_addDescriptor c fd label code
  | _ => exact boundedBy_world c _ _ _

theorem work_takeStep_le (c : Config) (step : Step) :
    (c.takeStep step).work < c.work + sizeOf step := by
  obtain ⟨action, script, ending⟩ := step
  rw [Step.mk.sizeOf_spec]
  cases action with
  | command command =>
    have hbound := boundedBy_execute ((c.withScript script).record .began) command
    have hlt := commandWork_lt command
    have hend := work_endStep_le (((c.withScript script).record .began).execute command).2
      (((c.withScript script).record .began).execute command).1 ending
    have hbefore : ((c.withScript script).record .began).work = c.work := rfl
    simp only [takeStep, Action.command.sizeOf_spec]
    simp only [work] at *
    rw [hbound.1] at hend
    have := hbound.2
    omega
  | run timeout =>
    have hle : (runOnce ((c.withScript script).record .began) timeout ending).work ≤ c.work := by
      unfold runOnce
      split
      · exact work_endStep_le _ _ _
      · split
        · simp [work, stackWork, Frame.work, record, withScript]
        · exact work_endStep_le { (c.withScript script).record .began with world := _ } _ _
    simp only [takeStep, Action.run.sizeOf_spec]
    omega
  | fire token ready =>
    have hle :
        (fire ((c.withScript script).record .began) token ready ending).work ≤ c.work := by
      unfold fire
      split
      · exact work_endStep_le _ _ _
      · split
        · exact work_endStep_le _ _ _
        · split
          · exact work_endStep_le _ _ _
          · refine Nat.le_trans (work_callBack_le _ _ _ _) ?_
            simp [work, stackWork, Frame.work, record, withScript]
    simp only [takeStep, Action.fire.sizeOf_spec]
    omega

/-! ### The next moment -/

/-- Less work, or no more work and less load. -/
def Lighter (c d : Config) : Prop :=
  Prod.Lex (· < ·) (· < ·) (c.work, c.load) (d.work, d.load)

theorem lighter_of_work {c d : Config} (h : c.work < d.work) : Lighter c d :=
  Prod.Lex.left _ _ h

theorem lighter_of_load {c d : Config} (hw : c.work ≤ d.work) (hl : c.load < d.load) :
    Lighter c d := by
  rcases Nat.lt_or_eq_of_le hw with h | h
  · exact lighter_of_work h
  · unfold Lighter
    rw [h]
    exact Prod.Lex.right _ hl

theorem lighter_wakeTurn {c : Config} {token : Token} {revents : Revents}
    {pending : List (Token × Revents)} {count : Nat} {ending : StepEnding} {rest : List Frame}
    (hstack : c.stack = .wake ((token, revents) :: pending) count ending :: rest) :
    Lighter (c.wakeTurn token revents pending count ending rest) c := by
  unfold wakeTurn
  split
  · apply lighter_of_load
    · simp [work, hstack, stackWork, Frame.work]
    · simp only [load, hstack, stackLoad, Frame.load, List.length_cons]
      omega
  · split
    · refine lighter_of_load (work_unwind_le _ c) (Nat.lt_of_le_of_lt (load_unwind_le _ c) ?_)
      simp only [load, hstack, List.tail_cons, stackLoad, Frame.load]
      omega
    · apply lighter_of_load
      · refine Nat.le_trans (work_callBack_le _ _ _ _) ?_
        simp [work, hstack, stackWork, Frame.work]
      · refine Nat.lt_of_le_of_lt (load_callBack_le _ _ _ _) ?_
        simp only [load, hstack, stackLoad, Frame.load, List.length_cons]
        omega

theorem lighter_batchTurn {c : Config} {id : SocketId} {event : SocketEvent}
    {events : List SocketEvent} {rest : List Frame}
    (hstack : c.stack = .batch id (event :: events) :: rest) :
    Lighter (c.batchTurn id event events rest) c := by
  unfold batchTurn
  split
  · apply lighter_of_load
    · simp [work, hstack, stackWork, Frame.work]
    · simp only [load, hstack, stackLoad, Frame.load]
      omega
  · apply lighter_of_load
    · simp [work, hstack, stackWork, Frame.work]
    · simp only [load, hstack, stackLoad, Frame.load, List.length_cons]
      omega
  · apply lighter_of_load
    · refine Nat.le_trans (work_invoke_le _ _ _) ?_
      simp [work, hstack, stackWork, Frame.work]
    · rw [load_invoke]
      simp only [load, hstack, stackLoad, Frame.load, List.length_cons]
      omega

/-- Each moment makes a run lighter. -/
theorem lighter_next {c d : Config} (h : c.next = some d) : Lighter d c := by
  unfold next at h
  split at h
  · simp at h
  · rename_i script isHandler rest hstack
    obtain rfl := Option.some.inj h
    apply lighter_of_load
    · simp [work, hstack, stackWork, Frame.work, handlers_leaveSteps, stack_leaveSteps]
    · simp only [load, hstack, stackLoad, Frame.load, stack_leaveSteps]
      omega
  · rename_i step todo script isHandler rest hstack
    obtain rfl := Option.some.inj h
    apply lighter_of_work
    refine Nat.lt_of_lt_of_le (work_takeStep_le _ step) ?_
    simp only [work, hstack, stackWork, Frame.work, stepsWork]
    omega
  · rename_i rest hstack
    obtain rfl := Option.some.inj h
    apply lighter_of_load
    · simp [work, hstack, stackWork, Frame.work]
    · simp only [load, hstack, stackLoad, Frame.load]
      omega
  · rename_i hstack
    obtain rfl := Option.some.inj h
    exact lighter_batchTurn hstack
  · rename_i token rest hstack
    obtain rfl := Option.some.inj h
    apply lighter_of_load
    · simp [work, leaveCallback, hstack, stackWork, Frame.work]
    · simp only [load, leaveCallback, hstack, stackLoad, Frame.load]
      omega
  · rename_i count ending rest hstack
    obtain rfl := Option.some.inj h
    apply lighter_of_load
    · refine Nat.le_trans (work_endStep_le _ _ _) ?_
      simp [work, hstack, stackWork, Frame.work]
    · refine Nat.lt_of_le_of_lt (load_endStep_le _ _ _) ?_
      simp only [load, hstack, stackLoad, Frame.load]
      omega
  · rename_i hstack
    obtain rfl := Option.some.inj h
    exact lighter_wakeTurn hstack
  · rename_i ending rest hstack
    obtain rfl := Option.some.inj h
    apply lighter_of_load
    · refine Nat.le_trans (work_endStep_le _ _ _) ?_
      simp [work, hstack, stackWork, Frame.work]
    · refine Nat.lt_of_le_of_lt (load_endStep_le _ _ _) ?_
      simp only [load, hstack, stackLoad, Frame.load]
      omega

/-! ## Runs -/

/-- The end of a run. -/
def finish (c : Config) : Config :=
  match _h : c.next with
  | none => c
  | some d => d.finish
termination_by (c.work, c.load)
decreasing_by exact lighter_next _h

end Config

/-- Everything that happens when a program is run. -/
def historyOf (kind : ReactorKind) (program : List Step) : History :=
  (Config.initial kind program).finish.history

end SocketLoop
