import SocketLoop.Proofs.Run.Request
import SocketLoop.Proofs.Run.Sound
import SocketLoop.Proofs.Socket.Contract

/-!
# Breaches are exact and change nothing

An operation on an open socket ends in a breach if and only if it breaks the contract, and then the
whole state is as it was before: no socket, no registration and no identity is touched, and no call
is made.

**`contract_of_reaches`** says so of every operation at every moment of every run, and of the moment
in which a step makes it.
-/

namespace SocketLoop

/-- A reply tells of a breach only if the operation ended in it. -/
theorem Reply.ofResult_eq_breached {result : EStateM.Result Halt Session Value} {breach : Breach}
    (h : Reply.ofResult result = .breached breach) :
    ∃ session, result = .error (.breached breach) session := by
  cases result with
  | ok value session => cases h
  | error halt session =>
    cases halt with
    | failed error => cases h
    | breached other =>
      obtain rfl := Reply.breached.inj h
      exact ⟨session, rfl⟩

namespace Config

variable {c : Config}

/-- A command ends in a breach if and only if something is broken, and then it changes nothing. -/
structure Judges (c : Config) (command : Command HandlerCode) (broken : Prop) : Prop where
  breached_iff : (∃ breach, (c.execute command).1 = .breached breach) ↔ broken
  unchanged : broken → (c.execute command).2 = c

/-- The operations on a socket are judged by its contract. -/
structure Contract (c : Config) (name : SocketName) (s : Socket) : Prop where
  request : ∀ request : Request, request.readsAddress = false →
    c.Judges (.request name request) (request.Breaks s)
  change : ∀ change : Change HandlerCode,
    c.Judges (.change name change) (change.Breaks s.subscription)

/-- A socket that is put back as it is leaves the world alone. -/
theorem restore_eq_self {w : World} (hw : w.Orderly) {s : Socket} (hs : w.socket? s.id = some s) :
    w.restore ⟨s, w.kernel⟩ = w := by
  simp only [World.restore, Table.set_eq_self hw.increasing hs]

/-- Requests are judged by the contract. -/
theorem judges_request (hw : c.world.Orderly) {name : SocketName} {s : Socket}
    (hs : c.socketOf? name = some s) {request : Request} (hreads : request.readsAddress = false) :
    c.Judges (.request name request) (request.Breaks s) := by
  have hexecute : c.execute (.request name request) =
      c.carryOut (World.perform s request.run) := by
    simp only [execute, withSocket, hs]
  rw [carryOut_perform] at hexecute
  have hrefused (hbreaks : request.Breaks s) :
      ∃ breach, request.run ⟨s, c.world.kernel⟩ = .error (.breached breach) ⟨s, c.world.kernel⟩ :=
    Request.exists_refused _ hbreaks
  refine ⟨⟨?_, fun hbreaks => ?_⟩, fun hbreaks => ?_⟩
  · rintro ⟨breach, hbreach⟩
    rw [hexecute] at hbreach
    obtain ⟨after, hrun⟩ := Reply.ofResult_eq_breached hbreach
    exact Classical.byContradiction fun hkeeps =>
      Request.ne_breached ⟨s, c.world.kernel⟩ hreads hkeeps breach after hrun
  · obtain ⟨breach, hrun⟩ := hrefused hbreaks
    refine ⟨breach, ?_⟩
    rw [hexecute, hrun]
    rfl
  · obtain ⟨breach, hrun⟩ := hrefused hbreaks
    rw [hexecute]
    simp only [SocketM.after, hrun, restore_eq_self hw (socket?_of_socketOf? hw hs)]

/-- Changes of a subscription are judged by the contract. -/
theorem judges_change {name : SocketName} {s : Socket} (hs : c.socketOf? name = some s)
    (hsound : s.subscription.Sound) (change : Change HandlerCode) :
    c.Judges (.change name change) (change.Breaks s.subscription) := by
  have hexecute : c.execute (.change name change) = c.change name s change := by
    simp only [execute, withSocket, hs]
  have herror := Subscription.exists_error_iff hsound.supports (change.map fun _ => c.nextHandler)
  rw [Change.breaks_map] at herror
  rw [← herror]
  refine ⟨⟨?_, ?_⟩, ?_⟩
  · rintro ⟨breach, hbreach⟩
    rw [hexecute, Config.change, World.subscribe] at hbreach
    split at hbreach
    · simp at hbreach
    · rename_i halt world heq
      split at heq
      · exact ⟨_, ‹_›⟩
      · simp at heq
  · rintro ⟨breach, hbreach⟩
    refine ⟨breach, ?_⟩
    rw [hexecute, Config.change, World.subscribe, hbreach]
    rfl
  · rintro ⟨breach, hbreach⟩
    rw [hexecute, Config.change, World.subscribe, hbreach]

/-- All operations on an open socket are judged by its contract. -/
theorem contract_of_sound (hw : c.world.Orderly) {name : SocketName} {s : Socket}
    (hs : c.socketOf? name = some s) (hsound : s.subscription.Sound) : c.Contract name s :=
  ⟨fun _ hreads => judges_request hw hs hreads, judges_change hs hsound⟩

/-- The next moment carries out a command: the step begins, and it ends with the reply. -/
structure Takes (c b d : Config) (command : Command HandlerCode) (answers : Script)
    (ending : StepEnding) : Prop where
  begins : c.Begins b ⟨.command command, answers, ending⟩
  next : c.next = some d
  ended : d = (b.execute command).2.endStep (b.execute command).1 ending

/-- A moment with a breach is quiet: no matter whether the step contains the breach, all that
happens is that brackets are recorded and marks of callbacks are taken away. -/
theorem Takes.quiet {b d : Config} {command : Command HandlerCode} {answers : Script}
    {ending : StepEnding} (h : c.Takes b d command answers ending) {broken : Prop}
    (hjudges : b.Judges command broken) (hbroken : broken) :
    c.world.Quiet Event.IsMark d.world := by
  obtain ⟨breach, hreply⟩ := hjudges.breached_iff.2 hbroken
  have hended := h.ended
  rw [hjudges.unchanged hbroken, hreply] at hended
  rw [hended]
  exact h.begins.quiet.trans (quiet_endStep b ending (fun _ hmark => hmark) fun _ => rfl)

/-- **Breaches are exact and change nothing.** At every moment of every run, an operation on an open
socket ends in a breach if and only if it breaks the contract, and then nothing at all has changed.
The moment in which a step makes the operation is of this kind: there, a breach leaves nothing but
brackets and marks that are gone. -/
theorem contract_of_reaches {kind : ReactorKind} {program : List Step}
    (hrun : (Config.initial kind program).Reaches c) {name : SocketName} {s : Socket}
    (hs : c.socketOf? name = some s) :
    c.Contract name s ∧
      ∀ {command : Command HandlerCode} {answers : Script} {ending : StepEnding} {steps : List Step}
        {script : Script} {isHandler : Bool} {rest : List Frame},
        c.stack =
          .steps (⟨.command command, answers, ending⟩ :: steps) script isHandler :: rest →
        ∃ b d, c.Takes b d command answers ending ∧ b.Contract name s ∧
          ∀ broken, b.Judges command broken → broken → c.world.Quiet Event.IsMark d.world := by
  have hw := hrun.orderly
  have hsound := (sound_of_reaches hrun (socket?_of_socketOf? hw hs)).subscription
  refine ⟨contract_of_sound hw hs hsound, fun hstack => ?_⟩
  obtain ⟨b, hbegins, -, hnext⟩ := next_command hstack
  have htakes : c.Takes b _ _ _ _ := ⟨hbegins, hnext, rfl⟩
  refine ⟨b, _, htakes, ?_, fun broken hjudges => htakes.quiet hjudges⟩
  exact contract_of_sound (hw.quiet hbegins.quiet) ((hbegins.socketOf? name).trans hs) hsound

/-- Before the last step of a program that breaks the contract: writing cannot be enabled without a
handler, and there is no outcome of a connect to take. Trying either changes nothing, reading can be
disabled all the same, and the program ends with the breach but leaves everything as it was. -/
theorem contract_before_breach :
    let c := (Config.initial .retaining breachingProgram).skip 3
    c.socketOf? "u" = some breachingSocket ∧
      (c.execute (.change "u" (.enable .write))).2 = c ∧
      (c.execute (.request "u" .connectResult)).2 = c ∧
      (¬∃ breach, (c.execute (.change "u" (.disable .read))).1 = .breached breach) ∧
      ∃ d, c.next = some d ∧ c.world.Quiet Event.IsMark d.world := by
  have hopen : ((Config.initial .retaining breachingProgram).skip 3).socketOf? "u" =
      some breachingSocket := by
    decide
  obtain ⟨hcontract, htaken⟩ := contract_of_reaches (reaches_skip 3 _) hopen
  have hbreaks : (Change.enable .write : Change HandlerCode).Breaks breachingSocket.subscription :=
    .inl rfl
  refine ⟨hopen, ?_, ?_, ?_, ?_⟩
  · exact (hcontract.change (.enable .write)).unchanged hbreaks
  · refine (hcontract.request .connectResult rfl).unchanged fun outcome => ?_
    exact ConnectState.noConfusion
  · rw [(hcontract.change (.disable .read)).breached_iff]
    change ¬(_ ∨ _)
    decide
  · obtain ⟨b, d, htakes, hb, hquiet⟩ := htaken rfl
    exact ⟨d, htakes.next, hquiet _ (hb.change (.enable .write)) hbreaks⟩

end Config

end SocketLoop
