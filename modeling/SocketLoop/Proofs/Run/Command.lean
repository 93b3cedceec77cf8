import SocketLoop.Proofs.Run.Request

/-!
# Commands in a run

A command takes one moment, whatever it is about: its step begins, its deed is done, and the step
ends with the reply to the deed.

* `Deed.reply?` is the reply to a deed in the world in which it is done.
* `Config.Does`: a deed is done between two configurations, and nothing else.
* **`Config.exists_carriedOut`**: the moment of a command does its deed and ends with its reply.
* `CarriedOut.exists_recorded`: what such a moment records.
-/

namespace SocketLoop

/-- The reply to an operation on the world, where its result is told as a value. -/
def WorldM.reply {α : Type} (tell : α → Value) (op : WorldM α) (w : World) : Reply :=
  match op w with
  | .ok a _ => .ok (tell a)
  | .error halt _ => .ofHalt halt

namespace Deed

/-- The reply to the deed of a command. -/
def reply? : Deed → World → Option Reply
  | .openSocket family cls config, w => some ((World.openSocket family cls config).reply .opened w)
  | .accept s, w => some ((World.accept s).reply (fun (id, peer) => .accepted id peer) w)
  | .request s r, w => some ((World.perform s r.run).reply id w)
  | .change s ch, w => some ((World.subscribe s ch).reply (fun _ => .done) w)
  | .free _, _ => some (.ok .done)
  | .addDescriptor fd handler, w =>
    match (w.register fd (.direct handler)).1 with
    | .ok token => some (.ok (.token token))
    | .error error => some (.notRegistered error)
  | .setDescriptor _ _, _ => some (.ok .done)
  | .removeDescriptor _, _ => some (.ok .done)
  | _, _ => none

/-- Whether a deed is that of a command. -/
def isCommanded : Deed → Bool
  | .nothing => false
  | .wait _ => false
  | .deliver _ _ => false
  | _ => true

end Deed

namespace Config

variable {c d : Config}

/-- A command is replied to as its deed is. -/
theorem reply?_commandDeed (c : Config) {command : Command HandlerCode}
    (h : c.commandDeed command ≠ .nothing) :
    (c.commandDeed command).reply? c.world = some (c.execute command).1 := by
  have hnamed {name : SocketName} {f : Socket → Deed} {g : Socket → Reply × Config}
      (hf : (c.socketOf? name).elim .nothing f ≠ .nothing)
      (heq : ∀ s, f s ≠ .nothing → (f s).reply? c.world = some (g s).1) :
      ((c.socketOf? name).elim .nothing f).reply? c.world = some (c.withSocket name g).1 := by
    unfold withSocket
    cases hname : c.socketOf? name with
    | none => simp [hname] at hf
    | some s =>
      rw [hname] at hf
      exact heq s hf
  cases command with
  | openSocket name family cls config =>
    simp only [commandDeed, execute, Config.openSocket] at h ⊢
    split
    · simp_all
    · simp only [Deed.reply?, WorldM.reply]
      cases World.openSocket family cls config c.world <;> rfl
  | free name => exact hnamed h fun s _ => rfl
  | request name request =>
    refine hnamed h fun s _ => ?_
    simp only [Deed.reply?, WorldM.reply, carryOut]
    cases World.perform s request.run c.world <;> rfl
  | accept name newName =>
    refine hnamed h fun s hs => ?_
    unfold Config.accept
    split
    · simp_all
    · simp only [Deed.reply?, WorldM.reply]
      cases World.accept s c.world <;> rfl
  | change name change =>
    refine hnamed h fun s _ => ?_
    simp only [Deed.reply?, WorldM.reply, Config.change]
    cases World.subscribe s (change.map fun _ => c.nextHandler) c.world <;> rfl
  | addDescriptor fd label code =>
    simp only [commandDeed, Deed.reply?, execute, Config.addDescriptor]
    rcases c.world.register fd (.direct c.nextHandler) with ⟨error | token, world⟩ <;> rfl
  | setDescriptor token interest | removeDescriptor token => rfl
  | _ => exact absurd rfl h

/-! ## The deed of a moment -/

/-- The answers that the next moment finds for its calls. -/
def answers (c : Config) : Script :=
  match c.stack with
  | .steps (step :: _) _ _ :: _ => step.script
  | _ => c.script

/-- From one configuration to another nothing is done but the deed of the first moment. It is done
in this world, which differs from that of the first configuration by marks and answers. -/
structure Does (c d : Config) (w : World) : Prop where
  quiet : c.world.Quiet Event.IsMark w
  answers : w.kernel.script = c.answers
  nextFd : w.kernel.nextFd = c.world.kernel.nextFd
  world : (c.deed.run w).Quiet Event.IsBracket d.world

namespace Does

variable {w : World} {new later : History}

/-- What is noted is what is noted of the deed, if nothing is noted of brackets. -/
theorem filterMap_recorded {α : Type} {note : Event → Option α}
    (hnote : ∀ e : Event, e.IsBracket → note e = none) (h : c.Does d w)
    (hlater : (c.deed.run w).kernel.history = w.kernel.history ++ later) :
    (c.recorded d).filterMap note = later.filterMap note := by
  obtain ⟨new, hnew, hnotes⟩ := Grows.around note
    (h.quiet.history.mono fun e he => hnote e he.isBracket) hlater (h.world.history.mono hnote)
  rw [recorded_eq hnew, hnotes]

/-- What is no bracket is recorded by the deed. -/
theorem mem_iff (h : c.Does d w) (hnew : d.history = c.history ++ new)
    (hlater : (c.deed.run w).kernel.history = w.kernel.history ++ later) {e : Event}
    (he : ¬e.IsBracket) : e ∈ new ↔ e ∈ later := by
  obtain ⟨first, hfirst, hmarks⟩ := h.quiet.history
  obtain ⟨last, hlast, hbrackets⟩ := h.world.history
  obtain rfl : new = first ++ later ++ last := by
    refine List.append_cancel_left (hnew.symm.trans ?_)
    rw [history, hlast, hlater, hfirst]
    simp only [history, List.append_assoc]
  have hnone : e ∉ first ∧ e ∉ last :=
    ⟨fun hmem => he (hmarks e hmem).isBracket, fun hmem => he (hbrackets e hmem)⟩
  simp only [List.mem_append, hnone, false_or, or_false]

end Does

/-- The moment from one configuration to another carries out the deed of a command, which is replied
to like this. -/
structure CarriedOut (c d : Config) (w : World) (reply : Reply) : Prop extends c.Does d w where
  began : w.kernel.history = c.history ++ [.began]
  replied : c.deed.reply? w = some reply
  ended : ∃ status unwound,
    d.history = (c.deed.run w).kernel.history ++ .ended reply status :: unwound ∧
      (∀ e ∈ unwound, e.IsMark) ∧ ((∀ breach, reply ≠ .breached breach) → unwound = [])

/-- **A command takes one moment.** -/
theorem exists_carriedOut (h : c.next = some d) (hcommanded : c.deed.isCommanded = true) :
    ∃ w reply, c.CarriedOut d w reply := by
  cases moment_next h with
  | idle hidle => simp [hidle.deed, Deed.isCommanded] at hcommanded
  | wait hbegins haction hkind =>
    simp [hbegins.deed_wait haction hkind, Deed.isCommanded] at hcommanded
  | turn hstack hturn => simp [deed, callback?, hstack, Deed.isCommanded] at hcommanded
  | @callBack b token callback ready hcalls =>
    cases callback with
    | direct handler => simp [hcalls.deed_direct, Deed.isCommanded] at hcommanded
    | socket id => simp [hcalls.deed_socket, Deed.isCommanded] at hcommanded
  | @command b step command hbegins haction =>
    have hdeed := hbegins.deed_command haction
    have hne : b.commandDeed command ≠ .nothing := by
      intro hnothing
      simp [hdeed, hnothing, Deed.isCommanded] at hcommanded
    have hworld := world_execute b command
    have hreply := b.reply?_commandDeed hne
    rw [← hdeed] at hworld hreply
    have hends := ends_endStep (b.execute command).2 (b.execute command).1 step.ending
    refine ⟨b.world, (b.execute command).1, ⟨hbegins.quiet, ?_, ?_, ?_⟩, ?_, hreply, ?_⟩
    · obtain ⟨_, _, _, _, hstack, -⟩ := hbegins.stack
      simp only [Config.answers, hstack]
      obtain ⟨_⟩ := hbegins
      rfl
    · obtain ⟨_⟩ := hbegins
      rfl
    · rw [← hworld]
      exact quiet_endStep _ _ (fun _ h => h.isBracket) fun _ => trivial
    · obtain ⟨_⟩ := hbegins
      rfl
    · rw [← hworld]
      exact hends.history

namespace CarriedOut

variable {w : World} {reply : Reply}

/-- What is recorded: the step begins, the deed is done, and the step ends. -/
theorem exists_recorded (h : c.CarriedOut d w reply) (hw : c.world.Orderly) {new : History}
    (hnew : d.history = c.history ++ new) :
    ∃ later status unwound, (c.deed.run w).kernel.history = w.kernel.history ++ later ∧
      new = .began :: (later ++ .ended reply status :: unwound) ∧
      (∀ e ∈ later, ¬e.IsBracket) ∧ ∀ e ∈ unwound, e.IsMark := by
  obtain ⟨later, hlater, hwork⟩ := (c.deed.acts_run w ((fits_deed hw).quiet h.quiet)).grows
  obtain ⟨status, unwound, hended, hmarks, -⟩ := h.ended
  refine ⟨later, status, unwound, hlater, List.append_cancel_left (hnew.symm.trans ?_),
    fun e he => (hwork e he).work, hmarks⟩
  rw [hended, hlater, h.began, List.append_assoc, List.append_assoc]
  rfl

/-- The step ends with the reply. -/
theorem replyOf?_eq (h : c.CarriedOut d w reply) (hw : c.world.Orderly) {new : History}
    (hnew : d.history = c.history ++ new) : replyOf? new = some reply := by
  obtain ⟨later, status, unwound, -, rfl, hwork, -⟩ := h.exists_recorded hw hnew
  have hnone : later.findSome? Event.reply? = none := by
    refine List.findSome?_eq_none_iff.2 fun e he => ?_
    have hbracket := hwork e he
    cases e with
    | ended _ _ => exact absurd trivial hbracket
    | _ => rfl
  change (later ++ .ended reply status :: unwound).findSome? Event.reply? = some reply
  rw [List.findSome?_append, hnone]
  rfl

end CarriedOut

end Config

end SocketLoop
