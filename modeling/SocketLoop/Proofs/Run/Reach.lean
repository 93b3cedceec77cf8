import SocketLoop.Proofs.World.Orderly

/-!
# What a run comes by

`Config.Reaches` relates a configuration to those that the run comes by later. The start of a
program reaches every state of every run, whatever the program, the handlers and the answers of the
operating system are.

* **`Reaches.orderly`**: the world of a run is orderly at every moment.
* **`Reaches.invariant`**: what every act keeps of an orderly world holds all along a run.
* `next_acts`: a moment is a sequence of acts of its deed.
* `next_records`: a moment records nothing of any descriptor or registration but those of its deed.
-/

namespace SocketLoop

/-- A step that leaves all calls to the usual answers and watches no socket. -/
def Step.plain (action : Action HandlerCode) : Step :=
  ⟨action, .blank, ⟨none, false⟩⟩

/-- The script in which one kind of call is answered in these ways. -/
def Script.only (kind : CallKind) (answers : List Answer) : Script :=
  ⟨fun k => if k = kind then answers else [], []⟩

namespace Config

/-- The second configuration is the first one, or comes later in its run. -/
abbrev Reaches : Config → Config → Prop :=
  Relation.ReflTransGen fun c d => c.next = some d

/-- The run some moments later, or its end. -/
def skip : Nat → Config → Config
  | 0, c => c
  | n + 1, c => c.next.elim c (skip n)

/-- What comes some moments later is reached. -/
theorem reaches_skip (n : Nat) (c : Config) : c.Reaches (c.skip n) := by
  induction n generalizing c with
  | zero => exact .refl
  | succ n ih =>
    unfold skip
    cases h : c.next with
    | none => exact .refl
    | some d => exact .head h (ih d)

/-- What a run that ends comes by before its end is found within its length. -/
theorem exists_skip_of_reaches {c b d : Config} {n : Nat} (hrun : c.Reaches b)
    (hnext : b.next = some d) (hend : (c.skip n).next = none) : ∃ k, k < n ∧ b = c.skip k := by
  induction n generalizing c with
  | zero =>
    rcases hrun.cases_head with rfl | ⟨c', hc', -⟩
    · exact absurd (hend.symm.trans hnext) (by simp)
    · exact absurd (hend.symm.trans hc') (by simp)
  | succ n ih =>
    rcases hrun.cases_head with rfl | ⟨c', hc', hrun'⟩
    · exact ⟨0, Nat.succ_pos n, rfl⟩
    · have hskip (k : Nat) : c.skip (k + 1) = c'.skip k := by
        simp only [skip, hc', Option.elim_some]
      rw [hskip] at hend
      obtain ⟨k, hk, rfl⟩ := ih hrun' hend
      exact ⟨k + 1, Nat.succ_lt_succ hk, (hskip k).symm⟩

variable {c d e : Config}

/-! ## Deeds of a moment -/

/-- A name stands for an open socket that is found under its own identity. -/
theorem socket?_of_socketOf? (h : c.world.Orderly) {name : SocketName} {s : Socket}
    (hs : c.socketOf? name = some s) : c.world.socket? s.id = some s := by
  obtain ⟨id, -, hid⟩ := Option.bind_eq_some_iff.1 hs
  exact h.socket?_id hid

/-- A command leads to a deed for an open socket. -/
theorem Leads.fits {command : Command HandlerCode} {deed : Deed} (hleads : c.Leads command deed)
    (h : c.world.Orderly) : deed.Fits c.world := by
  have hnamed {deed : Deed} {name : SocketName} {s : Socket} (hname : c.socketOf? name = some s)
      (hserved : deed.served? c.world = some s) : deed.Fits c.world := by
    intro t ht
    obtain rfl := Option.some.inj (hserved.symm.trans ht)
    exact socket?_of_socketOf? h hname
  cases hleads with
  | free named | request named | accept named | change named => exact hnamed named rfl
  | _ => exact fun s hs => by simp [Deed.served?, Deed.socket?] at hs

/-- The deed of a moment works for an open socket. -/
theorem fits_deed (h : c.world.Orderly) : c.deed.Fits c.world := by
  have hasks := c.asks_deed
  generalize c.deed = deed at hasks ⊢
  cases hasks with
  | command stack leads => exact leads.fits h
  | deliver callback => exact fun s hs => h.socket?_id hs
  | nothing | wait _ _ => exact fun s hs => by simp [Deed.served?, Deed.socket?] at hs

/-! ## Moments as acts -/

/-- **A moment is a sequence of acts of its deed.** -/
theorem next_acts (h : c.next = some d) (hw : c.world.Orderly) :
    World.Acts (fun _ => True) c.deed c.world d.world := by
  obtain ⟨w, hbefore, hafter⟩ := next_world h
  have hdeed := c.deed.acts_run w ((fits_deed hw).quiet hbefore)
  refine .head (.quiet (hbefore.mono fun _ _ => trivial)) (.tail (hdeed.mono fun _ _ => trivial) ?_)
  exact .quiet (hafter.mono fun _ _ => trivial)

/-- A moment keeps the world orderly. -/
theorem next_orderly (h : c.next = some d) (hw : c.world.Orderly) : d.world.Orderly :=
  (next_acts h hw).orderly hw

/-- **What a moment records** names no descriptors and touches no registrations but those of its
deed. -/
theorem next_records (h : c.next = some d) (hw : c.world.Orderly) :
    ∃ new, d.history = c.history ++ new ∧ CallsWith (c.deed.fds c.world) new ∧
      ∀ e ∈ new, ∀ token, e.token? = some token → token ∈ c.deed.tokens c.world := by
  obtain ⟨w, hbefore, hafter⟩ := next_world h
  have hfits := (fits_deed hw).quiet hbefore
  have hwork := (c.deed.acts_run w hfits).grows
  obtain ⟨later, hlater, hcalls⟩ := c.deed.callsSince_run w hfits
  rw [c.deed.fds_quiet hbefore] at hcalls
  rw [c.deed.tokens_quiet hbefore] at hwork
  obtain ⟨first, hfirst, hmarks⟩ := hbefore.history
  obtain ⟨last, hlast, hbrackets⟩ := hafter.history
  have hnone {e : Event} (he : e.IsBracket) {fds : List Fd} :
      ∀ fd, e.fd? = some fd → fd ∈ fds := by
    simp [he.fd?_eq_none]
  refine ⟨first ++ later ++ last, ?_, ?_, ?_⟩
  · simp only [history, hlast, hlater, hfirst, List.append_assoc]
  · have hopened : CallsWith (c.deed.fds c.world) (first ++ later) := by
      refine CallsWith.append (CallsWith.of_forall fun e he => hnone (hmarks e he).isBracket) ?_
      exact hcalls.mono fun fd hfd => List.mem_append_right _ hfd
    exact hopened.append (CallsWith.of_forall fun e he => hnone (hbrackets e he))
  · intro e he token htoken
    rcases List.mem_append.1 he with he | he
    · rcases List.mem_append.1 he with he | he
      · simp [(hmarks e he).isBracket.token?_eq_none] at htoken
      · exact (hwork.forall_of_eq hlater e he).token token htoken
    · simp [(hbrackets e he).token?_eq_none] at htoken

/-! ## Runs -/

namespace Reaches

/-- What comes after an orderly moment is orderly. -/
theorem orderly_of (h : c.Reaches d) (hw : c.world.Orderly) : d.world.Orderly := by
  induction h with
  | refl => exact hw
  | tail _ hnext ih => exact next_orderly hnext ih

/-- **The world of a run is orderly** at every moment. -/
theorem orderly {kind : ReactorKind} {program : List Step}
    (h : (Config.initial kind program).Reaches c) : c.world.Orderly :=
  orderly_of h (World.Orderly.initial kind)

/-- **What every act keeps of an orderly world, every run keeps.** -/
theorem invariant {I : World → Prop} (h : c.Reaches d) (hw : c.world.Orderly)
    (hact : ∀ deed w w', World.Act (fun _ => True) deed w w' → w.Orderly → I w → I w')
    (hc : I c.world) : I d.world := by
  induction h with
  | refl => exact hc
  | tail hrun hnext ih =>
    have hkeeps := (next_acts hnext (Reaches.orderly_of hrun hw)).invariant
      (I := fun w => w.Orderly ∧ I w) fun w w' h hw => ⟨h.orderly hw.1, hact _ w w' h hw.1 hw.2⟩
    exact (hkeeps ⟨Reaches.orderly_of hrun hw, ih⟩).2

end Reaches

end Config

end SocketLoop
