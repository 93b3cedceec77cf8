import SocketLoop.Socket.Basic

/-!
# Changes of a subscription

A subscription is sound if its enabled events can be delivered and belong together:

* without handlers nothing is enabled, not even an unnamed bit;
* with handlers for single events there is at least one, no unnamed bit is enabled, and every
  enabled event has its handler;
* at most one role is present among the enabled events, whatever the handlers are.

**`Subscription.Sound.apply`**: a change that is accepted keeps a subscription sound. The conditions
need one another: a global handler is installed only where nothing is enabled, an event is enabled
only where its handler is, and the last handler is removed together with the last enabled event.

**`Subscription.enabled_of_not_pushed`**: a change of which the reactor is not told changes no
enabled event.
-/

namespace SocketLoop

namespace EventSet

/-- At most one role is present: data, listening or connecting. -/
def OneRole (s : EventSet) : Prop :=
  (∀ e ∈ s, e = .read ∨ e = .write) ∨ (∀ e ∈ s, e = .accept) ∨ ∀ e ∈ s, e = .connect

/-- The check for coherence decides whether at most one role is present. -/
theorem isCoherent_iff (s : EventSet) : s.isCoherent = true ↔ s.OneRole := by
  have hall (p : SocketEvent → Prop) :
      (∀ e ∈ s, p e) ↔ (s.read = true → p .read) ∧ (s.write = true → p .write) ∧
        (s.accept = true → p .accept) ∧ (s.connect = true → p .connect) := by
    refine ⟨fun h => ⟨h .read, h .write, h .accept, h .connect⟩, ?_⟩
    rintro ⟨hread, hwrite, haccept, hconnect⟩ e he
    cases e with
    | read => exact hread he
    | write => exact hwrite he
    | accept => exact haccept he
    | connect => exact hconnect he
  simp only [OneRole, hall, isCoherent]
  cases s.read <;> cases s.write <;> cases s.accept <;> cases s.connect <;> simp

/-- Fewer events have no more roles. -/
theorem OneRole.anti {s t : EventSet} (h : t.OneRole) (hsub : ∀ e ∈ s, e ∈ t) : s.OneRole := by
  rcases h with h | h | h
  · exact .inl fun e he => h e (hsub e he)
  · exact .inr (.inl fun e he => h e (hsub e he))
  · exact .inr (.inr fun e he => h e (hsub e he))

/-- Nothing has no role. -/
theorem oneRole_empty : (∅ : EventSet).OneRole :=
  .inl fun e he => by simp [mem_iff] at he

/-- A set without events and without an unnamed bit is empty. -/
theorem eq_empty {s : EventSet} (h : ∀ e, e ∉ s) (hother : s.other = 0) : s = ∅ := by
  have hfalse (e : SocketEvent) : s.contains e = false := Bool.eq_false_iff.2 (h e)
  exact EventSet.ext (hfalse .read) (hfalse .write) (hfalse .accept) (hfalse .connect) hother

/-- Erasing an event keeps the others. -/
theorem mem_erase {s : EventSet} {d e : SocketEvent} : e ∈ s.erase d ↔ e ∈ s ∧ d ≠ e := by
  simp [mem_iff, contains_erase]

/-- Erasing an event keeps the unnamed bits. -/
theorem other_erase (s : EventSet) (e : SocketEvent) : (s.erase e).other = s.other := by
  cases e <;> rfl

/-- Erasing an event that is not there changes nothing. -/
theorem erase_eq_self {s : EventSet} {e : SocketEvent} (h : s.contains e = false) :
    s.erase e = s := by
  obtain ⟨read, write, accept, connect, other⟩ := s
  cases e <;> simp_all [erase, contains]

/-- Inserting an event adds that event. -/
theorem mem_insert {s : EventSet} {d e : SocketEvent} : e ∈ s.insert d ↔ e ∈ s ∨ d = e := by
  simp [mem_iff, insert, contains_single]

/-- Inserting an event adds no unnamed bit. -/
theorem other_insert (s : EventSet) (e : SocketEvent) : (s.insert e).other = s.other := by
  have hzero : (single e).other = 0 := by cases e <;> rfl
  exact (congrArg (s.other ||| ·) hzero).trans BitVec.or_zero

end EventSet

/-! ## Handlers -/

namespace Handlers

/-- What the enabled events have to be for some handlers. -/
def Supports (handlers : Handlers) (enabled : EventSet) : Prop :=
  match handlers with
  | .empty => enabled = ∅
  | .global _ => True
  | .perEvent handlers => (∃ event, (handlers.get? event).isSome = true) ∧ enabled.other = 0 ∧
      ∀ event ∈ enabled, (handlers.get? event).isSome = true

end Handlers

/-- The table without handlers has none for any event. -/
theorem EventHandlers.get?_none (e : SocketEvent) : EventHandlers.none.get? e = .none := by
  cases e <;> rfl

/-- A table that is not without handlers has one. -/
theorem EventHandlers.exists_of_ne_none {handlers : EventHandlers} (h : handlers ≠ .none) :
    ∃ event, (handlers.get? event).isSome = true := by
  refine Classical.byContradiction fun hnone => h ?_
  have hget (event : SocketEvent) : handlers.get? event = Option.none := by
    rw [← Option.not_isSome_iff_eq_none]
    exact fun hsome => hnone ⟨event, hsome⟩
  obtain ⟨read, write, accept, connect⟩ := handlers
  obtain rfl : read = _ := hget .read
  obtain rfl : write = _ := hget .write
  obtain rfl : accept = _ := hget .accept
  obtain rfl : connect = _ := hget .connect
  rfl

/-! ## Subscriptions -/

namespace Subscription

/-- The enabled events can be delivered and belong together. -/
structure Sound (s : Subscription) : Prop where
  oneRole : s.enabled.OneRole
  supports : s.handlers.Supports s.enabled

variable {s t : Subscription}

/-- A new subscription is sound. -/
theorem sound_initial : Subscription.initial.Sound :=
  ⟨EventSet.oneRole_empty, rfl⟩

/-- Installing a global handler where there is none keeps a subscription sound. -/
theorem Sound.installGlobal (hs : s.Sound) {handlers : Handlers} {handler : HandlerRef}
    (h : s.handlers.installGlobal handler = .ok handlers) : Sound ⟨handlers, s.enabled⟩ := by
  unfold Handlers.installGlobal at h
  split at h
  · obtain rfl := Except.ok.inj h
    exact ⟨hs.oneRole, trivial⟩
  · simp at h
  · simp at h

/-- Installing a handler for an event that has none keeps a subscription sound. -/
theorem Sound.install (hs : s.Sound) {event : SocketEvent} {handlers : Handlers}
    {handler : HandlerRef} (h : s.handlers.install event handler = .ok handlers) :
    Sound ⟨handlers, s.enabled⟩ := by
  have hsupports := hs.supports
  refine ⟨hs.oneRole, ?_⟩
  unfold Handlers.install at h
  split at h
  · rename_i hempty
    obtain rfl := Except.ok.inj h
    simp only [hempty, Handlers.Supports] at hsupports
    rw [hsupports]
    refine ⟨⟨event, by simp [EventHandlers.get?_set]⟩, rfl, fun e he => ?_⟩
    simp [EventSet.mem_iff] at he
  · rename_i installed hperEvent
    simp only [hperEvent, Handlers.Supports] at hsupports
    split at h
    · simp at h
    · obtain rfl := Except.ok.inj h
      obtain ⟨-, hother, hall⟩ := hsupports
      refine ⟨⟨event, by simp [EventHandlers.get?_set]⟩, hother, fun e he => ?_⟩
      rw [EventHandlers.get?_set]
      split
      · rfl
      · exact hall e he
  · simp at h

/-- Removing a handler together with its event keeps a subscription sound. -/
theorem Sound.remove (hs : s.Sound) {event : SocketEvent} {handlers : Handlers}
    (h : s.handlers.remove event = .ok handlers) : Sound ⟨handlers, s.enabled.erase event⟩ := by
  have hsupports := hs.supports
  refine ⟨hs.oneRole.anti fun e he => (EventSet.mem_erase.1 he).1, ?_⟩
  unfold Handlers.remove at h
  split at h
  · rename_i installed hperEvent
    simp only [hperEvent, Handlers.Supports] at hsupports
    obtain ⟨-, hother, hall⟩ := hsupports
    have hrest (e : SocketEvent) (he : e ∈ s.enabled.erase event) :
        ((installed.set event none).get? e).isSome = true := by
      obtain ⟨hmem, hne⟩ := EventSet.mem_erase.1 he
      rw [EventHandlers.get?_set, if_neg hne]
      exact hall e hmem
    split at h
    · obtain rfl := Except.ok.inj h
      unfold Handlers.ofEventHandlers
      split
      · -- the last handler is gone, and with it the last event
        rename_i hnone
        refine EventSet.eq_empty (fun e he => ?_) ((EventSet.other_erase _ _).trans hother)
        have hsome := hrest e he
        rw [hnone, EventHandlers.get?_none] at hsome
        simp at hsome
      · exact ⟨EventHandlers.exists_of_ne_none ‹_›, (EventSet.other_erase _ _).trans hother, hrest⟩
    · simp at h
  · simp at h

/-- Handlers that have one for an event are handlers for single events. -/
theorem perEvent_of_get? {handlers : Handlers} {event : SocketEvent}
    (h : ¬(handlers.get? event).isNone = true) :
    ∃ installed, handlers = .perEvent installed ∧ (installed.get? event).isSome = true := by
  cases handlers with
  | empty => simp [Handlers.get?] at h
  | global handler => simp [Handlers.get?] at h
  | perEvent installed =>
    refine ⟨installed, rfl, ?_⟩
    simpa [Handlers.get?, Option.isSome_iff_ne_none] using h

/-- Setting the events of a global handler leaves a sound subscription. -/
theorem sound_setGlobal {events : EventSet} (h : s.setGlobal events = .ok t) :
    t.Sound := by
  unfold Subscription.setGlobal at h
  split at h
  · simp at h
  rename_i hglobal
  split at h
  · simp at h
  rename_i hcoherent
  obtain rfl := Except.ok.inj h
  refine ⟨(EventSet.isCoherent_iff events).1 (by simpa using hcoherent), ?_⟩
  cases hhandlers : s.handlers with
  | global handler => trivial
  | empty | perEvent _ => simp [hhandlers, Handlers.global?] at hglobal

/-- Enabling an event keeps a subscription sound. -/
theorem Sound.enable (hs : s.Sound) {event : SocketEvent} (h : s.enable event = .ok t) :
    t.Sound := by
  unfold Subscription.enable at h
  split at h
  · simp at h
  rename_i hinstalled
  obtain ⟨installed, hperEvent, hsome⟩ := perEvent_of_get? hinstalled
  split at h
  · simp at h
  split at h
  · simp at h
  rename_i hcoherent
  obtain rfl := Except.ok.inj h
  have hsupports := hs.supports
  simp only [hperEvent, Handlers.Supports] at hsupports
  obtain ⟨hone, hother, hall⟩ := hsupports
  refine ⟨(EventSet.isCoherent_iff _).1 (by simpa using hcoherent), ?_⟩
  simp only [hperEvent, Handlers.Supports]
  refine ⟨hone, (EventSet.other_insert _ _).trans hother, fun e he => ?_⟩
  rcases EventSet.mem_insert.1 he with hmem | rfl
  · exact hall e hmem
  · exact hsome

/-- Disabling an event keeps a subscription sound. -/
theorem Sound.disable (hs : s.Sound) {event : SocketEvent} (h : s.disable event = .ok t) :
    t.Sound := by
  unfold Subscription.disable at h
  split at h
  · simp at h
  rename_i hinstalled
  obtain ⟨installed, hperEvent, -⟩ := perEvent_of_get? hinstalled
  split at h
  · simp at h
  obtain rfl := Except.ok.inj h
  have hsupports := hs.supports
  simp only [hperEvent, Handlers.Supports] at hsupports
  obtain ⟨hone, hother, hall⟩ := hsupports
  refine ⟨hs.oneRole.anti fun e he => (EventSet.mem_erase.1 he).1, ?_⟩
  simp only [hperEvent, Handlers.Supports]
  exact ⟨hone, (EventSet.other_erase _ _).trans hother,
    fun e he => hall e (EventSet.mem_erase.1 he).1⟩

/-- Removing the global handler together with all events leaves a sound subscription. -/
theorem sound_removeGlobal {handlers handlers' : Handlers}
    (h : handlers.removeGlobal = .ok handlers') : Sound ⟨handlers', ∅⟩ := by
  unfold Handlers.removeGlobal at h
  split at h
  · obtain rfl := Except.ok.inj h
    exact sound_initial
  · simp at h

/-- What succeeds in two parts succeeds in each. -/
theorem exists_of_bind_eq_ok {α β : Type} {x : Except Breach α} {f : α → Except Breach β} {b : β}
    (h : x >>= f = .ok b) : ∃ a, x = .ok a ∧ f a = .ok b := by
  cases x with
  | error breach => simp [bind, Except.bind] at h
  | ok a => exact ⟨a, rfl, h⟩

/-- **A change that is accepted keeps a subscription sound.** -/
theorem Sound.apply (hs : s.Sound) {change : Change HandlerRef} (h : s.apply change = .ok t) :
    t.Sound := by
  cases change with
  | addGlobal handler =>
    obtain ⟨handlers, hinstall, ht⟩ := exists_of_bind_eq_ok h
    obtain rfl := Except.ok.inj ht
    exact hs.installGlobal hinstall
  | removeGlobal =>
    obtain ⟨handlers, hremove, ht⟩ := exists_of_bind_eq_ok h
    obtain rfl := Except.ok.inj ht
    exact sound_removeGlobal hremove
  | setGlobal events => exact sound_setGlobal h
  | addHandler event handler =>
    obtain ⟨handlers, hinstall, ht⟩ := exists_of_bind_eq_ok h
    obtain rfl := Except.ok.inj ht
    exact hs.install hinstall
  | removeHandler event =>
    obtain ⟨handlers, hremove, ht⟩ := exists_of_bind_eq_ok h
    obtain rfl := Except.ok.inj ht
    exact hs.remove hremove
  | enable event => exact hs.enable h
  | disable event => exact hs.disable h

/-! ## When the reactor is not told -/

/-- Where the reactor is not told of a change, the enabled events are the same. -/
theorem enabled_of_not_pushed {change : Change HandlerRef}
    (happly : s.apply change = .ok t) (hpushed : change.isPushed s.enabled = false) :
    t.enabled = s.enabled := by
  cases change with
  | addGlobal handler =>
    obtain ⟨handlers, -, ht⟩ := exists_of_bind_eq_ok happly
    obtain rfl := Except.ok.inj ht
    rfl
  | addHandler event handler =>
    obtain ⟨handlers, -, ht⟩ := exists_of_bind_eq_ok happly
    obtain rfl := Except.ok.inj ht
    rfl
  | removeHandler event =>
    obtain ⟨handlers, -, ht⟩ := exists_of_bind_eq_ok happly
    obtain rfl := Except.ok.inj ht
    exact EventSet.erase_eq_self hpushed
  | removeGlobal | setGlobal _ | enable _ | disable _ => simp [Change.isPushed] at hpushed

end Subscription

end SocketLoop
