import SocketLoop.Socket.Operation

/-!
# Handlers under other names

A socket never calls its handlers: it stores them and gives them out again. So nothing that it does
depends on which handlers they are, and two runs that number their handlers apart can be compared
after the handlers of one are renamed. Renaming may even make two handlers one.

* `Socket.rename` gives every handler of a socket another name.
* **`Subscription.apply_rename`**: a change of renamed handlers is the change, renamed. The same
  changes are refused, with the same breaches.
-/

namespace SocketLoop

variable (f : HandlerRef → HandlerRef)

/-! ## Handlers -/

namespace EventHandlers

/-- Handlers for single events under other names. -/
def rename (handlers : EventHandlers) : EventHandlers where
  read := handlers.read.map f
  write := handlers.write.map f
  accept := handlers.accept.map f
  connect := handlers.connect.map f

@[simp] theorem get?_rename (handlers : EventHandlers) (event : SocketEvent) :
    (handlers.rename f).get? event = (handlers.get? event).map f := by
  cases event <;> rfl

theorem rename_set (handlers : EventHandlers) (event : SocketEvent)
    (handler? : Option HandlerRef) :
    (handlers.set event handler?).rename f =
      (handlers.rename f).set event (handler?.map f) := by
  cases event <;> rfl

/-- Renaming neither adds nor removes handlers. -/
@[simp] theorem rename_eq_none (handlers : EventHandlers) :
    handlers.rename f = none ↔ handlers = none := by
  obtain ⟨read, write, accept, connect⟩ := handlers
  simp only [rename, none, mk.injEq, Option.map_eq_none_iff]

end EventHandlers

namespace Handlers

/-- Handlers under other names. -/
def rename : Handlers → Handlers
  | empty => empty
  | global handler => global (f handler)
  | perEvent handlers => perEvent (handlers.rename f)

@[simp] theorem global?_rename (handlers : Handlers) :
    (handlers.rename f).global? = handlers.global?.map f := by
  cases handlers <;> rfl

@[simp] theorem get?_rename (handlers : Handlers) (event : SocketEvent) :
    (handlers.rename f).get? event = (handlers.get? event).map f := by
  cases handlers with
  | perEvent handlers => exact handlers.get?_rename f event
  | _ => rfl

theorem rename_ofEventHandlers (handlers : EventHandlers) :
    (ofEventHandlers handlers).rename f = ofEventHandlers (handlers.rename f) := by
  simp only [ofEventHandlers, EventHandlers.rename_eq_none]
  split <;> rfl

theorem installGlobal_rename (handlers : Handlers) (handler : HandlerRef) :
    (handlers.rename f).installGlobal (f handler) =
      (handlers.installGlobal handler).map (rename f) := by
  cases handlers <;> rfl

theorem removeGlobal_rename (handlers : Handlers) :
    (handlers.rename f).removeGlobal = handlers.removeGlobal.map (rename f) := by
  cases handlers <;> rfl

theorem install_rename (handlers : Handlers) (event : SocketEvent) (handler : HandlerRef) :
    (handlers.rename f).install event (f handler) =
      (handlers.install event handler).map (rename f) := by
  cases handlers with
  | empty => cases event <;> rfl
  | global _ => rfl
  | perEvent handlers =>
    simp only [rename, install, EventHandlers.get?_rename, Option.isSome_map]
    cases (handlers.get? event).isSome with
    | true => rfl
    | false =>
      exact congrArg (Except.ok ∘ perEvent) (handlers.rename_set f event (some handler)).symm

theorem remove_rename (handlers : Handlers) (event : SocketEvent) :
    (handlers.rename f).remove event = (handlers.remove event).map (rename f) := by
  cases handlers with
  | perEvent handlers =>
    simp only [rename, remove, EventHandlers.get?_rename, Option.isSome_map]
    cases (handlers.get? event).isSome with
    | false => rfl
    | true =>
      simp only [↓reduceIte, Except.map, rename_ofEventHandlers, EventHandlers.rename_set,
        Option.map_none]
  | _ => rfl

end Handlers

/-! ## Subscriptions -/

namespace Subscription

/-- A subscription with its handlers under other names. -/
def rename (s : Subscription) : Subscription :=
  { s with handlers := s.handlers.rename f }

/-- **A change of renamed handlers is the change, renamed.** -/
theorem apply_rename (s : Subscription) (change : Change HandlerRef) :
    (s.rename f).apply (change.map f) = (s.apply change).map (rename f) := by
  cases change with
  | addGlobal handler =>
    simp only [Change.map, apply, rename, Handlers.installGlobal_rename]
    cases s.handlers.installGlobal handler <;> rfl
  | removeGlobal =>
    simp only [Change.map, apply, rename, Handlers.removeGlobal_rename]
    cases s.handlers.removeGlobal <;> rfl
  | setGlobal events =>
    simp only [Change.map, apply, setGlobal, apply_ite (Except.map (rename f))]
    simp only [rename, Handlers.global?_rename, Option.isNone_map, Except.map]
  | addHandler event handler =>
    simp only [Change.map, apply, rename, Handlers.install_rename]
    cases s.handlers.install event handler <;> rfl
  | removeHandler event =>
    simp only [Change.map, apply, rename, Handlers.remove_rename]
    cases s.handlers.remove event <;> rfl
  | enable event =>
    simp only [Change.map, apply, enable, apply_ite (Except.map (rename f))]
    simp only [rename, Handlers.get?_rename, Option.isNone_map, Except.map]
    rfl
  | disable event =>
    simp only [Change.map, apply, disable, apply_ite (Except.map (rename f))]
    simp only [rename, Handlers.get?_rename, Option.isNone_map, Except.map]
    rfl

end Subscription

/-- Whether the reactor is told of a change has nothing to do with the handler. -/
@[simp] theorem Change.isPushed_map {η κ : Type} (f : η → κ) (change : Change η)
    (enabled : EventSet) : (change.map f).isPushed enabled = change.isPushed enabled := by
  cases change <;> rfl

/-- A socket with its handlers under other names. -/
def Socket.rename (s : Socket) : Socket :=
  { s with subscription := s.subscription.rename f }

end SocketLoop
