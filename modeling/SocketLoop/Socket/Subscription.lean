import SocketLoop.Event.Readiness
import SocketLoop.History

/-!
# Subscriptions

A socket has one global handler, or handlers for single events, or none at all; the two kinds
exclude each other. Beside its handlers it has a set of enabled events, and only those are
delivered.

A subscription changes by `Subscription.apply`, which refuses a change that breaks the contract and
then leaves everything as it was. After a change the reactor may have to be told of the new
interest: `Change.isPushed` says when.
-/

namespace SocketLoop

/-! ## Handlers -/

/-- Handlers for single events. -/
structure EventHandlers where
  read : Option HandlerRef
  write : Option HandlerRef
  accept : Option HandlerRef
  connect : Option HandlerRef
  deriving DecidableEq, Repr

namespace EventHandlers

/-- No handler at all. -/
def none : EventHandlers :=
  ⟨.none, .none, .none, .none⟩

/-- The handler for an event. -/
def get? (handlers : EventHandlers) : SocketEvent → Option HandlerRef
  | .read => handlers.read
  | .write => handlers.write
  | .accept => handlers.accept
  | .connect => handlers.connect

/-- Fills or empties the place for one event. -/
def set (handlers : EventHandlers) (event : SocketEvent) (handler? : Option HandlerRef) :
    EventHandlers :=
  match event with
  | .read => { handlers with read := handler? }
  | .write => { handlers with write := handler? }
  | .accept => { handlers with accept := handler? }
  | .connect => { handlers with connect := handler? }

theorem get?_set (handlers : EventHandlers) (d e : SocketEvent) (handler? : Option HandlerRef) :
    (handlers.set d handler?).get? e = if d = e then handler? else handlers.get? e := by
  cases d <;> cases e <;> rfl

end EventHandlers

/-- The handlers of a socket. -/
inductive Handlers
  | empty
  | global (handler : HandlerRef)
  | perEvent (handlers : EventHandlers)
  deriving DecidableEq, Repr

namespace Handlers

/-- The global handler. -/
def global? : Handlers → Option HandlerRef
  | global handler => some handler
  | _ => none

/-- The handler for one event; a global handler is none. -/
def get? (handlers : Handlers) (event : SocketEvent) : Option HandlerRef :=
  match handlers with
  | perEvent handlers => handlers.get? event
  | _ => none

/-- A per-event table, or no handlers if the table has none. -/
def ofEventHandlers (handlers : EventHandlers) : Handlers :=
  if handlers = .none then empty else perEvent handlers

/-- Installs a global handler where there is no handler. -/
def installGlobal (handlers : Handlers) (handler : HandlerRef) : Except Breach Handlers :=
  match handlers with
  | empty => .ok (global handler)
  | global _ => .error .globalPresent
  | perEvent _ => .error .eventHandlersPresent

/-- Removes the global handler. -/
def removeGlobal : Handlers → Except Breach Handlers
  | global _ => .ok empty
  | _ => .error .globalAbsent

/-- Installs the handler for an event that has none. -/
def install (handlers : Handlers) (event : SocketEvent) (handler : HandlerRef) :
    Except Breach Handlers :=
  match handlers with
  | empty => .ok (perEvent (EventHandlers.none.set event (some handler)))
  | perEvent handlers =>
    if (handlers.get? event).isSome then .error (.handlerPresent event)
    else .ok (perEvent (handlers.set event (some handler)))
  | global _ => .error (.globalInTheWay event)

/-- Removes the handler for an event. -/
def remove (handlers : Handlers) (event : SocketEvent) : Except Breach Handlers :=
  match handlers with
  | perEvent handlers =>
    if (handlers.get? event).isSome then .ok (ofEventHandlers (handlers.set event none))
    else .error (.handlerAbsent event)
  | _ => .error (.handlerAbsent event)

end Handlers

/-! ## Subscriptions -/

/-- Handlers, and the events to deliver to them. -/
structure Subscription where
  handlers : Handlers
  enabled : EventSet
  deriving DecidableEq, Repr

/-- A change of a subscription, where handlers are given by `η`. -/
inductive Change (η : Type)
  | addGlobal (handler : η)
  | removeGlobal
  | setGlobal (events : EventSet)
  | addHandler (event : SocketEvent) (handler : η)
  | removeHandler (event : SocketEvent)
  | enable (event : SocketEvent)
  | disable (event : SocketEvent)
  deriving DecidableEq, Repr

namespace Change

/-- The handler that a change brings in. -/
def handler? {η : Type} : Change η → Option η
  | addGlobal handler => some handler
  | addHandler _ handler => some handler
  | _ => none

/-- The change with every handler given in another way. -/
def map {η κ : Type} (f : η → κ) : Change η → Change κ
  | addGlobal handler => addGlobal (f handler)
  | removeGlobal => removeGlobal
  | setGlobal events => setGlobal events
  | addHandler event handler => addHandler event (f handler)
  | removeHandler event => removeHandler event
  | enable event => enable event
  | disable event => disable event

/-- Whether the reactor is told of the interest after a change that was made to a subscription with
these enabled events. Installing a handler enables nothing; removing one matters only if its event
was enabled. -/
def isPushed {η : Type} (change : Change η) (enabled : EventSet) : Bool :=
  match change with
  | addGlobal _ => false
  | addHandler _ _ => false
  | removeHandler event => enabled.contains event
  | _ => true

end Change

namespace Subscription

/-- The subscription of a new socket. -/
def initial : Subscription :=
  ⟨.empty, ∅⟩

/-- Sets the events of a global handler, which must be of one role. -/
def setGlobal (s : Subscription) (events : EventSet) : Except Breach Subscription :=
  if s.handlers.global?.isNone then .error .setWithoutGlobal
  else if !events.isCoherent then .error (.mixedRoles events)
  else .ok { s with enabled := events }

/-- Enables an event that has a handler and suits the role of those enabled. -/
def enable (s : Subscription) (event : SocketEvent) : Except Breach Subscription :=
  if (s.handlers.get? event).isNone then .error (.enableWithoutHandler event)
  else if event ∈ s.enabled then .error (.alreadyEnabled event)
  else if !(s.enabled.insert event).isCoherent then .error (.conflictingRole event s.enabled)
  else .ok { s with enabled := s.enabled.insert event }

/-- Disables an enabled event. -/
def disable (s : Subscription) (event : SocketEvent) : Except Breach Subscription :=
  if (s.handlers.get? event).isNone then .error (.disableWithoutHandler event)
  else if event ∉ s.enabled then .error (.notEnabled event)
  else .ok { s with enabled := s.enabled.erase event }

/-- The subscription after a change. Removing a handler also disables its events. -/
def apply (s : Subscription) : Change HandlerRef → Except Breach Subscription
  | .addGlobal handler => do
    let handlers ← s.handlers.installGlobal handler
    return { s with handlers }
  | .removeGlobal => do
    let handlers ← s.handlers.removeGlobal
    return ⟨handlers, ∅⟩
  | .setGlobal events => s.setGlobal events
  | .addHandler event handler => do
    let handlers ← s.handlers.install event handler
    return { s with handlers }
  | .removeHandler event => do
    let handlers ← s.handlers.remove event
    return ⟨handlers, s.enabled.erase event⟩
  | .enable event => s.enable event
  | .disable event => s.disable event

end Subscription

end SocketLoop
