import Boardcraft.Ability.Basic

/-!
# Listeners

Who listens to which event.  Listeners of an event are heard in the order of their priorities, and
those of one priority in the order in which they began to listen.

All entries stand in one list that is kept in the order of priorities, so that the listeners of an
event are the entries for that event as they stand.
-/

namespace Boardcraft

structure Subscription where
  event : Event
  priority : Int
  ability : Ability
  deriving Inhabited

/-- Everyone who listens. -/
structure Dispatcher where
  entries : List Subscription := []
  deriving Inhabited

namespace Dispatcher

/-- Puts an entry behind all others of its priority. -/
def place (s : Subscription) : List Subscription → List Subscription
  | [] => [s]
  | t :: rest => if t.priority ≤ s.priority then t :: place s rest else s :: t :: rest

def subscribe (d : Dispatcher) (event : Event) (ability : Ability) (priority : Int) : Dispatcher :=
  ⟨place ⟨event, priority, ability⟩ d.entries⟩

def unsubscribe (d : Dispatcher) (event : Event) (ability : Ability) : Dispatcher :=
  ⟨d.entries.filter fun s => !(s.event == event && s.ability.serial == ability.serial)⟩

def subscribeAbility (d : Dispatcher) (ability : Ability) : Dispatcher :=
  ability.triggers.foldl (fun d event => d.subscribe event ability ability.priority) d

def unsubscribeAbility (d : Dispatcher) (ability : Ability) : Dispatcher :=
  ability.triggers.foldl (fun d event => d.unsubscribe event ability) d

def listeners (d : Dispatcher) (event : Event) : List Subscription :=
  d.entries.filter fun s => s.event == event

def size (d : Dispatcher) : Nat := d.entries.length

end Dispatcher

end Boardcraft
