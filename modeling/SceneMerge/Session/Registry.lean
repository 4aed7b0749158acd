/-
What observers of a merge operation are told, who they are, and what they are still
to be told.

While an event is being delivered those who hear it are checked out, so
whoever registers meanwhile hears later events only. Whoever is checked
out and leaves meanwhile is remembered until the event is through.
-/
import SceneMerge.Review.Action

namespace SceneMerge

inductive Event where
  /-- An action that stands on its own was added. -/
  | actionAdded (id : ActionId)
  /-- An action was switched on or off, or a conflict decided. -/
  | actionChanged (id : ActionId)
  /-- An action was applied; the pass it belongs to may still fail. -/
  | actionApplied (id : ActionId)
  /-- A pass succeeded. -/
  | applied (actions memberships : Nat)
  | finished
  | aborted
deriving DecidableEq

def Event.name : Event → String
  | .actionAdded _ => "action_added"
  | .actionChanged _ => "action_changed"
  | .actionApplied _ => "action_applied"
  | .applied _ _ => "applied"
  | .finished => "finished"
  | .aborted => "aborted"

/-- The number that one registration of an observer goes by. -/
abbrev SubscriptionId := Nat

structure Registry where
  /-- The number that the next registration gets. -/
  next : SubscriptionId := 0
  /-- Who is registered and not checked out, in order of registration. -/
  slots : List SubscriptionId := []
  /-- Who left while checked out. -/
  leaving : List SubscriptionId := []
  /-- What happened and was not delivered yet, in order. -/
  queue : List Event := []
  /-- Events are being delivered. -/
  busy : Bool := false
deriving DecidableEq

namespace Registry

/-- Registers the next number. -/
def subscribe (r : Registry) : Registry :=
  { r with next := r.next + 1, slots := r.slots ++ [r.next] }

/-- Ends a registration. Whoever is not there to be struck off may be
checked out at the moment. -/
def unsubscribe (r : Registry) (id : SubscriptionId) : Registry :=
  if id ∈ r.slots then { r with slots := r.slots.filter (· ≠ id) }
  else if r.busy then { r with leaving := r.leaving ++ [id] }
  else r

def enqueue (r : Registry) (event : Event) : Registry :=
  { r with queue := r.queue ++ [event] }

/-- Checks everyone out. -/
def checkOut (r : Registry) : Registry := { r with slots := [] }

/-- Takes back those who were checked out and stayed, ahead of whoever
registered meanwhile. -/
def checkIn (r : Registry) (running : List SubscriptionId) : Registry :=
  { r with slots := running.filter (· ∉ r.leaving) ++ r.slots, leaving := [] }

end Registry

end SceneMerge
