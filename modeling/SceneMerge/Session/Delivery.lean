/-
Delivery of events. Observers are told inside the call that raised the
event. Events that they raise in turn are queued and delivered after it,
so every observer hears everything in order and none is told of one event
in the middle of another.

An audience that answers every event with another event would never come
to rest; `patience` bounds how many events it still answers after the
first. An observer that fails stops the delivery, what is queued is
dropped, and the call that raised the event stops as well.

# Telling inside telling

Whoever tells of an event asks first whether others are being told of
something at the moment (`Audience.emit`), and observers tell like anyone
else. So the functions below take it as a parameter how observers tell in
turn. What they call finds the session busy, and leaves the event to the
queue; `Audience.announce` has them do that at once.
-/
import SceneMerge.Session.Client

namespace SceneMerge

/-- How an observer is done with an event. -/
inductive Ending where
  | returns
  | fails
deriving DecidableEq

/-- The observers of a session, as far as they are not the session's
business: how they share the world `W` and what they do. -/
structure Audience (W : Type) where
  /-- An observer takes note of an event. -/
  note : SubscriptionId → Event → W → W
  /-- What it then does about the event, if anything. -/
  reaction? : SubscriptionId → Event → W → Option (Client W Ending)
  /-- How many events are reacted to before the audience only listens. -/
  patience : W → Nat

namespace Audience

variable {W : Type} (A : Audience W)
  (tell : Event → EStateM SubscriptionId (Session W) Unit)

-- ============================================================= one event

/-- One observer is told of an event; answers whether it reacted. An
observer that only listens does not react. -/
def hear (listening : Bool) (event : Event) (id : SubscriptionId) :
    EStateM SubscriptionId (Session W) Bool := fun s =>
  let s := { s with world := A.note id event s.world }
  match if listening then none else A.reaction? id event s.world with
  | none => .ok false s
  | some client =>
      match client.run (Session.host tell) s with
      | .ok .returns s => .ok true s
      | .ok .fails s => .error id s
      | .error who s => .error who s

/-- Several observers are told in turn; answers whether any reacted. -/
def hearAll (listening : Bool) (event : Event) :
    List SubscriptionId → EStateM SubscriptionId (Session W) Bool
  | [] => pure false
  | id :: rest => do
      let first ← A.hear tell listening event id
      let others ← hearAll listening event rest
      return first || others

/-- Everyone registered by now is told of an event. -/
def deliver (listening : Bool) (event : Event) :
    EStateM SubscriptionId (Session W) Bool := fun s =>
  let running := s.registry.slots
  let checkIn (s : Session W) : Session W :=
    { s with registry := s.registry.checkIn running }
  match A.hearAll tell listening event running
      { s with registry := s.registry.checkOut } with
  | .ok b s => .ok b (checkIn s)
  | .error id s => .error id (checkIn s)

-- ============================================================= the queue

/-- Delivers queued events until one is reacted to, and goes on with
`next` then, since the queue may have grown. -/
def untilReaction (deliver : Event → EStateM SubscriptionId (Session W) Bool)
    (next : EStateM SubscriptionId (Session W) Unit) :
    List Event → EStateM SubscriptionId (Session W) Unit
  | [] => pure ()
  | event :: rest => do
      modify fun s => { s with registry := { s.registry with queue := rest } }
      if ← deliver event then next else untilReaction deliver next rest

/-- Delivers everything queued. -/
def drain : Nat → EStateM SubscriptionId (Session W) Unit
  | 0 => do
      untilReaction (A.deliver tell true) (pure ()) (← get).registry.queue
  | n + 1 => do
      untilReaction (A.deliver tell false) (drain n) (← get).registry.queue

-- =============================================================== telling

/-- Tells of an event. In the middle of a delivery that is left to whoever
is delivering. Otherwise the call returns when the event and everything that
came of it is delivered, or when an observer fails. -/
def emit (event : Event) : EStateM SubscriptionId (Session W) Unit := fun s =>
  if s.registry.busy then Session.enqueue event s
  else
    let start := { s.registry.enqueue event with busy := true }
    match A.drain tell (A.patience s.world) { s with registry := start } with
    | .ok _ s => .ok () { s with registry := { s.registry with busy := false } }
    | .error id s =>
        .error id
          { s with registry := { s.registry with busy := false, queue := [] } }

/-- Tells of an event from outside any notification. What observers raise
in turn is queued. -/
def announce : Event → EStateM SubscriptionId (Session W) Unit :=
  A.emit Session.enqueue

/-- The host for whoever calls from outside any notification. -/
def outside : Host (Session W) := Session.host A.announce

end Audience

end SceneMerge
