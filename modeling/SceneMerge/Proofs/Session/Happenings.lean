/-
What happens between those who raise events and those who hear of them. The run
itself puts it down as it happens, in a record behind the world that clients share
(`Happening.scribe`): whoever tells of an event puts down that it was raised, before
anything comes of it; an observer puts down that it is told, that it reacts and how it
ends; and whoever subscribes or unsubscribes somebody puts down that.

# Reading the record

A notification is a stretch of the record: an observer is told, and if it reacts then
what it calls stands in between (`Happening.Notified`). An event that is delivered is a
stretch of notifications, one for each of those who are registered when the delivery
begins (`Happening.Heard`), up to the first that fails (`Happening.Broken`). Telling
of an event is a stretch of such deliveries, one for each event raised in it
(`Happening.Told`), or up to one that is broken off (`Happening.Stopped`). And what
happened in a session so far is a stretch of these, and of calls that say who listens
(`Happening.Chronicle`). Who is registered at any point is said by what precedes it
(`Happening.registered`).

In such a record no notification begins while another one is running
(`Happening.Chronicle.orderly`).
-/
import SceneMerge.Proofs.Session.Scribe

namespace SceneMerge

-- ============================================================= happenings

inductive Happening where
  | subscribed (id : SubscriptionId)
  | unsubscribed (id : SubscriptionId)
  | raised (event : Event)
  /-- The observer is told of the event. If it does nothing about it, then that is its
  notification. -/
  | told (id : SubscriptionId) (event : Event)
  /-- The observer begins to react. -/
  | acts (id : SubscriptionId)
  /-- The observer is done with its reaction. -/
  | ended (id : SubscriptionId) (ending : Ending)
deriving DecidableEq

namespace Happening

/-- What a call puts down about who listens. -/
def registering : {α : Type} → Call α → α → List Happening
  | _, .subscribe => fun id => [.subscribed id]
  | _, .unsubscribe id => fun _ => [.unsubscribed id]
  | _, _ => fun _ => []

/-- Everything is put down as it happens. -/
def scribe : Scribe Happening where
  raised event := [.raised event]
  told id event := [.told id event]
  acts id := [.acts id]
  done id ending := [.ended id ending]
  answered call r := match r with | .ok a => registering call a | .error _ => []

/-- Who is registered after a happening, in order of registration. -/
def register (present : List SubscriptionId) : Happening → List SubscriptionId
  | .subscribed id => present ++ [id]
  | .unsubscribed id => present.filter (· ≠ id)
  | _ => present

/-- Who is registered after a stretch of the record. -/
def registered (present : List SubscriptionId) (t : List Happening) :
    List SubscriptionId :=
  t.foldl register present

def raised? : Happening → Option Event
  | .raised event => some event
  | _ => none

/-- Which events a stretch of the record raises. -/
def raisedIn (t : List Happening) : List Event := t.filterMap raised?

/-- Part of what a call does from inside a notification. -/
def isCall : Happening → Bool
  | .subscribed _ | .unsubscribed _ | .raised _ => true
  | _ => false

/-- Nothing happens but calls. -/
def Calls (t : List Happening) : Prop := ∀ h ∈ t, h.isCall = true

variable {present : List SubscriptionId} {event : Event} {events : List Event}
  {id : SubscriptionId} {ids : List SubscriptionId} {a b t : List Happening}

/-- Who is registered is read off one stretch of the record after the other. -/
theorem registered_append :
    registered present (a ++ b) = registered (registered present a) b :=
  List.foldl_append

/-- What is raised in two stretches is raised in the first and then in the second. -/
theorem raisedIn_append : raisedIn (a ++ b) = raisedIn a ++ raisedIn b :=
  List.filterMap_append

/-- Where nothing happened nobody was told of anything. -/
theorem Calls.nil : Calls [] := List.forall_mem_nil _

/-- Stretches of calls make one stretch of calls. -/
theorem Calls.append (ha : Calls a) (hb : Calls b) : Calls (a ++ b) :=
  List.forall_mem_append.2 ⟨ha, hb⟩

-- ================================================================ stretches

/-- An observer is notified of an event. What it calls about it is put down between
where it begins to react and where it is done. -/
inductive Notified (event : Event) (id : SubscriptionId) : Ending → List Happening → Prop where
  | listens : Notified event id .returns [.told id event]
  | reacts {t : List Happening} (ending : Ending) : Calls t →
      Notified event id ending (.told id event :: .acts id :: (t ++ [.ended id ending]))

/-- These observers are notified of the event in turn, nobody else is, and none of them
fails. -/
inductive Heard (event : Event) : List SubscriptionId → List Happening → Prop where
  | nil : Heard event [] []
  | cons {id : SubscriptionId} {ids : List SubscriptionId} {t rest : List Happening} :
      Notified event id .returns t → Heard event ids rest → Heard event (id :: ids) (t ++ rest)

/-- They are notified in turn up to the first that fails, and nobody else is. -/
inductive Broken (event : Event) : List SubscriptionId → List Happening → Prop where
  | here {id : SubscriptionId} {ids : List SubscriptionId} {t : List Happening} :
      Notified event id .fails t → Broken event (id :: ids) t
  | later {id : SubscriptionId} {ids : List SubscriptionId} {t rest : List Happening} :
      Notified event id .returns t → Broken event ids rest →
      Broken event (id :: ids) (t ++ rest)

/-- The events are delivered one after the other, each to those who are registered when
its delivery begins. -/
inductive Told : List SubscriptionId → List Event → List Happening → Prop where
  | nil (present : List SubscriptionId) : Told present [] []
  | cons {present : List SubscriptionId} {event : Event} {events : List Event}
      {t rest : List Happening} : Heard event present t →
      Told (registered present t) events rest → Told present (event :: events) (t ++ rest)

/-- The events are delivered in the same way up to one whose delivery is broken off, and
the ones after it are not. -/
inductive Stopped : List SubscriptionId → List Event → List Happening → Prop where
  | here {present : List SubscriptionId} {event : Event} {events : List Event}
      {t : List Happening} : Broken event present t → Stopped present (event :: events) t
  | later {present : List SubscriptionId} {event : Event} {events : List Event}
      {t rest : List Happening} : Heard event present t →
      Stopped (registered present t) events rest →
      Stopped present (event :: events) (t ++ rest)

/-- What happened in a session so far: somebody said who listens, or told of an event.
Then that event is delivered, and whatever is raised in the meantime, in the order in
which it was raised; or an observer fails, and that is the end of it. -/
inductive Chronicle : List Happening → Prop where
  | nil : Chronicle []
  | subscribed {t : List Happening} (id : SubscriptionId) : Chronicle t →
      Chronicle (t ++ [.subscribed id])
  | unsubscribed {t : List Happening} (id : SubscriptionId) : Chronicle t →
      Chronicle (t ++ [.unsubscribed id])
  | told {t rest : List Happening} {event : Event} : Chronicle t →
      Told (registered [] t) (event :: raisedIn rest) rest →
      Chronicle (t ++ .raised event :: rest)
  | stopped {t rest : List Happening} {event : Event} : Chronicle t →
      Stopped (registered [] t) (event :: raisedIn rest) rest →
      Chronicle (t ++ .raised event :: rest)

-- =================================================================== order

/-- No observer is told and none begins to react before the observer is done that is
reacting. -/
def Orderly : Option SubscriptionId → List Happening → Prop
  | running?, [] => running? = none
  | running?, .told _ _ :: rest => running? = none ∧ Orderly none rest
  | running?, .acts id :: rest => running? = none ∧ Orderly (some id) rest
  | running?, .ended id _ :: rest => running? = some id ∧ Orderly none rest
  | running?, _ :: rest => Orderly running? rest

/-- A stretch that leaves nobody running may be followed by any that begins with nobody
running. The induction is on the first, from whoever is running as it begins. -/
theorem Orderly.append {running? : Option SubscriptionId} (ha : Orderly running? a)
    (hb : Orderly none b) : Orderly running? (a ++ b) := by
  induction a generalizing running? with
  | nil =>
      obtain rfl : running? = none := ha
      exact hb
  | cons h a ih =>
      cases h with
      | told id event => exact ⟨ha.1, ih ha.2⟩
      | acts id => exact ⟨ha.1, ih ha.2⟩
      | ended id ending => exact ⟨ha.1, ih ha.2⟩
      | subscribed id => exact ih ha
      | unsubscribed id => exact ih ha
      | raised event => exact ih ha

/-- Calls come in between as they like. -/
theorem Calls.orderly (ht : Calls t) {running? : Option SubscriptionId}
    (hb : Orderly running? b) : Orderly running? (t ++ b) := by
  induction t with
  | nil => exact hb
  | cons h t ih =>
      have hcall := ht h (.head _)
      have hrest := ih fun h hh => ht h (.tail _ hh)
      cases h with
      | subscribed id => exact hrest
      | unsubscribed id => exact hrest
      | raised event => exact hrest
      | told id event => cases hcall
      | acts id => cases hcall
      | ended id ending => cases hcall

/-- Nothing begins in a notification but the reaction, which is done at its end. -/
theorem Notified.orderly {ending : Ending} (ht : Notified event id ending t) :
    Orderly none t := by
  cases ht with
  | listens => exact ⟨rfl, rfl⟩
  | reacts ending hcalls => exact ⟨rfl, rfl, hcalls.orderly ⟨rfl, rfl⟩⟩

/-- Those who hear of an event are told one after the other. -/
theorem Heard.orderly (ht : Heard event ids t) : Orderly none t := by
  induction ht with
  | nil => rfl
  | cons hfirst _ ih => exact hfirst.orderly.append ih

/-- Those who hear of an event up to the one that fails are told one after the other,
and the one that fails has ended as well. -/
theorem Broken.orderly (ht : Broken event ids t) : Orderly none t := by
  induction ht with
  | here hfails => exact hfails.orderly
  | later hfirst _ ih => exact hfirst.orderly.append ih

/-- Events are delivered one after the other. -/
theorem Told.orderly (ht : Told present events t) : Orderly none t := by
  induction ht with
  | nil => rfl
  | cons hfirst _ ih => exact hfirst.orderly.append ih

/-- Events are delivered one after the other, up to the one whose delivery is broken
off. -/
theorem Stopped.orderly (ht : Stopped present events t) : Orderly none t := by
  induction ht with
  | here hbroken => exact hbroken.orderly
  | later hfirst _ ih => exact hfirst.orderly.append ih

/-- No notification ever begins inside another one. -/
theorem Chronicle.orderly (ht : Chronicle t) : Orderly none t := by
  induction ht with
  | nil => rfl
  | subscribed id _ ih => exact ih.append rfl
  | unsubscribed id _ ih => exact ih.append rfl
  | told _ htold ih => exact ih.append htold.orderly
  | stopped _ hstopped ih => exact ih.append hstopped.orderly

end Happening

-- =================================================================== sessions

namespace Audience

variable {W : Type}

/-- The audience, putting down what it is told and does about it. -/
abbrev recorded (A : Audience W) : Audience (W × List Happening) := A.scribed Happening.scribe

/-- Telling of an event, with all that happens put down, by a session whose observers
tell in the same way, up to so many notifications inside one another. -/
abbrev recordedWithin (A : Audience W) :
    Nat → Event → EStateM SubscriptionId (Session (W × List Happening)) Unit :=
  A.scribedWithin Happening.scribe

end Audience

/-- A session between calls from outside, with the record that its run has left: all
that clients from outside and observers did. Whoever calls tells of events like
everybody else, and calls end as they like. What else changes the operation or the
world is of no concern, since it is put down by nobody. -/
inductive Session.Observed {W : Type} (A : Audience W) :
    Session (W × List Happening) → Prop where
  | new (operation : Operation) (world : W) :
      Observed A { operation, world := (world, []) }
  | elsewhere {s : Session (W × List Happening)} (operation : Operation) (world : W) :
      Observed A s → Observed A { s with operation, world := (world, s.world.2) }
  | run {s : Session (W × List Happening)} {α : Type} (c : Client W α) (depth : Nat) :
      Observed A s → Observed A (finalState
        ((c.scribed Happening.scribe).run (Session.host (A.recordedWithin (depth + 1))) s))
  | emit {s : Session (W × List Happening)} (event : Event) (depth : Nat) :
      Observed A s → Observed A (finalState (A.recordedWithin (depth + 1) event s))

end SceneMerge
