/-
Observers hear of everything, in order and once: whatever they do while they
are notified, subscribing and unsubscribing whomever, raising events, failing
(`delivered_of_observed`).

# While an event is delivered

Those who hear the event are checked out and whoever subscribes meanwhile waits
in the slots. Present are the former, without those who left, ahead of the
latter (`Registry.present`), and that is what the record says at any time
(`Session.Follows`). What is queued is what was raised and not delivered yet. So the
record of a delivery is read off along with the delivery: whoever is told adds one
notification (`Audience.hear_follows`), everyone who is registered adds a stretch of
them (`Round`), and the queue one such stretch after the other (`Drained`).

All this is shown of observers that leave their events to the queue. That is no
restriction, since others tell while they do, however deep (`Audience.recordedWithin_succ`).
-/
import SceneMerge.Proofs.Session.Coherence
import SceneMerge.Proofs.Session.Happenings

namespace SceneMerge

open Happening

-- ================================================================ registry

namespace Registry

/-- The numbers of those registered increase, and the next one is new. -/
structure Numbered (ids : List SubscriptionId) (r : Registry) : Prop where
  sorted : ids.Pairwise (· < ·)
  fresh : ∀ id ∈ ids, id < r.next

/-- Events are being delivered, and `running` are checked out. -/
structure Seats (running : List SubscriptionId) (r : Registry) : Prop where
  busy : r.busy = true
  numbered : r.Numbered (running ++ r.slots)

/-- Who is registered while `running` are checked out. -/
def present (running : List SubscriptionId) (r : Registry) : List SubscriptionId :=
  running.filter (· ∉ r.leaving) ++ r.slots

variable {running : List SubscriptionId} {r : Registry} {id : SubscriptionId}

/-- Whoever subscribes gets the next number, which is behind all those that are in use.
-/
theorem Numbered.subscribe (hr : r.Numbered (running ++ r.slots)) :
    r.subscribe.Numbered (running ++ r.subscribe.slots) := by
  have hslots : running ++ r.subscribe.slots = (running ++ r.slots) ++ [r.next] :=
    (List.append_assoc ..).symm
  rw [hslots]
  refine ⟨List.pairwise_append.2 ⟨hr.sorted, List.pairwise_singleton .., ?_⟩, ?_⟩
  · intro id hid next hnext
    rw [List.mem_singleton.1 hnext]
    exact hr.fresh id hid
  · intro id hid
    rcases List.mem_append.1 hid with hid | hid
    · exact Nat.lt_succ_of_lt (hr.fresh id hid)
    · rw [List.mem_singleton.1 hid]
      exact Nat.lt_succ_self _

/-- Of the slots the one that leaves goes, during a delivery as well. What depends on
the delivery is whether it is noted as leaving. -/
theorem slots_unsubscribe (r : Registry) (id : SubscriptionId) :
    (r.unsubscribe id).slots = r.slots.filter (· ≠ id) := by
  unfold unsubscribe
  split
  · rfl
  · next hid =>
      have hall : r.slots.filter (· ≠ id) = r.slots := by
        refine List.filter_eq_self.2 fun other hother => decide_eq_true ?_
        exact ne_of_mem_of_not_mem hother hid
      split <;> exact hall.symm

/-- Leaving keeps the order of those who stay, and gives no number back. -/
theorem Numbered.unsubscribe (hr : r.Numbered (running ++ r.slots)) :
    (r.unsubscribe id).Numbered (running ++ (r.unsubscribe id).slots) := by
  have hsub : (running ++ (r.unsubscribe id).slots).Sublist (running ++ r.slots) := by
    rw [slots_unsubscribe]
    exact List.filter_sublist.append_left running
  refine ⟨hr.sorted.sublist hsub, fun other hother => ?_⟩
  rw [next_unsubscribe]
  exact hr.fresh other (hsub.subset hother)

/-- Whoever leaves is struck off at once or when they are checked in. -/
theorem Seats.present_unsubscribe (hr : r.Seats running) (id : SubscriptionId) :
    (r.unsubscribe id).present running = (r.present running).filter (· ≠ id) := by
  unfold present
  rw [List.filter_append, slots_unsubscribe, List.filter_filter]
  congr 1
  refine List.filter_congr fun other hother => ?_
  unfold unsubscribe
  split
  · next hid =>
      have hne : other ≠ id := fun h =>
        absurd ((List.pairwise_append.1 hr.numbered.sorted).2.2 _ hother _ hid)
          (h ▸ Nat.lt_irrefl _)
      simp [hne]
  · rw [if_pos hr.busy]
    by_cases hne : other = id <;> simp [hne]

/-- Everyone in the slots is checked out, which leaves the slots empty and the numbers
where they are. -/
theorem Seats.checkOut (hr : r.Seats []) : r.checkOut.Seats r.slots := by
  refine ⟨hr.busy, ?_, ?_⟩
  · show (r.slots ++ []).Pairwise (· < ·)
    rw [List.append_nil]
    exact hr.numbered.sorted
  · show ∀ id ∈ r.slots ++ [], id < r.next
    rw [List.append_nil]
    exact hr.numbered.fresh

/-- Who is checked out is present. -/
theorem present_checkOut (hr : r.leaving = []) : r.checkOut.present r.slots = r.slots := by
  simp [present, checkOut, hr]

/-- Who was present is there after checking in. -/
theorem Seats.checkIn (hr : r.Seats running) : (r.checkIn running).Seats [] := by
  have hsub : (r.present running).Sublist (running ++ r.slots) :=
    List.filter_sublist.append_right _
  exact ⟨hr.busy, hr.numbered.sorted.sublist hsub,
    fun id hid => hr.numbered.fresh id (hsub.subset hid)⟩

end Registry

-- ================================================================== calls

namespace Session

variable {W : Type} {running : List SubscriptionId}
  {s s' s'' : Session (W × List Happening)} {t t' : List Happening}

/-- The registry went from the one to the other as the record says that was added. -/
structure Follows (running : List SubscriptionId) (s : Session (W × List Happening))
    (t : List Happening) (s' : Session (W × List Happening)) : Prop where
  seats : s'.registry.Seats running
  present : s'.registry.present running = registered (s.registry.present running) t
  queue : s'.registry.queue = s.registry.queue ++ raisedIn t
  record : s'.world.2 = s.world.2 ++ t

namespace Follows

/-- Where nothing is added nothing happens to the registry. -/
theorem refl (hs : s.registry.Seats running) : Follows running s [] s :=
  ⟨hs, rfl, (List.append_nil _).symm, (List.append_nil _).symm⟩

/-- Stretches of the record are followed one after the other: who is present, what is
queued and what is put down all add up. -/
theorem trans (h : Follows running s t s') (h' : Follows running s' t' s'') :
    Follows running s (t ++ t') s'' where
  seats := h'.seats
  present := by rw [h'.present, h.present, registered_append]
  queue := by rw [h'.queue, h.queue, raisedIn_append, List.append_assoc]
  record := by rw [h'.record, h.record, List.append_assoc]

/-- Neither the operation nor the clients' own world matters. -/
theorem congr (h : Follows running s t s') {u : Session (W × List Happening)}
    (hregistry : u.registry = s.registry) (hrecord : u.world.2 = s.world.2) :
    Follows running u t s' where
  seats := h.seats
  present := by rw [h.present, hregistry]
  queue := by rw [h.queue, hregistry]
  record := by rw [h.record, hrecord]

/-- That somebody is notified does not concern the registry. -/
theorem noted (h : Follows running s t s') {entries : List Happening}
    (hregisters : ∀ present, registered present entries = present)
    (hraises : raisedIn entries = []) : Follows running s (t ++ entries) (s'.noted entries) where
  seats := h.seats
  present := by
    rw [registered_append, hregisters]
    exact h.present
  queue := by
    rw [raisedIn_append, hraises, List.append_nil]
    exact h.queue
  record := by
    rw [← List.append_assoc, ← h.record]
    rfl

end Follows

/-- How observers tell who leave their events to whoever is delivering. -/
abbrev recordedLater (W : Type) :
    Event → EStateM SubscriptionId (Session (W × List Happening)) Unit :=
  scribing Happening.scribe enqueue

/-- Putting an event into the queue cannot fail, so no observer stops a call that
another one makes. -/
theorem recordedLater_unstopped (event : Event) (s : Session (W × List Happening))
    (id : SubscriptionId) (t : Session (W × List Happening)) :
    (host (recordedLater W)).tell event s ≠ .error id t := by
  intro h
  cases h

/-- What does not say who listens leaves events to be delivered, and puts down that it
raised them. -/
theorem answer_raises {α : Type} {call : Call α} (hregisters : call.registers = false)
    (s : Session (W × List Happening)) :
    ∃ events, (finalState (answer (host (recordedLater W)) call s)).registry
        = { s.registry with queue := s.registry.queue ++ events }
      ∧ (finalState (answer (host (recordedLater W)) call s)).world.2
        = s.world.2 ++ events.map .raised := by
  let Raised (u : Session (W × List Happening)) : Prop :=
    ∃ events, u.registry = { s.registry with queue := s.registry.queue ++ events }
      ∧ u.world.2 = s.world.2 ++ events.map Happening.raised
  have hkeeper : (host (recordedLater W)).Keeper (fun _ => True) Raised :=
    ⟨fun _ => trivial, fun _ hu => hu⟩
  refine keeps_answer_of hkeeper (fun event u hu => ?_) Operation.upheld_any call.adds_any
    hregisters s ⟨[], by simp⟩
  obtain ⟨events, hregistry, hrecord⟩ := hu
  refine ⟨events ++ [event], ?_, ?_⟩
  · show Registry.enqueue u.registry event = _
    rw [hregistry, Registry.enqueue, List.append_assoc]
  · show u.world.2 ++ [.raised event] = _
    rw [hrecord, List.map_append, List.append_assoc]
    rfl

/-- Nothing is put down of the answer to a call that registers nobody. -/
theorem answered_nil {α : Type} {call : Call α} (hregisters : call.registers = false) (a : α) :
    Happening.scribe.answered call (.ok a) = [] := by
  cases call with
  | subscribe => cases hregisters
  | unsubscribe id => cases hregisters
  | _ => rfl

/-- That registers nobody, and those events are all that it raises. -/
theorem follows_raised (hs : s.registry.Seats running) {events : List Event}
    (hregistry : s'.registry = { s.registry with queue := s.registry.queue ++ events })
    (hrecord : s'.world.2 = s.world.2 ++ events.map .raised) :
    Follows running s (events.map .raised) s' := by
  have hnobody : ∀ present, registered present (events.map .raised) = present := by
    intro present
    simp [registered, List.foldl_map, register]
  have hall : raisedIn (events.map .raised) = events := by
    simp [raisedIn, List.filterMap_map, Function.comp_def, raised?]
  refine ⟨?_, ?_, ?_, hrecord⟩
  · rw [hregistry]
    exact ⟨hs.busy, hs.numbered.sorted, hs.numbered.fresh⟩
  · rw [hnobody, hregistry]
    rfl
  · rw [hall, hregistry]

/-- What a call does to the registry is put down, by the call and by whoever made it. -/
theorem follows_answer (hs : s.registry.Seats running) {α : Type} (call : Call α) :
    match answer (host (recordedLater W)) call s with
    | .ok a s' => ∃ t, Calls t
        ∧ Follows running s t (s'.noted (Happening.scribe.answered call (.ok a)))
    | .error _ s' => ∃ t, Calls t ∧ Follows running s t s' := by
  cases hregisters : call.registers with
  | true =>
      cases call with
      | subscribe =>
          refine ⟨[.subscribed s.registry.next], by simp [Calls, isCall], ?_⟩
          exact ⟨⟨hs.busy, hs.numbered.subscribe⟩, (List.append_assoc ..).symm,
            (List.append_nil _).symm, rfl⟩
      | unsubscribe id =>
          refine ⟨[.unsubscribed id], by simp [Calls, isCall], ?_⟩
          exact ⟨⟨(s.registry.busy_unsubscribe id).trans hs.busy, hs.numbered.unsubscribe⟩,
            hs.present_unsubscribe id,
            (s.registry.queue_unsubscribe id).trans (List.append_nil _).symm, rfl⟩
      | _ => cases hregisters
  | false =>
      obtain ⟨events, hregistry, hrecord⟩ := answer_raises (W := W) hregisters s
      have hcalls : Calls (events.map .raised) := by simp [Calls, isCall]
      cases hrun : answer (host (recordedLater W)) call s with
      | error halt s' =>
          rw [hrun] at hregistry hrecord
          exact ⟨_, hcalls, follows_raised hs hregistry hrecord⟩
      | ok a s' =>
          rw [hrun] at hregistry hrecord
          refine ⟨_, hcalls, ?_⟩
          rw [answered_nil hregisters, noted_nil]
          exact follows_raised hs hregistry hrecord

end Session

/-- A client puts down all that it does, and does nothing but call. -/
theorem Client.follows {W α : Type} {running : List SubscriptionId} (c : Client W α)
    {s : Session (W × List Happening)} (hs : s.registry.Seats running) :
    ∃ t, Calls t ∧ Session.Follows running s t (finalState
      ((c.scribed Happening.scribe).run (Session.host (Session.recordedLater W)) s)) := by
  induction c generalizing s with
  | done a => exact ⟨[], .nil, .refl hs⟩
  | look next ih => exact ih _ _ hs
  | share f next ih =>
      obtain ⟨t, hcalls, hfollows⟩ := ih (f s.world.1).1
        (s := { s with world := ((f s.world.1).2, s.world.2) }) hs
      exact ⟨t, hcalls, hfollows.congr rfl rfl⟩
  | ask call next ih =>
      have hfirst := Session.follows_answer hs call
      unfold Client.scribed Client.run
      cases hrun : Session.answer (Session.host (Session.recordedLater W)) call s with
      | ok b s' =>
          rw [hrun] at hfirst
          obtain ⟨t, hcalls, hfollows⟩ := hfirst
          obtain ⟨t', hcalls', hrest⟩ := ih (.ok b) hfollows.seats
          exact ⟨t ++ t', hcalls.append hcalls', hfollows.trans hrest⟩
      | error halt s' =>
          rw [hrun] at hfirst
          obtain ⟨t, hcalls, hfollows⟩ := hfirst
          cases halt with
          | refused e =>
              obtain ⟨t', hcalls', hrest⟩ := ih (.error e) (s := s'.noted []) hfollows.seats
              exact ⟨t ++ t', hcalls.append hcalls',
                hfollows.trans (hrest.congr rfl (List.append_nil _).symm)⟩
          | unwound id => exact ⟨t, hcalls, hfollows⟩

-- ============================================================= one event

/-- These are told of the event in turn, and it stops at the first that fails. If it does
not stop, it is known whether any reacted; whoever did not raised nothing. -/
def Tells (ids : List SubscriptionId) (event : Event) (listening : Bool) {W : Type}
    (t : List Happening) :
    EStateM.Result SubscriptionId (Session (W × List Happening)) Bool → Prop
  | .ok reacted _ => Heard event ids t ∧ (reacted = false → raisedIn t = [])
      ∧ (listening = true → reacted = false)
  | .error _ _ => Broken event ids t

/-- What telling of one event adds to the record, up to some point. -/
structure Round (running ids : List SubscriptionId) (event : Event) (listening : Bool)
    {W : Type} (s : Session (W × List Happening)) (t : List Happening)
    (r : EStateM.Result SubscriptionId (Session (W × List Happening)) Bool) : Prop where
  follows : Session.Follows running s t (finalState r)
  ends : Tells ids event listening t r

namespace Audience

variable {W : Type} {A : Audience W} {running : List SubscriptionId}
  {s : Session (W × List Happening)}

/-- Whoever is told adds one notification to the record, and nothing else. -/
theorem hear_follows (listening : Bool) (event : Event) (id : SubscriptionId)
    (hs : s.registry.Seats running) : ∃ t, Session.Follows running s t
        (finalState (A.recorded.hear (Session.recordedLater W) listening event id s))
      ∧ match A.recorded.hear (Session.recordedLater W) listening event id s with
        | .ok reacted _ => Notified event id .returns t ∧ (reacted = false → raisedIn t = [])
            ∧ (listening = true → reacted = false)
        | .error _ _ => Notified event id .fails t := by
  have htold : Session.Follows running s [.told id event]
      { s with world := A.recorded.note id event s.world } :=
    ⟨hs, rfl, (List.append_nil _).symm, rfl⟩
  unfold hear
  simp only
  generalize hs₀ : ({ s with world := A.recorded.note id event s.world }
    : Session (W × List Happening)) = s₀ at htold
  have hworld : A.recorded.note id event s.world = s₀.world := by rw [← hs₀]
  rw [hworld]
  -- either the observer only listens, or there is a client of its own to be run
  cases hreaction : (if listening = true then none
      else A.recorded.reaction? id event s₀.world) with
  | none => exact ⟨_, htold, .listens, fun _ => rfl, fun _ => rfl⟩
  | some client =>
      have hreacts : listening = true → true = false := by
        rintro rfl
        cases hreaction
      -- the client that runs is one of `A` that puts down what it does
      obtain ⟨c, rfl⟩ : ∃ c : Client W Ending, c.reacting Happening.scribe id = client := by
        split at hreaction
        · cases hreaction
        · obtain ⟨c, -, hc⟩ := Option.map_eq_some_iff.1 hreaction
          exact ⟨c, hc⟩
      have hbegins : Session.Follows running s ([.told id event] ++ [.acts id])
          (s₀.noted [.acts id]) := htold.noted (fun _ => rfl) rfl
      obtain ⟨t, hcalls, hclient⟩ := c.follows hbegins.seats
      have hall := hbegins.trans hclient
      simp only
      rw [Client.run_reacting, show Happening.scribe.acts id = [.acts id] from rfl]
      cases hrun : (c.scribed Happening.scribe).run (Session.host (Session.recordedLater W))
          (s₀.noted [.acts id]) with
      | ok ending s' =>
          rw [hrun] at hall
          have hended : Session.Follows running s
              (.told id event :: .acts id :: (t ++ [.ended id ending]))
              (s'.noted [.ended id ending]) := hall.noted (fun _ => rfl) rfl
          cases ending with
          | returns => exact ⟨_, hended, .reacts .returns hcalls, Bool.noConfusion, hreacts⟩
          | fails => exact ⟨_, hended, .reacts .fails hcalls⟩
      | error who s' =>
          -- the events that it raises are only queued, so nobody can fail while it runs
          exact absurd hrun (Client.run_unstopped Session.recordedLater_unstopped _ _ _ _)

/-- Several who are told in turn add their notifications one after the other. -/
theorem hearAll_round (listening : Bool) (event : Event) (ids : List SubscriptionId)
    (hs : s.registry.Seats running) : ∃ t, Round running ids event listening s t
      (A.recorded.hearAll (Session.recordedLater W) listening event ids s) := by
  induction ids generalizing s with
  | nil => exact ⟨[], .refl hs, .nil, fun _ => rfl, fun _ => rfl⟩
  | cons id ids ih =>
      obtain ⟨t, hfollows, hends⟩ := A.hear_follows listening event id hs
      unfold hearAll
      -- whoever fails is the last one who is told
      cases hhear : A.recorded.hear (Session.recordedLater W) listening event id s with
      | error who s' =>
          rw [hhear] at hfollows hends
          rw [bind_error hhear]
          exact ⟨t, hfollows, .here hends⟩
      | ok first s' =>
          rw [hhear] at hfollows hends
          obtain ⟨hnotified, hraised, hlistening⟩ := hends
          obtain ⟨t', hround⟩ := ih (s := s') hfollows.seats
          refine ⟨t ++ t', ?_⟩
          rw [bind_ok hhear]
          cases hall : A.recorded.hearAll (Session.recordedLater W) listening event ids s' with
          | error who s'' =>
              rw [hall] at hround
              obtain ⟨hrest, hends'⟩ := hround
              rw [bind_error hall]
              exact ⟨hfollows.trans hrest, .later hnotified hends'⟩
          | ok others s'' =>
              rw [hall] at hround
              obtain ⟨hrest, hheard, hraised', hlistening'⟩ := hround
              rw [bind_ok hall]
              refine ⟨hfollows.trans hrest, .cons hnotified hheard, fun hnobody => ?_, fun hl => ?_⟩
              · obtain ⟨hno, hno'⟩ := Bool.or_eq_false_iff.1 hnobody
                rw [raisedIn_append, hraised hno, hraised' hno', List.append_nil]
              · exact Bool.or_eq_false_iff.2 ⟨hlistening hl, hlistening' hl⟩

/-- The delivery of one event adds the notifications of everyone who is registered when it
begins. -/
theorem deliver_round (listening : Bool) (event : Event) (hs : s.registry.Seats [])
    (hstayed : s.registry.leaving = []) : ∃ t,
      Round [] s.registry.slots event listening s t
        (A.recorded.deliver (Session.recordedLater W) listening event s)
      ∧ (finalState
          (A.recorded.deliver (Session.recordedLater W) listening event s)).registry.leaving
        = [] := by
  obtain ⟨t, hround⟩ := A.hearAll_round (s := { s with registry := s.registry.checkOut })
    listening event s.registry.slots hs.checkOut
  -- who was checked out and stayed is there again, ahead of those who came meanwhile
  have hback : ∀ {u : Session (W × List Happening)},
      Session.Follows s.registry.slots { s with registry := s.registry.checkOut } t u →
      Session.Follows [] s t { u with registry := u.registry.checkIn s.registry.slots } := by
    intro u hu
    refine ⟨hu.seats.checkIn, ?_, hu.queue, hu.record⟩
    show u.registry.present s.registry.slots = registered s.registry.slots t
    rw [hu.present]
    exact congrArg (registered · t) (Registry.present_checkOut hstayed)
  refine ⟨t, ?_⟩
  unfold deliver
  simp only
  cases hall : A.recorded.hearAll (Session.recordedLater W) listening event s.registry.slots
      { s with registry := s.registry.checkOut } with
  | ok reacted u =>
      rw [hall] at hround
      exact ⟨⟨hback hround.follows, hround.ends⟩, rfl⟩
  | error who u =>
      rw [hall] at hround
      exact ⟨⟨hback hround.follows, hround.ends⟩, rfl⟩

end Audience

-- =============================================================== the queue

/-- The session with that queue instead. -/
def Session.queued {W : Type} (s : Session W) (queue : List Event) : Session W :=
  { s with registry := { s.registry with queue } }

/-- The events are delivered one after the other, and nothing is left in the queue; or
it stops at the first of them that an observer fails at. -/
def Empties (present : List SubscriptionId) (events : List Event) {W : Type}
    (t : List Happening) :
    EStateM.Result SubscriptionId (Session (W × List Happening)) Unit → Prop
  | .ok _ s => s.registry.queue = [] ∧ Told present events t
  | .error _ _ => Stopped present events t

/-- What is delivered from a queue adds to the record: one event after the other, those
that were queued and then those that are raised in the meantime. -/
structure Drained {W : Type} (s : Session (W × List Happening)) (t : List Happening)
    (r : EStateM.Result SubscriptionId (Session (W × List Happening)) Unit) : Prop where
  seats : (finalState r).registry.Seats []
  stayed : (finalState r).registry.leaving = []
  slots : (finalState r).registry.slots = registered s.registry.slots t
  record : (finalState r).world.2 = s.world.2 ++ t
  ends : Empties s.registry.slots (s.registry.queue ++ raisedIn t) t r

section drained

variable {W : Type} {s s' : Session (W × List Happening)} {event : Event} {rest : List Event}
  {listening : Bool} {t t' : List Happening}

/-- With nothing queued nothing is delivered. -/
theorem Drained.refl (hs : s.registry.Seats []) (hstayed : s.registry.leaving = [])
    (hq : s.registry.queue = []) : Drained s [] (.ok () s) := by
  refine ⟨hs, hstayed, rfl, (List.append_nil _).symm, hq, ?_⟩
  rw [hq]
  exact .nil _

variable (hq : s.registry.queue = event :: rest)

include hq

/-- An observer fails, and nothing more is delivered. -/
theorem Round.drained_error {who : SubscriptionId}
    (h : Round [] s.registry.slots event listening (s.queued rest) t (.error who s'))
    (hstayed : s'.registry.leaving = []) : Drained s t (.error who s') := by
  refine ⟨h.follows.seats, hstayed, h.follows.present, h.follows.record, ?_⟩
  rw [hq]
  exact .here h.ends

/-- The next event of the queue, and what comes of the others. -/
theorem Round.drained {reacted : Bool}
    {r : EStateM.Result SubscriptionId (Session (W × List Happening)) Unit}
    (h : Round [] s.registry.slots event listening (s.queued rest) t (.ok reacted s'))
    (h' : Drained s' t' r) : Drained s (t ++ t') r := by
  have hpresent : s'.registry.slots = registered s.registry.slots t := h.follows.present
  have hrecord : s'.world.2 = s.world.2 ++ t := h.follows.record
  -- what the delivery has raised stands behind what was queued already
  have hall : s.registry.queue ++ raisedIn (t ++ t')
      = event :: (s'.registry.queue ++ raisedIn t') := by
    rw [show s'.registry.queue = rest ++ raisedIn t from h.follows.queue, hq, raisedIn_append,
      List.cons_append, List.append_assoc]
  refine ⟨h'.seats, h'.stayed, ?_, ?_, ?_⟩
  · rw [h'.slots, hpresent, registered_append]
  · rw [h'.record, hrecord, List.append_assoc]
  · rw [hall]
    have hends := h'.ends
    rw [hpresent] at hends
    cases r with
    | ok _ u => exact ⟨hends.1, .cons h.ends.1 hends.2⟩
    | error who u => exact .later h.ends.1 hends

end drained

namespace Audience

variable {W : Type} {A : Audience W} {s : Session (W × List Happening)}

/-- The queue that was there is gone through, and `next` sees to the rest once somebody
has reacted. Until then nothing was raised, so the queue is still what is left of the
old one, which is what the induction is on. -/
theorem untilReaction_drained (listening : Bool)
    {next : EStateM SubscriptionId (Session (W × List Happening)) Unit}
    (hnext : ∀ s : Session (W × List Happening), s.registry.Seats [] →
      s.registry.leaving = [] → listening = false → ∃ t, Drained s t (next s))
    (queue : List Event) (hs : s.registry.Seats []) (hstayed : s.registry.leaving = [])
    (hq : s.registry.queue = queue) : ∃ t, Drained s t
      (untilReaction (A.recorded.deliver (Session.recordedLater W) listening) next queue s) := by
  induction queue generalizing s with
  | nil => exact ⟨[], .refl hs hstayed hq⟩
  | cons event rest ih =>
      obtain ⟨t, hfirst, hstayed'⟩ := A.deliver_round (s := s.queued rest) listening event
        ⟨hs.busy, hs.numbered.sorted, hs.numbered.fresh⟩ hstayed
      -- the event is taken off the queue before anybody hears of it
      have hrun : untilReaction (A.recorded.deliver (Session.recordedLater W) listening) next
          (event :: rest) s
          = (A.recorded.deliver (Session.recordedLater W) listening event >>= fun reacted =>
              if reacted then next else untilReaction
                (A.recorded.deliver (Session.recordedLater W) listening) next rest)
            (s.queued rest) := rfl
      rw [hrun]
      cases hdeliver : A.recorded.deliver (Session.recordedLater W) listening event
          (s.queued rest) with
      | error who s' =>
          rw [hdeliver] at hfirst hstayed'
          rw [bind_error hdeliver]
          exact ⟨t, hfirst.drained_error hq hstayed'⟩
      | ok reacted s' =>
          -- nobody failed: whether somebody reacted decides who sees to what is queued
          -- now
          rw [hdeliver] at hfirst hstayed'
          rw [bind_ok hdeliver]
          obtain ⟨-, hraised, hlistening⟩ := hfirst.ends
          have hseats : s'.registry.Seats [] := hfirst.follows.seats
          cases reacted with
          | true =>
              have hloud : listening = false := by
                cases listening with
                | false => rfl
                | true => cases hlistening rfl
              obtain ⟨t', hrest⟩ := hnext s' hseats hstayed' hloud
              exact ⟨t ++ t', hfirst.drained hq hrest⟩
          | false =>
              have hleft : s'.registry.queue = rest ++ raisedIn t := hfirst.follows.queue
              rw [hraised rfl, List.append_nil] at hleft
              obtain ⟨t', hrest⟩ := ih hseats hstayed' hleft
              exact ⟨t ++ t', hfirst.drained hq hrest⟩

/-- A delivery ends with an empty queue or with an observer that fails. -/
theorem drain_drained (n : Nat) (hs : s.registry.Seats [])
    (hstayed : s.registry.leaving = []) :
    ∃ t, Drained s t (A.recorded.drain (Session.recordedLater W) n s) := by
  induction n generalizing s with
  | zero =>
      exact A.untilReaction_drained true (fun _ _ _ => Bool.noConfusion) s.registry.queue hs
        hstayed rfl
  | succ n ih =>
      exact A.untilReaction_drained false (fun _ hs hstayed _ => ih hs hstayed) s.registry.queue
        hs hstayed rfl

/-- However deep observers tell, the record is the one that is left when they leave their
events to the queue. -/
theorem recordedWithin_succ (A : Audience W) (depth : Nat) : A.recordedWithin (depth + 1)
    = Session.scribing Happening.scribe (A.recorded.emit (Session.recordedLater W)) := by
  have hconcur : Session.Concur (Session.recordedLater W) (A.recordedWithin depth) := by
    refine ⟨fun event s hs => ?_, fun _ _ hs => hs, fun _ _ hs => hs⟩
    cases depth with
    | zero => rfl
    | succ depth => exact (A.recorded.emit_busy (s := s.noted _) hs event).symm
  show Session.scribing Happening.scribe (A.recorded.emit (A.recordedWithin depth)) = _
  rw [A.recorded.emit_congr hconcur]

end Audience

-- =============================================================== all runs

/-- What telling of an event puts down: the event was raised, and then all that is raised
is delivered in order before the call returns; or an observer fails, that is the end of
it, and what was not delivered is dropped. -/
def Completes {W : Type} (s : Session (W × List Happening)) (event : Event) :
    EStateM.Result SubscriptionId (Session (W × List Happening)) Unit → Prop
  | .ok _ s' => ∃ t, s'.world.2 = s.world.2 ++ .raised event :: t
      ∧ Told s.registry.slots (event :: raisedIn t) t
  | .error _ s' => ∃ t, s'.world.2 = s.world.2 ++ .raised event :: t
      ∧ Stopped s.registry.slots (event :: raisedIn t) t

namespace Session

variable {W : Type} {A : Audience W} {s : Session (W × List Happening)}

/-- What holds between calls from outside: nobody is being told of anything, and the
registry is as the record says, which tells everyone of everything. -/
structure Settled (s : Session (W × List Happening)) : Prop where
  atRest : s.registry.AtRest
  numbered : s.registry.Numbered s.registry.slots
  slots : s.registry.slots = registered [] s.world.2
  chronicle : Chronicle s.world.2

namespace Settled

/-- At rest a subscription takes effect at once, and the record says who it is. -/
theorem subscribe (h : Settled s) : Settled (noted [.subscribed s.registry.next]
    { s with registry := s.registry.subscribe }) where
  atRest := ⟨h.atRest.leaving, h.atRest.queue, h.atRest.busy⟩
  numbered := (show s.registry.Numbered ([] ++ s.registry.slots) from h.numbered).subscribe
  slots := by
    show s.registry.slots ++ [s.registry.next] = registered [] (s.world.2 ++ _)
    rw [registered_append, ← h.slots]
    rfl
  chronicle := h.chronicle.subscribed s.registry.next

/-- At rest whoever leaves is struck off at once. That somebody leaves who was never
there is put down too, and changes nothing. -/
theorem unsubscribe (h : Settled s) (id : SubscriptionId) : Settled (noted [.unsubscribed id]
    { s with registry := s.registry.unsubscribe id }) where
  atRest := by
    refine ⟨?_, (s.registry.queue_unsubscribe id).trans h.atRest.queue,
      (s.registry.busy_unsubscribe id).trans h.atRest.busy⟩
    show (s.registry.unsubscribe id).leaving = []
    unfold Registry.unsubscribe
    rw [h.atRest.busy]
    split
    · exact h.atRest.leaving
    · exact h.atRest.leaving
  numbered := (show s.registry.Numbered ([] ++ s.registry.slots) from h.numbered).unsubscribe
  slots := by
    show (s.registry.unsubscribe id).slots = registered [] (s.world.2 ++ _)
    rw [registered_append, ← h.slots]
    exact s.registry.slots_unsubscribe id
  chronicle := h.chronicle.unsubscribed id

/-- A delivery that began at rest leaves the session settled once it is over, whether it
came to its end or an observer failed. What was left in the queue is dropped. -/
theorem after (h : Settled s) {event : Event} {t : List Happening}
    {r : EStateM.Result SubscriptionId (Session (W × List Happening)) Unit}
    (ht : Drained ((s.noted [.raised event]).delivering event) t r)
    {u : Session (W × List Happening)}
    (hregistry : u.registry = { (finalState r).registry with busy := false, queue := [] })
    (hworld : u.world = (finalState r).world)
    (hends : Told (registered [] s.world.2) (event :: raisedIn t) t
      ∨ Stopped (registered [] s.world.2) (event :: raisedIn t) t) :
    Settled u ∧ u.world.2 = s.world.2 ++ .raised event :: t := by
  have hrecord : u.world.2 = s.world.2 ++ .raised event :: t := by
    rw [hworld, ht.record]
    exact List.append_assoc ..
  refine ⟨⟨?atRest, ?numbered, ?slots, ?chronicle⟩, hrecord⟩
  case atRest =>
    rw [hregistry]
    exact ⟨ht.stayed, rfl, rfl⟩
  case numbered =>
    rw [hregistry]
    exact ⟨ht.seats.numbered.sorted, ht.seats.numbered.fresh⟩
  case slots =>
    -- those in the slots are those that the whole record registers, before the delivery
    -- and after it
    rw [hrecord, registered_append, ← h.slots, hregistry]
    exact ht.slots
  case chronicle =>
    rw [hrecord]
    rcases hends with htold | hstopped
    · exact h.chronicle.told htold
    · exact h.chronicle.stopped hstopped

/-- Telling of an event leads from rest to rest, and puts down what came of it. -/
theorem emission (h : Settled s) (A : Audience W) (event : Event) (depth : Nat) :
    Settled (finalState (A.recordedWithin (depth + 1) event s))
      ∧ Completes s event (A.recordedWithin (depth + 1) event s) := by
  let raising := s.noted [.raised event]
  rw [A.recordedWithin_succ]
  show Settled (finalState (A.recorded.emit (recordedLater W) event raising))
    ∧ Completes s event (A.recorded.emit (recordedLater W) event raising)
  rw [A.recorded.emit_rest (s := raising) h.atRest.busy]
  obtain ⟨t, ht⟩ := A.drain_drained (A.recorded.patience raising.world)
    (s := raising.delivering event) ⟨rfl, h.numbered.sorted, h.numbered.fresh⟩
    h.atRest.leaving
  have hqueue : (raising.delivering event).registry.queue = [event] := by
    show s.registry.queue ++ [event] = [event]
    rw [h.atRest.queue]
    rfl
  have hends := ht.ends
  rw [hqueue] at hends
  generalize A.recorded.drain (recordedLater W) _ (raising.delivering event) = r at ht hends
  cases r with
  | ok _ u =>
      obtain ⟨hempty, htold⟩ := hends
      have hregistry : { u.registry with busy := false }
          = { u.registry with busy := false, queue := [] } := by rw [← hempty]
      obtain ⟨hsettled, hrecord⟩ := h.after ht
        (u := { u with registry := { u.registry with busy := false } }) hregistry rfl
        (.inl (h.slots ▸ htold))
      exact ⟨hsettled, t, hrecord, htold⟩
  | error who u =>
      obtain ⟨hsettled, hrecord⟩ := h.after ht
        (u := { u with registry := { u.registry with busy := false, queue := [] } }) rfl rfl
        (.inr (h.slots ▸ hends))
      exact ⟨hsettled, t, hrecord, hends⟩

/-- Neither the operation nor the clients' own world matters. -/
theorem elsewhere (h : Settled s) (operation : Operation) (world : W) :
    Settled { s with operation, world := (world, s.world.2) } :=
  ⟨h.atRest, h.numbered, h.slots, h.chronicle⟩

/-- Whoever calls from outside finds the session settled and leaves it so, once the
answer is put down. -/
theorem answer (h : Settled s) (A : Audience W) (depth : Nat) {α : Type} (call : Call α) :
    match Session.answer (host (A.recordedWithin (depth + 1))) call s with
    | .ok a s' => Settled (s'.noted (Happening.scribe.answered call (.ok a)))
    | .error _ s' => Settled s' := by
  -- subscribing and leaving say who listens; any other call can do no more than raise
  -- events
  cases hregisters : call.registers with
  | true =>
      cases call with
      | subscribe => exact h.subscribe
      | unsubscribe id => exact h.unsubscribe id
      | _ => cases hregisters
  | false =>
      have hkeeper : (host (A.recordedWithin (depth + 1))).Keeper (fun _ => True) Settled :=
        ⟨fun _ => trivial, fun {s op} _ hs => hs.elsewhere op s.world.1⟩
      have hsettled : Settled
          (finalState (Session.answer (host (A.recordedWithin (depth + 1))) call s)) :=
        keeps_answer_of hkeeper (fun event _ hs => (hs.emission A event depth).1)
          Operation.upheld_any call.adds_any hregisters s h
      cases hrun : Session.answer (host (A.recordedWithin (depth + 1))) call s with
      | error halt s' =>
          rw [hrun] at hsettled
          exact hsettled
      | ok a s' =>
          rw [hrun] at hsettled
          show Settled (s'.noted _)
          rw [answered_nil hregisters, noted_nil]
          exact hsettled

/-- A client from outside leaves the session settled, whatever its calls are answered.
-/
theorem client (h : Settled s) (A : Audience W) (depth : Nat) {α : Type} (c : Client W α) :
    Settled (finalState
      ((c.scribed Happening.scribe).run (host (A.recordedWithin (depth + 1))) s)) := by
  induction c generalizing s with
  | done a => exact h
  | look next ih => exact ih _ _ h
  | share f next ih => exact ih _ (h.elsewhere s.operation (f s.world.1).2)
  | ask call next ih =>
      have hfirst := h.answer A depth call
      unfold Client.scribed Client.run
      cases hrun : Session.answer (host (A.recordedWithin (depth + 1))) call s with
      | ok b s' =>
          rw [hrun] at hfirst
          exact ih (.ok b) hfirst
      | error halt s' =>
          rw [hrun] at hfirst
          cases halt with
          | refused e =>
              refine ih (.error e) (s := s'.noted []) ?_
              rw [noted_nil]
              exact hfirst
          | unwound id => exact hfirst

end Settled

/-- A new session is settled, and each way of going on keeps it so. -/
theorem Observed.settled (hs : Observed A s) : Settled s := by
  induction hs with
  | new => exact ⟨⟨rfl, rfl, rfl⟩, ⟨.nil, List.forall_mem_nil _⟩, rfl, .nil⟩
  | elsewhere operation world _ ih => exact ih.elsewhere operation world
  | run c depth _ ih => exact ih.client A depth c
  | emit event depth _ ih => exact (ih.emission A event depth).1

/-- Without its record an observed session tells like any other. -/
theorem Observed.unlogs_emit (hs : Observed A s) (event : Event) (depth : Nat) :
    Observed A (finalState (A.recordedWithin (depth + 1) event s))
      ∧ (finalState (A.recordedWithin (depth + 1) event s)).unlogged
        = finalState (A.announce event s.unlogged) :=
  ⟨hs.emit event depth, (A.inStep_announce Happening.scribe depth event _ s rfl).finalState⟩

/-- Every session that public calls lead to leaves a record if it is observed. -/
theorem Reachable.observed {s : Session W} (hs : Reachable A s) :
    ∃ t : Session (W × List Happening), Observed A t ∧ Unlogs s t := by
  -- the record is put down beside the session, call by call, and reaching is followed
  -- once more with it
  let Seen (s : Session W) : Prop :=
    ∃ t : Session (W × List Happening), Observed A t ∧ Unlogs s t
  have hkeeper : (host A.announce).Keeper (fun _ => True) Seen := by
    refine ⟨fun _ => trivial, ?_⟩
    rintro _ op _ ⟨t, ht, rfl⟩
    exact ⟨_, ht.elsewhere op t.world.1, rfl⟩
  have htell : ∀ event, Keeps Seen (A.announce event) := by
    rintro event _ ⟨t, ht, rfl⟩
    exact ⟨_, ht.unlogs_emit event 0⟩
  induction hs with
  | new => exact ⟨_, .new _ _, rfl⟩
  | construct => exact ⟨_, .new _ _, rfl⟩
  | @call s α call _ _ ih =>
      cases hregisters : call.registers with
      | false =>
          exact keeps_answer_of hkeeper htell Operation.upheld_any call.adds_any hregisters s ih
      | true =>
          obtain ⟨t, ht, rfl⟩ := ih
          cases call with
          | subscribe => exact ⟨_, ht.run (.call .subscribe) 0, rfl⟩
          | unsubscribe id => exact ⟨_, ht.run (.call (.unsubscribe id)) 0, rfl⟩
          | _ => cases hregisters
  | apply scene _ ih => exact Host.keeps_apply hkeeper htell Operation.upheld_any (_, scene) ih
  | abort scene _ ih => exact Host.keeps_abort hkeeper htell Operation.upheld_any (_, scene) ih

/-- Nobody is being told of anything between public calls. -/
theorem Reachable.atRest {s : Session W} (hs : Reachable A s) : s.registry.AtRest := by
  obtain ⟨t, ht, rfl⟩ := hs.observed
  exact ht.settled.atRest

end Session

/-- Between outside calls nobody is being told of anything and nothing is left
to tell. Registered are those who subscribed and did not unsubscribe since, in
this order and without repetition. No notification began inside another one, and
each event was heard by those who were registered when its delivery began, once
each and by nobody else (`Happening.Chronicle`).

The next event that is told of, and all that is raised in the course of it, is
delivered in order before the call returns. If an observer fails then that is the
end of it, and what was not delivered is dropped. The call ends as it does where
nothing is put down, and leaves what it leaves there. -/
theorem delivered_of_observed {W : Type} {A : Audience W} {s : Session (W × List Happening)}
    (hs : s.Observed A) :
    s.registry.AtRest
      ∧ s.registry.slots = registered [] s.world.2 ∧ s.registry.slots.Pairwise (· < ·)
      ∧ Chronicle s.world.2 ∧ Orderly none s.world.2
      ∧ ∀ event depth,
        SameEnd Session.Unlogs (A.announce event s.unlogged)
            (A.recordedWithin (depth + 1) event s)
          ∧ Completes s event (A.recordedWithin (depth + 1) event s) := by
  have h := hs.settled
  exact ⟨h.atRest, h.slots, h.numbered.sorted, h.chronicle, h.chronicle.orderly,
    fun event depth => ⟨A.inStep_announce Happening.scribe depth event _ s rfl,
      (h.emission A event depth).2⟩⟩

/-- The first observer, when the operation is finished, has a new one subscribe
and the second one unsubscribe, and adds an action. The new observer fails. -/
def Audience.unruly : Audience Unit where
  note _ _ w := w
  reaction? id event _ :=
    match id, event with
    | 0, .finished => some <| .ask .subscribe fun _ => .ask (.unsubscribe 1) fun _ =>
        .ask (.addAction (.noAction "light")) fun _ => .done .returns
    | 2, _ => some (.done .fails)
    | _, _ => none
  patience _ := 2

/-- What is put down once two of them have subscribed and the operation is finished.
The second observer hears of the end and not of the action, the new one hears of the
action and not of the end. -/
def Audience.unrulyRecord : List Happening :=
  [.subscribed 0, .subscribed 1, .raised .finished,
    .told 0 .finished, .acts 0, .subscribed 2, .unsubscribed 1, .raised (.actionAdded 0),
    .ended 0 .returns, .told 1 .finished,
    .told 0 (.actionAdded 0), .told 2 (.actionAdded 0), .acts 2, .ended 2 .fails]

/-- Whoever did not unsubscribe is there to hear of what is told of next. -/
theorem delivered_of_observed_unruly :
    ∃ s : Session (Unit × List Happening), s.Observed Audience.unruly
      ∧ s.world.2 = Audience.unrulyRecord
      ∧ s.registry.AtRest ∧ s.registry.slots = [0, 2]
      ∧ Chronicle s.world.2 ∧ Orderly none s.world.2
      ∧ Completes s .aborted (Audience.unruly.recordedWithin 2 .aborted s) := by
  -- the session is run once, for what it puts down
  obtain ⟨s, hs, hrecord⟩ : ∃ s : Session (Unit × List Happening),
      s.Observed Audience.unruly ∧ s.world.2 = Audience.unrulyRecord := by
    refine ⟨_, (((Session.Observed.new { sourcePath := "source", basePath := "base" } ()).run
      (.call .subscribe) 0).run (.call .subscribe) 0).emit .finished 1, ?_⟩
    decide +kernel
  obtain ⟨hrest, hslots, -, hchronicle, horderly, hnext⟩ := delivered_of_observed hs
  refine ⟨s, hs, hrecord, hrest, ?_, hchronicle, horderly, (hnext .aborted 1).2⟩
  rw [hslots, hrecord]
  rfl

end SceneMerge
