/-
Two audiences, side by side. They may share worlds of different kinds, react in
different ways and tell in turn in different ways. As long as whoever is told of an
event hears it with the same outcome on both sides, whatever was registered and
queued by then (`Audience.Abreast`), the whole delivery has the same outcome
(`Audience.Abreast.emit`): everyone is told the same in the same order, and an
observer that fails does so on both sides.

Who is told next is said by the registry, which is the same on both sides, and by
whether anyone reacted. Only events of some kind need be heard alike, if no others
are raised, and only while events are being delivered, which no delivery changes.

# Calls

Whoever reacts makes calls. Two sessions with the same registry answer every call
alike if telling comes to the same (`Session.Mirrors.answer`), whichever two hosts
they are called through.
-/
import SceneMerge.Proofs.Session.Lockstep
import SceneMerge.Session.Delivery

namespace SceneMerge

namespace Registry

theorem next_unsubscribe (r : Registry) (id : SubscriptionId) :
    (r.unsubscribe id).next = r.next := by
  unfold unsubscribe
  split
  · rfl
  · split <;> rfl

theorem queue_unsubscribe (r : Registry) (id : SubscriptionId) :
    (r.unsubscribe id).queue = r.queue := by
  unfold unsubscribe
  split
  · rfl
  · split <;> rfl

theorem busy_unsubscribe (r : Registry) (id : SubscriptionId) :
    (r.unsubscribe id).busy = r.busy := by
  unfold unsubscribe
  split
  · rfl
  · split <;> rfl

end Registry

-- =================================================================== calls

namespace Session

variable {W V α : Type} {tell : Event → EStateM SubscriptionId (Session W) Unit}
  {tell' : Event → EStateM SubscriptionId (Session V) Unit}
  {R : Session W → Session V → Prop}

/-- The two sessions are hosts that mirror each other, and have the same registry,
which may change short of who is delivering. -/
structure Mirrors (tell : Event → EStateM SubscriptionId (Session W) Unit)
    (tell' : Event → EStateM SubscriptionId (Session V) Unit)
    (R : Session W → Session V → Prop) : Prop where
  hosts : Host.Mirror (host tell) (host tell') R
  registry : ∀ {s t}, R s t → t.registry = s.registry
  register : ∀ {s t} (r : Registry), R s t → r.busy = s.registry.busy →
    R { s with registry := r } { t with registry := r }

/-- A scene of the client's own comes back alike. -/
theorem inStep_onScene {call : EStateM Halt (Session W × LiveScene) α}
    {call' : EStateM Halt (Session V × LiveScene) α}
    (hc : InStep (InStep.Beside LiveScene R) call call') (scene : LiveScene) :
    InStep R (onScene call scene) (onScene call' scene) := by
  intro s t hr
  unfold onScene
  rcases (hc (s, scene) (t, scene) ⟨hr, rfl⟩).cases with
    ⟨a, ⟨s', x⟩, ⟨t', y⟩, hs, ht, hr', heq⟩ | ⟨e, ⟨s', x⟩, ⟨t', y⟩, hs, ht, hr', heq⟩
  · rw [hs, ht]
    exact ⟨congrArg (Prod.mk _) heq, hr'⟩
  · rw [hs, ht]
    cases e with
    | refused e => exact ⟨congrArg (Prod.mk _) heq, hr'⟩
    | unwound id => exact ⟨rfl, hr'⟩

/-- Every call is answered alike. -/
theorem Mirrors.answer (h : Mirrors tell tell' R) (call : Call α) :
    InStep R (answer (host tell) call) (answer (host tell') call) := by
  have hm := h.hosts
  cases call with
  | addAction a => exact hm.addAction a
  | addConflict => exact hm.addConflict _ _ _ _ _
  | addMembership change => exact hm.addMembership change
  | setMergeLayers enabled => exact hm.lockstep.update _
  | setMergeSelectionGroups enabled => exact hm.lockstep.update _
  | populate source base? target => exact hm.populate source base? target
  | classifyThreeWay => exact hm.classify _ _ _
  | classifyTwoWay => exact hm.classify _ _ _
  | setActive id active => exact hm.setActive id active
  | setMembershipActive index active => exact hm.setMembershipActive index active
  | setResolution id r => exact hm.setResolution id r
  | finish => exact hm.finish
  | apply scene => exact inStep_onScene hm.apply scene
  | abort scene => exact inStep_onScene hm.abort scene
  | subscribe =>
      intro s t hr
      refine ⟨(congrArg Registry.next (h.registry hr)).symm, ?_⟩
      show R { s with registry := s.registry.subscribe }
        { t with registry := t.registry.subscribe }
      rw [h.registry hr]
      exact h.register _ hr rfl
  | unsubscribe id =>
      intro s t hr
      refine ⟨rfl, ?_⟩
      show R { s with registry := s.registry.unsubscribe id }
        { t with registry := t.registry.unsubscribe id }
      rw [h.registry hr]
      exact h.register _ hr (s.registry.busy_unsubscribe id)

end Session

-- ================================================================ delivery

namespace Audience

variable {W V : Type} {A : Audience W} {B : Audience V}
  {tell : Event → EStateM SubscriptionId (Session W) Unit}
  {tell' : Event → EStateM SubscriptionId (Session V) Unit} {E : Event → Prop}
  {R : Session W → Session V → Prop}

/-- Related sessions have the same registry, in which everything queued is such an
event, and they are still related when their registries are changed, short of who is
delivering. The audiences hear such an event with the same outcome. -/
structure Abreast (A : Audience W) (B : Audience V)
    (tell : Event → EStateM SubscriptionId (Session W) Unit)
    (tell' : Event → EStateM SubscriptionId (Session V) Unit) (E : Event → Prop)
    (R : Session W → Session V → Prop) : Prop where
  registry : ∀ {s t}, R s t → t.registry = s.registry
  queued : ∀ {s t}, R s t → ∀ event ∈ s.registry.queue, E event
  register : ∀ {s t} (r : Registry), R s t → r.busy = s.registry.busy →
    (∀ event ∈ r.queue, E event) →
    R { s with registry := r } { t with registry := r }
  hear : ∀ listening {event} id, E event →
    InStep R (A.hear tell listening event id) (B.hear tell' listening event id)

namespace Abreast

variable (h : Abreast A B tell tell' E R) {event : Event}

include h

/-- Both registries are changed in the same way. -/
theorem change (f : Registry → Registry) (hbusy : ∀ r, (f r).busy = r.busy) {s : Session W}
    {t : Session V} (hr : R s t) (hf : ∀ event ∈ (f s.registry).queue, E event) :
    R { s with registry := f s.registry } { t with registry := f t.registry } := by
  rw [h.registry hr]
  exact h.register _ hr (hbusy _) hf

theorem hearAll (listening : Bool) (hE : E event) (ids : List SubscriptionId) :
    InStep R (A.hearAll tell listening event ids) (B.hearAll tell' listening event ids) := by
  induction ids with
  | nil => exact .pure _
  | cons id ids ih =>
      exact .bind (h.hear listening id hE) fun _ => .bind ih fun _ => .pure _

/-- The same observers are checked out, told and checked in again. -/
theorem deliver (listening : Bool) (hE : E event) :
    InStep R (A.deliver tell listening event) (B.deliver tell' listening event) := by
  intro s t hr
  have hout := h.change Registry.checkOut (fun _ => rfl) hr (h.queued hr)
  unfold Audience.deliver
  simp only [h.registry hr] at hout ⊢
  rcases (h.hearAll listening hE s.registry.slots _ _ hout).cases with
    ⟨b, s', t', hs, ht, hr'⟩ | ⟨id, s', t', hs, ht, hr'⟩
  · rw [hs, ht]
    exact ⟨rfl, h.change (·.checkIn s.registry.slots) (fun _ => rfl) hr' (h.queued hr')⟩
  · rw [hs, ht]
    exact ⟨rfl, h.change (·.checkIn s.registry.slots) (fun _ => rfl) hr' (h.queued hr')⟩

/-- The queue is gone through event by event, and left at the same one. -/
theorem untilReaction (listening : Bool) {next : EStateM SubscriptionId (Session W) Unit}
    {next' : EStateM SubscriptionId (Session V) Unit} (hnext : InStep R next next')
    (queue : List Event) (hqueue : ∀ event ∈ queue, E event) :
    InStep R (untilReaction (A.deliver tell listening) next queue)
      (untilReaction (B.deliver tell' listening) next' queue) := by
  induction queue with
  | nil => exact .pure _
  | cons event rest ih =>
      obtain ⟨hE, hrest⟩ := List.forall_mem_cons.1 hqueue
      have htake : InStep R
          (modify fun s => { s with registry := { s.registry with queue := rest } } :
            EStateM SubscriptionId (Session W) Unit)
          (modify fun t => { t with registry := { t.registry with queue := rest } }) :=
        fun _ _ hr => ⟨rfl, h.change ({ · with queue := rest }) (fun _ => rfl) hr hrest⟩
      exact .bind htake fun _ => .bind (h.deliver listening hE) fun _ => .ite hnext (ih hrest)

/-- So is whatever is queued in the course of it. -/
theorem drain (n : Nat) : InStep R (A.drain tell n) (B.drain tell' n) := by
  induction n with
  | zero =>
      intro s t hr
      show SameEnd R (Audience.untilReaction (A.deliver tell true) (pure ()) s.registry.queue s)
        (Audience.untilReaction (B.deliver tell' true) (pure ()) t.registry.queue t)
      rw [h.registry hr]
      exact h.untilReaction true (.pure _) _ (h.queued hr) s t hr
  | succ n ih =>
      intro s t hr
      show SameEnd R
        (Audience.untilReaction (A.deliver tell false) (A.drain tell n) s.registry.queue s)
        (Audience.untilReaction (B.deliver tell' false) (B.drain tell' n) t.registry.queue t)
      rw [h.registry hr]
      exact h.untilReaction false ih _ (h.queued hr) s t hr

/-- Telling has the same outcome, if it is of no concern who is delivering. -/
theorem emit (hpatience : ∀ {s t}, R s t → A.patience s.world = B.patience t.world)
    (hbusy : ∀ {s t} flag, R s t →
      R { s with registry := { s.registry with busy := flag } }
        { t with registry := { t.registry with busy := flag } })
    (hE : E event) : InStep R (A.emit tell event) (B.emit tell' event) := by
  intro s t hr
  have hqueued : R { s with registry := s.registry.enqueue event }
      { t with registry := t.registry.enqueue event } :=
    h.change (·.enqueue event) (fun _ => rfl) hr
      (List.forall_mem_append.2 ⟨h.queued hr, List.forall_mem_singleton.2 hE⟩)
  have hsame : t.registry.busy = s.registry.busy := congrArg Registry.busy (h.registry hr)
  cases hs : s.registry.busy with
  | true =>
      rw [A.emit_busy hs, B.emit_busy (hsame.trans hs)]
      exact ⟨rfl, hqueued⟩
  | false =>
      rw [A.emit_rest hs, B.emit_rest (hsame.trans hs), hpatience hr]
      rcases (h.drain (B.patience t.world) (s.delivering event) (t.delivering event)
          (hbusy true hqueued)).cases with
        ⟨_, s', t', hs, ht, hr'⟩ | ⟨id, s', t', hs, ht, hr'⟩
      · rw [hs, ht]
        exact ⟨rfl, hbusy false hr'⟩
      · rw [hs, ht]
        exact ⟨rfl, hbusy false (h.change ({ · with queue := [] }) (fun _ => rfl) hr'
          (List.forall_mem_nil _))⟩

end Abreast

end Audience

end SceneMerge
