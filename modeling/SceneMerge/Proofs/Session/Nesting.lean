/-
Telling inside telling. An observer that raises an event calls what everyone calls who
tells of something, in the middle of a delivery. Unrolled, the observers of a session
tell like the session itself, their observers do, and so on to some depth
(`Audience.emitWithin`).

Whoever tells asks first whether others are being told. They are until the delivery is
through, so no more than a place in the queue comes of telling at any depth but the
outermost, and every depth is the same as the first: that is how sessions tell
(`Audience.emitWithin_succ`). There is no other way to tell in which observers tell in
the same way (`Audience.eq_emit_iff`).
-/
import SceneMerge.Proofs.Session.Undisturbed

namespace SceneMerge

variable {W α : Type}

namespace Session

/-- The two are the same, and others are being told of something. -/
def Midway (s t : Session W) : Prop := s = t ∧ s.registry.busy = true

/-- Whoever tells in the middle of a delivery comes to the same, leaves the delivery
going on and a flight as it is. -/
structure Concur (tell tell' : Event → EStateM SubscriptionId (Session W) Unit) : Prop where
  same : ∀ event s, s.registry.busy = true → tell event s = tell' event s
  busy : ∀ event, Keeps (fun s => s.registry.busy = true) (tell event)
  flies : ∀ event, Keeps (Has (·.inFlight = true)) (tell event)

theorem Concur.mirrors {tell tell' : Event → EStateM SubscriptionId (Session W) Unit}
    (h : Concur tell tell') : Mirrors tell tell' Midway where
  hosts := {
    lawful := lawful_host tell
    read := fun hr => congrArg Session.operation hr.1
    write := fun _ hr => ⟨hr.1 ▸ rfl, hr.2⟩
    tell := fun event => .of_same (h.busy event) (h.same event)
    aloft := h.flies }
  registry hr := hr.1 ▸ rfl
  register _ hr hbusy := ⟨hr.1 ▸ rfl, hbusy.trans hr.2⟩

end Session

open Session

/-- A client goes on in the same way, since all its calls are answered alike. -/
theorem Client.inStep_midway {tell tell' : Event → EStateM SubscriptionId (Session W) Unit}
    (h : Concur tell tell') (c : Client W α) :
    InStep Midway (c.run (host tell)) (c.run (host tell')) := by
  induction c with
  | done a => exact fun _ _ hr => ⟨rfl, hr⟩
  | look next ih =>
      rintro s _ ⟨rfl, hbusy⟩
      exact ih _ _ s s ⟨rfl, hbusy⟩
  | share f next ih =>
      rintro s _ ⟨rfl, hbusy⟩
      exact ih _ _ _ ⟨rfl, hbusy⟩
  | ask call next ih =>
      intro s t hr
      unfold Client.run
      rcases (h.mirrors.answer call s t hr).cases with
        ⟨b, s', t', hs, ht, hr'⟩ | ⟨e, s', t', hs, ht, hr'⟩
      · rw [hs, ht]
        exact ih _ s' t' hr'
      · rw [hs, ht]
        cases e with
        | refused e => exact ih _ s' t' hr'
        | unwound id => exact ⟨rfl, hr'⟩

namespace Audience

variable (A : Audience W) {tell tell' : Event → EStateM SubscriptionId (Session W) Unit}

/-- Whoever is told of an event does the same with either way to tell. -/
theorem inStep_hear_midway (h : Concur tell tell') (listening : Bool) (event : Event)
    (id : SubscriptionId) :
    InStep Midway (A.hear tell listening event id) (A.hear tell' listening event id) := by
  rintro s _ ⟨rfl, hbusy⟩
  unfold hear
  simp only
  split
  · exact ⟨rfl, rfl, hbusy⟩
  · next c hc =>
      rcases (c.inStep_midway h { s with world := A.note id event s.world } _
        ⟨rfl, hbusy⟩).cases with ⟨ending, s', t', hs, ht, hr⟩ | ⟨who, s', t', hs, ht, hr⟩
      · rw [hs, ht]
        cases ending with
        | returns => exact ⟨rfl, hr⟩
        | fails => exact ⟨rfl, hr⟩
      · rw [hs, ht]
        exact ⟨rfl, hr⟩

theorem abreast_midway (h : Concur tell tell') :
    Abreast A A tell tell' (fun _ => True) Midway where
  registry hr := hr.1 ▸ rfl
  queued _ _ _ := trivial
  register _ hr hbusy _ := ⟨hr.1 ▸ rfl, hbusy.trans hr.2⟩
  hear listening event id _ := A.inStep_hear_midway h listening event id

/-- It does not matter how observers tell, as long as it comes to the same in the middle
of a delivery: there is no other time for them to tell. -/
theorem emit_congr (h : Concur tell tell') : A.emit tell = A.emit tell' := by
  funext event s
  cases hs : s.registry.busy with
  | true => rw [A.emit_busy hs, A.emit_busy hs]
  | false =>
      have hdrain := (A.abreast_midway h).drain (A.patience s.world) (s.delivering event) _
        ⟨rfl, rfl⟩
      rw [A.emit_rest hs, A.emit_rest hs, SameEnd.eq hdrain]

/-- Whatever tells like that concurs with leaving the event to whoever delivers. -/
theorem concur_enqueue
    (h : ∀ event (s : Session W), s.registry.busy = true → tell event s = enqueue event s) :
    Concur enqueue tell where
  same event s hs := (h event s hs).symm
  busy _ _ hs := hs
  flies event := keeps_enqueue event

-- ================================================================== depth

/-- Telling by a session whose observers tell in the same way, up to so many
notifications inside one another. -/
def emitWithin (A : Audience W) : Nat → Event → EStateM SubscriptionId (Session W) Unit
  | 0 => enqueue
  | depth + 1 => A.emit (A.emitWithin depth)

/-- Nobody is told inside a notification, at any depth. -/
theorem emitWithin_busy (depth : Nat) {s : Session W} (hs : s.registry.busy = true)
    (event : Event) : A.emitWithin depth event s = enqueue event s := by
  cases depth with
  | zero => rfl
  | succ depth => exact A.emit_busy hs event

/-- However deep it is unrolled, telling is what it is when observers leave their events
to the queue. -/
theorem emitWithin_succ (depth : Nat) : A.emitWithin (depth + 1) = A.announce :=
  (A.emit_congr (concur_enqueue fun event _ hs => A.emitWithin_busy depth hs event)).symm

/-- Observers tell as whoever called the session does in one way only. -/
theorem eq_emit_iff : tell = A.emit tell ↔ tell = A.announce := by
  constructor
  · intro h
    have hbusy : ∀ event (s : Session W), s.registry.busy = true →
        tell event s = enqueue event s := by
      intro event s hs
      rw [h]
      exact A.emit_busy hs event
    rw [h, announce, A.emit_congr (concur_enqueue hbusy)]
  · rintro rfl
    exact (A.emitWithin_succ 1).symm

end Audience

end SceneMerge
