/-
Passes that observers meddle with. Observers that are told of an applied action
may ask for reviews of all kinds, in any order and with any arguments, and may
go on in any way from what they are answered. It comes to nothing: each of their
calls is answered that the operation is busy, the pass ends as it would with
nobody watching, and afterwards nobody is ever told that the operation is busy
(`pass_undisturbed`).

# Two runs

That an answer was the one of a busy operation is said by a second run, of
clients that make no calls and go on as if they had been answered so
(`Client.rebuffed`). Whatever they do with the answers, the two runs are the
same (`Audience.announce_same`). That nobody is answered so is said in the same
way: by two runs of clients that would go on differently only from that answer
(`Client.AgreesUnlessBusy`).

The run with nobody watching is the one of the operation by itself. It is in
lockstep with the session, since telling comes to its end and changes nothing
but the world (`Audience.OnlyMeddles.lockstep`).
-/
import SceneMerge.Proofs.Session.Abreast
import SceneMerge.Proofs.Session.Phases

namespace SceneMerge

variable {W : Type}

-- ================================================================= clients

namespace Client

variable {α : Type}

/-- The client without its calls, as it goes on if it is answered each time that
the operation is busy. -/
def rebuffed : Client W α → Client W α
  | .done a => .done a
  | .look next => .look fun op observers => (next op observers).rebuffed
  | .share f next => .share f fun b => (next b).rebuffed
  | .ask call next => (next (call.turnedDown .concurrentMergeAccess)).rebuffed

/-- However it goes on, the client does not fail. -/
inductive Returns : Client W Ending → Prop where
  | done : Returns (.done .returns)
  | look {next : Operation → Nat → Client W Ending} :
      (∀ op observers, Returns (next op observers)) → Returns (.look next)
  | share {β : Type} {f : W → β × W} {next : β → Client W Ending} :
      (∀ b, Returns (next b)) → Returns (.share f next)
  | ask {β : Type} {call : Call β} {next : Except MergeError β → Client W Ending} :
      (∀ r, Returns (next r)) → Returns (.ask call next)

/-- The two do the same, except when they are answered that the operation is
busy, or shown an operation that is. -/
inductive AgreesUnlessBusy : Client W α → Client W α → Prop where
  | done (a : α) : AgreesUnlessBusy (.done a) (.done a)
  | look {next next' : Operation → Nat → Client W α} :
      (∀ op observers, op.inFlight = false →
        AgreesUnlessBusy (next op observers) (next' op observers)) →
      AgreesUnlessBusy (.look next) (.look next')
  | share {β : Type} {f : W → β × W} {next next' : β → Client W α} :
      (∀ b, AgreesUnlessBusy (next b) (next' b)) →
      AgreesUnlessBusy (.share f next) (.share f next')
  | ask {β : Type} {call : Call β} {next next' : Except MergeError β → Client W α} :
      (∀ r, r ≠ call.turnedDown .concurrentMergeAccess →
        AgreesUnlessBusy (next r) (next' r)) →
      AgreesUnlessBusy (.ask call next) (.ask call next')

/-- In flight, reviews are answered like that. -/
theorem run_rebuffed {c : Client W α} (hc : c.OnlyReviews) {s : Session W}
    (hs : s.operation.inFlight = true) :
    c.run Session.inside s = c.rebuffed.run Session.inside s := by
  induction hc generalizing s with
  | done a => rfl
  | look _ ih => exact ih _ _ trivial hs
  | share _ ih => exact ih _ hs
  | ask hcall _ ih =>
      rw [run_review hcall _ hs]
      exact ih _ hs

/-- Of an operation in flight reviews change nothing but the world. -/
theorem run_returns {c : Client W Ending} (hc : c.OnlyReviews) (hr : c.Returns)
    {s : Session W} (hs : s.operation.inFlight = true) :
    ∃ world, c.run Session.inside s = .ok .returns { s with world } := by
  induction hc generalizing s with
  | done a =>
      cases hr
      exact ⟨s.world, rfl⟩
  | look _ ih =>
      cases hr with
      | look hr => exact ih _ _ trivial (hr _ _) hs
  | share _ ih =>
      cases hr with
      | share hr => exact ih _ (hr _) hs
  | ask hcall _ ih =>
      cases hr with
      | ask hr =>
          rw [run_review hcall _ hs]
          exact ih _ (hr _) hs

end Client

/-- An operation at rest does not answer that it is busy, and nobody who asks it
puts it in flight for longer than the call. -/
theorem Client.run_agrees {α : Type} {c c' : Client W α} (hc : c.AgreesUnlessBusy c')
    (hkeep : ∀ {β : Type} (call : Call β), Keeps (Session.Has (·.inFlight = false))
      (Session.answer (Session.inside (W := W)) call)) {s : Session W}
    (hs : s.operation.inFlight = false) :
    c.run Session.inside s = c'.run Session.inside s := by
  induction hc generalizing s with
  | done a => rfl
  | look _ ih => exact ih _ _ hs hs
  | share _ ih => exact ih _ hs
  | @ask β call next next' _ ih =>
      -- the two may part only after an answer that is not given
      have hspared := Session.answer_spares (h := Session.inside) hs call
      have hkept := hkeep call s hs
      unfold Client.run
      cases ha : Session.answer Session.inside call s with
      | ok b t =>
          rw [ha] at hspared hkept
          refine ih _ (fun heq => hspared t ?_) hkept
          rw [Call.barred, ← heq]
      | error halt t =>
          rw [ha] at hspared hkept
          cases halt with
          | refused e =>
              refine ih _ (fun heq => hspared t ?_) hkept
              rw [Call.barred, ← heq]
          | unwound id => rfl

-- ================================================================ delivery

/-- The operation has the property, and what is to be delivered is such. -/
def Session.Expects (Q : Operation → Prop) (E : Event → Prop) (s : Session W) : Prop :=
  Q s.operation ∧ ∀ event ∈ s.registry.queue, E event

namespace Audience

/-- Audiences that hear alike are told alike. -/
theorem announce_same {A B : Audience W} {Q : Operation → Prop} {E : Event → Prop}
    (hsame : ∀ listening event id s, E event → Session.Expects Q E s →
      A.hear Session.enqueue listening event id s = B.hear Session.enqueue listening event id s)
    (hkeep : ∀ listening event id, E event →
      Keeps (Session.Expects Q E) (A.hear Session.enqueue listening event id))
    (hpatience : A.patience = B.patience) {event : Event} (hE : E event) {s : Session W}
    (hs : Session.Expects Q E s) : A.announce event s = B.announce event s := by
  have habreast : Abreast A B Session.enqueue Session.enqueue E
      fun s t => s = t ∧ Session.Expects Q E s := {
    registry := fun h => h.1 ▸ rfl
    queued := fun h => h.2.2
    register := fun r h _ hr => ⟨h.1 ▸ rfl, h.2.1, hr⟩
    hear := fun listening event id hE =>
      .of_same (hkeep listening event id hE) fun s => hsame listening event id s hE }
  exact (habreast.emit (fun h => h.1 ▸ congrFun hpatience _)
    (fun _ h => ⟨h.1 ▸ rfl, h.2⟩) hE s s ⟨rfl, hs⟩).eq

-- ================================================================ meddling

/-- The audience without its calls, as it goes on if it is answered each time
that the operation is busy. -/
def rebuffed (A : Audience W) : Audience W :=
  { A with reaction? id event w := (A.reaction? id event w).map (·.rebuffed) }

/-- Observers make calls only when they are told of an applied action, and ask
for nothing but reviews then. None of them fails. -/
def OnlyMeddles (A : Audience W) : Prop :=
  ∀ id event w c, A.reaction? id event w = some c →
    (∃ action, event = .actionApplied action) ∧ c.OnlyReviews ∧ c.Returns

/-- What either does about an event is the same, unless the operation is busy. -/
def AgreesUnlessBusy (A B : Audience W) : Prop :=
  A.note = B.note ∧ A.patience = B.patience ∧ ∀ id event w,
    Option.Rel Client.AgreesUnlessBusy (A.reaction? id event w) (B.reaction? id event w)

/-- An observer that does not react takes note. -/
theorem hear_unanswered {A : Audience W} {event : Event} {id : SubscriptionId}
    (hA : ∀ w, A.reaction? id event w = none) (listening : Bool) (s : Session W) :
    A.hear Session.enqueue listening event id s
      = .ok false { s with world := A.note id event s.world } := by
  unfold hear
  simp only [hA, ite_self]

namespace OnlyMeddles

variable {A : Audience W} (hA : A.OnlyMeddles)

include hA

/-- Who meddles reacts to actions that are applied and to nothing else. -/
theorem unanswered {event : Event} (hevent : ∀ action, event ≠ .actionApplied action)
    (id : SubscriptionId) (w : W) : A.reaction? id event w = none := by
  cases hc : A.reaction? id event w with
  | none => rfl
  | some c =>
      obtain ⟨⟨action, rfl⟩, -⟩ := hA id event w c hc
      exact absurd rfl (hevent action)

/-- Of an operation in flight nobody changes anything but the world. -/
theorem hear_aloft (listening : Bool) (event : Event) (id : SubscriptionId)
    {s : Session W} (hs : s.operation.inFlight = true) :
    ∃ b world, A.hear Session.enqueue listening event id s = .ok b { s with world } := by
  unfold hear
  simp only
  split
  · exact ⟨false, _, rfl⟩
  · next c hc =>
      have hreacts : A.reaction? id event (A.note id event s.world) = some c := by
        split at hc
        · cases hc
        · exact hc
      obtain ⟨-, hreviews, hreturns⟩ := hA id event _ c hreacts
      obtain ⟨world, hrun⟩ := Client.run_returns hreviews hreturns
        (s := { s with world := A.note id event s.world }) hs
      rw [show c.run (Session.host Session.enqueue) _ = _ from hrun]
      exact ⟨true, world, rfl⟩

/-- Telling of an action in flight comes to its end. -/
theorem action {r : Registry} (hr : r.AtRest) {op : Operation}
    (hop : op.inFlight = true) (event : Event) :
    KeepsOr False (Session.Is op r) (A.announce event) := by
  refine emit_keepsOr (fun listening id r s hs => ?_) hr
  obtain ⟨b, world, hrun⟩ := hA.hear_aloft listening event id (hs.1 ▸ hop : _ = true)
  rw [hrun]
  exact hs

/-- Telling of anything but an applied action comes to its end at any time, since nobody
answers that with a call. -/
theorem other {r : Registry} (hr : r.AtRest) (op : Operation) (event : Event)
    (hevent : ∀ action, event ≠ .actionApplied action) :
    KeepsOr False (Session.Is op r) (A.announce event) := by
  refine emit_keepsOr (fun listening id r s hs => ?_) hr
  rw [hear_unanswered (hA.unanswered hevent id)]
  exact hs

/-- A session with its audience is in lockstep with the operation by itself. -/
theorem lockstep {r : Registry} (hr : r.AtRest) :
    Host.Lockstep A.outside Host.alone fun s op => Session.Is op r s where
  read hs := hs.1
  write op hs := ⟨rfl, hs.2⟩
  action id := by
    rintro s op ⟨hs, hfly⟩
    obtain ⟨_, t, hrun, ht⟩ := (hA.action hr (hs.1 ▸ hfly) (.actionApplied id)).ends hs
    rw [show A.outside.tell (.actionApplied id) s = _ from hrun]
    refine ⟨rfl, ht, ?_⟩
    show t.operation.inFlight = true
    rw [ht.1, ← hs.1]
    exact hfly
  pass actions memberships := by
    intro s op hs
    obtain ⟨_, t, hrun, ht⟩ :=
      (hA.other hr op (.applied actions memberships) fun _ => nofun).ends hs
    rw [show A.outside.tell (.applied actions memberships) s = _ from hrun]
    exact ⟨rfl, ht⟩

/-- In flight it is as if each call was answered that the operation is busy. -/
theorem announce_rebuffed (event : Event) {s : Session W} (hs : s.operation.inFlight = true) :
    A.announce event s = A.rebuffed.announce event s := by
  refine announce_same (A := A) (B := A.rebuffed) (Q := (·.inFlight = true)) (E := fun _ => True)
    (fun listening event id s _ hs => ?_) (fun listening event id _ s hs => ?_) rfl trivial
    ⟨hs, fun _ _ => trivial⟩
  · cases listening with
    | true => rfl
    | false =>
        unfold hear rebuffed
        simp only [Bool.false_eq_true, if_false]
        cases hc : A.reaction? id event (A.note id event s.world) with
        | none => rfl
        | some c =>
            obtain ⟨-, hreviews, -⟩ := hA id event _ c hc
            simp only [Option.map_some]
            rw [show c.run (Session.host Session.enqueue) _ = _ from Client.run_rebuffed hreviews
              (s := { s with world := A.note id event s.world }) hs.1]
            rfl
  · obtain ⟨b, world, hrun⟩ := hA.hear_aloft listening event id hs.1
    rw [hrun]
    exact hs

/-- Of anything else nobody makes a call. -/
theorem announce_unanswered (event : Event)
    (hevent : ∀ action, event ≠ .actionApplied action) {s : Session W}
    (hs : s.registry.AtRest) : A.announce event s = A.rebuffed.announce event s := by
  have hB : ∀ event, (∀ action, event ≠ .actionApplied action) →
      ∀ id w, A.rebuffed.reaction? id event w = none := by
    intro event hevent id w
    show (A.reaction? id event w).map _ = none
    rw [hA.unanswered hevent]
    rfl
  refine announce_same (A := A) (B := A.rebuffed) (Q := fun _ => True)
    (E := fun event => ∀ action, event ≠ .actionApplied action)
    (fun listening event id s hE _ => ?_) (fun listening event id hE s hs => ?_) rfl hevent
    ⟨trivial, fun e he => by rw [hs.queue] at he; cases he⟩
  · rw [hear_unanswered (hA.unanswered hE id), hear_unanswered (hB event hE id)]
    rfl
  · rw [hear_unanswered (hA.unanswered hE id)]
    exact hs

/-- The session is in lockstep with one whose audience is rebuffed: both tell of the
same events, and the calls that would tell them apart are turned down on either side. -/
theorem lockstep_rebuffed {r : Registry} (hr : r.AtRest) :
    Host.Lockstep A.outside A.rebuffed.outside fun s t => s = t ∧ s.registry = r where
  read h := h.1 ▸ rfl
  write op h := ⟨h.1 ▸ rfl, h.2⟩
  action id := by
    rintro s _ ⟨⟨rfl, hs⟩, hfly⟩
    -- one run is looked at, and the other one is the same
    obtain ⟨_, t, hrun, ht⟩ := (hA.action hr hfly (.actionApplied id)).ends ⟨rfl, hs⟩
    show SameEnd _ (A.announce _ s) (A.rebuffed.announce _ s)
    rw [← hA.announce_rebuffed _ hfly, hrun]
    refine ⟨rfl, ⟨rfl, ht.2⟩, ?_⟩
    show t.operation.inFlight = true
    rw [ht.1]
    exact hfly
  pass actions memberships := by
    rintro s _ ⟨rfl, hs⟩
    obtain ⟨_, t, hrun, ht⟩ :=
      (hA.other hr s.operation (.applied actions memberships) fun _ => nofun).ends ⟨rfl, hs⟩
    show SameEnd _ (A.announce _ s) (A.rebuffed.announce _ s)
    rw [← hA.announce_unanswered (.applied actions memberships) (fun _ => nofun) (hs ▸ hr),
      hrun]
    exact ⟨rfl, rfl, ht.2⟩

end OnlyMeddles

end Audience

-- =================================================================== at rest

/-- Building and reviewing neither put an operation in flight nor end a flight. -/
theorem Operation.keptByReviews_inFlight (flag : Bool) :
    Operation.KeptByReviews (fun _ => True) (·.inFlight = flag) where
  proposed _ _ := trivial
  addAction _ h := h
  addConflict _ _ h := h
  addMembership h := h
  options _ h := h
  populated h := h
  setActive h hop := by
    have hm := takes_of_setActive hop
    have hm' := (revised_setActive hop).mutable.trans hm
    rw [not_inFlight_of_ensureMutable hm', ← h, not_inFlight_of_ensureMutable hm]
  setMembershipActive h hop := by
    obtain rfl := of_setMembershipActive_ok hop
    exact h
  setResolution h hop := by
    have hm := takes_of_setResolution hop
    have hm' := (revised_setResolution hop).mutable.trans hm
    rw [not_inFlight_of_ensureMutable hm', ← h, not_inFlight_of_ensureMutable hm]

/-- An operation is in flight during a pass and not otherwise. -/
theorem Operation.phased_inFlight :
    Operation.Phased (fun _ => True) (·.inFlight = false) fun _ op => op.inFlight = true where
  atRest := keptByReviews_inFlight false
  aloft _ := keptByReviews_inFlight true
  inFlight h := h
  takeOff _ _ := rfl
  back _ := rfl
  landed _ _ := rfl
  finish h := h
  close h := h

/-- No client does anything that is not allowed, if everything is. -/
theorem Client.makesOnly_any {α : Type} {Q : Operation → Prop}
    {P : ∀ {β : Type}, Call β → Prop} (hP : ∀ {β : Type} (call : Call β), P call)
    (c : Client W α) : c.MakesOnly Q P := by
  induction c with
  | done a => exact .done a
  | look next ih => exact .look fun op observers _ => ih op observers
  | share f next ih => exact .share ih
  | ask call next ih => exact .ask (hP call) ih

namespace Session

/-- The sessions that calls from outside lead to from here, on scenes of any
kind and however they end. -/
inductive Later (A : Audience W) (s : Session W) : Session W → Prop where
  | refl : Later A s s
  | call {t : Session W} {α : Type} (call : Call α) : Later A s t →
      Later A s (finalState (answer A.outside call t))
  | apply {t : Session W} {S : Type} [Surface S] (scene : S) : Later A s t →
      Later A s (finalState (A.outside.apply (t, scene))).1
  | abort {t : Session W} {S : Type} [Surface S] (scene : S) : Later A s t →
      Later A s (finalState (A.outside.abort (t, scene))).1

/-- Whoever is told anything now, and whoever calls now from outside, is not
answered that the operation is busy. -/
structure Spares (A : Audience W) (s : Session W) : Prop where
  call : ∀ {α : Type} (call : Call α) t,
    answer A.outside call s ≠ call.barred .concurrentMergeAccess t
  apply : ∀ {S : Type} [Surface S] (scene : S) p,
    A.outside.apply (s, scene) ≠ .error (.refused .concurrentMergeAccess) p
  abort : ∀ {S : Type} [Surface S] (scene : S) p,
    A.outside.abort (s, scene) ≠ .error (.refused .concurrentMergeAccess) p
  told : ∀ B, A.AgreesUnlessBusy B → ∀ event, A.announce event s = B.announce event s

variable {A : Audience W} {s : Session W}

section rest

variable (A)

/-- Telling of anything at rest ends at rest. -/
theorem announce_rests (event : Event) :
    Keeps (Has (·.inFlight = false)) (A.announce event) :=
  Audience.announce_phased Operation.phased_inFlight
    (fun _ _ _ c _ => c.makesOnly_any fun call => call.adds_any) event

/-- Telling of anything in flight ends in flight, for nobody who is told can lower the
flag. -/
theorem announce_flies (event : Event) :
    Keeps (Has (·.inFlight = true)) (A.announce event) := fun s =>
  Audience.announce_aloft Operation.phased_inFlight s.operation
    (fun _ _ _ c _ => c.makesOnly_any fun call => call.adds_any) event s

/-- A call at rest ends at rest, as long as telling does so at rest and in flight. It
may put the operation in flight while it runs. -/
theorem answer_rests {tell : Event → EStateM SubscriptionId (Session W) Unit}
    (ht : ∀ event, Keeps (Has (·.inFlight = false)) (tell event))
    (hf : ∀ event, Keeps (Has (·.inFlight = true)) (tell event)) {α : Type}
    (call : Call α) : Keeps (Has (·.inFlight = false)) (answer (host tell) call) :=
  keeps_answer_phased Operation.phased_inFlight ht (fun _ => hf) call.adds_any

/-- Applying leaves an operation at rest, whether or not the pass lands. -/
theorem apply_rests {S : Type} [Surface S] :
    Keeps (fun p : Session W × S => Has (·.inFlight = false) p.1) A.outside.apply :=
  Host.keeps_apply_phased (lawful_host A.announce) Operation.phased_inFlight (announce_rests A)
    fun _ => announce_flies A

/-- Aborting leaves an operation at rest. -/
theorem abort_rests {S : Type} [Surface S] :
    Keeps (fun p : Session W × S => Has (·.inFlight = false) p.1) A.outside.abort :=
  Host.keeps_abort_phased (lawful_host A.announce) Operation.phased_inFlight (announce_rests A)

end rest

/-- At rest after one call, and so after any that follow. -/
theorem Later.rests {t : Session W} (ht : Later A s t) (hs : s.operation.inFlight = false) :
    t.operation.inFlight = false := by
  induction ht with
  | refl => exact hs
  | call call _ ih => exact answer_rests (announce_rests A) (announce_flies A) call _ ih
  | apply scene _ ih => exact apply_rests A (_, scene) ih
  | abort scene _ ih => exact abort_rests A (_, scene) ih

/-- What an observer does that is told at rest does not depend on what it would do
if it were told that the operation is busy. -/
theorem hear_agrees {B : Audience W} (hB : A.AgreesUnlessBusy B) (listening : Bool)
    (event : Event) (id : SubscriptionId) {s : Session W}
    (hs : s.operation.inFlight = false) :
    A.hear Session.enqueue listening event id s = B.hear Session.enqueue listening event id s := by
  obtain ⟨hnote, -, hreaction⟩ := hB
  unfold Audience.hear
  simp only [hnote]
  cases listening with
  | true => rfl
  | false =>
      simp only [Bool.false_eq_true, if_false]
      -- both react with clients that agree, or neither reacts
      have hrel := hreaction id event (B.note id event s.world)
      generalize A.reaction? id event (B.note id event s.world) = a? at hrel
      generalize B.reaction? id event (B.note id event s.world) = b? at hrel
      cases hrel with
      | none => rfl
      | some hc =>
          simp only
          have hsame := Client.run_agrees hc (fun call => answer_rests (fun _ => keeps_enqueue _)
            (fun _ => keeps_enqueue _) call) (s := { s with world := B.note id event s.world }) hs
          rw [show Client.run (host enqueue) _ _ = _ from hsame]
          rfl

/-- No operation at rest answers that it is busy. -/
theorem spares (hs : s.operation.inFlight = false) : Spares A s where
  call call t := answer_spares hs call t
  apply scene p h := Host.apply_spares A.outside hs h rfl
  abort scene p h := Host.abort_spares A.outside hs h rfl
  told B hB event := by
    refine Audience.announce_same (A := A) (B := B) (Q := (·.inFlight = false))
      (E := fun _ => True) (fun listening event id s _ hs => ?_)
      (fun listening event id _ s hs => ⟨?_, fun _ _ => trivial⟩) hB.2.1 trivial
      ⟨hs, fun _ _ => trivial⟩
    · exact hear_agrees hB listening event id hs.1
    · refine (Audience.keeper_has (Q := (·.inFlight = false)) (P := fun _ => True)
        (fun call _ => answer_rests (fun _ => keeps_enqueue _) (fun _ => keeps_enqueue _) call)
        fun _ _ _ c _ => c.makesOnly_any fun _ => trivial).hear listening event id s hs.1

end Session

/-- A pass that is asked for from outside any notification, on a scene of any
kind, whatever its observers do when they are told of an applied action, as long
as they only review and do not fail: each of their calls is answered that the
operation is busy, for the pass goes as if it had been. It reports the same as
the operation by itself, or stops for the same reason, and leaves the same scene
and operation.

With any observers at all, failing ones included: however a pass ends, or taking
it back, the operation is not in flight afterwards, nor after any calls that
follow, and whoever calls then from outside, or is told anything, is not answered
that it is busy. -/
theorem pass_undisturbed (A : Audience W) (s : Session W) {S : Type} [Surface S] (x : S) :
    (A.OnlyMeddles → s.registry.AtRest →
      A.outside.apply (s, x) = A.rebuffed.outside.apply (s, x)
        ∧ ∃ world, A.outside.apply (s, x) = match Host.alone.apply (s.operation, x) with
          | .ok report (operation, y) => .ok report ({ s with operation, world }, y)
          | .error halt (operation, y) => .error halt ({ s with operation, world }, y))
      ∧ (s.operation.inFlight = false → ∀ t,
        (Session.Later A (finalState (A.outside.apply (s, x))).1 t
          ∨ Session.Later A (finalState (A.outside.abort (s, x))).1 t) →
        t.operation.inFlight = false ∧ Session.Spares A t) := by
  refine ⟨fun hA hr => ⟨?_, ?_⟩, fun hs t ht => ?_⟩
  · rcases ((hA.lockstep_rebuffed hr).apply (S := S) (Session.lawful_host A.announce) (s, x) (s, x)
      ⟨⟨rfl, rfl⟩, rfl⟩).cases with
      ⟨report, p, q, hp, hq, ⟨hpq, -⟩, hx⟩ | ⟨halt, p, q, hp, hq, ⟨hpq, -⟩, hx⟩
    · rw [hp, hq, Prod.ext hpq hx]
    · rw [hp, hq, Prod.ext hpq hx]
  · rcases ((hA.lockstep hr).apply (S := S) (Session.lawful_host A.announce) (s, x) (s.operation, x)
      ⟨⟨rfl, rfl⟩, rfl⟩).cases with
      ⟨report, ⟨t, y⟩, ⟨op, z⟩, hp, hq, ⟨hop, hreg⟩, hx⟩
        | ⟨halt, ⟨t, y⟩, ⟨op, z⟩, hp, hq, ⟨hop, hreg⟩, hx⟩
    -- the session is that of the lockstep, and its world is whatever the observers made
    -- of it
    all_goals
      obtain ⟨operation, registry, world⟩ := t
      refine ⟨world, ?_⟩
      simp only at hop hreg hx
      rw [hp, hq, hop, hreg, hx]
  · have hrests : t.operation.inFlight = false := by
      rcases ht with ht | ht
      · exact ht.rests (Session.apply_rests A (s, x) hs)
      · exact ht.rests (Session.abort_rests A (s, x) hs)
    exact ⟨hrests, Session.spares hrests⟩

/-- An observer that wants the second action off as soon as an action is applied,
and writes down why it is not. -/
def Audience.meddlesome : Audience (List MergeError) where
  note _ _ w := w
  reaction? _ event _ :=
    match event with
    | .actionApplied _ => some <| .ask (.setActive 1 false) fun
        | .ok _ => .done .returns
        | .error e => .share (fun w => ((), w ++ [e])) fun _ => .done .returns
    | _ => none
  patience _ := 1

/-- Both actions are applied all the same. -/
theorem pass_undisturbed_light :
    ∃ s : Session (List MergeError), s.registry.AtRest ∧ s.registry.slots = [0]
      ∧ s.operation.inFlight = false
      ∧ ∃ t, Audience.meddlesome.outside.apply (s, ({} : LiveScene))
          = .ok ⟨[0, 1], 0, 0⟩ (t, {})
        ∧ t.world = [.concurrentMergeAccess, .concurrentMergeAccess]
        ∧ t.operation.inFlight = false := by
  let s : Session (List MergeError) :=
    { operation :=
        { sourcePath := "source", basePath := "base"
          actions := [.noAction "light", .noAction "light"], order := [0, 1] }
      registry := { next := 1, slots := [0] }
      world := [] }
  have hA : Audience.meddlesome.OnlyMeddles := by
    intro id event w c hc
    cases event with
    | actionApplied action =>
        cases hc
        refine ⟨⟨action, rfl⟩, .ask rfl fun r => ?_, .ask fun r => ?_⟩
        · cases r with
          | ok _ => exact .done _
          | error e => exact .share fun _ => .done _
        · cases r with
          | ok _ => exact .done
          | error e => exact .share fun _ => .done
    | _ => cases hc
  obtain ⟨hmeddled, hafter⟩ := pass_undisturbed .meddlesome s ({} : LiveScene)
  obtain ⟨-, world, hrun⟩ := hmeddled hA ⟨rfl, rfl, rfl⟩
  have hworld : (finalState (Audience.meddlesome.outside.apply
      (s, ({} : LiveScene)))).1.world = [.concurrentMergeAccess, .concurrentMergeAccess] := by
    decide +kernel
  obtain ⟨hrest, -⟩ := hafter rfl _ (.inl .refl)
  exact ⟨s, ⟨rfl, rfl, rfl⟩, rfl, rfl, _, hrun, by rw [hrun] at hworld; exact hworld,
    by rw [hrun] at hrest; exact hrest⟩

end SceneMerge
