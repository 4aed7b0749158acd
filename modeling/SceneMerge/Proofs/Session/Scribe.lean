/-
Writing a run down as it goes. A scribe says what is to be written when an event is
raised, when an observer takes note of it, begins to react and is done, and when a call
is answered (`Scribe`). A client with a scribe makes the calls that it made before, and
what is to be written is kept behind the world that clients share (`Client.scribed`,
`Audience.scribed`). So a record is left by the run itself, step by step, and there is
no second account of who is told of what: events are delivered by the same functions
as ever.

# Nobody notices

With a scribe a session is the one without it and a record beside it (`Session.Unlogs`):
every call is answered alike, everyone is told the same in the same order, observers
fail in the same places, and operation, registry, world and scene come out the same.
It is shown from the inside out. Whoever is told of something reacts as before if calls
from inside a notification are answered as before (`Client.inStep_scribed`), and so one
event after the other is delivered as before. Then telling has the same outcome, and the
two hosts mirror each other (`Audience.mirrors_scribed`).
-/
import SceneMerge.Proofs.Session.Nesting

namespace SceneMerge

/-- What is written down of a run, and when. -/
structure Scribe (L : Type) where
  /-- As an event is raised, before anyone is told of it. -/
  raised : Event → List L := fun _ => []
  /-- As an observer takes note of an event. -/
  told : SubscriptionId → Event → List L := fun _ _ => []
  /-- As it begins to react, if it does. -/
  acts : SubscriptionId → List L := fun _ => []
  /-- As it is done with its reaction. -/
  done : SubscriptionId → Ending → List L := fun _ _ => []
  /-- As a call is answered. -/
  answered : {α : Type} → Call α → Except MergeError α → List L := fun _ _ => []

variable {W L α : Type}

-- ============================================================== the record

namespace Session

/-- The record goes on with these entries. -/
def noted (entries : List L) (s : Session (W × List L)) : Session (W × List L) :=
  { s with world := (s.world.1, s.world.2 ++ entries) }

/-- Noting nothing leaves the session as it is. -/
@[simp] theorem noted_nil (s : Session (W × List L)) : s.noted [] = s := by
  rw [noted, List.append_nil]

/-- Telling of an event after it was written down. -/
def scribing (k : Scribe L)
    (tell : Event → EStateM SubscriptionId (Session (W × List L)) Unit) (event : Event) :
    EStateM SubscriptionId (Session (W × List L)) Unit :=
  fun s => tell event (s.noted (k.raised event))

/-- The session without the record. -/
def unlogged (t : Session (W × List L)) : Session W :=
  ⟨t.operation, t.registry, t.world.1⟩

/-- The one is the other without its record. -/
def Unlogs (s : Session W) (t : Session (W × List L)) : Prop := t.unlogged = s

end Session

namespace Client

/-- Writes something down before it goes on. -/
def write (entries : List L) (next : Client (W × List L) α) : Client (W × List L) α :=
  .share (fun w => ((), w.1, w.2 ++ entries)) fun _ => next

/-- The client, writing down what its calls are answered. -/
def scribed (k : Scribe L) : Client W α → Client (W × List L) α
  | .done a => .done a
  | .look next => .look fun op observers => (next op observers).scribed k
  | .share f next =>
      .share (fun w => ((f w.1).1, (f w.1).2, w.2)) fun b => (next b).scribed k
  | .ask call next => .ask call fun r => .write (k.answered call r) ((next r).scribed k)

/-- A reaction, from where it begins to where it is done. -/
def reacting (k : Scribe L) (id : SubscriptionId) (c : Client W Ending) :
    Client (W × List L) Ending :=
  .write (k.acts id) ((c.scribed k).bind fun ending =>
    .write (k.done id ending) (.done ending))

end Client

namespace Audience

/-- The audience, writing down what it is told and what it does about it. -/
def scribed (k : Scribe L) (A : Audience W) : Audience (W × List L) where
  note id event w := (A.note id event w.1, w.2 ++ k.told id event)
  reaction? id event w := (A.reaction? id event w.1).map (·.reacting k id)
  patience w := A.patience w.1

/-- Telling of an event with everything written down that comes of it, by a session whose
observers tell in the same way, up to so many notifications inside one another. -/
def scribedWithin (k : Scribe L) (A : Audience W) :
    Nat → Event → EStateM SubscriptionId (Session (W × List L)) Unit
  | 0 => Session.scribing k Session.enqueue
  | depth + 1 => Session.scribing k ((A.scribed k).emit (A.scribedWithin k depth))

end Audience

-- ================================================================= erasure

namespace Session

variable {k : Scribe L} {tell : Event → EStateM SubscriptionId (Session W) Unit}
  {tell' : Event → EStateM SubscriptionId (Session (W × List L)) Unit}

/-- If telling comes to the same, nothing tells the sessions apart. -/
theorem mirrors_unlogs (htell : ∀ event, InStep Unlogs (tell event) (tell' event))
    (hfly : ∀ event, Keeps (Has (·.inFlight = true)) (tell event)) :
    Mirrors tell tell' Unlogs where
  hosts := {
    lawful := lawful_host tell
    read := fun h => h ▸ rfl
    write := fun _ h => h ▸ rfl
    tell := htell
    aloft := hfly }
  registry h := h ▸ rfl
  register _ h _ := h ▸ rfl

/-- What is written down is not among what tells them apart. -/
theorem inStep_scribing (event : Event) (h : InStep Unlogs (tell event) (tell' event)) :
    InStep Unlogs (tell event) (scribing k tell' event) := by
  rintro _ t rfl
  exact h _ (t.noted (k.raised event)) rfl

/-- Calls from inside a notification leave events to whoever is delivering. -/
theorem inStep_enqueue (event : Event) :
    InStep Unlogs (enqueue (W := W) event) (enqueue (W := W × List L) event) := by
  rintro _ t rfl
  exact ⟨rfl, rfl⟩

end Session

open Session

namespace Client

variable {k : Scribe L} {tell : Event → EStateM SubscriptionId (Session W) Unit}
  {tell' : Event → EStateM SubscriptionId (Session (W × List L)) Unit}
  (hm : Mirrors tell tell' Unlogs)

/-- What follows a client follows it when it is run, unless an observer failed. -/
theorem run_bind {V γ : Type} {h : Host (Session V)} (c : Client V α) (next : α → Client V γ)
    (s : Session V) :
    (c.bind next).run h s = match c.run h s with
      | .ok a t => (next a).run h t
      | .error id t => .error id t := by
  induction c generalizing s with
  | done a => rfl
  | look f ih => exact ih _ _ s
  | share f rest ih => exact ih _ _
  | ask call rest ih =>
      rw [Client.bind, Client.run, Client.run]
      cases Session.answer h call s with
      | ok b t => exact ih _ t
      | error halt t =>
          cases halt with
          | refused e => exact ih _ t
          | unwound id => rfl

/-- Writing down takes no calls. -/
theorem MakesOnly.scribed {Q : Operation → Prop} {P : ∀ {β : Type}, Call β → Prop}
    {c : Client W α} (hc : c.MakesOnly Q P) (k : Scribe L) : (c.scribed k).MakesOnly Q P := by
  induction hc with
  | done a => exact .done a
  | look _ ih => exact .look ih
  | share _ ih => exact .share ih
  | ask hcall _ ih => exact .ask hcall fun r => .share fun _ => ih r

/-- One client after another makes only such calls if both do. -/
theorem MakesOnly.bind {V γ : Type} {Q : Operation → Prop} {P : ∀ {β : Type}, Call β → Prop}
    {c : Client V α} (hc : c.MakesOnly Q P) {next : α → Client V γ}
    (hnext : ∀ a, (next a).MakesOnly Q P) : (c.bind next).MakesOnly Q P := by
  induction hc with
  | done a => exact hnext a
  | look _ ih => exact .look ih
  | share _ ih => exact .share ih
  | ask hcall _ ih => exact .ask hcall ih

/-- An observer that puts down that it reacts and how it ends makes no call for that. -/
theorem MakesOnly.reacting {Q : Operation → Prop} {P : ∀ {β : Type}, Call β → Prop}
    {c : Client W Ending} (hc : c.MakesOnly Q P) (k : Scribe L) (id : SubscriptionId) :
    (c.reacting k id).MakesOnly Q P :=
  .share fun _ => (hc.scribed k).bind fun ending => .share fun _ => .done ending

/-- What is written down of a reaction stands around what its calls write. -/
theorem run_reacting {h : Host (Session (W × List L))} (id : SubscriptionId)
    (c : Client W Ending) (s : Session (W × List L)) :
    (c.reacting k id).run h s = match (c.scribed k).run h (s.noted (k.acts id)) with
      | .ok ending t => .ok ending (t.noted (k.done id ending))
      | .error who t => .error who t := by
  show ((c.scribed k).bind _).run h (s.noted (k.acts id)) = _
  rw [run_bind]
  cases (c.scribed k).run h (s.noted (k.acts id)) <;> rfl

include hm

/-- A client that writes down what its calls are answered does the same as before. -/
theorem inStep_scribed (c : Client W α) :
    InStep Unlogs (c.run (host tell)) ((c.scribed k).run (host tell')) := by
  induction c with
  | done a => exact fun _ _ hr => ⟨rfl, hr⟩
  | look next ih =>
      rintro _ t rfl
      exact ih _ _ _ t rfl
  | share f next ih =>
      rintro _ t rfl
      exact ih _ _ ⟨t.operation, t.registry, (f t.world.1).2, t.world.2⟩ rfl
  | ask call next ih =>
      intro s t hr
      unfold scribed run
      -- the call is answered alike, and only what is entered of the answer is new
      rcases (hm.answer call s t hr).cases with
        ⟨b, s', t', hs, ht, hr'⟩ | ⟨e, s', t', hs, ht, hr'⟩
      · rw [hs, ht]
        exact ih _ s' (t'.noted _) hr'
      · rw [hs, ht]
        cases e with
        | refused e => exact ih _ s' (t'.noted _) hr'
        | unwound id => exact ⟨rfl, hr'⟩

/-- A reaction runs alike with a scribe, who writes down as well where it begins and
ends. -/
theorem inStep_reacting (id : SubscriptionId) (c : Client W Ending) :
    InStep Unlogs (c.run (host tell)) ((c.reacting k id).run (host tell')) := by
  intro s t hr
  rw [run_reacting]
  rcases (inStep_scribed hm c s (t.noted (k.acts id)) hr).cases with
    ⟨ending, s', t', hs, ht, hr'⟩ | ⟨e, s', t', hs, ht, hr'⟩
  · rw [hs, ht]
    exact ⟨rfl, hr'⟩
  · rw [hs, ht]
    exact ⟨rfl, hr'⟩

end Client

namespace Audience

variable (k : Scribe L) (A : Audience W)
  {tell : Event → EStateM SubscriptionId (Session W) Unit}
  {tell' : Event → EStateM SubscriptionId (Session (W × List L)) Unit}

/-- Whoever is told of an event hears it as before. -/
theorem inStep_hear (hm : Mirrors tell tell' Unlogs) (listening : Bool) (event : Event)
    (id : SubscriptionId) :
    InStep Unlogs (A.hear tell listening event id)
      ((A.scribed k).hear tell' listening event id) := by
  rintro _ t rfl
  have hnoted : Unlogs { t.unlogged with world := A.note id event t.unlogged.world }
      { t with world := (A.scribed k).note id event t.world } := rfl
  have hreacts : (if listening then none
        else (A.scribed k).reaction? id event ((A.scribed k).note id event t.world))
      = (if listening then none
          else A.reaction? id event (A.note id event t.unlogged.world)).map
            (·.reacting k id) := by
    cases listening <;> rfl
  unfold hear
  simp only [hreacts]
  cases (if listening then none else A.reaction? id event (A.note id event t.unlogged.world)) with
  | none => exact ⟨rfl, hnoted⟩
  | some c =>
      rcases (Client.inStep_reacting hm id c _ _ hnoted).cases with
        ⟨ending, s', t', hs, ht, hr⟩ | ⟨e, s', t', hs, ht, hr⟩
      · dsimp only [Option.map_some]
        rw [hs, ht]
        cases ending with
        | returns => exact ⟨rfl, hr⟩
        | fails => exact ⟨rfl, hr⟩
      · dsimp only [Option.map_some]
        rw [hs, ht]
        exact ⟨rfl, hr⟩

/-- Everyone is told the same. -/
theorem abreast_scribed (hm : Mirrors tell tell' Unlogs) :
    Abreast A (A.scribed k) tell tell' (fun _ => True) Unlogs where
  registry h := h ▸ rfl
  queued _ _ _ := trivial
  register _ h _ _ := h ▸ rfl
  hear listening event id _ := A.inStep_hear k hm listening event id

/-- Telling of an event is the same with a scribe, event by event and up to the first
that fails. -/
theorem inStep_emit (hm : Mirrors tell tell' Unlogs) (event : Event) :
    InStep Unlogs (A.emit tell event) ((A.scribed k).emit tell' event) :=
  (A.abreast_scribed k hm).emit (fun h => h ▸ rfl) (fun _ h => h ▸ rfl) trivial

/-- Nobody notices a scribe who writes nothing down about events. -/
theorem mirrors_scribed : Mirrors A.announce (A.scribed k).announce Unlogs :=
  mirrors_unlogs (A.inStep_emit k (mirrors_unlogs inStep_enqueue fun _ => keeps_enqueue _))
    (announce_flies A)

/-- Nobody notices a scribe who writes down events either, however deep observers tell.
-/
theorem inStep_within (depth : Nat) (event : Event) :
    InStep Unlogs (A.emitWithin depth event) (A.scribedWithin k depth event) := by
  induction depth generalizing event with
  | zero => exact inStep_scribing event (inStep_enqueue event)
  | succ depth ih =>
      refine inStep_scribing event (A.inStep_emit k (mirrors_unlogs ih fun event => ?_) event)
      cases depth with
      | zero => exact keeps_enqueue event
      | succ depth =>
          rw [A.emitWithin_succ]
          exact announce_flies A event

/-- Telling of an event comes to the same with a scribe and without. -/
theorem inStep_announce (depth : Nat) (event : Event) :
    InStep Unlogs (A.announce event) (A.scribedWithin k (depth + 1) event) := by
  rw [← A.emitWithin_succ depth]
  exact A.inStep_within k (depth + 1) event

end Audience

end SceneMerge
