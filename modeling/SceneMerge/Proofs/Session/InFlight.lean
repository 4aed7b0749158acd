/-
What observers can do to an operation while it is in flight.

Every call that reviews, finishes, populates, applies or aborts asks
first whether the operation takes changes, and is turned down by one that
takes none (`answer_barred`). An operation in flight takes none
(`ensureMutable_inFlight`). So an observer that makes only
such calls leaves the operation alone, and since nothing happened nobody
else is told (`answer_review`, `run_onlyReviews`). What is left of a
notification then is the bookkeeping of the delivery, and that ends where
it began (`emit_keepsOr`).
-/
import SceneMerge.Proofs.Session.Upkeep

namespace SceneMerge

/-- In flight an operation takes no changes, and says that it is busy, whatever its
state. -/
theorem Operation.ensureMutable_inFlight {op : Operation}
    (h : op.inFlight = true) :
    op.ensureMutable = .error .concurrentMergeAccess := by
  unfold ensureMutable refusal?
  rw [h]
  rfl

/-- An operation that takes changes is not in flight. -/
theorem Operation.not_inFlight_of_ensureMutable {op : Operation}
    (h : op.ensureMutable = .ok ()) : op.inFlight = false := by
  unfold ensureMutable refusal? at h
  cases hfly : op.inFlight with
  | false => rfl
  | true => rw [hfly] at h; cases h

/-- An operation that takes changes is not closed. -/
theorem Operation.open_of_ensureMutable {op : Operation} (h : op.ensureMutable = .ok ()) :
    op.state.isClosed = false := by
  unfold ensureMutable refusal? at h
  rw [not_inFlight_of_ensureMutable h] at h
  cases hc : op.state.isClosed with
  | false => rfl
  | true => rw [hc] at h; cases h

/-- Nothing else keeps it from taking them. -/
theorem Operation.ensureMutable_open {op : Operation} (hfly : op.inFlight = false)
    (hopen : op.state.isClosed = false) : op.ensureMutable = .ok () := by
  unfold ensureMutable refusal?
  rw [hfly, hopen]
  rfl

/-- At rest and closed, it says how it was closed. -/
theorem Operation.ensureMutable_closed {op : Operation} (hfly : op.inFlight = false)
    (hclosed : op.state.isClosed = true) :
    op.ensureMutable = .error (.operationClosed op.state) := by
  unfold ensureMutable refusal?
  rw [hfly, hclosed]
  rfl

-- ============================================================== refusals

namespace Host

variable {σ : Type} (h : Host σ) {s : σ} {e : MergeError}
  (he : (h.read s).ensureMutable = .error e)

include he

/-- Each of these calls looks at the operation first, and answers with what that says if
it takes no changes. Nothing else has been done by then. -/
theorem populate_barred (source : Snapshot) (base? : Option Snapshot)
    (target : Snapshot) :
    h.populate source base? target s = .error (.refused e) s := by
  rw [populate_eq, he]

/-- Switching is turned down before the action is looked up. -/
theorem setActive_barred (id : ActionId) (active : Bool) :
    h.setActive id active s = .error (.refused e) s := by
  have hop : (h.read s).setActive id active = .error e := by
    unfold Operation.setActive
    rw [he]
    rfl
  exact (bind_ok h.look_eq).trans (bind_error (orRefuse_error hop))

/-- A membership change is looked up after the check as well. -/
theorem setMembershipActive_barred (index : Nat) (active : Bool) :
    h.setMembershipActive index active s = .error (.refused e) s := by
  have hop : (h.read s).setMembershipActive index active = .error e := by
    unfold Operation.setMembershipActive
    rw [he]
    rfl
  exact (bind_ok h.look_eq).trans (bind_error (orRefuse_error hop))

/-- A conflict is decided only after the check, whatever the identifier names. -/
theorem setResolution_barred (id : ActionId) (r : Resolution) :
    h.setResolution id r s = .error (.refused e) s := by
  have hop : (h.read s).setResolution id r = .error e := by
    unfold Operation.setResolution
    rw [he]
    rfl
  exact (bind_ok h.look_eq).trans (bind_error (orRefuse_error hop))

/-- Finishing checks this and nothing else. -/
theorem finish_barred : h.finish s = .error (.refused e) s :=
  (bind_ok h.look_eq).trans (bind_error (orRefuse_error he))

end Host

-- =============================================================== clients

/-- The calls that ask whether the operation takes changes before they do
anything else. -/
def Call.isReview : {α : Type} → Call α → Bool
  | _, .populate .. | _, .setActive .. | _, .setMembershipActive ..
  | _, .setResolution .. | _, .finish | _, .apply _ | _, .abort _ => true
  | _, _ => false

variable {W : Type}

/-- A client that makes no calls but those. It may look, and share its
world, as it likes; a client that makes no call at all is one of these. -/
abbrev Client.OnlyReviews {α : Type} (c : Client W α) : Prop :=
  c.MakesOnly (fun _ => True) fun call => call.isReview = true

/-- The answer to a call that is turned down for the reason `e`. A scene is handed
back. -/
def Call.turnedDown (e : MergeError) : {α : Type} → Call α → Except MergeError α
  | _, .apply scene => .ok (.error e, scene)
  | _, .abort scene => .ok (.error e, scene)
  | _, _ => .error e

/-- The call is answered like that, and nothing changes. -/
def Call.barred (e : MergeError) {α : Type} (call : Call α) (s : Session W) :
    EStateM.Result Halt (Session W) α :=
  match call.turnedDown e with
  | .ok a => .ok a s
  | .error e => .error (.refused e) s

/-- A call that is turned down changes nothing, in whichever way it hands the answer
back. -/
theorem Call.finalState_barred {e : MergeError} {α : Type} (call : Call α) (s : Session W) :
    finalState (call.barred e s) = s := by
  rw [Call.barred]
  cases call.turnedDown e <;> rfl

/-- Every review is turned down for the reason that the operation gives for taking no
changes. Applying and aborting hand the scene back beside it. -/
theorem answer_barred {α : Type} {call : Call α} (hc : call.isReview = true)
    {h : Host (Session W)} {s : Session W} {e : MergeError}
    (he : (h.read s).ensureMutable = .error e) :
    Session.answer h call s = call.barred e s := by
  cases call with
  | populate source base? target => exact h.populate_barred he source base? target
  | setActive id active => exact h.setActive_barred he id active
  | setMembershipActive index active => exact h.setMembershipActive_barred he index active
  | setResolution id r => exact h.setResolution_barred he id r
  | finish => exact h.finish_barred he
  | apply scene =>
      rw [Session.answer, Session.onScene, h.apply_refused he]
      rfl
  | abort scene =>
      rw [Session.answer, Session.onScene, h.abort_refused he]
      rfl
  | _ => cases hc

/-- In flight every review is answered that the operation is busy. -/
theorem answer_review {α : Type} {call : Call α} (hc : call.isReview = true)
    {h : Host (Session W)} {s : Session W} (hs : (h.read s).inFlight = true) :
    Session.answer h call s = call.barred .concurrentMergeAccess s :=
  answer_barred hc (Operation.ensureMutable_inFlight hs)

/-- Whoever asks for a review goes on from the refusal. -/
theorem run_review {α β : Type} {call : Call β} (hc : call.isReview = true)
    (next : Except MergeError β → Client W α) {s : Session W}
    (hs : s.operation.inFlight = true) :
    (Client.ask call next).run Session.inside s
      = (next (call.turnedDown .concurrentMergeAccess)).run Session.inside s := by
  rw [Client.run, answer_review (h := Session.inside) hc hs, Call.barred]
  cases call.turnedDown .concurrentMergeAccess <;> rfl

/-- What a notification must not change: the operation, and who is
registered. -/
def Session.Is (op : Operation) (r : Registry) (s : Session W) : Prop :=
  s.operation = op ∧ s.registry = r

/-- A client that only reviews an operation in flight changes nothing
but the world. -/
theorem run_onlyReviews {α : Type} {c : Client W α} (hc : c.OnlyReviews)
    {op : Operation} (hop : op.inFlight = true) (r : Registry) :
    Keeps (Session.Is op r) (c.run Session.inside) := by
  induction hc with
  | done a => exact fun _ hs => hs
  | look _ ih => exact fun s hs => ih _ _ trivial s hs
  | @share β f next _ ih =>
      exact fun s hs => ih (f s.world).1 { s with world := (f s.world).2 } hs
  | @ask β call next hcall _ ih =>
      intro s hs
      rw [run_review hcall next (by rw [hs.1, hop])]
      exact ih _ s hs

-- ========================================================= notifications

/-- The state left behind has the property, and the call came to its end unless
`fails`. -/
def EndsOr {ε σ α : Type} (fails : Prop) (P : σ → Prop) : EStateM.Result ε σ α → Prop
  | .ok _ t => P t
  | .error _ t => fails ∧ P t

/-- The call leaves a state with the property behind if it finds one, and comes
to its end unless `fails`. -/
def KeepsOr {ε σ α : Type} (fails : Prop) (P : σ → Prop) (call : EStateM ε σ α) : Prop :=
  ∀ s, P s → EndsOr fails P (call s)

namespace KeepsOr

variable {ε σ α β : Type} {fails : Prop} {P : σ → Prop} {call : EStateM ε σ α}

/-- A call that ends well or not leaves the property either way. -/
theorem keeps (h : KeepsOr fails P call) : Keeps P call := by
  intro s hs
  have hrun := h s hs
  cases hc : call s with
  | ok a t =>
      rw [hc] at hrun
      exact hrun
  | error e t =>
      rw [hc] at hrun
      exact hrun.2

/-- If it cannot fail then it comes to its end. -/
theorem ends (h : KeepsOr False P call) {s : σ} (hs : P s) :
    ∃ a t, call s = .ok a t ∧ P t := by
  have hrun := h s hs
  cases hc : call s with
  | ok a t =>
      rw [hc] at hrun
      exact ⟨a, t, rfl, hrun⟩
  | error e t =>
      rw [hc] at hrun
      exact hrun.1.elim

/-- Whatever keeps a property does so and may fail. -/
theorem of_keeps (h : Keeps P call) : KeepsOr True P call := by
  intro s hs
  have hrun := h s hs
  cases hc : call s with
  | ok a t =>
      rw [hc] at hrun
      exact hrun
  | error e t =>
      rw [hc] at hrun
      exact ⟨trivial, hrun⟩

theorem pure (a : α) : KeepsOr fails P (Pure.pure a : EStateM ε σ α) :=
  fun _ hs => hs

/-- If the first part fails then the whole does, and the property is there. -/
theorem bind {next : α → EStateM ε σ β} (hc : KeepsOr fails P call)
    (hn : ∀ a, KeepsOr fails P (next a)) : KeepsOr fails P (call >>= next) := by
  intro s hs
  have hrun := hc s hs
  cases h : call s with
  | ok a t =>
      rw [h] at hrun
      rw [bind_ok h]
      exact hn a t hrun
  | error e t =>
      rw [h] at hrun
      rw [bind_error h]
      exact hrun

theorem ite {c : Prop} [Decidable c] {call' : EStateM ε σ α} (h : KeepsOr fails P call)
    (h' : KeepsOr fails P call') : KeepsOr fails P (if c then call else call') := by
  split
  · exact h
  · exact h'

end KeepsOr

/-- Nobody is being told of anything. -/
structure Registry.AtRest (r : Registry) : Prop where
  leaving : r.leaving = []
  queue : r.queue = []
  busy : r.busy = false

namespace Audience

variable (A : Audience W)

/-- Whoever reacts to the event only reviews. -/
def OnlyReviews (event : Event) : Prop :=
  ∀ id w c, A.reaction? id event w = some c → c.OnlyReviews

variable {A} {event : Event} {op : Operation}

section delivery

variable {tell : Event → EStateM SubscriptionId (Session W) Unit} {fails : Prop}
  (hhear : ∀ listening id r,
    KeepsOr fails (Session.Is op r) (A.hear tell listening event id))

include hhear

/-- One after the other. The operation and who is registered are the same throughout. -/
theorem hearAll_keepsOr (listening : Bool) (ids : List SubscriptionId) (r : Registry) :
    KeepsOr fails (Session.Is op r) (A.hearAll tell listening event ids) := by
  induction ids with
  | nil => exact .pure _
  | cons id ids ih =>
      exact .bind (hhear listening id r) fun _ => .bind ih fun _ => .pure _

/-- Everybody who was checked out is checked in again. -/
theorem deliver_keepsOr (listening : Bool) {r : Registry} (hr : r.leaving = []) :
    KeepsOr fails (Session.Is op r) (A.deliver tell listening event) := by
  intro s hs
  have hreg : s.registry = r := hs.2
  -- nobody left and nobody came, so the registry is the one that it was
  have hin : r.checkOut.checkIn r.slots = r := by
    obtain ⟨next, slots, leaving, queue, busy⟩ := r
    simp only at hr
    simp [Registry.checkIn, Registry.checkOut, hr]
  have hback : ∀ t : Session W, Session.Is op r.checkOut t →
      Session.Is op r { t with registry := t.registry.checkIn r.slots } := by
    intro t ht
    exact ⟨ht.1, by simp only [ht.2, hin]⟩
  have hall := hearAll_keepsOr hhear listening r.slots r.checkOut
    { s with registry := s.registry.checkOut } ⟨hs.1, by rw [← hreg]⟩
  unfold deliver
  simp only [hreg] at hall ⊢
  cases hrun : A.hearAll tell listening event r.slots
      { s with registry := r.checkOut } with
  | ok b t =>
      rw [hrun] at hall
      exact hback t hall
  | error id t =>
      rw [hrun] at hall
      exact ⟨hall.1, hback t hall.2⟩

/-- The one event in the queue is delivered, and nothing comes of it. -/
theorem untilReaction_keepsOr (listening : Bool) {r : Registry} (hr : r.leaving = [])
    (hq : r.queue = []) {next : EStateM SubscriptionId (Session W) Unit}
    (hnext : KeepsOr fails (Session.Is op r) next) :
    ∀ s, Session.Is op { r with queue := [event] } s →
      EndsOr fails (Session.Is op r)
        (untilReaction (A.deliver tell listening) next [event] s) := by
  intro s hs
  have htaken : Session.Is op r
      { s with registry := { s.registry with queue := [] } } := by
    refine ⟨hs.1, ?_⟩
    simp only [hs.2]
    rw [← hq]
  have hrest : KeepsOr fails (Session.Is op r) (A.deliver tell listening event >>= fun b =>
      if b then next else untilReaction (A.deliver tell listening) next []) := by
    refine .bind (deliver_keepsOr hhear listening hr) fun b => ?_
    exact .ite hnext (.pure _)
  exact hrest _ htaken

/-- Nothing is raised in the course of it, so after the one event the queue is empty,
however much patience there is. -/
theorem drain_keepsOr (n : Nat) {r : Registry} (hr : r.leaving = []) (hq : r.queue = []) :
    ∀ s, Session.Is op { r with queue := [event] } s →
      EndsOr fails (Session.Is op r) (A.drain tell n s) := by
  intro s hs
  have hqueue : s.registry.queue = [event] := by rw [hs.2]
  cases n with
  | zero =>
      show EndsOr fails _ (untilReaction (A.deliver tell true) (pure ()) s.registry.queue s)
      rw [hqueue]
      exact untilReaction_keepsOr hhear true hr hq (.pure _) s hs
  | succ n =>
      -- a reaction is followed by a look at the queue, which is empty
      have hnext : KeepsOr fails (Session.Is op r) (A.drain tell n) := by
        intro t ht
        have hempty : t.registry.queue = [] := by rw [ht.2, hq]
        have hdone : A.drain tell n t = .ok () t := by
          cases n with
          | zero =>
              show untilReaction (A.deliver tell true) (pure ()) t.registry.queue t = _
              rw [hempty]
              rfl
          | succ n =>
              show untilReaction (A.deliver tell false) (A.drain tell n) t.registry.queue t = _
              rw [hempty]
              rfl
        rw [hdone]
        exact ht
      show EndsOr fails _
        (untilReaction (A.deliver tell false) (A.drain tell n) s.registry.queue s)
      rw [hqueue]
      exact untilReaction_keepsOr hhear false hr hq hnext s hs

/-- Telling of the event from outside any notification changes nothing but the
world, whether or not an observer fails, and comes to its end if none does. -/
theorem emit_keepsOr {r : Registry} (hr : r.AtRest) :
    KeepsOr fails (Session.Is op r) (A.emit tell event) := by
  intro s hs
  obtain ⟨next, slots, leaving, queue, busy⟩ := r
  obtain ⟨hleaving, hqueue, hbusy⟩ := hr
  simp only at hleaving hqueue hbusy
  subst hleaving hqueue hbusy
  have hdrain := drain_keepsOr hhear (A.patience s.world)
    (r := ⟨next, slots, [], [], true⟩) rfl rfl (s.delivering event)
    ⟨hs.1, by rw [Session.delivering, hs.2]; rfl⟩
  rw [A.emit_rest (by rw [hs.2] : s.registry.busy = false)]
  cases hrun : A.drain tell (A.patience s.world) (s.delivering event) with
  | ok _ t =>
      rw [hrun] at hdrain
      have ht : t.registry = ⟨next, slots, [], [], true⟩ := hdrain.2
      exact ⟨hdrain.1, by simp only [ht]⟩
  | error id t =>
      rw [hrun] at hdrain
      have ht : t.registry = ⟨next, slots, [], [], true⟩ := hdrain.2.2
      exact ⟨hdrain.1, hdrain.2.1, by simp only [ht]⟩

end delivery

variable (hA : A.OnlyReviews event) (hop : op.inFlight = true)

include hA hop

/-- Whoever is told and only reviews leaves the operation in flight as it is. -/
theorem hear_keeps (listening : Bool) (id : SubscriptionId) (r : Registry) :
    Keeps (Session.Is op r) (A.hear Session.enqueue listening event id) :=
  keeps_hear (fun _ hs => hs) (fun w c hc => run_onlyReviews (hA id w c hc) hop r) listening

/-- Observers that only review an operation in flight change nothing but the
world. -/
theorem announce_keeps {r : Registry} (hr : r.AtRest) :
    Keeps (Session.Is op r) (A.announce event) :=
  (emit_keepsOr (fun listening id r => .of_keeps (hear_keeps hA hop listening id r)) hr).keeps

end Audience

end SceneMerge
