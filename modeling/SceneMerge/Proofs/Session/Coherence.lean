/-
The arena of a merge operation in every session. Actions are added, decided,
switched and run by whoever holds the session and by its observers, in any
order, with ids that may be of nothing at all, and calls may be refused or
stopped half way. Whatever happened, links agree and switches follow the
decisions, as long as what is added was made by the constructors of actions
(`Session.Reachable.coherent`). The invariant is `Operation.Coherent`, and
each way to change an operation keeps it (`Operation.upheld_coherent`).
-/
import SceneMerge.Proofs.Review.Linkage
import SceneMerge.Proofs.Session.Refusal
import SceneMerge.Proofs.Session.Upkeep

namespace SceneMerge

-- =================================================================== upkeep

theorem Operation.upheld_coherent :
    Operation.Upheld Action.Constructed Operation.Coherent where
  proposed _ ha := ha
  addAction ha h :=
    ⟨ordered_addAction h.ordered _, linked_addAction h.linked ha,
      switched_addAction h.switched h.linked ha⟩
  addConflict hs ht h :=
    ⟨ordered_addConflict h.ordered .., linked_addConflict h.linked hs ht,
      switched_addConflict h.switched h.linked hs ht⟩
  addMembership h := h.congr rfl rfl
  options _ h := h.congr rfl rfl
  populated h := h.congr rfl rfl
  setActive h hop :=
    h.kin (revised_setActive hop).kin (switched_setActive h.switched h.linked hop)
  setMembershipActive h hop := by
    obtain rfl := of_setMembershipActive_ok hop
    exact h.congr rfl rfl
  setResolution h hop :=
    h.kin (revised_setResolution hop).kin (switched_setResolution h.switched h.linked hop)
  fly _ h := h.congr rfl rfl
  absorb p h := h.kin (.absorb _ p) (switched_absorb h.switched p)
  finish h := h.congr rfl rfl
  close h := h.congr rfl rfl

-- ============================================================= reachability

namespace Session

variable {W : Type}

/-- The sessions with an audience that calls from outside lead to. What is
added from outside was made by the constructors of actions; scenes are of
any kind. A call leads on however it ends. -/
inductive Reachable (A : Audience W) : Session W → Prop where
  | new (sourcePath basePath : String) (options : MergeOptions) (world : W) :
      Reachable A { operation := { sourcePath, basePath, options }, world }
  | construct {source target : Snapshot} {base? : Option Snapshot}
      {options : MergeOptions} {op : Operation} (world : W) :
      Operation.construct source base? target options = .ok op →
      Reachable A { operation := op, world }
  | call {s : Session W} {α : Type} (call : Call α) : Reachable A s →
      call.Adds Action.Constructed → Reachable A (finalState (answer A.outside call s))
  | apply {s : Session W} {S : Type} [Surface S] (scene : S) : Reachable A s →
      Reachable A (finalState (A.outside.apply (s, scene))).1
  | abort {s : Session W} {S : Type} [Surface S] (scene : S) : Reachable A s →
      Reachable A (finalState (A.outside.abort (s, scene))).1

variable {A : Audience W} {s : Session W}

/-- What every way to change an operation keeps holds of all sessions, if it
holds of new operations and what observers add is as it may be. -/
theorem Reachable.has {Q : Operation → Prop}
    (hQ : Operation.Upheld Action.Constructed Q)
    (hnew : ∀ sourcePath basePath options, Q { sourcePath, basePath, options })
    (hA : A.MakesOnly Q (·.Adds Action.Constructed)) (hs : Reachable A s) :
    Session.Has Q s := by
  have ht := Audience.keeps_announce hQ hA
  have hl := keeper_host (Q := Q) A.announce
  induction hs with
  | new => exact hnew _ _ _
  | construct _ hop => exact hQ.toKeptByReviews.construct (hnew _ _ _) hop
  | call _ _ hc ih => exact keeps_answer hQ ht hc _ ih
  | apply scene _ ih => exact Host.keeps_apply hl ht hQ (_, scene) ih
  | abort scene _ ih => exact Host.keeps_abort hl ht hQ (_, scene) ih

theorem Reachable.coherent
    (hA : A.MakesOnly Operation.Coherent (·.Adds Action.Constructed))
    (hs : Reachable A s) : s.operation.Coherent :=
  hs.has Operation.upheld_coherent (fun _ _ _ => .blank rfl rfl) hA

/-- Switching does nothing to conflicts and to what they wrap, as long as
nobody who is told of it does. -/
theorem answer_setActive_bound {tell : Event → EStateM SubscriptionId (Session W) Unit}
    (ht : ∀ event t, (finalState (tell event t)).operation = t.operation)
    (s : Session W) (id : ActionId) (active : Bool) (j : ActionId) {w : Action}
    (hw : w.Bound) :
    (finalState (answer (host tell) (.setActive id active) s)).operation.action? j = some w
      ↔ s.operation.action? j = some w := by
  refine Host.keeps_switch (keeper_host tell
    (Q := fun op => op.action? j = some w ↔ s.operation.action? j = some w)).follows
    (fun op op' hop h => (Operation.bound_setActive hop hw).trans h)
    (fun t h => ?_) s Iff.rfl
  show (finalState (tell _ t)).operation.action? j = some w ↔ _
  rw [ht]
  exact h

end Session

-- ================================================================ the arena

/-- In every session, whatever its observers do when they are told of
something: the order increases and lists positions of the arena. An action
stands on its own and is in the order, or exactly one conflict wraps it,
which is in the order and comes later. A conflict and the change of its
source are active if and only if the conflict is decided for the source; the
change of its target is never active. Switching an action does nothing to
conflicts and to what they wrap, and a call that is refused does nothing at
all.

That observers add nothing but what constructors make is asked of them only
as long as they are shown nothing that is incoherent. -/
theorem arena_of_reachable {W : Type} {A : Audience W}
    (hA : A.MakesOnly Operation.Coherent (·.Adds Action.Constructed))
    {s : Session W} (hs : Session.Reachable A s) :
    (s.operation.order.Pairwise (· < ·)
        ∧ ∀ id ∈ s.operation.order, id < s.operation.actions.length)
      ∧ (∀ id a, s.operation.action? id = some a →
          (id ∈ s.operation.order ∧ a.owner? = none
              ∧ ∀ cid, ¬ s.operation.WrappedBy id cid)
            ∨ (id ∉ s.operation.order
              ∧ ∃ cid ∈ s.operation.order, id < cid ∧ a.owner? = some cid
                ∧ ∀ cid', s.operation.WrappedBy id cid' ↔ cid' = cid))
      ∧ (∀ cid c, s.operation.conflict? cid = some c →
          s.operation.active? cid = some c.resolution.appliesSource
            ∧ s.operation.active? c.source = some c.resolution.appliesSource
            ∧ ∀ t ∈ c.target?, s.operation.active? t = some false)
      ∧ (∀ tell : Event → EStateM SubscriptionId (Session W) Unit,
          (∀ event t, (finalState (tell event t)).operation = t.operation) →
          ∀ id active j (w : Action), w.Bound →
            ((finalState (Session.answer (Session.host tell) (.setActive id active) s)
                ).operation.action? j = some w
              ↔ s.operation.action? j = some w))
      ∧ ∀ (tell : Event → EStateM SubscriptionId (Session W) Unit) (α : Type)
          (call : Call α) e s',
          Session.answer (Session.host tell) call s = .error (.refused e) s' → s' = s := by
  have hop := hs.coherent hA
  refine ⟨⟨hop.ordered.increasing, hop.ordered.bounded⟩,
    fun id a => hop.linked.stands_or_wrapped, fun cid c => hop.active?, ?_, ?_⟩
  · intro tell ht id active j w hw
    exact Session.answer_setActive_bound ht s id active j hw
  · intro tell α call e s' hcall
    exact Session.answer_refused _ call s e s' hcall

/-- An audience that adds an action as soon as a conflict is decided. -/
def Audience.eager : Audience Unit where
  note _ _ w := w
  reaction? _ event _ :=
    match event with
    | .actionChanged _ => some do
        let _ ← Client.call (.addAction (.noAction "light"))
        return .returns
    | _ => none
  patience _ := 0 + 1

/-- A conflict that was decided for the source, and what was added when it
was. -/
theorem arena_of_reachable_light :
    ∃ s : Session Unit, Session.Reachable .eager s
      ∧ s.operation.order = [2, 3]
      ∧ s.operation.order.Pairwise (· < ·)
      ∧ s.operation.active? 0 = some true ∧ s.operation.active? 1 = some false := by
  have hA : Audience.eager.MakesOnly Operation.Coherent (·.Adds Action.Constructed) := by
    intro id event w c hc
    cases event with
    | actionChanged =>
        cases hc
        exact .ask (.noAction "light") fun _ => .done _
    | _ => cases hc
  have hlight : Action.Constructed (.noAction "light") := .noAction "light"
  have hs := (Session.Reachable.new (A := .eager) "source" "base" {} ()).call
    .subscribe trivial
  have hs := hs.call (.addConflict .settingKeyToDifferentValue (.noAction "light")
    (some (.noAction "light")) none none) ⟨hlight, fun t ht => Option.some.inj ht ▸ hlight⟩
  have hs := hs.call (.setResolution 2 .applySource) trivial
  obtain ⟨⟨hincreasing, -⟩, -, hactive, -⟩ := arena_of_reachable hA hs
  obtain ⟨-, hsource, htarget⟩ := hactive 2 _ rfl
  exact ⟨_, hs, rfl, hincreasing, hsource, htarget 1 rfl⟩

end SceneMerge
