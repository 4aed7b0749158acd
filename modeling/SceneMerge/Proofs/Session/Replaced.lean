/-
What changes of keys replace. In a pass that is reported, every action on a
key that is run writes down what the key held when its turn came, and so
does the change of the source that a conflict wraps; of all other actions,
and of all else about these, nothing is changed, and by a pass that does
not land nothing at all. This holds of all that can be put together from
constructed actions, also where several of them are about one key, and
then each has what the one before it left.

Where snapshots are merged and the operation is applied to the target, in
however many passes, no two of them are about one key. So what is replaced
is always what the target had: `replaced_values`.

# The invariant of the passes over the target

The entities of the live scene are what the deeds applied so far make of
the target's (`Underway`). Metadata are left out of it, because a pass that
is stopped by an observer may lose strays of the target when it is rolled
back.
-/
import SceneMerge.Proofs.Review.Edits
import SceneMerge.Proofs.Session.Once
import SceneMerge.Proofs.Session.Owners
import SceneMerge.Proofs.Session.Setup

namespace SceneMerge

open LiveScene

-- =========================================================== specification

/-- In a pass over the live scene the action at `x` is run, on its own or for
a conflict that wraps it; it makes the change `edit` of a key, and what the
key holds when its turn comes is `old?`. -/
def Operation.Replaces (op : Operation) (l : LiveScene) (x : ActionId)
    (edit : KeyValueAction) (old? : Option String) : Prop :=
  ∃ id a l₁, op.TurnOf l id a l₁ ∧ op.edit? l₁.scene id = some (x, edit)
    ∧ old? = l₁.scene.value? edit.entity edit.key

/-- From `op` to `op'` it is written down what a pass over the live scene
replaces, with the action whose change it is, and nothing else is changed of
any action. -/
structure Operation.Notes (op : Operation) (l : LiveScene) (op' : Operation) : Prop where
  replaced : ∀ {x edit old?}, op.Replaces l x edit old? → ∃ a, op.action? x = some a
    ∧ a.kind.edit? = some edit
    ∧ op'.action? x = some { a with kind := a.kind.withUnchanged old? }
    ∧ (a.kind.withUnchanged old?).edit? = some { edit with unchanged? := old? }
  kept : ∀ {x}, (∀ edit old?, ¬ op.Replaces l x edit old?) → op'.action? x = op.action? x

/-- The call decides, switches, or says who listens. -/
def Call.reviews : {α : Type} → Call α → Bool
  | _, .setActive .. | _, .setMembershipActive .. | _, .setResolution ..
  | _, .subscribe | _, .unsubscribe _ => true
  | _, _ => false

/-- Reviews add nothing. -/
theorem Call.adds_of_reviews {α : Type} (call : Call α) (h : call.reviews = true)
    (ok : Action → Prop) : call.Adds ok := by
  cases call <;> trivial

/-- The sessions with an audience that reviews lead to, and passes over one
live scene, reported or not. -/
inductive Session.Passes {W : Type} (A : Audience W) (op : Operation) (l : LiveScene) :
    Session W → LiveScene → Prop where
  | start (world : W) : Passes A op l { operation := op, world } l
  | review {s : Session W} {m : LiveScene} {α : Type} (call : Call α) :
      Passes A op l s m → call.reviews = true →
      Passes A op l (finalState (Session.answer A.outside call s)) m
  | apply {s : Session W} {m : LiveScene} : Passes A op l s m →
      Passes A op l (finalState (A.outside.apply (s, m))).1
        (finalState (A.outside.apply (s, m))).2

-- =============================================================== one pass

section pass

variable {σ : Type} {h : Host σ} {op : Operation}

/-- It is the turn of the first action, or of one that comes after it. -/
theorem reaches_cons_iff {id id' : ActionId} {a a' : Action}
    {todo : List (ActionId × Action)} {l l₁ l' : LiveScene} {done : Performed}
    (hone : Performed.ofAction op id a l = .ok done l₁) :
    Reaches op ((id, a) :: todo) l id' a' l'
      ↔ (id' = id ∧ a' = a ∧ l' = l) ∨ Reaches op todo l₁ id' a' l' := by
  constructor
  · rintro ⟨before, after, heq, hruns⟩
    cases hruns with
    | nil =>
        cases heq
        exact .inl ⟨rfl, rfl, rfl⟩
    | cons hone' hrest =>
        cases heq
        cases hone.symm.trans hone'
        exact .inr ⟨_, after, rfl, hrest⟩
  · rintro (⟨rfl, rfl, rfl⟩ | ⟨before, after, rfl, hruns⟩)
    · exact ⟨[], todo, rfl, .nil⟩
    · exact ⟨(id, a) :: before, after, rfl, .cons hone hruns⟩

/-- Running actions notes in turn what each of them replaces, if whoever is told of
it leaves the operation alone. -/
theorem Host.runActions_notes (hq : h.Quiet) (todo : List (ActionId × Action))
    (htodo : ∀ y ∈ todo, op.action? y.1 = some y.2) :
    ∀ {p p' : Pass} {s t : σ} {l l' : LiveScene}, (h.read s).actions = op.actions →
      h.runActions todo p (s, l) = .ok p' (t, l') →
      Runs op todo l l' ∧ ∃ notes, p'.unchanged = p.unchanged ++ notes
        ∧ (∀ x old?, (x, old?) ∈ notes ↔ ∃ id a l₁, Reaches op todo l id a l₁
            ∧ op.replaced? l₁.scene id = some (x, old?))
        ∧ (op.Linked → (∀ y ∈ todo, y.1 ∈ op.order) →
            (notes.map fun note => op.turnFor note.1).Sublist (todo.map (·.1))) := by
  induction todo with
  | nil =>
      intro p p' s t l l' _ hrun
      cases hrun
      refine ⟨.nil, [], (List.append_nil _).symm, fun x old? => ?_, fun _ _ => .slnil⟩
      refine ⟨fun hx => (nomatch hx), ?_⟩
      rintro ⟨id, a, l₁, ⟨before, after, heq, -⟩, -⟩
      cases before <;> cases heq
  | cons y rest ih =>
      intro p p' s t l l' hs hrun
      obtain ⟨id, a⟩ := y
      rw [runActions_cons] at hrun
      obtain ⟨done, q, hone, hrest⟩ := of_bind_ok hrun
      obtain ⟨l₁, hcall, rfl⟩ := of_onSecond_ok hone
      obtain ⟨_, q, htell, hrest⟩ := of_bind_ok hrest
      obtain ⟨s₁, hemit, rfl⟩ := of_onFirst_ok htell
      -- the operation that is looked at is the one that the pass began with
      have hs₁ : (h.read s₁).actions = op.actions :=
        (keeps_emit (hq.keeps (fun x => x.actions = op.actions) _)).ok hs hemit
      have hone := of_adaptExcept_ok hcall
      rw [Performed.ofAction_congr hs] at hone
      obtain ⟨hruns, notes, hnotes, hmem, hturns⟩ :=
        ih (fun z hz => htodo z (List.mem_cons_of_mem _ hz)) hs₁ hrest
      have hdone := Performed.unchanged_ofAction (htodo _ List.mem_cons_self) hone
      refine ⟨.cons hone hruns, done.unchanged?.toList ++ notes, ?_, fun x old? => ?_,
        fun hl horder => ?_⟩
      · rw [hnotes, ← List.append_assoc]
        rfl
      · rw [List.mem_append, hmem, Option.mem_toList, hdone]
        simp only [reaches_cons_iff hone]
        constructor
        · rintro (hx | ⟨id', a', l', hreach, hx⟩)
          · exact ⟨id, a, l, .inl ⟨rfl, rfl, rfl⟩, hx⟩
          · exact ⟨id', a', l', .inr hreach, hx⟩
        · rintro ⟨id', a', l', ⟨rfl, rfl, rfl⟩ | hreach, hx⟩
          · exact .inl hx
          · exact .inr ⟨id', a', l', hreach, hx⟩
      · have hrest := hturns hl fun z hz => horder z (List.mem_cons_of_mem _ hz)
        rw [hdone, List.map_append]
        cases hreplaced : op.replaced? l.scene id with
        | none => exact hrest.cons id
        | some note =>
            obtain ⟨⟨x, edit⟩, hedit, rfl⟩ := Option.map_eq_some_iff.1 hreplaced
            have hturn := hl.turnFor_eq (horder _ List.mem_cons_self) hedit
            simp only [Option.toList_some, List.map_cons, List.map_nil, hturn]
            exact hrest.cons_cons id

/-- Membership changes are not noted. -/
theorem Host.runMemberships_notes {S : Type} [Surface S]
    (todo : List (Nat × MembershipChange)) :
    ∀ {p p' : Pass} {y z : σ × S}, runMemberships todo p y = .ok p' z →
      p'.unchanged = p.unchanged := by
  induction todo with
  | nil =>
      intro p p' y z hrun
      cases hrun
      rfl
  | cons item rest ih =>
      intro p p' y z hrun
      obtain ⟨done?, q, -, hrest⟩ := of_bind_ok hrun
      cases done? with
      | none => exact ih hrest
      | some reverts => exact (ih hrest).trans rfl

/-- What is replaced is what the scene has under the key that is edited. -/
theorem Operation.replaced?_eq_some {s : Scene} {id x : ActionId} {old? : Option String} :
    op.replaced? s id = some (x, old?) ↔ ∃ edit, op.edit? s id = some (x, edit)
      ∧ old? = s.value? edit.entity edit.key := by
  rw [replaced?, Option.map_eq_some_iff]
  constructor
  · rintro ⟨⟨x', edit⟩, hedit, heq⟩
    cases heq
    exact ⟨edit, hedit, rfl⟩
  · rintro ⟨edit, hedit, rfl⟩
    exact ⟨(x, edit), hedit, rfl⟩

/-- What is pending is in the order. -/
theorem Operation.mem_order_of_pending {id : ActionId} {a : Action}
    (h : (id, a) ∈ op.pending) : id ∈ op.order := by
  have hid : id ∈ op.pending.map (·.1) := List.mem_map_of_mem (f := Prod.fst) h
  rw [op.pending_ids] at hid
  exact op.chosen_subset (List.mem_of_mem_filter hid)

namespace Host

variable {s u : σ} {l l₁ m : LiveScene} {p : Pass} {x : ActionId} {old? : Option String}

/-- What a pass that is committed did to a live scene, action by action. -/
structure Committed (op : Operation) (l : LiveScene) (p : Pass) (l₁ m : LiveScene) :
    Prop where
  runs : Runs op op.pending (l.begun s!"Merge {op.sourcePath}") l₁
  /-- The rest of the pass does not concern entities. -/
  entities : m.scene.entities = l₁.scene.entities
  settled : m.transaction = none
  tidy : l.scene.Tidy → m.scene.Tidy
  applied : p.applied = op.pending.map (·.1)
  notes : ∀ x old?, (x, old?) ∈ p.unchanged ↔ ∃ edit, op.Replaces l x edit old?
  turns : op.Linked →
    (p.unchanged.map fun note => op.turnFor note.1).Sublist (op.pending.map (·.1))

/-- A pass that is committed ran what was pending, wrote down what that replaced and
wrote nothing else. -/
theorem committed (hl : h.Lawful) (hq : h.Quiet)
    (hrun : h.inFlight s!"Merge {(h.read s).sourcePath}" (h.runPass (h.read s)) (s, l)
      = .ok p (u, m)) :
    ∃ l₁, Committed (h.read s) l p l₁ m := by
  obtain ⟨-, t, l₂, l₃, hbody, hcommit, hend⟩ := of_inFlight_begun hrun
  cases hend
  -- strays of the target may be there, so all that passes on is that the scene is tidy
  have htidy : l.scene.Tidy → l₂.scene.Tidy := by
    intro htidy
    obtain ⟨-, hrecorded⟩ := (keeps_runPass (Q := fun _ => True) (keptByMutations_recorded l)
      (fun _ _ _ => trivial) (h.read s)).ok ⟨trivial, recorded_start htidy _⟩ hbody
    obtain ⟨j, -, hback⟩ := hrecorded.back
    exact hback.tidy
  obtain ⟨p₁, ⟨y, l₁⟩, hactions, hrest⟩ := of_bind_ok hbody
  obtain ⟨op', q, hlook, hrest⟩ := of_bind_ok hrest
  cases hlook
  have hfly : (h.read (h.fly true s)).actions = (h.read s).actions := by rw [read_fly hl]
  obtain ⟨hruns, notes, hnotes, hmem, hturns⟩ := runActions_notes hq (h.read s).pending
    (fun _ hy => Operation.of_mem_pending hy) hfly hactions
  obtain ⟨hscene, hsettled⟩ := LiveScene.of_commit_ok hcommit
  have hunchanged : p.unchanged = notes := (runMemberships_notes _ hrest).trans hnotes
  have happlied : p.applied = (h.read s).pending.map (·.1) :=
    (of_runMemberships_ok _ hrest).1.trans (of_runActions_ok _ hactions).1
  refine ⟨l₁, hruns, ?_, hsettled, fun h => hscene ▸ htidy h, happlied,
    fun x old? => ?_, fun hl => ?_⟩
  · rw [hscene, (runMemberships_exhausts _ hrest).1]
  · rw [hunchanged, hmem]
    simp only [Operation.replaced?_eq_some]
    constructor
    · rintro ⟨id, a, l₁, hturn, edit, hedit, hold⟩
      exact ⟨edit, id, a, l₁, hturn, hedit, hold⟩
    · rintro ⟨edit, id, a, l₁, hturn, hedit, hold⟩
      exact ⟨id, a, l₁, hturn, edit, hedit, hold⟩
  · rw [hunchanged]
    exact hturns hl fun _ hy => Operation.mem_order_of_pending hy

/-- A pass that is reported was committed, and is taken in. -/
theorem committed_of_apply_ok (hl : h.Lawful) (hq : h.Quiet) {report : ApplyReport}
    {y : σ × LiveScene} (happly : h.apply (s, l) = .ok report y) :
    ∃ p l₁, Committed (h.read s) l p l₁ y.2 ∧ h.read y.1 = (h.read s).absorb p
      ∧ report.applied = p.applied := by
  obtain ⟨p, ⟨hm, ⟨u, m⟩, hrun⟩, hread, rfl⟩ := of_apply_ok hl hq happly
  obtain ⟨l₁, hc⟩ := committed hl hq hrun
  obtain ⟨t, -, hok | ⟨id, herror⟩⟩ := apply_of_committed hl hq hm hrun
  · cases happly.symm.trans hok
    exact ⟨p, l₁, hc, hread, rfl⟩
  · cases happly.symm.trans herror

/-- An action is noted once. -/
theorem Committed.nodup (hc : Committed op l p l₁ m) (hl : op.Linked)
    (horder : op.order.Nodup) : (p.unchanged.map (·.1)).Nodup := by
  have hpending : (op.pending.map (·.1)).Nodup := by
    rw [op.pending_ids]
    exact (horder.sublist List.filter_sublist).sublist List.filter_sublist
  have hturns := hpending.sublist (hc.turns hl)
  rw [show (fun note : ActionId × Option String => op.turnFor note.1)
    = op.turnFor ∘ Prod.fst from rfl, ← List.map_map] at hturns
  exact hturns.of_map _

/-- The operation takes in what was replaced. -/
theorem Committed.absorbed (hc : Committed op l p l₁ m) (hl : op.Linked)
    (horder : op.order.Nodup) : op.Notes l (op.absorb p) where
  replaced := by
    intro x edit old? hx
    obtain ⟨w, hw, hedit⟩ : ∃ w, op.action? x = some w ∧ w.kind.edit? = some edit := by
      obtain ⟨id, a, l₁, -, hedit, -⟩ := hx
      exact Operation.exists_of_edit? hedit
    refine ⟨w, hw, hedit, ?_, ActionKind.edit?_withUnchanged hedit old?⟩
    rw [Operation.action?_absorb_of_mem (hc.nodup hl horder) ((hc.notes x old?).2 ⟨edit, hx⟩),
      hw]
    rfl
  kept := by
    intro x hx
    refine Operation.action?_absorb_of_not_mem fun hnoted => ?_
    obtain ⟨⟨x, old?⟩, hnote, rfl⟩ := List.mem_map.1 hnoted
    obtain ⟨edit, hreplaces⟩ := (hc.notes x old?).1 hnote
    exact hx edit old? hreplaces

end Host

end pass

-- ======================================================== over the target

/-- Running actions of a plan makes their deeds. -/
theorem Scene.CameOf.runs {target : Snapshot} {op : Operation} (hp : op.Planned target)
    {todo : List (ActionId × Action)} {l l' : LiveScene} (hruns : Runs op todo l l')
    (htodo : ∀ y ∈ todo, op.action? y.1 = some y.2) :
    ∀ {done : List ActionId}, (done ++ todo.map (·.1)).Nodup →
      done ++ todo.map (·.1) ⊆ op.order → l.Open →
      l.scene.CameOf target (op.deedsOf done) →
      l'.Open ∧ l'.scene.CameOf target (op.deedsOf (done ++ todo.map (·.1))) := by
  induction hruns with
  | nil =>
      intro done _ _ hl h
      rw [List.map_nil, List.append_nil]
      exact ⟨hl, h⟩
  | @cons id a todo l l₁ l' done' hone _ ih =>
      intro done hnodup hids hl h
      have ha := htodo (id, a) List.mem_cons_self
      rw [List.map_cons, List.append_cons] at hnodup hids ⊢
      obtain ⟨d, hd, hdeeds, hsub⟩ := hp.next
        (hnodup.sublist (List.sublist_append_left _ _))
        (List.Subset.trans (List.subset_append_left _ _) hids)
      -- the next deed is one of the plan's, so it can be made, and it is what running
      -- the action does
      obtain ⟨e?, hmake⟩ := h.possible hp.plan hsub
      obtain ⟨done'', l₂, hrun, hl₂, hentity⟩ := Performed.puts_ofAction ha hd hl hmake
      cases hone.symm.trans hrun
      have hnext := h.deed hmake hentity
      rw [← hdeeds] at hnext
      exact ih (fun y hy => htodo y (List.mem_cons_of_mem _ hy)) hnodup hids hl₂ hnext

/-- The operation came of `op₀` by reviews and passes over the live scene,
which started out from the target. -/
structure Underway (target : Snapshot) (op₀ op : Operation) (l : LiveScene) : Prop where
  kin : op₀.Kin op
  settled : l.transaction = none
  tidy : l.scene.Tidy
  applied : op.applied.Nodup
  listed : op.applied ⊆ op₀.order
  cameOf : l.scene.CameOf target (op₀.deedsOf op.applied)

namespace Underway

variable {target : Snapshot} {op₀ op op' : Operation} {l l₁ m : LiveScene}

/-- In the beginning nothing was applied. -/
theorem start (hfresh : op₀.Fresh) (hl : LiveScene.ofSnapshot target = .ok l)
    (ht : target.names.Nodup) : Underway target op₀ op₀ l := by
  have htidy := tidy_ofSnapshot hl
  cases hl.symm.trans (LiveScene.ofSnapshot_eq ht)
  refine ⟨.refl op₀, rfl, htidy, ?_, ?_, ?_⟩
  · rw [hfresh.applied]
    exact .nil
  · rw [hfresh.applied]
    exact List.nil_subset _
  · rw [hfresh.applied]
    exact fun _ => rfl

/-- A review between passes concerns neither the live scene nor what was applied. -/
theorem revised (h : Underway target op₀ op l) (hop : op.Revised op') :
    Underway target op₀ op' l where
  kin := h.kin.trans hop.kin
  settled := h.settled
  tidy := h.tidy
  applied := hop.applied ▸ h.applied
  listed := hop.applied ▸ h.listed
  cameOf := hop.applied ▸ h.cameOf

/-- What is pending comes on top of what was applied. -/
theorem applied_pending (hp : op₀.Planned target) (h : Underway target op₀ op l) :
    (op.applied ++ op.pending.map (·.1)).Nodup
      ∧ op.applied ++ op.pending.map (·.1) ⊆ op.order :=
  op.applied_pending (h.kin.planned hp).distinct h.applied (h.kin.order ▸ h.listed)

/-- While what is pending is run, the entities are what the deeds made so far
make of the target's. -/
theorem reached (hp : op₀.Planned target) (h : Underway target op₀ op l)
    {before after : List (ActionId × Action)} (heq : op.pending = before ++ after)
    (hruns : Runs op before (l.begun s!"Merge {op.sourcePath}") l₁) :
    l₁.scene.CameOf target (op.deedsOf (op.applied ++ before.map (·.1))) := by
  have hplanned := h.kin.planned hp
  obtain ⟨hnodup, hlisted⟩ := h.applied_pending hp
  rw [heq, List.map_append, ← List.append_assoc] at hnodup hlisted
  have hcame := h.cameOf
  rw [← h.kin.deedsOf] at hcame
  refine (Scene.CameOf.runs hplanned hruns (fun y hy => ?_)
    (hnodup.sublist (List.sublist_append_left _ _))
    (List.Subset.trans (List.subset_append_left _ _) hlisted)
    ⟨h.tidy.distinct, _, rfl⟩ hcame).2
  exact Operation.of_mem_pending (heq ▸ List.mem_append_left after hy)

/-- What is replaced is what the target has. -/
theorem replaced (hp : op₀.Planned target) (h : Underway target op₀ op l)
    {x : ActionId} {edit : KeyValueAction} {old? : Option String}
    (hx : op.Replaces l x edit old?) :
    old? = Proposal.targetValue? target edit.entity edit.key := by
  obtain ⟨id, a, l₁, ⟨before, after, heq, hruns⟩, hedit, rfl⟩ := hx
  have hplanned := h.kin.planned hp
  have hcame := h.reached hp heq hruns
  obtain ⟨hnodup, hlisted⟩ := h.applied_pending hp
  rw [heq, List.map_append, List.map_cons, ← List.append_assoc, List.append_cons]
    at hnodup hlisted
  obtain ⟨d, hd, -, hsub⟩ := hplanned.next
    (hnodup.sublist (List.sublist_append_left _ _))
    (List.Subset.trans (List.subset_append_left _ _) hlisted)
  obtain ⟨e?, hmake⟩ := hcame.possible hplanned.plan hsub
  obtain ⟨value?, rfl⟩ := Operation.setKey_of_edit? hedit hd hmake
  exact hcame.value?_eq hplanned.plan hsub

/-- A pass that is committed applies what was pending. -/
theorem absorb (hp : op₀.Planned target) (h : Underway target op₀ op l) {p : Pass}
    (hc : Host.Committed op l p l₁ m) : Underway target op₀ (op.absorb p) m := by
  have happlied : (op.absorb p).applied = op.applied ++ op.pending.map (·.1) := by
    rw [← hc.applied]
    rfl
  obtain ⟨hnodup, hlisted⟩ := h.applied_pending hp
  have hcame := h.reached hp (List.append_nil _).symm hc.runs
  rw [h.kin.deedsOf] at hcame
  refine ⟨h.kin.trans (.absorb op p), hc.settled, hc.tidy h.tidy, ?_, ?_, fun n => ?_⟩
  · rw [happlied]
    exact hnodup
  · rw [happlied, ← h.kin.order]
    exact hlisted
  · rw [happlied, hcame n, Scene.entity?, Scene.entity?, hc.entities]

/-- A pass that is rolled back takes strays away at most. -/
theorem trims (h : Underway target op₀ op l) {s : Scene} (hs : s.Trims l.scene) :
    Underway target op₀ op { l with scene := s } where
  kin := h.kin
  settled := h.settled
  tidy := ⟨by
    rw [Scene.names, hs.entities]
    exact h.tidy.distinct, hs.pruned⟩
  applied := h.applied
  listed := h.listed
  cameOf n := by
    rw [h.cameOf n, Scene.entity?, Scene.entity?, hs.entities]

end Underway

namespace Session

variable {W : Type} {A : Audience W} (hA : A.Silent)

include hA

/-- Reviews revise the operation, granted or not. -/
theorem revised_review {α : Type} {call : Call α} (hcall : call.reviews = true)
    (s : Session W) :
    s.operation.Revised (finalState (answer A.outside call s)).operation := by
  have hf : A.outside.Follows Operation.Revised fun t => s.operation.Revised t.operation :=
    fun _ _ hop h => h.trans hop
  have ht : ∀ event, Keeps (fun t : Session W => s.operation.Revised t.operation)
      (A.outside.tell event) := hA.quiet.keeps s.operation.Revised
  cases call with
  | setActive id active =>
      exact Host.keeps_switch hf (fun _ _ => Operation.revised_setActive) (ht _) s (.refl _)
  | setMembershipActive index active =>
      exact Host.keeps_revise hf pure (fun _ _ => Operation.revised_setMembershipActive)
        (.pure _) s (.refl _)
  | setResolution id r =>
      exact Host.keeps_revise hf _ (fun _ _ => Operation.revised_setResolution)
        (Host.keeps_emit (ht _)) s (.refl _)
  | subscribe => exact .refl _
  | unsubscribe id => exact .refl _
  | _ => cases hcall

/-- A pass that is reported notes what it replaces. -/
theorem notes_of_apply_ok {s : Session W} (hcoherent : s.operation.Coherent) {l : LiveScene}
    {report : ApplyReport} {y : Session W × LiveScene}
    (happly : A.outside.apply (s, l) = .ok report y) :
    ∃ l₁, Runs s.operation s.operation.pending
        (l.begun s!"Merge {s.operation.sourcePath}") l₁
      ∧ y.2.scene.entities = l₁.scene.entities
      ∧ report.applied = s.operation.pending.map (·.1)
      ∧ s.operation.Notes l y.1.operation := by
  obtain ⟨p, l₁, hc, hread, happlied⟩ :=
    Host.committed_of_apply_ok A.lawful_outside hA.quiet happly
  have hnotes : s.operation.Notes l (s.operation.absorb p) :=
    hc.absorbed hcoherent.linked
      (hcoherent.ordered.increasing.imp fun hlt => Nat.ne_of_lt hlt)
  rw [← show y.1.operation = s.operation.absorb p from hread] at hnotes
  exact ⟨l₁, hc.runs, hc.entities, happlied.trans hc.applied, hnotes⟩

/-- A pass that is refused did not land. -/
theorem operation_of_refused {S : Type} [Surface S] {s : Session W} {scene : S}
    {e : MergeError} {y : Session W × S}
    (happly : A.outside.apply (s, scene) = .error (.refused e) y) :
    y.1.operation = s.operation := by
  have hfailed : ∀ p, ¬ A.outside.Lands s scene p := by
    intro p hp
    obtain ⟨u, z, -, hok | ⟨id, herror⟩⟩ :=
      Host.apply_of_lands A.lawful_outside hA.quiet hp
    · cases happly.symm.trans hok
    · cases happly.symm.trans herror
  have hsame := operation_of_failed hA hfailed
  rw [happly] at hsame
  exact hsame

variable {target : Snapshot} {op₀ : Operation} (hp : op₀.Planned target)

include hp

/-- However a pass over the target ends, the next one may follow. -/
theorem underway_apply {s : Session W} {l : LiveScene}
    (h : Underway target op₀ s.operation l) :
    Underway target op₀ (finalState (A.outside.apply (s, l))).1.operation
      (finalState (A.outside.apply (s, l))).2 := by
  cases hm : s.operation.ensureMutable with
  | error e =>
      rw [Host.apply_refused A.outside (s := s) hm]
      exact h
  | ok =>
      cases hrun : A.outside.inFlight s!"Merge {s.operation.sourcePath}"
          (A.outside.runPass s.operation) (s, l) with
      -- the pass is committed and taken in, even if an observer fails afterwards
      | ok p q =>
          obtain ⟨u, m⟩ := q
          obtain ⟨l₁, hc⟩ := Host.committed A.lawful_outside hA.quiet hrun
          obtain ⟨t, hread, hend⟩ :=
            Host.apply_of_committed A.lawful_outside hA.quiet hm hrun
          have hnext := h.absorb hp hc
          rw [← show t.operation = s.operation.absorb p from hread] at hnext
          rcases hend with hok | ⟨id, herror⟩
          · rw [hok]
            exact hnext
          · rw [herror]
            exact hnext
      -- the pass is rolled back, which brings back the entities, and the operation is
      -- what it was
      | error halt q =>
          have hread := Host.inFlight_read A.lawful_outside hA.quiet (s := s) hm
            s!"Merge {s.operation.sourcePath}" l
          have hstopped : A.outside.inFlight s!"Merge {s.operation.sourcePath}"
              (A.outside.runPass (A.outside.read s)) (s, l) = .error halt q := hrun
          rw [hstopped] at hread
          obtain ⟨t, m, -, htrims, rfl⟩ := Host.inFlight_trims (Q := fun _ => True)
            (Host.keeps_runPass (Q := fun _ => True) (LiveScene.keptByMutations_recorded l)
              (fun _ _ _ => trivial) s.operation) h.tidy h.settled trivial hrun
          rw [(Host.apply_eq A.outside (s := s) hm).trans (bind_error hstopped)]
          show Underway target op₀ (A.outside.read (A.outside.fly false t)) _
          rw [show A.outside.read (A.outside.fly false t) = s.operation from hread]
          exact h.trims htrims

/-- Whatever passes and reviews lead to is underway, whether or not the passes land. -/
theorem Passes.underway {l : LiveScene} {s : Session W} {m : LiveScene}
    (h : Passes A op₀ l s m) (hstart : Underway target op₀ op₀ l) :
    Underway target op₀ s.operation m := by
  induction h with
  | start world => exact hstart
  | review call _ hcall ih => exact ih.revised (revised_review hA hcall _)
  | apply _ ih => exact underway_apply hA hp ih

omit hA hp in
/-- Whoever merges, reviews and applies does nothing else. -/
theorem Passes.reachable {source : Snapshot} {base? : Option Snapshot}
    {options : MergeOptions} (hcon : Operation.construct source base? target options = .ok op₀)
    {l : LiveScene} {s : Session W} {m : LiveScene} (h : Passes A op₀ l s m) :
    Reachable A s := by
  induction h with
  | start world => exact .construct world hcon
  | review call _ hcall ih => exact ih.call call (call.adds_of_reviews hcall _)
  | apply _ ih => exact ih.apply _

end Session

-- ================================================================== result

/-- Only snapshots that tell their entities apart are merged. -/
theorem Operation.names_of_construct_ok {source : Snapshot} {base? : Option Snapshot}
    {target : Snapshot} {options : MergeOptions} {op : Operation}
    (h : Operation.construct source base? target options = .ok op) :
    (∀ base ∈ base?, base.names.Nodup) ∧ source.names.Nodup ∧ target.names.Nodup := by
  have hnames : ∀ s ∈ Snapshot.participants source base? target, s.names.Nodup := by
    refine Proposal.exists_merging.1 ?_
    rw [construct_eq] at h
    cases hp : Proposal.merging source base? target with
    | ok plan => exact ⟨plan, rfl⟩
    | error e =>
        rw [hp] at h
        cases h
  cases base? with
  | none =>
      exact ⟨nofun, hnames source (.tail _ (.head _)), hnames target (.head _)⟩
  | some base =>
      refine ⟨?_, hnames source (.tail _ (.head _)),
        hnames target (.tail _ (.tail _ (.head _)))⟩
      rintro _ ⟨⟩
      exact hnames base (.head _)

/-- Of an operation that was put together from constructed actions, a pass
that is reported to observers that make no calls runs what was pending and
writes down what was replaced; a pass that is refused, or does not land for
another reason, writes down nothing. And where snapshots were merged, what is
replaced in any pass over the scene of the target is what the target has, and
is written down as well. -/
theorem replaced_values {W : Type} {A : Audience W} (hA : A.Silent) :
    (∀ {V : Type} {B : Audience V} {t : Session V},
        B.MakesOnly Operation.Coherent (·.Adds Action.Constructed) →
        Session.Reachable B t → ∀ (s : Session W) (l : LiveScene) report y,
        s.operation = t.operation → A.outside.apply (s, l) = .ok report y →
        ∃ l₁, Runs s.operation s.operation.pending
            (l.begun s!"Merge {s.operation.sourcePath}") l₁
          ∧ y.2.scene.entities = l₁.scene.entities
          ∧ report.applied = s.operation.pending.map (·.1)
          ∧ s.operation.Notes l y.1.operation)
      ∧ (∀ (s : Session W) {S : Type} [Surface S] (scene : S),
          ((∀ p, ¬ A.outside.Lands s scene p) →
            (finalState (A.outside.apply (s, scene))).1.operation = s.operation)
          ∧ ∀ e y, A.outside.apply (s, scene) = .error (.refused e) y →
            y.1.operation = s.operation)
      ∧ ∀ (source : Snapshot) (base? : Option Snapshot) (target : Snapshot)
          (options : MergeOptions) op l,
          Operation.construct source base? target options = .ok op →
          LiveScene.ofSnapshot target = .ok l →
          ∀ s m, Session.Passes A op l s m →
            (∀ x edit old?, s.operation.Replaces m x edit old? →
              old? = Proposal.targetValue? target edit.entity edit.key)
            ∧ ∀ report y, A.outside.apply (s, m) = .ok report y →
              s.operation.Notes m y.1.operation := by
  refine ⟨fun hB ht s l report y hs happly =>
      Session.notes_of_apply_ok hA (hs ▸ ht.coherent hB) happly,
    fun s S _ scene => ⟨Session.operation_of_failed hA,
      fun e y => Session.operation_of_refused hA⟩,
    fun source base? target options op l hcon hl s m hpasses => ?_⟩
  obtain ⟨hb, hsource, htarget⟩ := Operation.names_of_construct_ok hcon
  obtain ⟨op', hcon', hplanned, hfresh, -⟩ :=
    Operation.construct_planned hb hsource htarget options
  cases hcon.symm.trans hcon'
  have hunderway := hpasses.underway hA hplanned (.start hfresh hl htarget)
  refine ⟨fun x edit old? hx => hunderway.replaced hplanned hx, fun report y happly => ?_⟩
  have hcoherent := (hpasses.reachable hcon).coherent (hA.makesOnly _ _)
  obtain ⟨-, -, -, -, hnotes⟩ := Session.notes_of_apply_ok hA hcoherent happly
  exact hnotes

/-- A light is made brighter twice in one pass, and each time something else is
replaced. Where two sides make it brighter and the source wins, what is replaced is
the brightness of the target. -/
theorem replaced_values_light :
    let light (value : String) : Entity :=
      ({ name := "light" } : Entity).withKeyValue "brightness" value
    let brighter (value : String) (old? : Option String) : Action :=
      .changeKeyValue "light" "brightness" value old?
    let l : LiveScene := { scene := ⟨[light "200"], {}⟩ }
    let s := lightSession [brighter "300" none, brighter "400" none] [0, 1]
    let scene (path value : String) : Snapshot := ⟨path, [light value], {}⟩
    (Session.Reachable .bystanders s
      ∧ ∃ report y, Audience.bystanders.outside.apply (s, l) = .ok report y
        ∧ report.applied = [0, 1]
        ∧ y.1.operation.action? 0 = some (brighter "300" (some "200"))
        ∧ y.1.operation.action? 1 = some (brighter "400" (some "300")))
      ∧ ∃ op l₀ s m edit old?, Operation.construct (scene "source" "300")
            (some (scene "base" "200")) (scene "target" "400") {} = .ok op
          ∧ LiveScene.ofSnapshot (scene "target" "400") = .ok l₀
          ∧ Session.Passes .bystanders op l₀ s m
          ∧ s.operation.Replaces m 0 edit old? ∧ old? = some "400" := by
  intro light brighter l s scene
  have hB : Audience.bystanders.MakesOnly Operation.Coherent (·.Adds Action.Constructed) :=
    Audience.silent_bystanders.makesOnly _ _
  obtain ⟨reported, -, merged⟩ := replaced_values Audience.silent_bystanders
  refine ⟨?twice, ?won⟩
  case twice =>
    have hs : Session.Reachable .bystanders s :=
      ((Session.Reachable.new "source" "base" {} ()).call
        (.addAction (brighter "300" none)) (.changeKeyValue ..)).call
          (.addAction (brighter "400" none)) (.changeKeyValue ..)
    have hreported : (match Audience.bystanders.outside.apply (s, l) with
        | .ok report _ => report.applied
        | .error .. => []) = [0, 1] := by decide +kernel
    have hpending : s.operation.pending
      = [(0, brighter "300" none), (1, brighter "400" none)] := by decide +kernel
    have hfirst : s.operation.Replaces l 0 ⟨"light", "brightness", some "300", none⟩
        (some "200") := ⟨0, _, _, ⟨[], _, hpending, .nil⟩, rfl, rfl⟩
    have hsecond : s.operation.Replaces l 1 ⟨"light", "brightness", some "400", none⟩
        (some "300") := ⟨1, _, _, ⟨[_], [], hpending, .cons rfl .nil⟩, rfl, rfl⟩
    cases happly : Audience.bystanders.outside.apply (s, l) with
    | error halt y =>
        rw [happly] at hreported
        cases hreported
    | ok report y =>
        rw [happly] at hreported
        obtain ⟨-, -, -, -, hnotes⟩ := reported hB hs s l report y rfl happly
        obtain ⟨_, ⟨⟩, -, hfirst', -⟩ := hnotes.replaced hfirst
        obtain ⟨_, ⟨⟩, -, hsecond', -⟩ := hnotes.replaced hsecond
        exact ⟨hs, report, y, rfl, hreported, hfirst', hsecond'⟩
  case won =>
    let m : LiveScene := { scene := ⟨[light "400"], {}⟩ }
    let edit : KeyValueAction := ⟨"light", "brightness", some "300", some "400"⟩
    let reviewed (op : Operation) : Session Unit := finalState
      (Session.answer Audience.bystanders.outside (.setResolution 2 .applySource)
        { operation := op, world := () })
    have hrun : (Operation.construct (scene "source" "300") (some (scene "base" "200"))
        (scene "target" "400") {}).map (fun op => ((reviewed op).operation.pending.map (·.1),
          (reviewed op).operation.edit? m.scene 2)) = .ok ([2], some (0, edit)) := by
      decide +kernel
    cases hcon : Operation.construct (scene "source" "300") (some (scene "base" "200"))
        (scene "target" "400") {} with
    | error e =>
        rw [hcon] at hrun
        cases hrun
    | ok op =>
        rw [hcon] at hrun
        simp only [Except.map, Except.ok.injEq, Prod.mk.injEq] at hrun
        obtain ⟨hpending, hedit⟩ := hrun
        have hpasses : Session.Passes .bystanders op m (reviewed op) m :=
          (Session.Passes.start ()).review (.setResolution 2 .applySource) rfl
        obtain ⟨⟨id, a⟩, rest, heq, rfl, hrest⟩ := List.map_eq_cons_iff.1 hpending
        have hreplaces : (reviewed op).operation.Replaces m 0 edit
            (m.scene.value? "light" "brightness") :=
          ⟨_, a, _, ⟨[], _, heq, .nil⟩, hedit, rfl⟩
        have htarget := (merged _ _ _ _ op m hcon rfl _ m hpasses).1 0 edit _ hreplaces
        exact ⟨op, m, reviewed op, m, edit, _, rfl, rfl, hpasses, hreplaces,
          htarget.trans (by decide +kernel)⟩

end SceneMerge
