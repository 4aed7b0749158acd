/-
What proposals come to when their turn comes in a pass. `Turns op n e? ps Q`
reads: whatever live scene has `e?` under the name `n` when what stands for
`ps` in the operation is run, the run is granted, has `Q` of what is there
under that name in the end, and leaves every other entity as it was. It is
put together from end to end (`Turns.append`), and one proposal is either
an action, which is run (`Turns.action`), or a conflict, which is run if it
is decided for the source and passed over if not (`Turns.conflict`).

What is known of the decisions is known by the place of the conflict
(`Operation.Decides`).
-/
import SceneMerge.Proofs.Review.Collision
import SceneMerge.Proofs.Review.Effect

namespace SceneMerge

-- =================================================================== runs

/-- Running the actions one after the other is granted, from the one live
scene to the other. -/
inductive Runs (op : Operation) :
    List (ActionId × Action) → LiveScene → LiveScene → Prop where
  | nil {l : LiveScene} : Runs op [] l l
  | cons {id : ActionId} {a : Action} {todo : List (ActionId × Action)}
      {l l' l'' : LiveScene} {done : Performed} :
      Performed.ofAction op id a l = .ok done l' → Runs op todo l' l'' →
      Runs op ((id, a) :: todo) l l''

/-- What is run in two parts is run. -/
theorem Runs.append {op : Operation} {todo todo' : List (ActionId × Action)}
    {l l' l'' : LiveScene} (h : Runs op todo l l') (h' : Runs op todo' l' l'') :
    Runs op (todo ++ todo') l l'' := by
  induction h with
  | nil => exact h'
  | cons hone _ ih => exact .cons hone (ih h')

namespace Operation

/-- What is to be run of the actions at `ids`. -/
def due (op : Operation) (ids : List ActionId) : List (ActionId × Action) :=
  ids.filterMap fun id =>
    (op.action? id).bind fun a => if a.active then some (id, a) else none

/-- Of ids that follow one another those that are due follow one another. -/
theorem due_append (op : Operation) (ids ids' : List ActionId) :
    op.due (ids ++ ids') = op.due ids ++ op.due ids' :=
  List.filterMap_append

/-- The decisions on the conflicts at a place are among those that
`decision` has for it. -/
def Decides (op : Operation) (decision : NodePath → Resolution → Prop) : Prop :=
  ∀ node id c, op.ConflictAt node id c → decision node c.resolution

end Operation

/-- Only one decision is for the source. -/
theorem Resolution.appliesSource_iff {r : Resolution} :
    r.appliesSource = true ↔ r = .applySource := by
  cases r <;> simp [appliesSource]

-- ================================================================= triples

/-- Running what stands for the proposals turns `e?`, under the name `n`,
into something that has `Q`. -/
def Turns (op : Operation) (n : EntityName) (e? : Option Entity)
    (ps : List Proposal) (Q : Option Entity → Prop) : Prop :=
  ∀ ids, List.Forall₂ op.Represents ids ps → (∀ id ∈ ids, id ∈ op.order) →
    ∀ l : LiveScene, l.Open → l.scene.entity? n = e? →
      ∃ l', Runs op (op.due ids) l l' ∧ l'.Open ∧ Q (l'.scene.entity? n)
        ∧ ∀ x, x ≠ n → l'.scene.entity? x = l.scene.entity? x

namespace Turns

variable {op : Operation} {n : EntityName} {e? e?' : Option Entity}
  {ps ps' : List Proposal} {Q Q' : Option Entity → Prop}

/-- What is known of the outcome may be weakened. -/
theorem imp (h : Turns op n e? ps Q) (hQ : ∀ e?, Q e? → Q' e?) :
    Turns op n e? ps Q' := by
  intro ids hrep hids l hl he
  obtain ⟨l', hrun, hl', hq, hframe⟩ := h ids hrep hids l hl he
  exact ⟨l', hrun, hl', hQ _ hq, hframe⟩

/-- No proposal leaves what is there. -/
theorem nil (hQ : Q e?) : Turns op n e? [] Q := by
  intro ids hrep _ l hl he
  cases hrep
  exact ⟨l, .nil, hl, he.symm ▸ hQ, fun _ _ => rfl⟩

/-- One stretch of proposals after another: the second takes up what the first left
under the name, whatever that is. -/
theorem append (h : Turns op n e? ps Q)
    (h' : ∀ e?', Q e?' → Turns op n e?' ps' Q') :
    Turns op n e? (ps ++ ps') Q' := by
  intro ids hrep hids l hl he
  rw [← List.take_append_drop ps.length ids] at hids ⊢
  have hfirst := List.forall₂_take_append _ _ _ hrep
  have hrest := List.forall₂_drop_append _ _ _ hrep
  obtain ⟨l₁, hrun, hl₁, hq, hframe⟩ := h _ hfirst
    (fun id hid => hids id (List.mem_append_left _ hid)) l hl he
  obtain ⟨l₂, hrun', hl₂, hq', hframe'⟩ := h' _ hq _ hrest
    (fun id hid => hids id (List.mem_append_right _ hid)) l₁ hl₁ rfl
  refine ⟨l₂, ?_, hl₂, hq', fun x hx => (hframe' x hx).trans (hframe x hx)⟩
  rw [op.due_append]
  exact hrun.append hrun'

/-- An action that is run. -/
private theorem of_puts {id : ActionId} {a : Action} {l : LiveScene}
    (ha : op.action? id = some a) (hactive : a.active = true)
    (h : Puts (Performed.ofAction op id a) l n e?) :
    ∃ l', Runs op (op.due [id]) l l' ∧ l'.Open ∧ l'.scene.entity? n = e?
      ∧ ∀ x, x ≠ n → l'.scene.entity? x = l.scene.entity? x := by
  obtain ⟨done, l', hrun, hl', hentity⟩ := h
  have hdue : op.due [id] = [(id, a)] := by
    simp [Operation.due, ha, hactive]
  refine ⟨l', ?_, hl', ?_, fun x hx => ?_⟩
  · rw [hdue]
    exact .cons hrun .nil
  · rw [hentity, if_pos rfl]
  · rw [hentity, if_neg hx]

/-- An action is active, so it is run when its turn comes, as what it is. -/
theorem action {a : Action} (e?' : Option Entity)
    (h : ∀ id (l : LiveScene), l.Open → l.scene.entity? n = e? →
      Puts (Performed.plain id a) l n e?') :
    Turns op n e? [.action a] (· = e?') := by
  intro ids hrep _ l hl he
  cases hrep with
  | cons hone hnil =>
      cases hnil
      obtain ⟨ha, hactive, -, hconflict⟩ := hone
      refine of_puts ha hactive ?_
      rw [Performed.ofAction, hconflict]
      exact h _ l hl he

/-- A conflict, which is run only if it is decided for the source. -/
theorem conflict {decision : NodePath → Resolution → Prop}
    (hop : op.Decides decision) (e?' : Option Entity) {type : ConflictType} {source : Action}
    {target? : Option Action} {s? t? : Option Entity}
    (h : ∀ id a c w (l : LiveScene), c.type = type → c.sourceEntity? = s? →
      op.action? c.source = some w → w.kind = source.kind →
      w.node = source.node → l.Open → l.scene.entity? n = e? →
      Puts (Performed.conflict op id a c) l n e?') :
    Turns op n e? [.conflict type source target? s? t?] fun x =>
      ∃ r, decision (Operation.conflictNode type source) r
        ∧ x = if r = .applySource then e?' else e? := by
  intro ids hrep hids l hl he
  cases hrep with
  | @cons id _ _ _ hone hnil =>
      cases hnil
      -- the conflict stands where it was proposed, which is what the decision is known
      -- by
      obtain ⟨c, hat, htype⟩ := hone.exists_conflictAt
        (hids id (List.mem_singleton_self id)) rfl
      obtain ⟨c', ha, -, hs, -, ⟨w, hw, hkind, hnode, -⟩, -⟩ := hone
      have hc : op.conflict? id = some c' := by
        rw [Operation.conflict?, ha]
        rfl
      cases hat.conflict?.symm.trans hc
      have hdecision := hop _ _ _ hat
      cases hr : decide (c.resolution = .applySource) with
      -- decided for the source, so it is active and its turn comes
      | true =>
          have happly := of_decide_eq_true hr
          obtain ⟨l', hrun, hl', hentity, hframe⟩ := of_puts ha
            (by rw [happly]; rfl) (h _ _ _ w l htype hs hw hkind hnode hl he)
          refine ⟨l', hrun, hl', ⟨_, hdecision, ?_⟩, hframe⟩
          rw [hentity, if_pos happly]
      -- not decided for the source, so it is not active and nothing is due
      | false =>
          have happly := of_decide_eq_false hr
          have hactive : c.resolution.appliesSource = false :=
            Bool.eq_false_iff.2 (mt Resolution.appliesSource_iff.1 happly)
          have hdue : op.due [id] = [] := by
            simp [Operation.due, ha, hactive]
          refine ⟨l, ?_, hl, ⟨_, hdecision, ?_⟩, fun _ _ => rfl⟩
          · rw [hdue]
            exact .nil
          · rw [he, if_neg happly]

end Turns

end SceneMerge
