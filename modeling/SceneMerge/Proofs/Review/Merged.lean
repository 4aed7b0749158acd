/-
What becomes of every entity. `Merged` says it by the three versions of the
entity and the decisions on conflicts, and the proposals for an entity come
to just that (`turns_block`). Blocks of different entities do not disturb
one another, so it holds of all of them after the actions of a merge were
run (`runs_threeWay`); an entity without a block is as the target has it,
which is what becomes of what the source left alone.
-/
import SceneMerge.Proofs.Review.Parts

namespace SceneMerge

-- =========================================================== specification

/-- Both absent, or semantically equal. -/
def Alike : Option Entity → Option Entity → Prop :=
  Option.Rel fun a b => a.semanticallyEqual b = true

/-- What becomes of the entity `n`: it is chosen as a whole where one of the
versions does not have it, and key by key where all three do. -/
structure Merged (base source target : Snapshot)
    (decision : NodePath → Resolution → Prop) (n : EntityName)
    (e? : Option Entity) : Prop where
  unchanged : Alike (source.entity? n) (base.entity? n) → e? = target.entity? n
  whole : base.entity? n = none ∨ source.entity? n = none
      ∨ target.entity? n = none →
    Chosen Alike (decision (.entity n)) (base.entity? n) (source.entity? n)
      (target.entity? n) e?
  parts : ∀ b s t, base.entity? n = some b → source.entity? n = some s →
    target.entity? n = some t →
    ∃ e, e? = some e ∧ ∀ key, Chosen Eq (decision (.keyValue n key))
      (b.value? key) (s.value? key) (t.value? key) (e.value? key)

variable {base source target : Snapshot} {n : EntityName}
  {decision : NodePath → Resolution → Prop} {e? : Option Entity}

/-- Where one does not have it, the entity is chosen as a whole. -/
theorem Merged.of_whole
    (habsent : base.entity? n = none ∨ source.entity? n = none
      ∨ target.entity? n = none)
    (h : Chosen Alike (decision (.entity n)) (base.entity? n)
      (source.entity? n) (target.entity? n) e?) :
    Merged base source target decision n e? where
  unchanged := h.kept
  whole _ := h
  parts := by
    intro b s t hb hs ht
    rw [hb, hs, ht] at habsent
    simp at habsent

/-- What the source left alone is as the target has it. -/
theorem Merged.of_alike (h : Alike (source.entity? n) (base.entity? n)) :
    Merged base source target decision n (target.entity? n) where
  unchanged _ := rfl
  whole _ := .of_kept h
  parts := by
    intro b s t hb hs ht
    rw [hb, hs, Alike, Option.rel_some_some] at h
    exact ⟨t, ht, fun key =>
      .of_kept (Entity.value?_of_semanticallyEqual h key)⟩

/-- Where all three have it, it is chosen key by key. -/
theorem Merged.of_parts {b s t e : Entity} (hb : base.entity? n = some b)
    (hs : source.entity? n = some s) (ht : target.entity? n = some t)
    (hne : b.semanticallyEqual s = false)
    (h : ∀ key, Chosen Eq (decision (.keyValue n key)) (b.value? key)
      (s.value? key) (t.value? key) (e.value? key)) :
    Merged base source target decision n (some e) where
  unchanged := by
    intro halike
    rw [hb, hs, Alike, Option.rel_some_some, Entity.semanticallyEqual_comm,
      hne] at halike
    cases halike
  whole := by
    intro habsent
    simp [hb, hs, ht] at habsent
  parts := by
    intro b' s' t' hb' hs' ht'
    cases hb.symm.trans hb'
    cases hs.symm.trans hs'
    cases ht.symm.trans ht'
    exact ⟨e, rfl, h⟩

/-- Once all keys that the source changed are merged, all keys are. -/
theorem KeysMerged.chosen_all {b s t e : Entity}
    (h : KeysMerged decision n b s t
      ((b.keyValueChanges s).map KeyValueChange.key) t e) (key : String) :
    Chosen Eq (decision (.keyValue n key)) (b.value? key) (s.value? key)
      (t.value? key) (e.value? key) := by
  by_cases hkey : s.value? key = b.value? key
  · have hnone : key ∉ (b.keyValueChanges s).map KeyValueChange.key := by
      intro hmem
      obtain ⟨c, hc, rfl⟩ := List.mem_map.1 hmem
      exact (KeyValues.mem_changes.1 hc).2.2 hkey.symm
    rw [h.others key hnone]
    exact .of_kept hkey
  · obtain ⟨c, hc, rfl⟩ := KeyValues.exists_change (Ne.symm hkey)
    exact h.chosen _ (List.mem_map_of_mem hc)

/-- Nothing is listed exactly about what the source left alone. -/
theorem Snapshot.deltaOf?_eq_none :
    base.deltaOf? source n = none ↔ Alike (source.entity? n) (base.entity? n) := by
  unfold Snapshot.deltaOf?
  cases hb : base.entity? n with
  | none => cases source.entity? n <;> simp [Alike]
  | some b =>
      cases hs : source.entity? n with
      | none => simp [Alike]
      | some s =>
          rw [Alike, Option.rel_some_some, Entity.semanticallyEqual_comm]
          exact Snapshot.delta?_eq_none hb hs

-- ============================================================== one entity

namespace Proposal

variable {op : Operation} {ps : List Proposal} {b s t e : Entity}

/-- What becomes of an entity that all three have. -/
theorem turns_parts (hop : op.Decides decision)
    (hb : base.entity? n = some b) (hs : source.entity? n = some s)
    (ht : target.entity? n = some t) (hne : b.semanticallyEqual s = false) :
    Turns op n (some t) (parts target n b s t)
      (Merged base source target decision n) := by
  refine (turns_keyValues hop (b.keyValueChanges s) (fun _ h => h)
    KeyValues.changes_nodup fun _ _ => rfl).append fun x hx => ?_
  obtain ⟨e, rfl, hkeys⟩ := hx
  -- keys come first, and children are still those of the target
  rw [flatMap_child]
  have hprint : ∀ key node, ChildChange.removed key node
      ∈ (b.childChanges s).filter (survives (b.childChanges t)) →
      node.fingerprint = key.fingerprint := by
    intro key node h
    have hmem := List.mem_of_mem_filter h
    exact (Matching.of_mem_onlyLeft (Entity.mem_childChanges_removed.1 hmem)).2.2
  have hprints : e.fingerprints = t.fingerprints := by
    rw [Entity.fingerprints, hkeys.children]
    rfl
  refine Turns.imp (turns_children _ hprint fun f => ?_) fun x hx => ?_
  · rw [hprints]
    exact count_removed_le b s t f
  · obtain ⟨e', rfl, hvalues⟩ := hx
    refine .of_parts hb hs ht hne fun key => ?_
    have hvalue : e'.value? key = e.value? key := by
      rw [Entity.value?, hvalues]
      rfl
    rw [hvalue]
    exact hkeys.chosen_all key

/-- A conflict about two additions puts the source's entity in place of the
target's. -/
theorem puts_addEntity_conflict {id : ActionId} {a w : Action} {c : Conflict}
    {l : LiveScene} (htype : c.type = .settingKeyToDifferentValue)
    (hw : op.action? c.source = some w) (hkind : w.kind = .addEntity s)
    (hl : l.Open) : Puts (Performed.conflict op id a c) l s.name (some s) := by
  rw [Performed.conflict_replacement hw htype hkind]
  exact (Performed.puts_replacement hl s).adaptExcept _

/-- A conflict about a removal removes the target's entity. -/
theorem puts_removeEntity_conflict {id : ActionId} {a w : Action} {c : Conflict}
    {l : LiveScene} (htype : c.type = .removalOfModifiedEntity)
    (hw : op.action? c.source = some w) (hkind : w.kind = .removeEntity t)
    (hl : l.Open) (he : l.scene.entity? t.name = some e) :
    Puts (Performed.conflict op id a c) l t.name none := by
  rw [Performed.conflict_plain hw (by simp [htype]) (by simp [htype])]
  refine Performed.puts_plain (fun h => ?_) ?_
  · rw [Action.type, hkind] at h
    cases h
  · rw [hkind]
    exact (Performed.puts_removal hl he).map _

/-- A conflict about an entity that the target removed brings the source's
back. -/
theorem puts_revival {id : ActionId} {a w : Action} {c : Conflict}
    {l : LiveScene} (htype : c.type = .modificationOfRemovedEntity)
    (hs : c.sourceEntity? = some s) (hw : op.action? c.source = some w)
    (hentity : w.entity = s.name) (hl : l.Open)
    (he : l.scene.entity? s.name = none) :
    Puts (Performed.conflict op id a c) l s.name (some s) := by
  have hgone : l.scene.contains w.entity = false := by
    rw [hentity, Scene.contains, he]
    rfl
  exact Puts.congr (Performed.conflict_insert hw htype hs hgone)
    (((puts_insertEntity hl he).adaptExcept _).map _)

/-- What becomes of an entity that both sides added in versions that are
unlike. -/
theorem turns_addedUnlike (hop : op.Decides decision) {target? : Option Action}
    {s? t? : Option Entity} (hb : base.entity? n = none)
    (hs : source.entity? n = some s) (ht : target.entity? n = some t)
    (hne : s.semanticallyEqual t = false) :
    Turns op n (target.entity? n)
      [.conflict .settingKeyToDifferentValue (.addEntity s) target? s? t?]
      (Merged base source target decision n) := by
  have hn := Snapshot.entity?_name hs
  subst hn
  refine Turns.imp (.conflict hop (some s)
    fun id a c w l htype _ hw hkind _ hl _ =>
      puts_addEntity_conflict htype hw hkind hl) fun x hx => ?_
  rw [Entity.semanticallyEqual_comm] at hne
  refine .of_whole (.inl hb) ?_
  rw [hb, hs, ht] at *
  exact .of_decision (by simp [Alike]) (by simp [Alike]) (by simp [Alike, hne])
    hx

/-- What becomes of an entity that the source removed and the target
changed. -/
theorem turns_removedModified (hop : op.Decides decision)
    {target? : Option Action} {s? t? : Option Entity}
    (hb : base.entity? n = some b) (hs : source.entity? n = none)
    (ht : target.entity? n = some t) (hne : b.semanticallyEqual t = false) :
    Turns op n (target.entity? n)
      [.conflict .removalOfModifiedEntity (.removeEntity t) target? s? t?]
      (Merged base source target decision n) := by
  have hn := Snapshot.entity?_name ht
  subst hn
  refine Turns.imp (.conflict hop none
    fun id a c w l htype _ hw hkind _ hl he =>
      puts_removeEntity_conflict htype hw hkind hl (he.trans ht)) fun x hx => ?_
  rw [Entity.semanticallyEqual_comm] at hne
  refine .of_whole (.inr (.inl hs)) ?_
  rw [hb, hs, ht] at *
  exact .of_decision (by simp [Alike]) (by simp [Alike, hne]) (by simp [Alike])
    hx

/-- What becomes of an entity that the target removed and the source
changed. -/
theorem turns_modifiedRemoved (hop : op.Decides decision) {a : Action}
    {target? : Option Action} {t? : Option Entity}
    (hb : base.entity? n = some b) (hs : source.entity? n = some s)
    (ht : target.entity? n = none) (hne : b.semanticallyEqual s = false)
    (hpart : PartChange b s n a) :
    Turns op n (target.entity? n)
      [.conflict .modificationOfRemovedEntity a target? (some s) t?]
      (Merged base source target decision n) := by
  have hn := Snapshot.entity?_name hs
  have hentity := (sideChange_part hb hs hpart).2
  subst hn
  refine Turns.imp (.conflict hop (some s)
    fun id a c w l htype hs? hw _ hnode hl he =>
      puts_revival htype hs? hw ?_ hl (he.trans ht)) fun x hx => ?_
  · rw [Action.entity, hnode]
    exact hentity
  · rw [Entity.semanticallyEqual_comm] at hne
    refine .of_whole (.inr (.inr ht)) ?_
    rw [Operation.conflictNode, hentity] at hx
    rw [hb, hs, ht] at *
    exact .of_decision (by simp [Alike, hne]) (by simp [Alike])
      (by simp [Alike]) hx

/-- The proposals for an entity make of it what is to become of it. -/
theorem turns_block (hop : op.Decides decision)
    (h : Block base source target n ps) :
    Turns op n (target.entity? n) ps (Merged base source target decision n) := by
  cases h with
  -- one case for each of what an entity can be in the three versions
  | @add s hb hs ht =>
      have hn := Snapshot.entity?_name hs
      subst hn
      rw [ht]
      refine Turns.imp (.action (some s) fun id l hl he => ?_) fun x hx => ?_
      · exact Performed.puts_plain nofun ((puts_insertEntity hl he).map _)
      · subst hx
        refine .of_whole (.inl hb) ?_
        rw [hb, hs, ht]
        exact .of_made (by simp [Alike]) .none (by simp [Alike])
  | addedAlike hb hs ht heq =>
      refine .nil (.of_whole (.inl hb) ?_)
      rw [Entity.semanticallyEqual_comm] at heq
      rw [hb, hs, ht]
      exact .of_same (by simp [Alike]) (.some heq)
  | addedUnlike hb hs ht hne => exact turns_addedUnlike hop hb hs ht hne
  | removedBoth hb hs ht =>
      refine .nil (.of_whole (.inr (.inl hs)) ?_)
      rw [hb, hs, ht]
      exact .of_same (by simp [Alike]) .none
  | @remove b t hb hs ht heq =>
      have hn := Snapshot.entity?_name ht
      subst hn
      rw [ht]
      refine Turns.imp (.action none fun id l hl he => ?_) fun x hx => ?_
      · exact Performed.puts_plain nofun ((Performed.puts_removal hl he).map _)
      · subst hx
        rw [Entity.semanticallyEqual_comm] at heq
        refine .of_whole (.inr (.inl hs)) ?_
        rw [hb, hs, ht]
        exact .of_made (by simp [Alike]) (.some heq) (by simp [Alike])
  | removedModified hb hs ht hne =>
      exact turns_removedModified hop hb hs ht hne
  | modifiedRemoved hb hs ht hne hpart =>
      exact turns_modifiedRemoved hop hb hs ht hne hpart
  | parts hb hs ht hne =>
      rw [ht]
      exact turns_parts hop hb hs ht hne

-- ============================================================ all entities

/-- Blocks of different entities do not disturb one another. -/
theorem runs_about (hop : op.Decides decision) (theirs : SceneDiff)
    (cs : List EntityChange)
    (hcs : ∀ c ∈ cs, Block base source target c.name (about theirs target c))
    (hnames : (cs.map (·.name)).Nodup) :
    ∀ ids, List.Forall₂ op.Represents ids (cs.flatMap (about theirs target)) →
      (∀ id ∈ ids, id ∈ op.order) → ∀ l : LiveScene, l.Open →
      (∀ c ∈ cs, l.scene.entity? c.name = target.entity? c.name) →
      ∃ l', Runs op (op.due ids) l l' ∧ l'.Open
        ∧ (∀ c ∈ cs, Merged base source target decision c.name
          (l'.scene.entity? c.name))
        ∧ ∀ x, (∀ c ∈ cs, x ≠ c.name) →
          l'.scene.entity? x = l.scene.entity? x := by
  induction cs with
  | nil =>
      intro ids hrep _ l hl _
      cases hrep
      exact ⟨l, .nil, hl, by simp, fun _ _ => rfl⟩
  | cons c cs ih =>
      intro ids hrep hids l hl he
      rw [List.map_cons, List.nodup_cons] at hnames
      -- the first block leaves the entities of the others as the target has them, which
      -- is where their blocks begin
      have hfresh : ∀ c' ∈ cs, c'.name ≠ c.name := fun c' hc' heq =>
        hnames.1 (heq ▸ List.mem_map_of_mem hc')
      rw [List.flatMap_cons] at hrep
      rw [← List.take_append_drop (about theirs target c).length ids] at hids ⊢
      obtain ⟨l₁, hrun, hl₁, hmerged, hframe⟩ :=
        turns_block hop (hcs c List.mem_cons_self) _
          (List.forall₂_take_append _ _ _ hrep)
          (fun id hid => hids id (List.mem_append_left _ hid)) l hl
          (he c List.mem_cons_self)
      obtain ⟨l₂, hrun', hl₂, hmerged', hframe'⟩ :=
        ih (fun c' hc' => hcs c' (List.mem_cons_of_mem _ hc')) hnames.2 _
          (List.forall₂_drop_append _ _ _ hrep)
          (fun id hid => hids id (List.mem_append_right _ hid)) l₁ hl₁
          fun c' hc' => by
            rw [hframe _ (hfresh c' hc')]
            exact he c' (List.mem_cons_of_mem _ hc')
      refine ⟨l₂, ?_, hl₂, fun c' hc' => ?_, fun x hx => ?_⟩
      · rw [op.due_append]
        exact hrun.append hrun'
      · rcases List.mem_cons.1 hc' with rfl | hc'
        · rw [hframe' _ fun c'' hc'' => Ne.symm (hfresh c'' hc'')]
          exact hmerged
        · exact hmerged' c' hc'
      · rw [hframe' x fun c' hc' => hx c' (List.mem_cons_of_mem _ hc')]
        exact hframe x (hx c List.mem_cons_self)

/-- Running the actions of a merge on the target makes of every entity what
is to become of it. -/
theorem runs_threeWay (hop : op.Decides decision) {ours theirs : SceneDiff}
    (hb : base.names.Nodup) (hs : source.names.Nodup) (ht : target.names.Nodup)
    (ho : base.changes source = .ok ours)
    (hth : base.changes target = .ok theirs)
    (hlaid : op.LaidOut (threeWay ours theirs target)) {l : LiveScene}
    (hl : l.Open) (he : ∀ n, l.scene.entity? n = target.entity? n) :
    ∃ l', Runs op (op.due op.order) l l' ∧ l'.Open
      ∧ ∀ n, Merged base source target decision n (l'.scene.entity? n) := by
  obtain ⟨l', hrun, hl', hmerged, hframe⟩ :=
    runs_about hop theirs ours.changes
      (fun c hc => block_about hb hs ht ho hth hc)
      (Snapshot.changes_names_nodup hb hs ho) _ hlaid.represents
      (fun _ hid => hid) l hl fun c _ => he c.name
  refine ⟨l', hrun, hl', fun n => ?_⟩
  -- what the source left alone has no block, and is left as the target has it
  cases hd : base.deltaOf? source n with
  | some d =>
      have hc := (Snapshot.mem_changes hb hs ho (c := ⟨n, d⟩)).2 hd
      exact hmerged _ hc
  | none =>
      have hnone : ∀ c ∈ ours.changes, n ≠ c.name := by
        rintro c hc rfl
        rw [(Snapshot.mem_changes hb hs ho).1 hc] at hd
        cases hd
      rw [hframe n hnone, he]
      exact .of_alike (Snapshot.deltaOf?_eq_none.1 hd)

end Proposal

end SceneMerge
