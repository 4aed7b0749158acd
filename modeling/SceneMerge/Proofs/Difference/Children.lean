/-
The changes of children, counted by fingerprint. Of each fingerprint the
matching leaves over on either side exactly what that side has more of
than the other (`count_onlyLeft`, `count_onlyRight`), so nothing changes
between children that are the same in another order
(`childChanges_eq_nil`).

# Why the counts come out

Neither pass of the matching touches the keys of the left side, and after
both of them each right child is the partner of a left one of the same
fingerprint or is left (`secondPass_assigned`). That leaves the sums. The
second pass leaves a left child without a partner only if no free right
child has its fingerprint (`byContent_maximal`), so of the two remainders
one is empty.
-/
import SceneMerge.Difference.Part
import SceneMerge.Proofs.Content.Snapshot
import SceneMerge.Proofs.Difference.Pairing

namespace SceneMerge

-- ================================================================== keys

namespace ChildKey

/-- Numbering adds the occurrences and leaves the fingerprints. -/
theorem map_fingerprint_numberAfter (fs : List Fingerprint) :
    ∀ before, (numberAfter before fs).map (·.fingerprint) = fs := by
  induction fs with
  | nil => intro before; rfl
  | cons f fs ih => intro before; simp [numberAfter, ih]

/-- Numbers go on from what comes before. -/
theorem occurrence_numberAfter (fs : List Fingerprint) :
    ∀ before, ∀ k ∈ numberAfter before fs,
      before.count k.fingerprint ≤ k.occurrence
        ∧ k.occurrence < before.count k.fingerprint + fs.count k.fingerprint := by
  induction fs with
  | nil => intro before k hk; cases hk
  | cons f fs ih =>
      intro before k hk
      rcases List.mem_cons.1 hk with rfl | hk
      · simp
      · have := ih (f :: before) k hk
        simp only [List.count_cons] at this ⊢
        omega

/-- Equal fingerprints get different numbers, since each is counted among those that
come before it. -/
theorem nodup_numberAfter (fs : List Fingerprint) :
    ∀ before, (numberAfter before fs).Nodup := by
  induction fs with
  | nil => intro before; exact .nil
  | cons f fs ih =>
      intro before
      refine List.nodup_cons.2 ⟨fun hmem => ?_, ih _⟩
      have := (occurrence_numberAfter fs (f :: before) _ hmem).1
      simp only [List.count_cons_self] at this
      omega

/-- The keys of one fingerprint are counted like the fingerprints of the keys. -/
theorem countP_fingerprint (f : Fingerprint) (keys : List ChildKey) :
    keys.countP (fun key => key.fingerprint == f)
      = (keys.map (·.fingerprint)).count f := by
  rw [List.count, List.countP_map]
  rfl

/-- The keys of one fingerprint are numbered without gaps. -/
theorem filter_numberAfter (f : Fingerprint) (fs : List Fingerprint) :
    ∀ before, (numberAfter before fs).filter (·.fingerprint == f)
      = (List.range' (before.count f) (fs.count f)).map (⟨f, ·⟩) := by
  induction fs with
  | nil => intro before; rfl
  | cons g fs ih =>
      intro before
      rw [numberAfter, List.filter_cons, ih]
      by_cases hg : g = f
      · subst hg
        rw [if_pos (beq_self_eq_true g), List.count_cons_self, List.count_cons_self,
          List.range'_succ, List.map_cons]
      · rw [if_neg (by simpa using hg), List.count_cons_of_ne hg, List.count_cons_of_ne hg]

end ChildKey

/-- The children of an entity have distinct keys. -/
theorem Entity.nodup_childKeys (e : Entity) : e.childKeys.Nodup :=
  ChildKey.nodup_numberAfter _ _

/-- The keys name the fingerprints of the children, in their order. -/
theorem Entity.map_fingerprint_childKeys (e : Entity) :
    e.childKeys.map (·.fingerprint) = e.fingerprints :=
  ChildKey.map_fingerprint_numberAfter _ _

/-- There is one key for each child. -/
theorem Entity.length_childKeys (e : Entity) :
    e.childKeys.length = e.children.length := by
  have := congrArg List.length e.map_fingerprint_childKeys
  simpa [fingerprints] using this

namespace Matching

/-- The fingerprints of the left children that got a partner. -/
def paired (ps : List Pairing) : List Fingerprint :=
  (ps.filter (·.partner?.isSome)).map (·.key.fingerprint)

/-- The fingerprints of the left children that got none. -/
def loose (ps : List Pairing) : List Fingerprint :=
  (ps.filter (·.partner?.isNone)).map (·.key.fingerprint)

@[simp]
theorem paired_cons (p : Pairing) (ps : List Pairing) :
    paired (p :: ps)
      = if p.partner?.isSome then p.key.fingerprint :: paired ps
        else paired ps := by
  unfold paired
  rw [List.filter_cons]
  split <;> simp

@[simp]
theorem loose_cons (p : Pairing) (ps : List Pairing) :
    loose (p :: ps)
      = if p.partner?.isNone then p.key.fingerprint :: loose ps
        else loose ps := by
  unfold loose
  rw [List.filter_cons]
  split <;> simp

/-- Every left child got a partner or did not. -/
theorem count_paired_add_count_loose (f : Fingerprint) (ps : List Pairing) :
    (paired ps).count f + (loose ps).count f
      = ((lefts ps).map (·.1.fingerprint)).count f := by
  induction ps with
  | nil => rfl
  | cons p ps ih =>
      cases hp : p.partner? with
      | none => simp [lefts, List.count_cons, hp] at ih ⊢; omega
      | some c => simp [lefts, List.count_cons, hp] at ih ⊢; omega

/-- The partners that pairings have, by their fingerprints. -/
theorem paired_eq {τ : Type} {child : τ → Candidate} {ps : List Pairing}
    {partners : List (Option τ)} (h : List.Forall₂ (Placed child) ps partners) :
    paired ps = partners.reduceOption.map fun t => (child t).1 := by
  induction h with
  | nil => rfl
  | @cons p tag? ps partners hone _ ih =>
      cases tag? with
      | none => simp [hone.partner, ih]
      | some t => simp [hone.partner, hone.alike t rfl, ih]

/-- Every right child became a partner or is left. -/
theorem Assigned.count {τ : Type} {child : τ → Candidate} {tags free : List τ}
    {ps : List Pairing} {spare : List Candidate} {partners : List (Option τ)}
    (h : Assigned child tags ps spare partners free) (f : Fingerprint) :
    (paired ps).count f + (spare.map (·.1)).count f
      = (tags.map fun t => (child t).1).count f := by
  have hall := (h.shared.map fun t => (child t).1).count_eq f
  rw [List.map_append, List.count_append] at hall
  rw [paired_eq h.placed, h.spared, List.map_map]
  exact hall

-- ========================================================== both passes

/-- The child at a position, with its fingerprint. -/
def candidateAt (e : Entity) (i : Fin e.children.length) : Candidate :=
  (e.children[i].fingerprint, e.children[i])

/-- The children of the right side, with their fingerprints, are listed by their
positions. Positions are what the passes are followed by, since equal children cannot be
told apart otherwise. -/
theorem zip_eq_map_candidateAt (e : Entity) :
    e.fingerprints.zip e.children = (List.finRange e.children.length).map (candidateAt e) := by
  rw [Entity.fingerprints, ← List.map_prod_right_eq_zip]
  refine List.ext_getElem (by simp) fun i _ _ => ?_
  simp [candidateAt]

section ofChildren

variable (a b : Entity)

/-- What the first pass makes of the children of two entities. -/
private def firstPass : List Pairing × List Candidate :=
  inPlace (a.childKeys.zip a.children) (b.fingerprints.zip b.children)

/-- What the second pass makes of what the first one leaves. -/
def secondPass : List Pairing × List Candidate :=
  byContent (firstPass a b).1 (firstPass a b).2

/-- Neither pass adds, drops or reorders what is on the left. -/
theorem lefts_secondPass :
    lefts (secondPass a b).1 = a.childKeys.zip a.children := by
  rw [secondPass, lefts_byContent, firstPass, lefts_inPlace]

/-- After both passes every right child, known by its position, is a
partner or is left, and children that agree at the same position are
partners. -/
theorem secondPass_assigned : ∃ partners free,
    Assigned (candidateAt b) (List.finRange b.children.length) (secondPass a b).1
      (secondPass a b).2 partners free
    ∧ free.Sublist (List.finRange b.children.length)
    ∧ ∀ (i : Nat) (h : i < b.children.length) x,
      (a.childKeys.zip a.children)[i]? = some x →
      b.children[i].fingerprint = x.1.fingerprint →
      partners[i]? = some (some ⟨i, h⟩) := by
  obtain ⟨partners, free, hfirst, hfree, hplace⟩ :=
    inPlace_assigned (a.childKeys.zip a.children) (List.finRange b.children.length)
  rw [← zip_eq_map_candidateAt] at hfirst
  obtain ⟨partners', free', hsecond, hfree', hkept⟩ :=
    byContent_assigned _ partners free hfirst.placed
  rw [← hfirst.spared] at hsecond
  refine ⟨partners', free', ⟨hsecond.placed, hsecond.spared,
    hsecond.shared.trans hfirst.shared⟩, hfree'.trans hfree, fun i h x hx halike => ?_⟩
  have hat : (List.finRange b.children.length)[i]? = some ⟨i, h⟩ := by simp [h]
  exact hkept i _ (hplace i x _ hx hat halike)

/-- Children go with their keys, so either gives the fingerprints of the left side. -/
private theorem map_fingerprint_zip :
    (a.childKeys.zip a.children).map (·.1.fingerprint) = a.fingerprints := by
  have h : (a.childKeys.zip a.children).map (·.1) = a.childKeys :=
    List.map_fst_zip (Nat.le_of_eq a.length_childKeys)
  calc (a.childKeys.zip a.children).map (·.1.fingerprint)
      = ((a.childKeys.zip a.children).map (·.1)).map (·.fingerprint) := by
        rw [List.map_map]
        rfl
    _ = a.fingerprints := by rw [h, a.map_fingerprint_childKeys]

/-- Of each fingerprint the right side has as many as became partners and as are left.
-/
private theorem count_secondPass (f : Fingerprint) :
    (paired (secondPass a b).1).count f + ((secondPass a b).2.map (·.1)).count f
      = b.fingerprints.count f := by
  obtain ⟨partners, free, h, -⟩ := secondPass_assigned a b
  have hprints : (List.finRange b.children.length).map (fun j => (candidateAt b j).1)
      = b.fingerprints := by
    rw [← Function.comp_def, ← List.map_map, ← zip_eq_map_candidateAt]
    exact List.map_fst_zip (by simp [Entity.fingerprints])
  rw [h.count, hprints]

/-- Nothing is left over on both sides. -/
private theorem secondPass_maximal (f : Fingerprint) :
    (loose (secondPass a b).1).count f = 0
      ∨ ((secondPass a b).2.map (·.1)).count f = 0 := by
  by_cases hf : f ∈ loose (secondPass a b).1
  · right
    rw [List.count_eq_zero]
    intro hfree
    obtain ⟨p, hp, rfl⟩ := List.mem_map.1 hf
    obtain ⟨hp, hnone⟩ := List.mem_filter.1 hp
    obtain ⟨c, hc, hprint⟩ := List.mem_map.1 hfree
    exact byContent_maximal _ _ p hp (by simpa using hnone) c hc hprint
  · exact .inl (List.count_eq_zero.2 hf)

/-- The left side has as many children of a fingerprint as got a partner and as did not.
-/
private theorem count_lefts (f : Fingerprint) :
    (paired (secondPass a b).1).count f + (loose (secondPass a b).1).count f
      = a.fingerprints.count f := by
  rw [count_paired_add_count_loose, lefts_secondPass, map_fingerprint_zip]

-- ============================================================== left over

/-- The matching, read off what the second pass leaves: pairs, the left ones without a
partner, and the right ones that are free, numbered on from the left. -/
theorem ofChildren_eq :
    ofChildren a b = {
      both := (secondPass a b).1.filterMap fun p =>
        p.partner?.map (p.key, p.node, ·)
      onlyLeft := ((secondPass a b).1.filter (·.partner?.isNone)).map fun p =>
        (p.key, p.node)
      onlyRight := (ChildKey.numberAfter a.fingerprints
          ((secondPass a b).2.map (·.1))).zip ((secondPass a b).2.map (·.2)) } :=
  rfl

/-- Of each fingerprint as many children are matched as both sides have. -/
theorem count_both (f : Fingerprint) :
    ((ofChildren a b).both.map (·.1.fingerprint)).count f
      = min (a.fingerprints.count f) (b.fingerprints.count f) := by
  have hpaired : (ofChildren a b).both.map (·.1.fingerprint)
      = paired (secondPass a b).1 := by
    rw [ofChildren_eq, paired]
    induction (secondPass a b).1 with
    | nil => rfl
    | cons p ps ih => cases hp : p.partner? <;> simp [hp] at ih ⊢ <;> exact ih
  have hleft := count_lefts a b f
  have hright := count_secondPass a b f
  have hmax := secondPass_maximal a b f
  rw [hpaired]
  omega

/-- Of each fingerprint the left side is left with what it has more of. -/
theorem count_onlyLeft (f : Fingerprint) :
    ((ofChildren a b).onlyLeft.map (·.1.fingerprint)).count f
      = a.fingerprints.count f - b.fingerprints.count f := by
  have hloose : (ofChildren a b).onlyLeft.map (·.1.fingerprint)
      = loose (secondPass a b).1 := by
    rw [ofChildren_eq, List.map_map]
    rfl
  have hleft := count_lefts a b f
  have hright := count_secondPass a b f
  have hmax := secondPass_maximal a b f
  rw [hloose]
  omega

/-- The keys of the right side that are left over go with the children
that are. -/
private theorem onlyRight_keys :
    (ofChildren a b).onlyRight.map (·.1)
      = ChildKey.numberAfter a.fingerprints ((secondPass a b).2.map (·.1)) := by
  rw [ofChildren_eq]
  refine List.map_fst_zip (Nat.le_of_eq ?_)
  have := congrArg List.length (ChildKey.map_fingerprint_numberAfter
    ((secondPass a b).2.map (·.1)) a.fingerprints)
  simpa using this

/-- The nodes that are left over on the right are those of the candidates that are. -/
theorem onlyRight_nodes :
    (ofChildren a b).onlyRight.map (·.2) = (secondPass a b).2.map (·.2) := by
  have hnumbered := congrArg List.length (ChildKey.map_fingerprint_numberAfter
    ((secondPass a b).2.map (·.1)) a.fingerprints)
  rw [ofChildren_eq]
  refine List.map_snd_zip ?_
  simp at hnumbered ⊢
  omega

/-- The right side leaves over what it has more of than the left. -/
theorem count_onlyRight (f : Fingerprint) :
    ((ofChildren a b).onlyRight.map (·.1.fingerprint)).count f
      = b.fingerprints.count f - a.fingerprints.count f := by
  have hfree : (ofChildren a b).onlyRight.map (·.1.fingerprint)
      = (secondPass a b).2.map (·.1) := by
    calc (ofChildren a b).onlyRight.map (·.1.fingerprint)
        = ((ofChildren a b).onlyRight.map (·.1)).map (·.fingerprint) := by
          rw [List.map_map]
          rfl
      _ = (secondPass a b).2.map (·.1) := by
          rw [onlyRight_keys, ChildKey.map_fingerprint_numberAfter]
  have hleft := count_lefts a b f
  have hright := count_secondPass a b f
  have hmax := secondPass_maximal a b f
  rw [hfree]
  omega

/-- The right children that are left over are numbered on from the left ones. -/
theorem filter_onlyRight (f : Fingerprint) :
    ((ofChildren a b).onlyRight.map (·.1)).filter (·.fingerprint == f)
      = (List.range' (a.fingerprints.count f)
          (b.fingerprints.count f - a.fingerprints.count f)).map (⟨f, ·⟩) := by
  have hprints := count_onlyRight a b f
  rw [← Function.comp_def, ← List.map_map, onlyRight_keys,
    ChildKey.map_fingerprint_numberAfter] at hprints
  rw [onlyRight_keys, ChildKey.filter_numberAfter, hprints]

/-- What is left over on the left stands in the order of the left side. -/
theorem onlyLeft_sublist :
    (ofChildren a b).onlyLeft.Sublist (a.childKeys.zip a.children) := by
  rw [ofChildren_eq, ← lefts_secondPass a b]
  exact List.filter_sublist.map _

variable {a b}

/-- Keys that go with children agree with them on the fingerprint. -/
private theorem fingerprint_of_mem_zip {ks : List ChildKey} :
    ∀ {cs : List ChildNode},
      ks.map (·.fingerprint) = cs.map ChildNode.fingerprint →
      ∀ {key node}, (key, node) ∈ ks.zip cs →
        node.fingerprint = key.fingerprint := by
  induction ks with
  | nil => intro cs _ key node hx; cases hx
  | cons k ks ih =>
      intro cs h key node hx
      cases cs with
      | nil => cases hx
      | cons c cs =>
          rw [List.map_cons, List.map_cons, List.cons.injEq] at h
          rw [List.zip_cons_cons, List.mem_cons, Prod.mk.injEq] at hx
          rcases hx with ⟨rfl, rfl⟩ | hx
          · exact h.1.symm
          · exact ih h.2 hx

/-- What is left over on the left is a child of the left entity, under its own key. -/
theorem of_mem_onlyLeft {key : ChildKey} {node : ChildNode}
    (h : (key, node) ∈ (ofChildren a b).onlyLeft) :
    key ∈ a.childKeys ∧ node ∈ a.children
      ∧ node.fingerprint = key.fingerprint := by
  have hmem := (onlyLeft_sublist a b).subset h
  have hkeys : a.childKeys.map (·.fingerprint)
      = a.children.map ChildNode.fingerprint := a.map_fingerprint_childKeys
  have hzip := List.of_mem_zip hmem
  exact ⟨hzip.1, hzip.2, fingerprint_of_mem_zip hkeys hmem⟩

/-- The free right children are children of the right entity with their
fingerprints. -/
private theorem of_mem_secondPass {c : Candidate} (h : c ∈ (secondPass a b).2) :
    c.2 ∈ b.children ∧ c.1 = c.2.fingerprint := by
  obtain ⟨partners, free, hassigned, -⟩ := secondPass_assigned a b
  rw [hassigned.spared] at h
  obtain ⟨j, -, rfl⟩ := List.mem_map.1 h
  exact ⟨List.getElem_mem j.isLt, rfl⟩

/-- What is left over on the right is a child of the right entity, under a key that the
left one does not have. -/
theorem of_mem_onlyRight {key : ChildKey} {node : ChildNode}
    (h : (key, node) ∈ (ofChildren a b).onlyRight) :
    node ∈ b.children ∧ node.fingerprint = key.fingerprint
      ∧ a.fingerprints.count key.fingerprint ≤ key.occurrence := by
  rw [ofChildren_eq] at h
  simp only at h
  have hkeys : (ChildKey.numberAfter a.fingerprints
      ((secondPass a b).2.map (·.1))).map (·.fingerprint)
        = ((secondPass a b).2.map (·.2)).map ChildNode.fingerprint := by
    rw [ChildKey.map_fingerprint_numberAfter, List.map_map]
    exact List.map_congr_left fun c hc => (of_mem_secondPass hc).2
  have hzip := List.of_mem_zip h
  obtain ⟨c, hc, hnode⟩ := List.mem_map.1 hzip.2
  refine ⟨?_, fingerprint_of_mem_zip hkeys h,
    (ChildKey.occurrence_numberAfter _ _ _ hzip.1).1⟩
  rw [← hnode]
  exact (of_mem_secondPass hc).1

/-- The keys that are left over on the left are distinct. -/
theorem nodup_onlyLeft : ((ofChildren a b).onlyLeft.map (·.1)).Nodup := by
  have hsub := (onlyLeft_sublist a b).map (·.1)
  rw [List.map_fst_zip (Nat.le_of_eq a.length_childKeys)] at hsub
  exact a.nodup_childKeys.sublist hsub

/-- The keys that are left over on the right are distinct, being numbered on from the
left ones. -/
theorem nodup_onlyRight : ((ofChildren a b).onlyRight.map (·.1)).Nodup := by
  rw [onlyRight_keys]
  exact ChildKey.nodup_numberAfter _ _

end ofChildren

end Matching

-- =============================================================== children

section childChanges

variable {a b : Entity} {key : ChildKey} {node : ChildNode}

/-- A child is removed if it is left over on the left. -/
theorem Entity.mem_childChanges_removed :
    .removed key node ∈ a.childChanges b
      ↔ (key, node) ∈ (Matching.ofChildren a b).onlyLeft := by
  unfold childChanges
  simp

/-- A child is added if it is left over on the right. -/
theorem Entity.mem_childChanges_added :
    .added key node ∈ a.childChanges b
      ↔ (key, node) ∈ (Matching.ofChildren a b).onlyRight := by
  unfold childChanges
  simp

/-- What is added is numbered after all that there was, and what is removed is
not. -/
theorem Entity.isAddition_of_mem {c : ChildChange} (hc : c ∈ a.childChanges b) :
    c.isAddition = decide (a.fingerprints.count c.key.fingerprint ≤ c.key.occurrence) := by
  cases c with
  | added key node =>
      have hafter := (Matching.of_mem_onlyRight (mem_childChanges_added.1 hc)).2.2
      exact (decide_eq_true hafter).symm
  | removed key node =>
      have hkey := (Matching.of_mem_onlyLeft (mem_childChanges_removed.1 hc)).1
      have hbefore := (ChildKey.occurrence_numberAfter a.fingerprints [] key hkey).2
      rw [List.count_nil, Nat.zero_add] at hbefore
      exact (decide_eq_false (Nat.not_le_of_lt hbefore)).symm

end childChanges

/-- What has no fingerprint is nothing. -/
private theorem eq_nil_of_count {l : List (ChildKey × ChildNode)}
    (h : ∀ f, (l.map (·.1.fingerprint)).count f = 0) : l = [] := by
  rw [← List.map_eq_nil_iff (f := fun x => x.1.fingerprint),
    List.eq_nil_iff_forall_not_mem]
  intro f hf
  exact absurd (h f) (Nat.ne_of_gt (List.count_pos_iff.2 hf))

/-- Nothing changes exactly between children that are the same in some
order. -/
theorem Entity.childChanges_eq_nil {a b : Entity} :
    a.childChanges b = [] ↔ a.fingerprints.Perm b.fingerprints := by
  rw [List.perm_iff_count]
  unfold childChanges
  simp only [List.append_eq_nil_iff, List.map_eq_nil_iff]
  -- what is left over is a difference of two counts, on the left and on the right, and
  -- both are nothing only if the counts are equal
  constructor
  · rintro ⟨hl, hr⟩ f
    have hleft := Matching.count_onlyLeft a b f
    have hright := Matching.count_onlyRight a b f
    rw [hl] at hleft
    rw [hr] at hright
    simp only [List.map_nil, List.count_nil] at hleft hright
    omega
  · intro h
    constructor
    · refine eq_nil_of_count fun f => ?_
      rw [Matching.count_onlyLeft, h f, Nat.sub_self]
    · refine eq_nil_of_count fun f => ?_
      rw [Matching.count_onlyRight, h f, Nat.sub_self]

end SceneMerge
