/-
What a scene has come to by what was made of it. Of a live scene that
started out from the target, everything can be told from two lists, the
deeds that were made and the membership changes that were made
(`Progress`): an entity is what the deeds under its name come to, one after
the other, and a membership is as it was changed last, or as the target has
it, except that whoever was removed belongs to nothing.

As long as what was made is part of a plan, the next deed of the plan is
possible (`Progress.possible`). And it does not matter in which order and in
how many passes things were made, only which they were
(`Progress.same`).
-/
import SceneMerge.Proofs.Review.Planned

namespace SceneMerge

open Deed

-- =========================================================== specification

/-- The entities of the scene are what the deeds make of the target's. -/
def Scene.CameOf (s : Scene) (target : Snapshot) (ds : List Deed) : Prop :=
  ∀ n, makeAll (ds.filter (·.name == n)) (target.entity? n) = some (s.entity? n)

/-- The scene came of the target by making `ds` and, at any time in between
at which their entities were there, the changes `made`. -/
structure Progress (target : Snapshot) (ds : List Deed)
    (made : List MembershipChange) (s : Scene) : Prop where
  entities : ∀ n, makeAll (ds.filter (·.name == n)) (target.entity? n)
    = some (s.entity? n)
  pruned : s.metadata.Pruned
  /-- Whoever was removed belongs to nothing. -/
  gone : ∀ g n, .remove n ∈ ds → s.metadata.isMember g n = false
  changed : ∀ c ∈ made, .remove c.entity ∉ ds →
    s.metadata.isMember c.membership c.entity = c.member
  kept : ∀ g n, .remove n ∉ ds → (∀ c ∈ made, c.membership = g → c.entity ≠ n) →
    s.metadata.isMember g n = target.metadata.prune.isMember g n
  /-- Changes are made where their entities are there. -/
  entered : ∀ c ∈ made, .remove c.entity ∉ ds → s.contains c.entity = true

/-- There is a plan for each of the target's entities in `ds`. -/
def Snapshot.Plans (target : Snapshot) (ds : List Deed) : Prop :=
  ∀ n, Plan (target.entity? n) (ds.filter (·.name == n))

/-- The same content, up to the order of entities and of children. -/
structure Scene.Same (s s' : Scene) : Prop where
  names : ∀ n, n ∈ s.names ↔ n ∈ s'.names
  entities : ∀ n e e', s.entity? n = some e → s'.entity? n = some e' →
    e.semanticallyEqual e' = true
  metadata : s.metadata = s'.metadata

-- =============================================================== entities

namespace Scene.CameOf

variable {target : Snapshot} {all ds : List Deed} {s s' : Scene} {d : Deed}

/-- What is left of a plan is possible at any time. -/
theorem possible (h : s.CameOf target ds) (hall : target.Plans all)
    (hsub : (ds ++ [d]).Subperm all) : ∃ e?, d.make (s.entity? d.name) = some e? := by
  obtain ⟨e?, hmake⟩ := (hall d.name).possible (hsub.filter _)
  rw [List.filter_append, makeAll_append, h d.name, Option.bind_some,
    List.filter_cons_of_pos (by simp), makeAll] at hmake
  obtain ⟨e?', hone, -⟩ := Option.bind_eq_some_iff.1 hmake
  exact ⟨e?', hone⟩

/-- One more deed. -/
theorem deed (h : s.CameOf target ds) {e? : Option Entity}
    (hmake : d.make (s.entity? d.name) = some e?)
    (hentity : ∀ x, s'.entity? x = if x = d.name then e? else s.entity? x) :
    s'.CameOf target (ds ++ [d]) := by
  intro n
  rw [List.filter_append, makeAll_append, h n, Option.bind_some, hentity]
  by_cases hn : d.name = n
  · subst hn
    rw [List.filter_cons_of_pos (by simp), if_pos rfl, makeAll, hmake]
    rfl
  · rw [List.filter_cons_of_neg (by simp [hn]), if_neg (Ne.symm hn)]
    rfl

end Scene.CameOf

namespace Progress

variable {target : Snapshot} {all ds ds' : List Deed}
  {made made' : List MembershipChange} {s s' : Scene}

theorem cameOf (h : Progress target ds made s) : s.CameOf target ds := h.entities

-- ================================================================== plans

/-- Whoever was removed is not there. -/
theorem not_contains (h : Progress target ds made s) (hall : target.Plans all)
    (hsub : ds.Subperm all) {n : EntityName} (hn : .remove n ∈ ds) :
    s.entity? n = none := by
  have hmem : Deed.remove n ∈ ds.filter (·.name == n) :=
    List.mem_filter.2 ⟨hn, beq_self_eq_true n⟩
  exact (hall n).removed (hsub.filter _) hmem (h.entities n)

/-- What is left of a plan is possible at any time. -/
theorem possible (h : Progress target ds made s) (hall : target.Plans all)
    {d : Deed} (hsub : (ds ++ [d]).Subperm all) :
    ∃ e?, d.make (s.entity? d.name) = some e? :=
  h.cameOf.possible hall hsub

-- ================================================================== steps

/-- In the beginning nothing was made. -/
theorem start (target : Snapshot) :
    Progress target [] [] ⟨target.entities, target.metadata.prune⟩ where
  entities _ := rfl
  pruned := Metadata.pruned_prune _
  gone := by simp
  changed := by simp
  kept _ _ _ _ := rfl
  entered := by simp

/-- One more deed. -/
theorem deed (h : Progress target ds made s) {d : Deed} {e? : Option Entity}
    (hmake : d.make (s.entity? d.name) = some e?)
    (hentity : ∀ x, s'.entity? x = if x = d.name then e? else s.entity? x)
    (hmetadata : s'.metadata = d.unlist s.metadata) :
    Progress target (ds ++ [d]) made s' where
  entities := h.cameOf.deed hmake hentity
  pruned := by
    rw [hmetadata]
    exact d.pruned_unlist h.pruned
  gone g n hn := by
    rw [hmetadata, d.isMember_unlist]
    rcases List.mem_append.1 hn with hn | hn
    · rw [h.gone g n hn, ite_self]
    · rw [if_pos (List.mem_singleton.1 hn).symm]
  changed c hc hn := by
    rw [List.mem_append, not_or, List.mem_singleton] at hn
    rw [hmetadata, d.isMember_unlist, if_neg (Ne.symm hn.2)]
    exact h.changed c hc hn.1
  kept g n hn hmade := by
    rw [List.mem_append, not_or, List.mem_singleton] at hn
    rw [hmetadata, d.isMember_unlist, if_neg (Ne.symm hn.2)]
    exact h.kept g n hn.1 hmade
  entered c hc hn := by
    rw [List.mem_append, not_or, List.mem_singleton] at hn
    have hin := h.entered c hc hn.1
    unfold Scene.contains at hin ⊢
    rw [hentity]
    by_cases hname : c.entity = d.name
    · -- the deed is about this entity, but does not remove it
      rw [if_pos hname]
      refine d.isSome_of_make hmake fun n hd => hn.2 ?_
      rw [hname, hd]
      rfl
    · rwa [if_neg hname]

/-- One more membership change, of an entity that is there. -/
theorem membership (h : Progress target ds made s) {c : MembershipChange}
    (hmade : MembershipChange.Consistent (made ++ [c])) (hc : s.contains c.entity = true)
    (hthere : .remove c.entity ∉ ds) :
    Progress target ds (made ++ [c])
      { s with metadata := s.metadata.put c.membership c.entity c.member } where
  entities := h.entities
  pruned := Metadata.pruned_put h.pruned _ _ _
  gone g n hn := by
    rw [Metadata.isMember_put, if_neg, h.gone g n hn]
    rintro ⟨-, rfl⟩
    exact hthere hn
  changed c' hc' hn := by
    have hlast : c ∈ made ++ [c] := List.mem_append_right _ (List.mem_singleton_self c)
    rw [Metadata.isMember_put]
    split
    · -- an earlier change of the same membership is this very change
      next heq => rw [hmade c' hc' c hlast heq.1 heq.2]
    · next hne =>
        rcases List.mem_append.1 hc' with hc' | hc'
        · exact h.changed c' hc' hn
        · cases List.mem_singleton.1 hc'
          exact absurd ⟨rfl, rfl⟩ hne
  kept g n hn hnone := by
    have hne : ¬ (g = c.membership ∧ n = c.entity) := by
      rintro ⟨rfl, rfl⟩
      exact hnone c (List.mem_append_right _ (List.mem_singleton_self c)) rfl rfl
    rw [Metadata.isMember_put, if_neg hne]
    exact h.kept g n hn fun c' hc' => hnone c' (List.mem_append_left _ hc')
  entered c' hc' hn := by
    rcases List.mem_append.1 hc' with hc' | hc'
    · exact h.entered c' hc' hn
    · cases List.mem_singleton.1 hc'
      exact hc

/-- A membership change is made if its entity is there. -/
theorem enroll_one (h : Progress target ds made s) (hall : target.Plans all)
    (hsub : ds.Subperm all) {c : MembershipChange}
    (hmade : MembershipChange.Consistent (made ++ [c])) :
    Progress target ds (made ++ if s.contains c.entity then [c] else [])
      (s.enroll [c]) := by
  cases hc : s.contains c.entity with
  | false =>
      have hsame : s.enroll [c] = s := by simp [Scene.enroll, hc]
      rw [hsame, if_neg Bool.false_ne_true, List.append_nil]
      exact h
  | true =>
      have hput : s.enroll [c]
          = { s with metadata := s.metadata.put c.membership c.entity c.member } := by
        simp [Scene.enroll, hc]
      rw [hput, if_pos rfl]
      refine h.membership hmade hc fun hn => ?_
      rw [Scene.contains, h.not_contains hall hsub hn] at hc
      cases hc

theorem enroll (hall : target.Plans all) (hsub : ds.Subperm all)
    (cs : List MembershipChange) :
    ∀ {made : List MembershipChange} {s : Scene}, Progress target ds made s →
      MembershipChange.Consistent (made ++ cs) →
      Progress target ds (made ++ cs.filter (s.contains ·.entity)) (s.enroll cs) := by
  induction cs with
  | nil =>
      intro made s h _
      rw [List.filter_nil, List.append_nil]
      exact h
  | cons c cs ih =>
      intro made s h hmade
      have hfirst : (made ++ [c]) ⊆ made ++ c :: cs := by simp
      have hone := enroll_one h hall hsub (hmade.subset hfirst)
      have hrest : (made ++ if s.contains c.entity then [c] else []) ++ cs
          ⊆ made ++ c :: cs := by
        split <;> simp
      have hall := ih hone (hmade.subset hrest)
      have hsame : ∀ n, (s.enroll [c]).contains n = s.contains n := fun _ => rfl
      rw [Scene.enroll_cons]
      simp only [hsame] at hall
      rw [List.filter_cons]
      split
      · next hc => rwa [if_pos hc, List.append_assoc] at hall
      · next hc => rwa [if_neg hc, List.append_nil] at hall

/-- A name without an entity, neither at first nor now, is listed where it
was listed at first. -/
theorem untouched (h : Progress target ds made s) (hall : target.Plans all)
    (hsub : ds.Subperm all) {n : EntityName} (htarget : target.entity? n = none)
    (hn : s.entity? n = none) (g : Membership) :
    s.metadata.isMember g n = target.metadata.prune.isMember g n := by
  have hkept : .remove n ∉ ds := by
    intro hmem
    have hplan := hall n
    rw [htarget] at hplan
    exact hplan.not_remove (List.mem_filter.2 ⟨hsub.subset hmem, beq_self_eq_true n⟩)
  refine h.kept g n hkept fun c hc _ he => ?_
  subst he
  have hin := h.entered c hc hkept
  rw [Scene.contains, hn] at hin
  cases hin

/-- Which deeds were made tells what the entities are like. -/
theorem alike (h : Progress target ds made s) (h' : Progress target ds' made' s')
    (hall : target.Plans all) (hsub : ds.Subperm all) (hperm : ds.Perm ds')
    (n : EntityName) : Alike (s.entity? n) (s'.entity? n) :=
  (hall n).alike (hsub.filter _) (hperm.filter _) (h.entities n) (h'.entities n)

/-- Which deeds and membership changes were made tells all that counts. -/
theorem same (h : Progress target ds made s) (h' : Progress target ds' made' s')
    (hall : target.Plans all) (hsub : ds.Subperm all) (hperm : ds.Perm ds')
    (hmade : ∀ c, .remove c.entity ∉ ds → (c ∈ made ↔ c ∈ made')) :
    s.Same s' := by
  have halike := h.alike h' hall hsub hperm
  refine ⟨fun n => ?_, fun n e e' he he' => ?_, ?_⟩
  · rw [← Scene.contains_iff, ← Scene.contains_iff, Scene.contains, Scene.contains,
      (halike n).isSome_eq]
  · have hn := halike n
    rw [he, he', Alike, Option.rel_some_some] at hn
    exact hn
  · refine Metadata.ext_isMember h.pruned h'.pruned fun g n => ?_
    by_cases hn : .remove n ∈ ds
    · rw [h.gone g n hn, h'.gone g n (hperm.mem_iff.1 hn)]
    · have hn' : .remove n ∉ ds' := mt hperm.mem_iff.2 hn
      by_cases hc : ∃ c ∈ made, c.membership = g ∧ c.entity = n
      · obtain ⟨c, hc, rfl, rfl⟩ := hc
        rw [h.changed c hc hn, h'.changed c ((hmade c hn).1 hc) hn']
      · rw [h.kept g n hn fun c hcm hg he => hc ⟨c, hcm, hg, he⟩,
          h'.kept g n hn' fun c hcm hg he => ?_]
        subst he
        exact hc ⟨c, (hmade c hn).2 hcm, hg, rfl⟩

end Progress

end SceneMerge
