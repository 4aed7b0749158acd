/-
How many children of a fingerprint a merge adds and removes. The keys that the
source adds are numbered on from the base, and so are those that the target adds,
so the lesser of the two numbers of them is what both add (`count_added`). Which
of the base's children a side removes depends on where they stand, and so does how
many of them both remove (`Entity.lostToBoth`). These are all that is not told by
how often a child occurs in the three versions (`Entity.Balanced`), and there are
no more of them than either side removed, so for the child it comes to a least and
a greatest number at worst (`ChildCount`).
-/
import SceneMerge.Proofs.Review.Planned

namespace SceneMerge

-- =========================================================== specification

/-- How many of the base's children of a fingerprint have a partner neither in the
source nor in the target. -/
def Entity.lostToBoth (b s t : Entity) (f : Fingerprint) : Nat :=
  (((Matching.ofChildren b s).onlyLeft.map (·.1)).filter
    (· ∈ (Matching.ofChildren b t).onlyLeft.map (·.1))).countP (·.fingerprint == f)

/-- Of the base's children of a fingerprint each side removed some, and kept some. -/
def Entity.ThinnedByBoth (b s t : Entity) (f : Fingerprint) : Prop :=
  (0 < s.fingerprints.count f ∧ s.fingerprints.count f < b.fingerprints.count f)
    ∧ 0 < t.fingerprints.count f ∧ t.fingerprints.count f < b.fingerprints.count f

/-- The children of `e` are those of the target with what the source added, and
without what it removed, except for what the target did as well. -/
def Entity.Balanced (e b s t : Entity) : Prop :=
  ∀ f, e.fingerprints.count f + (b.fingerprints.count f - s.fingerprints.count f)
    = t.fingerprints.count f + ((s.fingerprints.count f - b.fingerprints.count f)
        - (t.fingerprints.count f - b.fingerprints.count f)) + b.lostToBoth s t f

/-- How often a child occurs in a merged entity, where it occurs `b`, `s` and `t`
times in the base, the source and the target. -/
structure ChildCount (b s t v : Nat) : Prop where
  kept : s = b → v = t
  /-- Both added some: they are taken for the same as far as possible. -/
  added : b < s → b < t → v = max s t
  /-- At most one added some and at most one removed some: both are made. -/
  moved : b < s ∧ t ≤ b ∨ s < b ∧ b ≤ t → v + b = t + s
  /-- Both removed some: they may be the same or not. -/
  removed : s < b → t < b → s + t - b ≤ v ∧ v ≤ min s t

/-- How many removals both sides share is what is not told by the numbers. -/
theorem ChildCount.of_shared {b s t v shared : Nat}
    (h : v + (b - s) = t + ((s - b) - (t - b)) + shared)
    (hsource : shared ≤ b - s) (htarget : shared ≤ b - t) : ChildCount b s t v where
  kept _ := by omega
  added _ _ := by omega
  moved _ := by omega
  removed _ _ := by omega

namespace Deed

/-- Whether it adds a child or removes one. -/
def isChild : Deed → Bool
  | addChild .. | removeChild .. => true
  | _ => false

/-- A deed that adds a child concerns children. -/
theorem isChild_of_adds {d : Deed} {f : Fingerprint} (h : d.adds f = true) :
    d.isChild = true := by
  cases d with
  | addChild => rfl
  | _ => cases h

/-- A deed that removes one does, too. -/
theorem isChild_of_removes {d : Deed} {f : Fingerprint} (h : d.removes f = true) :
    d.isChild = true := by
  cases d with
  | removeChild => rfl
  | _ => cases h

end Deed

-- ================================================================== counts

/-- Of numbers from one on, those that are not among the first of them. -/
private theorem length_filter_range' (start m n : Nat) :
    ((List.range' start m).filter (· ∉ List.range' start n)).length = m - n := by
  -- the shorter one is contained in the other, or it is the first part of the other
  rcases Nat.le_total m n with hle | hle
  · have hnone : (List.range' start m).filter (· ∉ List.range' start n) = [] := by
      refine List.filter_eq_nil_iff.2 fun i hi => ?_
      have hi := List.mem_range'_1.1 hi
      simp only [decide_eq_true_eq, not_not, List.mem_range'_1]
      omega
    rw [hnone, List.length_nil, Nat.sub_eq_zero_of_le hle]
  · obtain ⟨k, rfl⟩ := Nat.exists_eq_add_of_le hle
    rw [← List.range'_append_1, List.filter_append]
    have hnone : (List.range' start n).filter (· ∉ List.range' start n) = [] :=
      List.filter_eq_nil_iff.2 fun i hi => by simpa using hi
    have hall : (List.range' (start + n) k).filter (· ∉ List.range' start n)
        = List.range' (start + n) k := by
      refine List.filter_eq_self.2 fun i hi => decide_eq_true ?_
      have hi := List.mem_range'_1.1 hi
      rw [List.mem_range'_1]
      omega
    rw [hnone, hall, List.nil_append, List.length_range', Nat.add_sub_cancel_left]

namespace Proposal

variable {base source target : Snapshot} {n : EntityName} {b s t : Entity}

/-- What both sides add is added once. -/
theorem count_added (b s t : Entity) (f : Fingerprint) :
    ((keysOf true ((b.childChanges s).filter
        (survives (b.childChanges t)))).map (·.fingerprint)).count f
      = (s.fingerprints.count f - b.fingerprints.count f)
        - (t.fingerprints.count f - b.fingerprints.count f) := by
  -- the keys that a side adds of one fingerprint are numbered on from the base, so both
  -- sides begin at the same number
  have htheirs : ∀ i, (⟨f, i⟩ : ChildKey) ∈ keysOf true (b.childChanges t)
      ↔ i ∈ List.range' (b.fingerprints.count f)
        (t.fingerprints.count f - b.fingerprints.count f) := by
    intro i
    have hone : (⟨f, i⟩ : ChildKey) ∈ keysOf true (b.childChanges t)
        ↔ (⟨f, i⟩ : ChildKey) ∈ (keysOf true (b.childChanges t)).filter
          (·.fingerprint == f) := by
      rw [List.mem_filter, and_iff_left (beq_self_eq_true f)]
    rw [hone, keysOf_true_childChanges, Matching.filter_onlyRight]
    simp
  rw [keysOf_surviving, ← ChildKey.countP_fingerprint, List.countP_eq_length_filter,
    List.filter_comm, keysOf_true_childChanges b s, Matching.filter_onlyRight,
    List.filter_map, List.length_map]
  refine Eq.trans (congrArg List.length (List.filter_congr fun i _ => ?_))
    (length_filter_range' (b.fingerprints.count f) _ _)
  exact decide_eq_decide.2 (not_congr (htheirs i))

/-- What the source removed is removed, except for what the target removed as well. -/
theorem count_removed_add (b s t : Entity) (f : Fingerprint) :
    ((keysOf false ((b.childChanges s).filter
        (survives (b.childChanges t)))).map (·.fingerprint)).count f + b.lostToBoth s t f
      = b.fingerprints.count f - s.fingerprints.count f := by
  rw [keysOf_surviving, ← count_removed b s f, Entity.lostToBoth,
    ← keysOf_false_childChanges, ← keysOf_false_childChanges]
  generalize keysOf false (b.childChanges s) = mine
  generalize keysOf false (b.childChanges t) = theirs
  have hsplit := List.countP_eq_countP_filter_add mine (fun key => key.fingerprint == f)
    (· ∈ theirs)
  simp only [← decide_not] at hsplit
  rw [← ChildKey.countP_fingerprint, ← ChildKey.countP_fingerprint, hsplit, Nat.add_comm]

/-- No more children are lost to both sides than to the source. -/
theorem lostToBoth_le_source (b s t : Entity) (f : Fingerprint) :
    b.lostToBoth s t f ≤ b.fingerprints.count f - s.fingerprints.count f := by
  rw [← count_removed_add b s t f]
  exact Nat.le_add_left _ _

/-- No more children are lost to both sides than to the target: those lost to both are
among those that it lost, and no child is lost twice. -/
theorem lostToBoth_le_target (b s t : Entity) (f : Fingerprint) :
    b.lostToBoth s t f ≤ b.fingerprints.count f - t.fingerprints.count f := by
  rw [← count_removed b t f, Entity.lostToBoth, ← keysOf_false_childChanges,
    ← keysOf_false_childChanges, ← ChildKey.countP_fingerprint]
  have hnodup := (nodup_removed b s).sublist
    (List.filter_sublist (p := (· ∈ keysOf false (b.childChanges t))))
  exact (List.subperm_of_subset hnodup fun key hkey =>
    of_decide_eq_true (List.mem_filter.1 hkey).2).countP_le _

/-- How many are lost to both is told by their numbers, unless each side removed
some of them and kept some. -/
theorem lostToBoth_eq {b s s' t : Entity} {f : Fingerprint}
    (hs : s'.fingerprints.count f = s.fingerprints.count f)
    (hnot : ¬ b.ThinnedByBoth s t f) : b.lostToBoth s t f = b.lostToBoth s' t f := by
  unfold Entity.ThinnedByBoth at hnot
  have hremoved := count_removed_add b s t f
  have hremoved' := count_removed_add b s' t f
  have hleast := count_removed_le b s t f
  have hleast' := count_removed_le b s' t f
  have hboth := lostToBoth_le_target b s t f
  have hboth' := lostToBoth_le_target b s' t f
  omega

-- ======================================================= one entity of many

/-- What is proposed for an entity that all three versions have are the changes of its
parts. -/
theorem Block.eq_parts {ps : List Proposal} (h : Block base source target n ps)
    (hb : base.entity? n = some b) (hs : source.entity? n = some s)
    (ht : target.entity? n = some t) : ps = Proposal.parts target n b s t := by
  cases h with
  | parts hb' hs' ht' =>
      cases hb.symm.trans hb'
      cases hs.symm.trans hs'
      cases ht.symm.trans ht'
      rfl
  | add hb' | addedAlike hb' | addedUnlike hb' => cases hb.symm.trans hb'
  | removedBoth _ hs' | remove _ hs' | removedModified _ hs' => cases hs.symm.trans hs'
  | modifiedRemoved _ _ ht' => cases ht.symm.trans ht'

/-- What is proposed under the name of an entity that all three have comes to what
is proposed for its parts, whether or not the source changed it. -/
theorem deeds_threeWay {ours theirs : SceneDiff} (hb : base.names.Nodup)
    (hs : source.names.Nodup) (ht : target.names.Nodup)
    (ho : base.changes source = .ok ours) (hth : base.changes target = .ok theirs)
    (hbn : base.entity? n = some b) (hsn : source.entity? n = some s)
    (htn : target.entity? n = some t) :
    ((threeWay ours theirs target).filterMap deed?).filter (·.name == n)
      = (parts target n b s t).filterMap deed? := by
  have hblock := fun c hc => block_about hb hs ht ho hth (c := c) hc
  have hdelta : base.deltaOf? source n = b.delta? s := by
    rw [Snapshot.deltaOf?, hbn, hsn]
  rw [threeWay_eq]
  cases hd : b.delta? s with
  | some d =>
      have hc : ⟨n, d⟩ ∈ ours.changes :=
        (Snapshot.mem_changes hb hs ho).2 (hdelta.trans hd)
      rw [deeds_about hblock (Snapshot.changes_names_nodup hb hs ho) hc,
        (hblock _ hc).eq_parts hbn hsn htn]
  -- the source left the entity alone, and then its parts have no changes to propose
  | none =>
      have hn : n ∉ ours.changes.map (·.name) := by
        intro hmem
        obtain ⟨c, hc, rfl⟩ := List.mem_map.1 hmem
        cases ((Snapshot.mem_changes hb hs ho).1 hc).symm.trans (hdelta.trans hd)
      obtain ⟨-, hvalues, hchildren⟩ :=
        Entity.semanticallyEqual_iff.1 ((Snapshot.delta?_eq_none hbn hsn).1 hd)
      have hkeys : b.keyValueChanges s = [] := KeyValues.changes_eq_nil.2 hvalues
      rw [deeds_about_of_not_mem hblock hn, parts, hkeys,
        Entity.childChanges_eq_nil.2 hchildren]
      rfl

/-- No conflict adds a child or removes one. -/
theorem isChild_of_conflict {ps : List Proposal} (h : Block base source target n ps)
    {type : ConflictType} {a : Action} {target? : Option Action} {s? t? : Option Entity}
    (hp : .conflict type a target? s? t? ∈ ps) {d : Deed}
    (hd : (conflict type a target? s? t?).deed? = some d) : d.isChild = false := by
  cases h with
  | add | remove => cases List.mem_singleton.1 hp
  | addedAlike | removedBoth => cases hp
  | @addedUnlike s t =>
      cases List.mem_singleton.1 hp
      have hdeed : (Action.addEntity s).deed?.map Deed.inPlace = some d := hd
      rw [Action.deed?_addEntity] at hdeed
      cases hdeed
      rfl
  | @removedModified b t =>
      cases List.mem_singleton.1 hp
      have hdeed : (Action.removeEntity t).deed? = some d := hd
      rw [Action.deed?_removeEntity] at hdeed
      cases hdeed
      rfl
  | modifiedRemoved =>
      cases List.mem_singleton.1 hp
      obtain ⟨e, -, rfl⟩ := Option.map_eq_some_iff.1 hd
      rfl
  | parts =>
      generalize hq : conflict type a target? s? t? = q at hp hd
      cases ofPart_of_mem hp with
      | key | child => cases hq
      | conflict =>
          rw [deed?_keyConflict] at hd
          cases hd
          rfl

end Proposal

/-- What the deeds for an entity that all three have come to, whatever else is
done to it. -/
theorem Worked.balanced {b s t e : Entity} {ds : List Deed} (h : Worked t ds e)
    (target : Snapshot) (n : EntityName)
    (hremoves : ∀ f, ds.countP (Deed.removes f)
      = ((Proposal.parts target n b s t).filterMap Proposal.deed?).countP (Deed.removes f))
    (hadds : ∀ f, ds.countP (Deed.adds f)
      = ((Proposal.parts target n b s t).filterMap Proposal.deed?).countP (Deed.adds f)) :
    e.Balanced b s t := by
  intro f
  obtain ⟨hremoved, hadded⟩ := Proposal.countP_parts target n b s t f
  have hcounted := h.counted f
  rw [hremoves, hadds, hremoved, hadded, Proposal.count_added] at hcounted
  have hshared := Proposal.count_removed_add b s t f
  omega

/-- How many children there are in the end is known but for how many were lost to both,
and that number is bounded by what either side lost. -/
theorem Entity.Balanced.childCount {b s t e : Entity} (h : e.Balanced b s t)
    (f : Fingerprint) : ChildCount (b.fingerprints.count f) (s.fingerprints.count f)
      (t.fingerprints.count f) (e.fingerprints.count f) :=
  .of_shared (h f) (Proposal.lostToBoth_le_source b s t f) (Proposal.lostToBoth_le_target b s t f)

/-- Entities of the same keys that came of like sources are alike exactly if as many
children were lost to both. -/
theorem Entity.Balanced.semanticallyEqual_iff {b s s' t e e' : Entity}
    (h : e.Balanced b s t) (h' : e'.Balanced b s' t) (hname : e.name = e'.name)
    (hkeys : e.keyValues = e'.keyValues) (hs : s.fingerprints.Perm s'.fingerprints) :
    e.semanticallyEqual e' = true ↔ ∀ f, b.lostToBoth s t f = b.lostToBoth s' t f := by
  rw [Entity.semanticallyEqual_iff, and_iff_right hname, and_iff_right hkeys,
    List.perm_iff_count]
  refine forall_congr' fun f => ?_
  have hf := h f
  have hf' := h' f
  rw [← hs.count_eq f] at hf'
  omega

end SceneMerge
