/-
Whether the order of children has a say in a merge. Children that look alike
are interchangeable, so a source whose children are merely reordered is to come
to the same as before. It does in the names, the keys and the values of all
entities, and in all of an entity that one of the versions does not have.

It need not in the children of an entity that all three have. A child that was
removed is told from its twins by its number, and which of the twins is left
over for want of a partner depends on where the others stand. So where both
sides removed some of the twins and kept some, the order decides on how many of
the removals are taken for the same one, and that is all that it decides on:
the merges are alike exactly if as many children are lost to both sides
(`merge_reordered`).
-/
import SceneMerge.Proofs.Session.Counts
import SceneMerge.Proofs.Session.Outcome

namespace SceneMerge

-- =========================================================== specification

/-- The same but for the order of children. -/
structure Entity.Reordered (e e' : Entity) : Prop where
  name : e'.name = e.name
  keyValues : e'.keyValues = e.keyValues
  children : e'.children.Perm e.children

/-- The same but for the order of the children inside the entities. -/
structure Snapshot.Reordered (s s' : Snapshot) : Prop where
  path : s'.path = s.path
  metadata : s'.metadata = s.metadata
  entities : List.Forall₂ Entity.Reordered s.entities s'.entities

/-- In an entity that all versions have, as many of the base's children are lost to
both sides with the one source as with the other. -/
def SameLosses (base source source' target : Snapshot) (n : EntityName) : Prop :=
  ∀ b s s' t, base.entity? n = some b → source.entity? n = some s →
    source'.entity? n = some s' → target.entity? n = some t →
    ∀ f, b.lostToBoth s t f = b.lostToBoth s' t f

/-- The scene that one pass over the target makes of a merge whose conflicts are
decided as `ρ` says. What `ρ` leaves unresolved is not touched. -/
def mergedScene? (ρ : ActionId → Resolution) (options : MergeOptions)
    (base source target : Snapshot) : Option Scene := do
  let op ← (Operation.construct source (some base) target options).toOption
  let l ← (LiveScene.ofSnapshot target).toOption
  let op ← (op.decideAll ρ (op.conflicts.filter (ρ · ≠ .unresolved))).toOption
  match (Host.alone.apply : EStateM Halt (Operation × LiveScene) ApplyReport) (op, l) with
  | .ok _ (_, l) => some l.scene
  | .error _ _ => none

-- ================================================================ versions

namespace Entity.Reordered

variable {e e' : Entity}

/-- Children that are reordered look the same, in another order. -/
theorem fingerprints (h : Entity.Reordered e e') :
    e'.fingerprints.Perm e.fingerprints :=
  h.children.map _

/-- An entity with its children reordered is semantically equal to what it was. -/
theorem semanticallyEqual (h : Entity.Reordered e e') : e.semanticallyEqual e' = true :=
  Entity.semanticallyEqual_iff.2 ⟨h.name.symm, h.keyValues.symm, h.fingerprints.symm⟩

end Entity.Reordered

namespace Snapshot.Reordered

variable {s s' : Snapshot}

/-- Reordered children leave all names in place. -/
theorem names (h : s.Reordered s') : s'.names = s.names := by
  rw [Snapshot.names, Snapshot.names, ← List.forall₂_eq_eq_eq, List.forall₂_map_left_iff,
    List.forall₂_map_right_iff]
  exact h.entities.flip.imp fun _ _ hone => hone.name

/-- The entities of one name are alike. -/
theorem alike (h : s.Reordered s') (n : EntityName) :
    Alike (s.entity? n) (s'.entity? n) := by
  have hall := h.entities
  unfold Snapshot.entity?
  generalize s.entities = es at hall
  generalize s'.entities = es' at hall
  induction hall with
  | nil => exact .none
  | @cons e e' _ _ hone _ ih =>
      rw [List.find?_cons, List.find?_cons, hone.name]
      split
      · exact .some hone.semanticallyEqual
      · exact ih

end Snapshot.Reordered

-- ================================================================= choices

/-- Where all conflicts are decided for the source or none is, what is chosen is
alike for sources that are alike. -/
theorem Chosen.alike {α : Type} {alike : α → α → Prop} (heq : Equivalence alike)
    {accept : Bool} {b s s' t v v' : α}
    (h : Chosen alike (·.appliesSource = accept) b s t v)
    (h' : Chosen alike (·.appliesSource = accept) b s' t v') (hs : alike s s') :
    alike v v' := by
  -- whichever comparison decides for `s` decides for `s'` in the same way
  have hleft : ∀ {x}, alike s x ↔ alike s' x :=
    ⟨heq.trans (heq.symm hs), heq.trans hs⟩
  have hright : alike t s ↔ alike t s' :=
    ⟨(heq.trans · hs), (heq.trans · (heq.symm hs))⟩
  by_cases hsb : alike s b
  · rw [h.kept hsb, h'.kept (hleft.1 hsb)]
    exact heq.refl t
  · by_cases htb : alike t b
    · rw [h.made hsb htb, h'.made (mt hleft.2 hsb) htb]
      exact hs
    · by_cases hts : alike t s
      · rw [h.same hsb hts, h'.same (mt hleft.2 hsb) (hright.1 hts)]
        exact heq.refl t
      · obtain ⟨r, hr, rfl⟩ := h.contested hsb htb hts
        obtain ⟨r', hr', rfl⟩ := h'.contested (mt hleft.2 hsb) htb (mt hright.2 hts)
        have hsame : r = .applySource ↔ r' = .applySource := by
          rw [← Resolution.appliesSource_iff, ← Resolution.appliesSource_iff, hr, hr']
        simp only [hsame]
        split
        · exact hs
        · exact heq.refl t

/-- What becomes of the entity `n` where all conflicts are decided for the source or
none is. -/
structure EntityOutcome (base source target : Snapshot) (accept : Bool) (n : EntityName)
    (e? : Option Entity) : Prop where
  merged : Merged base source target (fun _ r => r.appliesSource = accept) n e?
  name : ∀ e, e? = some e → e.name = n
  balanced : ∀ b s t, base.entity? n = some b → source.entity? n = some s →
    target.entity? n = some t → ∃ e, e? = some e ∧ e.Balanced b s t

namespace EntityOutcome

variable {base source source' target : Snapshot} {accept : Bool} {n : EntityName}
  {e? e?' : Option Entity} (h : EntityOutcome base source target accept n e?)
  (h' : EntityOutcome base source' target accept n e?')
  (hs : Alike (source.entity? n) (source'.entity? n))

include h h' hs

/-- An entity that one of the versions does not have becomes the same. -/
theorem alike_of_absent (habsent : base.entity? n = none ∨ source.entity? n = none
    ∨ target.entity? n = none) : Alike e? e?' := by
  have habsent' : base.entity? n = none ∨ source'.entity? n = none
      ∨ target.entity? n = none := by
    rwa [← Option.isNone_iff_eq_none (o := source'.entity? n), ← Option.not_isSome,
      ← hs.isSome_eq, Option.not_isSome, Option.isNone_iff_eq_none]
  exact (h.merged.whole habsent).alike alike_equivalence (h'.merged.whole habsent') hs

/-- One that all three have gets the same keys and values, and the same children
exactly if as many were lost to both. -/
theorem alike_of_present {b s s' t : Entity} (hb : base.entity? n = some b)
    (hsn : source.entity? n = some s) (hsn' : source'.entity? n = some s')
    (ht : target.entity? n = some t) :
    ∃ e e', e? = some e ∧ e?' = some e' ∧ e.name = e'.name ∧ e.keyValues = e'.keyValues
      ∧ (e.semanticallyEqual e' = true ↔ ∀ f, b.lostToBoth s t f = b.lostToBoth s' t f) := by
  -- key by key the same case applies to both sources; children are settled by counting
  have hss : s.semanticallyEqual s' = true := by
    rwa [hsn, hsn', Alike, Option.rel_some_some] at hs
  obtain ⟨e, rfl, hbalanced⟩ := h.balanced b s t hb hsn ht
  obtain ⟨e', rfl, hbalanced'⟩ := h'.balanced b s' t hb hsn' ht
  obtain ⟨_, heq, hvalues⟩ := h.merged.parts b s t hb hsn ht
  cases heq
  obtain ⟨_, heq', hvalues'⟩ := h'.merged.parts b s' t hb hsn' ht
  cases heq'
  have hname : e.name = e'.name := (h.name e rfl).trans (h'.name e' rfl).symm
  have hkeys : e.keyValues = e'.keyValues := by
    refine Std.ExtTreeMap.ext_getElem? fun {key} => ?_
    exact (hvalues key).alike eq_equivalence (hvalues' key)
      (Entity.value?_of_semanticallyEqual hss key)
  exact ⟨e, e', rfl, rfl, hname, hkeys, hbalanced.semanticallyEqual_iff hbalanced' hname hkeys
    (Entity.semanticallyEqual_iff.1 hss).2.2⟩

/-- Of both outcomes names, keys and values are the same, and the children are exactly
if as many were lost to both sides. -/
theorem alike_iff : Option.Rel (fun e e' => e.name = e'.name ∧ e.keyValues = e'.keyValues) e? e?'
    ∧ (Alike e? e?' ↔ SameLosses base source source' target n) := by
  -- if one of the three is missing the order has no say, and there is nothing that both
  -- could have removed
  by_cases habsent : base.entity? n = none ∨ source.entity? n = none
      ∨ target.entity? n = none
  · have halike := h.alike_of_absent h' hs habsent
    refine ⟨Operation.rel_imp (fun e e' h => ?_) halike,
      iff_of_true halike fun b s s' t hb hsn _ ht => ?_⟩
    · obtain ⟨hname, hkeys, -⟩ := Entity.semanticallyEqual_iff.1 h
      exact ⟨hname, hkeys⟩
    · simp [hb, hsn, ht] at habsent
  · simp only [not_or, ← ne_eq, Option.ne_none_iff_exists'] at habsent
    obtain ⟨⟨b, hb⟩, ⟨s, hsn⟩, ⟨t, ht⟩⟩ := habsent
    obtain ⟨s', hsn', -⟩ := hs.exists_of_some hsn
    obtain ⟨e, e', rfl, rfl, hname, hkeys, hiff⟩ := h.alike_of_present h' hs hb hsn hsn' ht
    refine ⟨.some ⟨hname, hkeys⟩, ?_⟩
    rw [Alike, Option.rel_some_some, hiff, SameLosses, hb, hsn, hsn', ht]
    constructor
    · rintro h _ _ _ _ ⟨⟩ ⟨⟩ ⟨⟩ ⟨⟩
      exact h
    · exact fun h => h b s s' t rfl rfl rfl rfl

end EntityOutcome

-- =================================================================== runs

namespace Operation

variable {op op' : Operation} {ps : List Proposal} {ρ : ActionId → Resolution}

/-- Deciding one conflict after the other is a review. -/
theorem revised_decideAll (ids : List ActionId) :
    ∀ {op : Operation}, op.decideAll ρ ids = .ok op' → op.Revised op' := by
  induction ids with
  | nil =>
      intro op h
      cases h
      exact .refl _
  | cons id ids ih =>
      intro op h
      cases hset : op.setResolution id (ρ id) with
      | error e =>
          rw [decideAll, hset] at h
          cases h
      | ok op₁ =>
          rw [decideAll, hset] at h
          exact (revised_setResolution hset).trans (ih h)

/-- Once the conflicts are decided that there are decisions on, all are decided for
the source or none is, if the decisions are. -/
theorem decides_uniform (h : op.LaidOut ps) (hu : op.Undecided) (hrev : Reviewed ps op op')
    (hdecided : ∀ j, op'.conflict? j = (op.conflict? j).map fun c =>
      if j ∈ op.conflicts.filter (ρ · ≠ .unresolved) then { c with resolution := ρ j } else c)
    {accept : Bool} (hρ : ∀ id, (ρ id).appliesSource = accept) :
    op'.Decides fun _ r => r.appliesSource = accept := by
  intro node id c' hat'
  obtain ⟨c, hat⟩ := hat'.of_laidOut h hrev.laidOut hrev.order
  have hc' := hat'.conflict?
  rw [hdecided, hat.conflict?, Option.map_some] at hc'
  cases hc'
  split
  · exact hρ id
  · next hnot =>
      have hnone : ρ id = .unresolved := by
        by_contra hne
        exact hnot (List.mem_filter.2 ⟨hat.1, decide_eq_true hne⟩)
      have hundecided := hu id hat.mem_order c hat.conflict?
      rw [hundecided, ← hρ id, hnone]

end Operation

/-- A first pass over the target is granted where all conflicts are decided for the
source or none is, and makes of every entity what the three versions say. -/
theorem Course.apply_outcome {base source target : Snapshot} {ours theirs : SceneDiff}
    {op op' : Operation} {accept : Bool} (hb : base.names.Nodup) (hs : source.names.Nodup)
    (ht : target.names.Nodup) (ho : base.changes source = .ok ours)
    (hth : base.changes target = .ok theirs)
    (hlaid : op.LaidOut (Proposal.threeWay ours theirs target)) (hplanned : op.Planned target)
    (hconsistent : MembershipChange.Consistent (op.memberships.map (·.change)))
    (h : Course target op (op', { scene := ⟨target.entities, target.metadata.prune⟩ }))
    (hlaid' : op'.LaidOut (Proposal.threeWay ours theirs target))
    (hdecides : op'.Decides fun _ r => r.appliesSource = accept) (happlied : op'.applied = []) :
    ∃ report p, (Host.alone.apply :
        EStateM Halt (Operation × LiveScene) ApplyReport)
          (op', { scene := ⟨target.entities, target.metadata.prune⟩ }) = .ok report p
      ∧ p.2.scene.names.Nodup
      ∧ ∀ n, EntityOutcome base source target accept n (p.2.scene.entity? n) := by
  -- the same pass is looked at three times, for its entities, their children and their names
  obtain ⟨report, op'', l, happly, hmerged⟩ := hlaid'.apply_merged hdecides hb hs ht ho hth
    h.mutable happlied
  obtain ⟨report', p, happly', hbalanced⟩ := h.apply_balanced hb hs ht ho hth hlaid hplanned
    hconsistent happlied hlaid'.plainActive
  obtain ⟨report'', op₃, l₃, happly'', hdone, -⟩ := h.apply hplanned hconsistent
  cases happly.symm.trans happly'
  cases happly.symm.trans happly''
  exact ⟨report, (op'', l), happly, hdone.distinct,
    fun n => ⟨hmerged n, fun e he => Scene.entity?_name he, hbalanced n⟩⟩

section result

variable {base source source' target : Snapshot} {ρ ρ' : ActionId → Resolution}
  {accept : Bool} (options : MergeOptions)

/-- A merge whose conflicts are all decided for the source, or none of them, is granted,
and makes of every entity what the three versions say. -/
theorem mergedScene?_eq (hb : base.names.Nodup) (hs : source.names.Nodup)
    (ht : target.names.Nodup) (hρ : ∀ id, (ρ id).appliesSource = accept) :
    ∃ x, mergedScene? ρ options base source target = some x
      ∧ ∀ n, EntityOutcome base source target accept n (x.entity? n) := by
  obtain ⟨ours, theirs, op, l, ho, hth, hcon, hl, hlaid, hundecided, hplanned, hconsistent,
    hfresh, hstart⟩ := Operation.construct_laidOut hb hs ht options
  cases hl.symm.trans (LiveScene.ofSnapshot_eq ht)
  obtain ⟨reviewed, hdecide, hrev, hdecided⟩ := Operation.decideAll_spec ρ
    (op.conflicts.filter (ρ · ≠ .unresolved)) hlaid hstart.mutable fun id hid =>
      Operation.of_mem_conflicts (List.mem_of_mem_filter hid)
  have hdecides := Operation.decides_uniform hlaid hundecided hrev hdecided hρ
  obtain ⟨report, p, happly, -, houtcome⟩ :=
    (hstart.revised (Operation.revised_decideAll _ hdecide)).apply_outcome hb hs ht ho hth
      hlaid hplanned hconsistent hrev.laidOut hdecides (hrev.applied.trans hfresh.applied)
  refine ⟨p.2.scene, ?_, houtcome⟩
  unfold mergedScene?
  rw [hcon, hl]
  show (op.decideAll ρ _).toOption.bind _ = _
  rw [hdecide]
  show (match (Host.alone.apply : EStateM Halt (Operation × LiveScene) ApplyReport) _ with
    | .ok _ (_, l) => some l.scene
    | .error _ _ => none) = _
  rw [happly]

/-- The order of the children of a source has no say in which entities there are after a
merge, nor in their keys and values. It has no say in their children either, exactly if
in each entity that the three versions have, as many children of each fingerprint are
lost to both sides. That is so where the two sides do not both remove some of the
children of a fingerprint and keep some. -/
theorem merge_reordered (accept : Bool) (ρ ρ' : ActionId → Resolution)
    (hb : base.names.Nodup) (hs : source.names.Nodup) (ht : target.names.Nodup)
    (hr : source.Reordered source') (hρ : ∀ id, (ρ id).appliesSource = accept)
    (hρ' : ∀ id, (ρ' id).appliesSource = accept) :
    ∃ x x', mergedScene? ρ options base source target = some x
      ∧ mergedScene? ρ' options base source' target = some x'
      ∧ (∀ n, Option.Rel (fun e e' => e.name = e'.name ∧ e.keyValues = e'.keyValues)
        (x.entity? n) (x'.entity? n))
      ∧ ((∀ n, Alike (x.entity? n) (x'.entity? n))
        ↔ ∀ n, SameLosses base source source' target n)
      ∧ ((∀ n b s t, base.entity? n = some b → source.entity? n = some s →
          target.entity? n = some t → ∀ f, ¬ b.ThinnedByBoth s t f) →
        ∀ n, Alike (x.entity? n) (x'.entity? n)) := by
  obtain ⟨x, hx, houtcome⟩ := mergedScene?_eq options hb hs ht hρ
  obtain ⟨x', hx', houtcome'⟩ :=
    mergedScene?_eq options hb (hr.names ▸ hs : source'.names.Nodup) ht hρ'
  have hone := fun n => (houtcome n).alike_iff (houtcome' n) (hr.alike n)
  have hiff := forall_congr' fun n => (hone n).2
  refine ⟨x, x', hx, hx', fun n => (hone n).1, hiff, fun hthin => hiff.2 ?_⟩
  intro n b s s' t hbn hsn hsn' htn f
  have hss := hr.alike n
  rw [hsn, hsn', Alike, Option.rel_some_some] at hss
  exact Proposal.lostToBoth_eq ((Entity.semanticallyEqual_iff.1 hss).2.2.count_eq f).symm
    (hthin n b s t hbn hsn htn f)

end result

-- ============================================================ one crate

section crates

/-- A crate that is made of brushes. -/
def crate (shapes : List String) : Entity :=
  { name := "crate", children := shapes.map (⟨"brush", ·⟩) }

def crated (path : String) (shapes : List String) : Snapshot := ⟨path, [crate shapes], {}⟩

/-- A scene of a single crate repeats no name. -/
private theorem nodup_crated (path : String) (shapes : List String) :
    (crated path shapes).names.Nodup :=
  List.nodup_singleton _

/-- Crates of the same shapes are reordered copies of each other. -/
private theorem crated_reordered (path : String) {shapes shapes' : List String}
    (h : shapes'.Perm shapes) : (crated path shapes).Reordered (crated path shapes') :=
  ⟨rfl, rfl, .cons ⟨rfl, rfl, h.map _⟩ .nil⟩

/-- The source replaced one of two cubes, and the target has both and one more. -/
theorem merge_reordered_crate :
    (crated "base" ["cube", "cube"]).names.Nodup
      ∧ (crated "source" ["cube", "ball"]).names.Nodup
      ∧ (crated "target" ["cube", "cube", "cube"]).names.Nodup
      ∧ (crated "source" ["cube", "ball"]).Reordered (crated "source" ["ball", "cube"])
      ∧ ∃ x x', mergedScene? (fun _ => .applySource) {} (crated "base" ["cube", "cube"])
            (crated "source" ["cube", "ball"]) (crated "target" ["cube", "cube", "cube"]) = some x
        ∧ mergedScene? (fun _ => .applySource) {} (crated "base" ["cube", "cube"])
            (crated "source" ["ball", "cube"]) (crated "target" ["cube", "cube", "cube"]) = some x'
        ∧ ∀ n, Alike (x.entity? n) (x'.entity? n) := by
  have hr : (crated "source" ["cube", "ball"]).Reordered (crated "source" ["ball", "cube"]) :=
    crated_reordered "source" (.swap _ _ [])
  obtain ⟨x, x', hx, hx', -, -, halike⟩ :=
    merge_reordered {} true (fun _ => .applySource) (fun _ => .applySource)
      (nodup_crated "base" ["cube", "cube"]) (nodup_crated _ _)
      (nodup_crated "target" ["cube", "cube", "cube"]) hr (fun _ => rfl) (fun _ => rfl)
  refine ⟨nodup_crated _ _, nodup_crated _ _, nodup_crated _ _, hr, x, x', hx, hx',
    halike fun n b s t hb _ ht f hthin => ?_⟩
  -- the target removed none
  have hfew : b.fingerprints.count f ≤ t.fingerprints.count f := by
    obtain rfl := List.mem_singleton.1 (Snapshot.entity?_mem hb)
    obtain rfl := List.mem_singleton.1 (Snapshot.entity?_mem ht)
    exact (List.sublist_cons_self _ _).count_le f
  exact absurd hthin.2.2 (Nat.not_lt.2 hfew)

/-- The source and the target each replaced one of two cubes. If the source has its
ball in the second place, the two replaced different cubes, and no cube is left; if it
has it in the first place, they replaced the same one. -/
theorem merge_reordered_differs :
    (crated "base" ["cube", "cube"]).names.Nodup
      ∧ (crated "source" ["cube", "ball"]).names.Nodup
      ∧ (crated "target" ["cone", "cube"]).names.Nodup
      ∧ (crated "source" ["cube", "ball"]).Reordered (crated "source" ["ball", "cube"])
      ∧ ∃ x x', mergedScene? (fun _ => .unresolved) {} (crated "base" ["cube", "cube"])
            (crated "source" ["cube", "ball"]) (crated "target" ["cone", "cube"]) = some x
        ∧ mergedScene? (fun _ => .unresolved) {} (crated "base" ["cube", "cube"])
            (crated "source" ["ball", "cube"]) (crated "target" ["cone", "cube"]) = some x'
        ∧ x.entities = [crate ["cone", "ball"]]
        ∧ x'.entities = [crate ["cone", "cube", "ball"]]
        ∧ ¬ Alike (x.entity? "crate") (x'.entity? "crate") := by
  refine ⟨nodup_crated _ _, nodup_crated _ _, nodup_crated _ _,
    crated_reordered _ (.swap _ _ []), ⟨[crate ["cone", "ball"]], {}⟩,
    ⟨[crate ["cone", "cube", "ball"]], {}⟩, by decide +kernel, by decide +kernel, rfl, rfl, ?_⟩
  -- one has a brush less
  intro halike
  obtain ⟨e, he, hone⟩ := halike.exists_of_some rfl
  cases he
  have hlength := (Entity.semanticallyEqual_iff.1 hone).2.2.length_eq
  simp [Entity.fingerprints, crate] at hlength

end crates

end SceneMerge
