/-
Metadata seen through `isMember`. Where no layer or group is empty,
metadata is nothing but the relation of who belongs to what
(`ext_isMember`), and `put` changes that relation at one point
(`isMember_put`). So whether a series of joining and leaving leads back
to where it started is a question about the relation alone; nobody else
has to look inside a layer. The lists of memberships are that relation in
order, layers before groups (`pairwise_memberships`).
-/
import Mathlib.Logic.Basic
import SceneMerge.Content.Membership

namespace SceneMerge

/-- Layers come by name, and after them the groups by number. -/
def Membership.Before : Membership → Membership → Prop
  | .layer name, .layer name' => name < name'
  | .layer _, .selectionGroup _ => True
  | .selectionGroup _, .layer _ => False
  | .selectionGroup id, .selectionGroup id' => id < id'

/-- Nothing comes before itself. -/
theorem Membership.Before.irrefl (g : Membership) : ¬ g.Before g := by
  cases g with
  | layer name => exact String.lt_irrefl name
  | selectionGroup id => exact Nat.lt_irrefl id

namespace Metadata

-- ========================================================== one grouping

/-- The names that belong to a layer or group, if there is such a one. -/
def members? (m : Metadata) : Membership → Option Members
  | .layer name => m.layers[name]?
  | .selectionGroup id => m.selectionGroups[id]?

/-- Who belongs to what is asked of the layer or group, if there is one. -/
theorem isMember_eq (m : Metadata) (g : Membership) (e : EntityName) :
    m.isMember g e = (m.members? g).any (·.contains e) := by
  cases g <;> rfl

/-- Metadata is determined by its layers and groups. -/
theorem ext_members? {m m' : Metadata}
    (h : ∀ g, m.members? g = m'.members? g) : m = m' := by
  obtain ⟨layers, groups⟩ := m
  obtain ⟨layers', groups'⟩ := m'
  have hl : layers = layers' :=
    Std.ExtTreeMap.ext_getElem? fun {name} => h (.layer name)
  have hg : groups = groups' :=
    Std.ExtTreeMap.ext_getElem? fun {id} => h (.selectionGroup id)
  rw [hl, hg]

/-- `put` touches one layer or group. -/
theorem members?_put (m : Metadata) (g g' : Membership) (e : EntityName)
    (b : Bool) :
    (m.put g e b).members? g'
      = if g' = g then regroup e b (m.members? g) else m.members? g' := by
  -- layers and groups on either side: the two do not touch each other, and among those
  -- of one sort it is the name or the number that decides
  cases g with
  | layer name =>
      cases g' with
      | layer name' =>
          simp only [put, members?, Std.ExtTreeMap.getElem?_alter,
            Std.compare_eq_iff_eq, Membership.layer.injEq]
          by_cases h : name = name'
          · simp [h]
          · simp [h, Ne.symm h]
      | selectionGroup id' => simp [put, members?]
  | selectionGroup id =>
      cases g' with
      | layer name' => simp [put, members?]
      | selectionGroup id' =>
          simp only [put, members?, Std.ExtTreeMap.getElem?_alter,
            Std.compare_eq_iff_eq, Membership.selectionGroup.injEq]
          by_cases h : id = id'
          · simp [h]
          · simp [h, Ne.symm h]

/-- A group with a name entered or struck off holds that name or does not, and the
others as before. One that becomes empty is dropped, which nobody in it notices. -/
theorem any_contains_regroup (e e' : EntityName) (b : Bool)
    (ms? : Option Members) :
    (regroup e b ms?).any (·.contains e')
      = if e' = e then b else ms?.any (·.contains e') := by
  cases b with
  | true =>
      by_cases he : e' = e
      · subst he
        simp [regroup]
      · have hne : ¬ e = e' := fun h => he h.symm
        cases ms? <;> simp [regroup, Std.ExtTreeSet.contains_insert, he, hne]
  | false =>
      cases ms? with
      | none => simp [regroup]
      | some ms =>
          have hc : (ms.erase e).contains e'
              = if e' = e then false else ms.contains e' := by
            by_cases he : e' = e
            · subst he
              simp
            · have hne : ¬ e = e' := fun h => he h.symm
              simp [Std.ExtTreeSet.contains_erase, he, hne]
          rw [Option.any_some, ← hc]
          by_cases hempty : ms.erase e = ∅
          · simp [regroup, hempty]
          · simp [regroup, hempty]

-- =========================================================== the relation

/-- Joining and leaving change the relation at one point. -/
@[simp]
theorem isMember_put (m : Metadata) (g g' : Membership) (e e' : EntityName)
    (b : Bool) :
    (m.put g e b).isMember g' e'
      = if g' = g ∧ e' = e then b else m.isMember g' e' := by
  rw [isMember_eq, isMember_eq, members?_put]
  by_cases hg : g' = g
  · subst hg
    simp [any_contains_regroup]
  · simp [hg]

/-- No layer and no group is empty. -/
def Pruned (m : Metadata) : Prop :=
  ∀ g ms, m.members? g = some ms → ms ≠ ∅

/-- Nobody belongs to anything in empty metadata. -/
@[simp]
theorem isMember_empty (g : Membership) (e : EntityName) :
    ({} : Metadata).isMember g e = false := by
  cases g <;> rfl

/-- There is nothing in empty metadata that could be empty. -/
theorem pruned_empty : Pruned {} := by
  intro g ms h
  cases g <;> simp [members?] at h

/-- Whatever is emptied by leaving is dropped at once. -/
theorem pruned_put {m : Metadata} (h : m.Pruned) (g : Membership)
    (e : EntityName) (b : Bool) : (m.put g e b).Pruned := by
  intro g' ms hms
  rw [members?_put] at hms
  split at hms
  · cases b with
    | true =>
        simp only [regroup, if_true, Option.some.injEq] at hms
        subst hms
        exact Std.ExtTreeSet.insert_ne_empty
    | false =>
        simp only [regroup, Bool.false_eq_true, if_false,
          Option.filter_eq_some_iff] at hms
        simpa using hms.2
  · exact h g' ms hms

/-- Pruning keeps what has members, as it is. -/
theorem members?_prune (m : Metadata) (g : Membership) :
    m.prune.members? g = (m.members? g).filter (!·.isEmpty) := by
  cases g with
  | layer name =>
      show (m.layers.filter fun _ members => !members.isEmpty)[name]? = _
      rw [Std.ExtTreeMap.getElem?_filter, Option.pfilter_eq_filter]
      rfl
  | selectionGroup id =>
      show (m.selectionGroups.filter fun _ members => !members.isEmpty)[id]? = _
      rw [Std.ExtTreeMap.getElem?_filter, Option.pfilter_eq_filter]
      rfl

/-- Pruning drops what is empty. -/
theorem pruned_prune (m : Metadata) : m.prune.Pruned := by
  intro g ms h
  rw [members?_prune] at h
  simpa using (Option.filter_eq_some_iff.1 h).2

/-- Where nothing is empty nothing is dropped. -/
theorem prune_eq {m : Metadata} (h : m.Pruned) : m.prune = m := by
  refine ext_members? fun g => ?_
  rw [members?_prune]
  cases hm : m.members? g with
  | none => rfl
  | some ms => simp [Option.filter, h g ms hm]

/-- Whoever belongs to something is not dropped. -/
theorem isMember_prune (m : Metadata) (g : Membership) (e : EntityName) :
    m.prune.isMember g e = m.isMember g e := by
  rw [isMember_eq, isMember_eq, members?_prune]
  cases m.members? g with
  | none => rfl
  | some ms =>
      by_cases h : ms = ∅
      · simp [Option.filter, h]
      · simp [Option.filter, h]

/-- Where no layer or group is empty, metadata is the relation. -/
theorem ext_isMember {m m' : Metadata} (h : m.Pruned) (h' : m'.Pruned)
    (heq : ∀ g e, m.isMember g e = m'.isMember g e) : m = m' := by
  -- a layer that is there has a member, and whatever this one belongs to is there on
  -- the other side as well
  have hsome : ∀ {a b : Metadata}, a.Pruned →
      (∀ g e, a.isMember g e = b.isMember g e) →
      ∀ g ms, a.members? g = some ms → ∃ ms', b.members? g = some ms' := by
    intro a b ha hab g ms hms
    have hne := ha g ms hms
    rw [Ne, Std.ExtTreeSet.eq_empty_iff_forall_not_mem, not_forall] at hne
    obtain ⟨e, he⟩ := hne
    rw [not_not] at he
    have hb := hab g e
    rw [isMember_eq, isMember_eq, hms] at hb
    cases hbs : b.members? g with
    | none =>
        rw [hbs, Option.any_some, Option.any_none,
          Std.ExtTreeSet.contains_iff_mem.2 he] at hb
        cases hb
    | some ms' => exact ⟨ms', rfl⟩
  refine ext_members? fun g => ?_
  cases hm : m.members? g with
  | none =>
      cases hm' : m'.members? g with
      | none => rfl
      | some ms' =>
          obtain ⟨ms, hms⟩ := hsome h' (fun g e => (heq g e).symm) g ms' hm'
          rw [hm] at hms
          cases hms
  | some ms =>
      obtain ⟨ms', hm'⟩ := hsome h heq g ms hm
      rw [hm']
      congr 1
      refine Std.ExtTreeSet.ext_mem fun e => ?_
      have hb := heq g e
      rw [isMember_eq, isMember_eq, hm, hm'] at hb
      rw [Option.any_some, Option.any_some] at hb
      rw [← Std.ExtTreeSet.contains_iff_mem, hb, Std.ExtTreeSet.contains_iff_mem]

/-- Setting a membership to what it is changes nothing. -/
theorem put_isMember {m : Metadata} (h : m.Pruned) (g : Membership)
    (e : EntityName) : m.put g e (m.isMember g e) = m := by
  refine ext_isMember (pruned_put h g e _) h fun g' e' => ?_
  rw [isMember_put]
  split
  · next heq => rw [heq.1, heq.2]
  · rfl

-- ============================================================ one entity

/-- An entity is listed in exactly its memberships. -/
@[simp]
theorem mem_membershipsOf {m : Metadata} {g : Membership} {e : EntityName} :
    g ∈ m.membershipsOf e ↔ m.isMember g e = true := by
  unfold membershipsOf
  rw [isMember_eq]
  cases g with
  | layer name =>
      simp [members?, Std.ExtTreeMap.mem_toList_iff_getElem?_eq_some,
        Option.any_eq_true]
  | selectionGroup id =>
      simp [members?, Std.ExtTreeMap.mem_toList_iff_getElem?_eq_some,
        Option.any_eq_true]

/-- Several memberships of one entity, all set alike. -/
theorem isMember_foldl_put (e e' : EntityName) (b : Bool) (g' : Membership) :
    ∀ (gs : List Membership) (m : Metadata),
      (gs.foldl (·.put · e b) m).isMember g' e'
        = if g' ∈ gs ∧ e' = e then b else m.isMember g' e' := by
  intro gs
  induction gs with
  | nil => intro m; simp
  | cons g gs ih =>
      intro m
      rw [List.foldl_cons, ih, isMember_put]
      by_cases hin : g' ∈ gs <;> by_cases hg : g' = g <;>
        by_cases he : e' = e <;> simp [hin, hg, he]

/-- A series of joining and leaving leaves nothing empty. -/
theorem pruned_foldl_put (e : EntityName) (b : Bool) :
    ∀ (gs : List Membership) {m : Metadata}, m.Pruned →
      (gs.foldl (·.put · e b) m).Pruned := by
  intro gs
  induction gs with
  | nil => intro m h; exact h
  | cons g gs ih => intro m h; exact ih (pruned_put h g e b)

/-- An entity that leaves whatever it belongs to belongs to nothing. -/
theorem isMember_strip (m : Metadata) (e e' : EntityName) (g : Membership) :
    ((m.membershipsOf e).foldl (·.put · e false) m).isMember g e'
      = if e' = e then false else m.isMember g e' := by
  rw [isMember_foldl_put]
  by_cases he : e' = e
  · subst he
    cases hm : m.isMember g e' <;> simp [hm]
  · simp [he]

/-- An entity that left and rejoins, in whatever order, leads back. -/
theorem rejoin_strip {m : Metadata} (h : m.Pruned) (e : EntityName)
    {gs : List Membership} (hgs : ∀ g, g ∈ gs ↔ g ∈ m.membershipsOf e) :
    gs.foldl (·.put · e true)
      ((m.membershipsOf e).foldl (·.put · e false) m) = m := by
  refine ext_isMember
    (pruned_foldl_put e true _ (pruned_foldl_put e false _ h)) h fun g e' => ?_
  rw [isMember_foldl_put, isMember_strip]
  by_cases he : e' = e
  · subst he
    cases hm : m.isMember g e' <;> simp [hgs, hm]
  · simp [he]

-- ============================================================== all of them

/-- Every membership is listed, and nothing else is. -/
@[simp]
theorem mem_memberships {m : Metadata} {g : Membership} {e : EntityName} :
    (g, e) ∈ m.memberships ↔ m.isMember g e = true := by
  have hone : ∀ {κ : Type} {p : κ → Members → Prop} {k : κ},
      (∃ k' ms, p k' ms ∧ e ∈ ms ∧ k' = k) ↔ ∃ ms, p k ms ∧ e ∈ ms := by
    intro κ p k
    constructor
    · rintro ⟨_, ms, hp, he, rfl⟩
      exact ⟨ms, hp, he⟩
    · rintro ⟨ms, hp, he⟩
      exact ⟨k, ms, hp, he, rfl⟩
  unfold memberships
  rw [isMember_eq]
  cases g with
  | layer name =>
      simp [members?, Std.ExtTreeMap.mem_toList_iff_getElem?_eq_some, Option.any_eq_true, hone]
  | selectionGroup id =>
      simp [members?, Std.ExtTreeMap.mem_toList_iff_getElem?_eq_some, Option.any_eq_true, hone]

/-- What has no members adds none. -/
private theorem flatMap_filter_members {κ : Type} (l : List (κ × Members))
    (f : κ → EntityName → Membership × EntityName) :
    (l.filter fun x => !x.2.isEmpty).flatMap (fun x => x.2.toList.map (f x.1))
      = l.flatMap fun x => x.2.toList.map (f x.1) := by
  induction l with
  | nil => rfl
  | cons x l ih =>
      by_cases h : x.2 = ∅
      · simp [h, ih]
      · simp [h, ih]

/-- What is dropped by pruning was not listed before. -/
theorem memberships_prune (m : Metadata) : m.prune.memberships = m.memberships := by
  unfold memberships prune
  rw [Std.ExtTreeMap.toList_filter, Std.ExtTreeMap.toList_filter]
  exact congrArg₂ _ (flatMap_filter_members _ fun name e => (.layer name, e))
    (flatMap_filter_members _ fun id e => (.selectionGroup id, e))

/-- The list of memberships is the relation. -/
theorem memberships_eq_iff {m m' : Metadata} :
    m.memberships = m'.memberships ↔ ∀ g e, m.isMember g e = m'.isMember g e := by
  constructor
  · intro h g e
    rw [Bool.eq_iff_iff, ← mem_memberships, h, mem_memberships]
  · intro h
    have hprune : m.prune = m'.prune := by
      refine ext_isMember (pruned_prune m) (pruned_prune m') fun g e => ?_
      rw [isMember_prune, isMember_prune, h]
    rw [← memberships_prune, hprune, memberships_prune]

-- ============================================================ the order

/-- What is kept under strings is listed by them. -/
private theorem pairwise_toList_string {β : Type} (t : Std.ExtTreeMap String β) :
    t.toList.Pairwise fun x y => x.1 < y.1 := by
  refine (Std.ExtTreeMap.ordered_keys_toList (t := t)).imp fun h => ?_
  exact compareOfLessAndEq_eq_lt.1 h

/-- What is kept under numbers is listed by them. -/
private theorem pairwise_toList_nat {β : Type} (t : Std.ExtTreeMap Nat β) :
    t.toList.Pairwise fun x y => x.1 < y.1 :=
  Std.ExtTreeMap.ordered_keys_toList.imp Nat.compare_eq_lt.1

/-- The memberships of one entity are listed in order, layers before groups. -/
theorem pairwise_membershipsOf (m : Metadata) (e : EntityName) :
    (m.membershipsOf e).Pairwise Membership.Before := by
  refine List.pairwise_append.2 ⟨?_, ?_, ?_⟩
  · exact List.pairwise_map.2 ((pairwise_toList_string m.layers).filter _)
  · exact List.pairwise_map.2 ((pairwise_toList_nat m.selectionGroups).filter _)
  · intro g hg g' hg'
    obtain ⟨x, -, rfl⟩ := List.mem_map.1 hg
    obtain ⟨y, -, rfl⟩ := List.mem_map.1 hg'
    trivial

/-- The members of several groupings are listed one grouping after the
other. -/
private theorem pairwise_flatMap_members {κ : Type} {l : List (κ × Members)}
    (make : κ → Membership)
    (h : l.Pairwise fun x y => (make x.1).Before (make y.1)) :
    (l.flatMap fun x => x.2.toList.map (make x.1, ·)).Pairwise fun p q =>
      p.1.Before q.1 ∨ p.1 = q.1 ∧ p.2 < q.2 := by
  refine List.pairwise_flatMap.2 ⟨fun x _ => List.pairwise_map.2 ?_, h.imp ?_⟩
  · exact Std.ExtTreeSet.ordered_toList.imp fun hlt =>
      .inr ⟨rfl, compareOfLessAndEq_eq_lt.1 hlt⟩
  · intro x y hxy p hp q hq
    obtain ⟨e, -, rfl⟩ := List.mem_map.1 hp
    obtain ⟨e', -, rfl⟩ := List.mem_map.1 hq
    exact .inl hxy

/-- All memberships are listed in order, the members of one by name. -/
theorem pairwise_memberships (m : Metadata) :
    m.memberships.Pairwise fun p q =>
      p.1.Before q.1 ∨ p.1 = q.1 ∧ p.2 < q.2 := by
  refine List.pairwise_append.2 ⟨?_, ?_, ?_⟩
  · exact pairwise_flatMap_members .layer
      (pairwise_toList_string m.layers)
  · exact pairwise_flatMap_members .selectionGroup
      (pairwise_toList_nat m.selectionGroups)
  · intro p hp q hq
    obtain ⟨x, -, hx⟩ := List.mem_flatMap.1 hp
    obtain ⟨y, -, hy⟩ := List.mem_flatMap.1 hq
    obtain ⟨e, -, rfl⟩ := List.mem_map.1 hx
    obtain ⟨e', -, rfl⟩ := List.mem_map.1 hy
    exact .inl trivial

/-- No membership is listed twice. -/
theorem nodup_memberships (m : Metadata) : m.memberships.Nodup := by
  refine (pairwise_memberships m).imp fun h => ?_
  rintro rfl
  rcases h with hbefore | ⟨-, hlt⟩
  · exact Membership.Before.irrefl _ hbefore
  · exact String.lt_irrefl _ hlt

end Metadata

end SceneMerge
