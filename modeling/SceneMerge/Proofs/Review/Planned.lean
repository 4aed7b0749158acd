/-
What a merge proposes is a plan. Whatever is proposed has a deed, and the
deeds that are proposed for one entity make a plan for what the target has
under its name (`plan_block`): where the target does not have the entity it
is inserted at most, and where it has it, it is replaced, removed, or worked
on part by part. That the parts fit is what comparing the versions is for. A
key is listed once, one that is to be erased is still there unless the
target erased it as well, and of the children with one fingerprint no more
are removed than the target has (`fits_parts`).

An operation that was constructed from snapshots with distinct names thus
has a plan for every entity (`Operation.Planned`).
-/
import SceneMerge.Proofs.Difference.Memberships
import SceneMerge.Proofs.Review.Revision

namespace SceneMerge

open Deed

-- ============================================================== proposals

/-- What a proposal comes to if it is made. -/
def Proposal.deed? : Proposal → Option Deed
  | .action a => a.deed?
  | .conflict type source _ sourceEntity? _ => ofConflict? type source sourceEntity?

/-- What a change of a child does. -/
def ChildChange.deed (n : EntityName) : ChildChange → Deed
  | .added _ node => .addChild n node
  | .removed _ node => .removeChild n node.fingerprint

/-- What a change of a key does. -/
def KeyValueChange.deed (n : EntityName) (c : KeyValueChange) : Deed :=
  .setKey n c.key c.newValue?

/-- A child is a part of its entity. -/
theorem ChildChange.isPart_deed (n : EntityName) (c : ChildChange) :
    (c.deed n).isPart = true := by
  cases c <;> rfl

/-- What is done to children has nothing to do with keys. -/
theorem ChildChange.key?_deed (n : EntityName) (c : ChildChange) :
    (c.deed n).key? = none := by
  cases c <;> rfl

/-- It is about the entity that the children are of. -/
theorem ChildChange.name_deed (n : EntityName) (c : ChildChange) :
    (c.deed n).name = n := by
  cases c <;> rfl

namespace Action

/-- Each constructor of actions makes an action with a deed, since the place it writes
down is the one that its kind is about. -/
theorem deed?_addEntity (e : Entity) : (addEntity e).deed? = some (.insert e) :=
  deed?_eq_some.2 ⟨rfl, rfl⟩

/-- A removal takes out the entity of the name that it was made with. -/
theorem deed?_removeEntity (e : Entity) :
    (removeEntity e).deed? = some (.remove e.name) :=
  deed?_eq_some.2 ⟨rfl, rfl⟩

/-- For the change of a key the deed is the change itself; what the key had before is no
part of it. -/
theorem deed?_ofKeyValueChange (n : EntityName) (unchanged? : Option String)
    (c : KeyValueChange) :
    (ofKeyValueChange n unchanged? c).deed? = some (c.deed n) := by
  cases c <;> exact deed?_eq_some.2 ⟨rfl, rfl⟩

/-- For the change of a child the deed is the change itself. -/
theorem deed?_ofChildChange (n : EntityName) (c : ChildChange) :
    (ofChildChange n c).deed? = some (c.deed n) := by
  cases c <;> exact deed?_eq_some.2 ⟨rfl, rfl⟩

/-- Kind and place tell the deed. -/
theorem deed?_congr {a b : Action} (hk : a.kind = b.kind) (hn : a.node = b.node) :
    a.deed? = b.deed? := by
  unfold deed? entity
  rw [hk, hn]

end Action

namespace Operation

variable {op : Operation} {id : ActionId} {p : Proposal} {ps : List Proposal}

/-- What stands for a proposal comes to the same. -/
theorem Represents.deed? (h : op.Represents id p) : op.deed? id = p.deed? := by
  cases p with
  | action a =>
      obtain ⟨ha, -, -, hc⟩ := h
      rw [Operation.deed?, ha, Option.bind_some, hc]
      rfl
  | conflict type source target? sourceEntity? targetEntity? =>
      -- what is wrapped is switched off and owned, which a deed does not depend on:
      -- kind and place are those of the proposed action
      obtain ⟨c, ha, rfl, rfl, -, ⟨w, hw, hkind, hnode, -⟩, -⟩ := h
      have hdeed := Action.deed?_congr hkind hnode
      have hentity : w.entity = source.entity := congrArg NodePath.owner hnode
      rw [Operation.deed?, ha, Option.bind_some]
      show (op.action? c.source).bind _ = _
      rw [hw]
      show ofConflict? c.type w _ = ofConflict? c.type source _
      unfold ofConflict?
      rw [hdeed, hentity]

/-- The deeds of the order are those of the proposals, entry by entry. -/
theorem LaidOut.map_deed? (h : op.LaidOut ps) :
    op.order.map op.deed? = ps.map Proposal.deed? := by
  have hall := h.represents.imp fun _ _ hr => Represents.deed? hr
  rw [← List.forall₂_eq_eq_eq, List.forall₂_map_left_iff,
    List.forall₂_map_right_iff]
  exact hall

/-- The deeds that are there in the order are those of the proposals, in the same order:
entries without a deed are left out on both sides. -/
theorem LaidOut.filterMap_deed? (h : op.LaidOut ps) :
    op.order.filterMap op.deed? = ps.filterMap Proposal.deed? := by
  have hall := congrArg (List.filterMap id) h.map_deed?
  simpa only [List.filterMap_map, Function.id_comp] using hall

end Operation

-- ================================================================== parts

namespace Proposal

variable {base source target : Snapshot} {n : EntityName} {b s t : Entity}
  {c : KeyValueChange}

/-- A conflict about a key comes to the source's change of it. -/
theorem deed?_keyConflict (mine their : Option String) (target? : Option Action)
    (s? t? : Option Entity) :
    (conflict (keyConflict mine their) (sourceKeyValue target n c) target? s? t?).deed?
      = some (c.deed n) := by
  have hsource : (sourceKeyValue target n c).deed? = some (c.deed n) :=
    Action.deed?_ofKeyValueChange n _ c
  cases mine with
  | none => exact hsource
  | some mine =>
      cases their with
      | none => exact hsource
      | some their =>
          show (sourceKeyValue target n c).deed?.map inPlace = _
          rw [hsource]
          rfl

/-- Whatever is proposed for the change of a key is that change, and what it
erases is there. -/
theorem deeds_keyValue (target : Snapshot) (n : EntityName) (t : Entity)
    (hc : c ∈ b.keyValueChanges s) :
    keyValue target n (b.keyValueChanges t) s t c = []
      ∨ ∃ p, keyValue target n (b.keyValueChanges t) s t c = [p]
        ∧ p.deed? = some (c.deed n)
        ∧ (c.newValue? = none → t.value? c.key ≠ none) := by
  obtain ⟨-, hnew, hne⟩ := KeyValues.mem_changes.1 hc
  have hnew : c.newValue? = s.value? c.key := hnew
  have hmine : s.value? c.key ≠ b.value? c.key := Ne.symm hne
  have hplain : (Proposal.action (sourceKeyValue target n c)).deed? = some (c.deed n) :=
    Action.deed?_ofKeyValueChange n _ c
  have hblock := keyBlock hc target n t
  generalize keyValue target n (b.keyValueChanges t) s t c = ps at hblock
  -- the four ways in which both sides treat the key
  cases hblock with
  | untouched heq =>
      refine .inr ⟨_, rfl, hplain, fun hnone => ?_⟩
      rw [heq, ← hnone, hnew]
      exact Ne.symm hmine
  | alike => exact .inl rfl
  | again htheir heq hsome =>
      exact .inr ⟨_, rfl, hplain, fun hnone => absurd (hnew.symm.trans hnone) hsome⟩
  | unlike htheir hunlike =>
      refine .inr ⟨_, rfl, deed?_keyConflict .., fun hnone => ?_⟩
      rw [← hnone, hnew]
      exact Ne.symm hunlike

/-- The deeds on keys: some of the source's changes, in their order. -/
theorem deeds_keyValues (target : Snapshot) (n : EntityName) (t : Entity)
    (cs : List KeyValueChange) (hcs : ∀ c ∈ cs, c ∈ b.keyValueChanges s) :
    ((cs.flatMap (keyValue target n (b.keyValueChanges t) s t)).filterMap deed?).Sublist
      (cs.map (·.deed n)) := by
  induction cs with
  | nil => exact .slnil
  | cons c cs ih =>
      have hrest := ih fun c' hc' => hcs c' (List.mem_cons_of_mem _ hc')
      rw [List.flatMap_cons, List.filterMap_append, List.map_cons]
      rcases deeds_keyValue target n t (hcs c List.mem_cons_self) with
        hnil | ⟨p, hone, hdeed, -⟩
      · rw [hnil]
        exact hrest.cons _
      · rw [hone, List.filterMap_cons_some hdeed]
        exact hrest.cons_cons _

/-- The deeds on children: the source's changes that the target did not make
as well. -/
theorem deeds_children (n : EntityName) (theirs changes : List ChildChange) :
    (changes.flatMap (child n theirs)).filterMap deed?
      = (changes.filter (survives theirs)).map (·.deed n) := by
  rw [flatMap_child, List.filterMap_map, ← List.filterMap_eq_map]
  refine List.filterMap_congr fun c _ => ?_
  exact Action.deed?_ofChildChange n c

/-- Of one fingerprint, as many keys are listed as changes. -/
theorem count_keysOf (added : Bool) (f : Fingerprint) (cs : List ChildChange) :
    ((keysOf added cs).map (·.fingerprint)).count f
      = cs.countP fun c => c.isAddition == added && c.key.fingerprint == f := by
  rw [← ChildKey.countP_fingerprint, keysOf, List.countP_map, List.countP_filter]
  refine List.countP_congr fun c _ => ?_
  rw [Bool.and_comm]
  rfl

/-- A deed on a key is a change of the source, and what it erases is
there. -/
theorem exists_keyChange (target : Snapshot) (n : EntityName) (b s t : Entity) :
    ∀ d ∈ ((b.keyValueChanges s).flatMap
        (keyValue target n (b.keyValueChanges t) s t)).filterMap deed?,
      ∃ c : KeyValueChange, d = c.deed n
        ∧ (c.newValue? = none → t.value? c.key ≠ none) := by
  intro d hd
  obtain ⟨p, hp, hdeed⟩ := List.mem_filterMap.1 hd
  obtain ⟨c, hc, hp⟩ := List.mem_flatMap.1 hp
  rcases deeds_keyValue target n t hc with hnil | ⟨q, hone, hq, hthere⟩
  · rw [hnil] at hp
    cases hp
  · rw [hone] at hp
    cases List.mem_singleton.1 hp
    exact ⟨c, Option.some.inj (hdeed.symm.trans hq), hthere⟩

/-- No key is written twice. -/
theorem nodup_keys (target : Snapshot) (n : EntityName) (b s t : Entity) :
    ((((b.keyValueChanges s).flatMap
      (keyValue target n (b.keyValueChanges t) s t)).filterMap deed?).filterMap
        key?).Nodup := by
  have hlisted : ((b.keyValueChanges s).map (·.deed n)).filterMap key?
      = (b.keyValueChanges s).map KeyValueChange.key := by
    rw [List.filterMap_map, ← List.filterMap_eq_map]
    rfl
  have hnodup : ((b.keyValueChanges s).map KeyValueChange.key).Nodup :=
    KeyValues.changes_nodup
  have hsub := deeds_keyValues target n t (b.keyValueChanges s) fun _ h => h
  exact hnodup.sublist (hlisted ▸ hsub.filterMap key?)

/-- The deeds for an entity that all three have add and remove as many children
as changes survive. -/
theorem countP_parts (target : Snapshot) (n : EntityName) (b s t : Entity)
    (f : Fingerprint) :
    ((parts target n b s t).filterMap deed?).countP (removes f)
        = ((keysOf false ((b.childChanges s).filter
          (survives (b.childChanges t)))).map (·.fingerprint)).count f
      ∧ ((parts target n b s t).filterMap deed?).countP (adds f)
        = ((keysOf true ((b.childChanges s).filter
          (survives (b.childChanges t)))).map (·.fingerprint)).count f := by
  have hmem := exists_keyChange target n b s t
  rw [parts, List.filterMap_append, deeds_children, List.countP_append, List.countP_append,
    count_keysOf, count_keysOf, List.countP_map, List.countP_map]
  -- deeds on keys neither add nor remove children, so only the changes of children are
  -- counted
  have hkeys : ∀ q : Deed → Bool, (∀ key value?, q (.setKey n key value?) = false) →
      (((b.keyValueChanges s).flatMap (keyValue target n (b.keyValueChanges t) s t)).filterMap
        deed?).countP q = 0 := by
    intro q hq
    refine List.countP_eq_zero.2 fun d hd => ?_
    obtain ⟨c, rfl, -⟩ := hmem d hd
    rw [KeyValueChange.deed, hq]
    exact Bool.false_ne_true
  rw [hkeys _ fun _ _ => rfl, hkeys _ fun _ _ => rfl, Nat.zero_add, Nat.zero_add]
  -- a child goes by the fingerprint of its key, on either side
  refine ⟨List.countP_congr fun c hc => ?_, List.countP_congr fun c hc => ?_⟩
  · cases c with
    | added => simp [ChildChange.deed, removes, ChildChange.isAddition]
    | removed key node =>
        have hmem := Entity.mem_childChanges_removed.1 (List.mem_of_mem_filter hc)
        simp [ChildChange.deed, removes, ChildChange.isAddition, ChildChange.key,
          (Matching.of_mem_onlyLeft hmem).2.2]
  · cases c with
    | removed => simp [ChildChange.deed, adds, ChildChange.isAddition]
    | added key node =>
        have hmem := Entity.mem_childChanges_added.1 (List.mem_of_mem_filter hc)
        simp [ChildChange.deed, adds, ChildChange.isAddition, ChildChange.key,
          (Matching.of_mem_onlyRight hmem).2.1]

/-- What is proposed for the parts of an entity fits it. -/
theorem fits_parts (target : Snapshot) (n : EntityName) (b s t : Entity) :
    Fits t ((parts target n b s t).filterMap deed?) := by
  have hkeys := nodup_keys target n b s t
  have hmem := exists_keyChange target n b s t
  -- what is removed was left over in the base, and survives only if the target still
  -- has it
  have henough : ∀ f, ((parts target n b s t).filterMap deed?).countP (removes f)
      ≤ t.fingerprints.count f := fun f =>
    (countP_parts target n b s t f).1 ▸ count_removed_le b s t f
  rw [parts, List.filterMap_append, deeds_children] at henough ⊢
  generalize ((b.keyValueChanges s).flatMap
    (keyValue target n (b.keyValueChanges t) s t)).filterMap deed? = ks at *
  have hchild : ∀ d ∈ ((b.childChanges s).filter (survives (b.childChanges t))).map
      (·.deed n), ∃ c : ChildChange, d = c.deed n := by
    intro d hd
    obtain ⟨c, -, rfl⟩ := List.mem_map.1 hd
    exact ⟨c, rfl⟩
  -- parts only; no key twice; what is erased is there; and enough children of each
  -- fingerprint
  refine ⟨fun d hd => ?_, ?_, fun n' key hd => ?_, henough⟩
  · rcases List.mem_append.1 hd with hd | hd
    · obtain ⟨c, rfl, -⟩ := hmem d hd
      rfl
    · obtain ⟨c, rfl⟩ := hchild d hd
      exact c.isPart_deed n
  · have hnone : (((b.childChanges s).filter (survives (b.childChanges t))).map
        (·.deed n)).filterMap key? = [] := by
      refine List.filterMap_eq_nil_iff.2 fun d hd => ?_
      obtain ⟨c, rfl⟩ := hchild d hd
      exact c.key?_deed n
    rw [List.filterMap_append, hnone, List.append_nil]
    exact hkeys
  · rcases List.mem_append.1 hd with hd | hd
    · obtain ⟨c, heq, hthere⟩ := hmem _ hd
      obtain ⟨-, rfl, hnone⟩ := Deed.setKey.inj heq
      exact hthere hnone.symm
    · obtain ⟨c, heq⟩ := hchild _ hd
      cases c <;> cases heq

-- =============================================================== entities

/-- All that is proposed for an entity comes to something, and makes a plan
for what the target has. -/
theorem plan_block {ps : List Proposal} (h : Block base source target n ps) :
    (∀ p ∈ ps, ∃ d, p.deed? = some d ∧ d.name = n)
      ∧ Plan (target.entity? n) (ps.filterMap deed?) := by
  have hone : ∀ {p : Proposal} {d : Deed}, p.deed? = some d → d.name = n →
      Plan (target.entity? n) [d] →
      (∀ q ∈ [p], ∃ d, q.deed? = some d ∧ d.name = n)
        ∧ Plan (target.entity? n) ([p].filterMap deed?) := by
    intro p d hd hn hplan
    rw [List.filterMap_cons_some hd]
    exact ⟨fun q hq => List.mem_singleton.1 hq ▸ ⟨d, hd, hn⟩, hplan⟩
  have hnil : (∀ q ∈ ([] : List Proposal), ∃ d, q.deed? = some d ∧ d.name = n)
      ∧ Plan (target.entity? n) [] := ⟨by simp, .nil _⟩
  -- one case for each way in which the two sides treat the entity
  cases h with
  | @add s hb hs ht =>
      refine hone (Action.deed?_addEntity s) (Snapshot.entity?_name hs) ?_
      rw [ht]
      exact .insert s
  | addedAlike => exact hnil
  | removedBoth => exact hnil
  | @addedUnlike s t hb hs ht hne =>
      have hd : ofConflict? .settingKeyToDifferentValue (.addEntity s) (some s)
          = some (.replace s) := by
        show (Action.addEntity s).deed?.map inPlace = _
        rw [Action.deed?_addEntity]
        rfl
      refine hone hd (Snapshot.entity?_name hs) ?_
      rw [ht]
      exact .replace t s
  | @remove b t hb hs ht heq =>
      refine hone (Action.deed?_removeEntity t) (Snapshot.entity?_name ht) ?_
      rw [ht]
      exact .remove t
  | @removedModified b t a hb hs ht hne hpart =>
      refine hone (Action.deed?_removeEntity t) (Snapshot.entity?_name ht) ?_
      rw [ht]
      exact .remove t
  | @modifiedRemoved b s a hb hs ht hne hpart =>
      have hname := Snapshot.entity?_name hs
      have hentity := (sideChange_part hb hs hpart).2
      have hd : ofConflict? .modificationOfRemovedEntity a (some s)
          = some (.insert s) := by
        simp [ofConflict?, hname, hentity]
      refine hone hd hname ?_
      rw [ht]
      exact .insert s
  | @parts b s t hb hs ht hne =>
      refine ⟨fun p hp => ?_, ?_⟩
      · cases ofPart_of_mem hp with
        | @key c => exact ⟨c.deed n, Action.deed?_ofKeyValueChange n _ c, rfl⟩
        | @conflict c => exact ⟨c.deed n, deed?_keyConflict .., rfl⟩
        | @child c => exact ⟨c.deed n, Action.deed?_ofChildChange n c, c.name_deed n⟩
      · rw [ht]
        exact .parts (fits_parts target n b s t)

section about

variable {theirs : SceneDiff} {cs : List EntityChange}
  (hcs : ∀ c ∈ cs, Block base source target c.name (about theirs target c))

include hcs

/-- What is proposed for an entity is about that entity. -/
theorem name_of_mem_about {c : EntityChange} (hc : c ∈ cs) {d : Deed}
    (hd : d ∈ (about theirs target c).filterMap deed?) : d.name = c.name := by
  obtain ⟨p, hp, hdeed⟩ := List.mem_filterMap.1 hd
  obtain ⟨d', hd', hn⟩ := (plan_block (hcs c hc)).1 p hp
  cases hdeed.symm.trans hd'
  exact hn

/-- Nothing is proposed under a name that no change is listed under. -/
theorem deeds_about_of_not_mem {n : EntityName} (hn : n ∉ cs.map (·.name)) :
    ((cs.flatMap (about theirs target)).filterMap deed?).filter (·.name == n) = [] := by
  refine List.filter_eq_nil_iff.2 fun d hd => ?_
  rw [List.filterMap_flatMap] at hd
  obtain ⟨c, hc, hd⟩ := List.mem_flatMap.1 hd
  rw [beq_iff_eq, name_of_mem_about hcs hc hd]
  rintro rfl
  exact hn (List.mem_map_of_mem hc)

/-- The deeds that are proposed under one name are those of the change of
the source that is listed under it. -/
theorem deeds_about (hnames : (cs.map (·.name)).Nodup) {c : EntityChange} (hc : c ∈ cs) :
    ((cs.flatMap (about theirs target)).filterMap deed?).filter (·.name == c.name)
      = (about theirs target c).filterMap deed? := by
  have hall : ((about theirs target c).filterMap deed?).filter (·.name == c.name)
      = (about theirs target c).filterMap deed? :=
    List.filter_eq_self.2 fun d hd => beq_iff_eq.2 (name_of_mem_about hcs hc hd)
  obtain ⟨before, after, rfl⟩ := List.append_of_mem hc
  rw [List.map_append, List.map_cons, List.nodup_middle, List.nodup_cons,
    List.mem_append, not_or] at hnames
  have hbefore := deeds_about_of_not_mem
    (fun c' hc' => hcs c' (List.mem_append_left _ hc')) hnames.1.1
  have hafter := deeds_about_of_not_mem
    (fun c' hc' => hcs c' (List.mem_append_right _ (List.mem_cons_of_mem _ hc'))) hnames.1.2
  rw [List.flatMap_append, List.flatMap_cons, List.filterMap_append,
    List.filterMap_append, List.filter_append, List.filter_append, hall, hbefore, hafter,
    List.nil_append, List.append_nil]

/-- Names are listed once, so under each name there is one plan, or nothing to be done.
-/
theorem plan_about (hnames : (cs.map (·.name)).Nodup) (n : EntityName) :
    Plan (target.entity? n)
      (((cs.flatMap (about theirs target)).filterMap deed?).filter (·.name == n)) := by
  by_cases hn : n ∈ cs.map (·.name)
  · obtain ⟨c, hc, rfl⟩ := List.mem_map.1 hn
    rw [deeds_about hcs hnames hc]
    exact (plan_block (hcs c hc)).2
  · rw [deeds_about_of_not_mem hcs hn]
    exact .nil _

end about

/-- Comparing the target with itself finds nothing, so without a base every
change of the source is proposed as it is. -/
theorem threeWay_self {diff theirs : SceneDiff} (ht : target.names.Nodup)
    (hth : target.changes target = .ok theirs) :
    threeWay diff theirs target = twoWay diff target := by
  have hnone : ∀ n, theirs.change? n = none := by
    intro n
    rw [Snapshot.change?_eq ht ht hth, Snapshot.deltaOf?_eq_none.2 (.refl _)]
    rfl
  unfold threeWay twoWay
  simp only [hnone]

end Proposal

-- ============================================================= operations

namespace Operation

/-- What the operation lists comes to deeds that make a plan for each of the
target's entities. -/
structure Planned (target : Snapshot) (op : Operation) : Prop where
  distinct : op.order.Nodup
  deeds : ∀ id ∈ op.order, ∃ d, op.deed? id = some d
  plan : ∀ n, Plan (target.entity? n)
    ((op.order.filterMap op.deed?).filter (·.name == n))

variable {base source target : Snapshot} {op : Operation}

/-- An operation that is laid out like a three-way merge has a plan for every entity. -/
theorem planned_threeWay {ours theirs : SceneDiff} (hb : base.names.Nodup)
    (hs : source.names.Nodup) (ht : target.names.Nodup)
    (ho : base.changes source = .ok ours) (hth : base.changes target = .ok theirs)
    (hlaid : op.LaidOut (Proposal.threeWay ours theirs target)) :
    op.Planned target where
  distinct := hlaid.distinct
  deeds := by
    intro id hid
    obtain ⟨p, hp, hrep⟩ := hlaid.exists_proposal hid
    obtain ⟨n, ps, hblock, hp⟩ := Proposal.block_of_mem hb hs ht ho hth hp
    obtain ⟨d, hd, -⟩ := (Proposal.plan_block hblock).1 p hp
    exact ⟨d, hrep.deed?.trans hd⟩
  plan n := by
    rw [hlaid.filterMap_deed?, Proposal.threeWay_eq]
    exact Proposal.plan_about (fun c hc => Proposal.block_about hb hs ht ho hth hc)
      (Snapshot.changes_names_nodup hb hs ho) n

end Operation

-- ============================================================ memberships

/-- No two of the changes are of one membership of one entity. -/
def MembershipChange.Consistent (changes : List MembershipChange) : Prop :=
  ∀ c ∈ changes, ∀ c' ∈ changes,
    c.membership = c'.membership → c.entity = c'.entity → c = c'

/-- Some of the changes are consistent if all are. -/
theorem MembershipChange.Consistent.subset {changes changes' : List MembershipChange}
    (h : Consistent changes) (hsub : changes' ⊆ changes) : Consistent changes' :=
  fun c hc c' hc' => h c (hsub hc) c' (hsub hc')

/-- Comparing lists each membership of each entity once, as what it has become. -/
theorem Snapshot.consistent_changes {base other : Snapshot} {diff : SceneDiff}
    (h : base.changes other = .ok diff) :
    MembershipChange.Consistent diff.memberships := by
  intro c hc c' hc' hg he
  rw [changes_memberships h] at hc hc'
  have hm := (Metadata.mem_changes.1 hc).2
  have hm' := (Metadata.mem_changes.1 hc').2
  rw [hg, he, hm'] at hm
  obtain ⟨g, e, m⟩ := c
  obtain ⟨g', e', m'⟩ := c'
  cases hg
  cases he
  cases hm
  rfl

namespace Operation

/-- Nothing of the operation was applied yet. -/
structure Fresh (op : Operation) : Prop where
  applied : op.applied = []
  memberships : op.appliedMemberships = []

variable {source target : Snapshot} {base? : Option Snapshot} {op : Operation}

/-- Membership changes are appended in their order, switched on. -/
theorem memberships_addMemberships (changes : List MembershipChange) :
    ∀ op : Operation, (op.addMemberships changes).memberships
      = op.memberships ++ changes.map (⟨·, true⟩) := by
  induction changes with
  | nil => exact fun op => (List.append_nil _).symm
  | cons change changes ih =>
      intro op
      refine (ih (op.addMembership change)).trans ?_
      have hone : (op.addMembership change).memberships
          = op.memberships ++ [⟨change, true⟩] := rfl
      rw [hone, List.append_assoc]
      rfl

/-- Nothing of what is proposed was applied, and all its membership changes are
switched on. -/
theorem fresh_proposed (source : Snapshot) (path : String)
    (options : MergeOptions) (ps : List Proposal) (changes : List MembershipChange) :
    let op := ((blank source path options).proposeAll ps).addMemberships changes
    op.Fresh ∧ op.memberships = changes.map (⟨·, true⟩) := by
  have hblank : (blank source path options).Fresh
      ∧ (blank source path options).memberships = [] := ⟨⟨rfl, rfl⟩, rfl⟩
  have hproposed := proposeAll_keeps (P := fun op => op.Fresh ∧ op.memberships = [])
    (fun op p h => by cases p <;> exact ⟨⟨h.1.applied, h.1.memberships⟩, h.2⟩)
    ps hblank
  refine ⟨addMemberships_keeps (P := Fresh) (fun op c h => ⟨h.applied, h.memberships⟩)
    changes hproposed.1, ?_⟩
  rw [memberships_addMemberships, hproposed.2, List.nil_append]

/-- What is proposed is planned, and its membership changes are those of the
source. -/
theorem planned_proposed {base : Snapshot} (path : String)
    {ours theirs : SceneDiff} (hb : base.names.Nodup) (hs : source.names.Nodup)
    (ht : target.names.Nodup) (ho : base.changes source = .ok ours)
    (hth : base.changes target = .ok theirs) (options : MergeOptions)
    {changes : List MembershipChange} (hsub : changes ⊆ ours.memberships) :
    let op := ((blank source path options).proposeAll
      (Proposal.threeWay ours theirs target)).addMemberships changes
    op.Planned target ∧ op.Fresh
      ∧ MembershipChange.Consistent (op.memberships.map (·.change)) := by
  obtain ⟨hlaid, -⟩ := laidOut_proposed path hb hs ht ho hth options changes
  obtain ⟨hfresh, hchanges⟩ := fresh_proposed source path options
    (Proposal.threeWay ours theirs target) changes
  refine ⟨planned_threeWay hb hs ht ho hth hlaid, hfresh, ?_⟩
  rw [hchanges, List.map_map]
  exact (Snapshot.consistent_changes ho).subset ((List.map_id changes).symm ▸ hsub)

/-- With or without a base, merging snapshots whose names are distinct is
granted, and there is a plan for each of the target's entities. -/
theorem construct_planned (hb : ∀ base ∈ base?, base.names.Nodup)
    (hs : source.names.Nodup) (ht : target.names.Nodup) (options : MergeOptions) :
    ∃ op, Operation.construct source base? target options = .ok op
      ∧ op.Planned target ∧ op.Fresh
      ∧ MembershipChange.Consistent (op.memberships.map (·.change)) := by
  cases base? with
  | some base =>
      have hb := hb base rfl
      obtain ⟨ours, theirs, ho, hth, hcon⟩ := construct_threeWay hb hs ht options
      exact ⟨_, hcon, planned_proposed base.path hb hs ht ho hth options
        List.filter_sublist.subset⟩
  | none =>
      obtain ⟨diff, hd, hcon⟩ := construct_twoWay hs ht options
      obtain ⟨theirs, hth, -⟩ := Snapshot.changes_eq_ok ht ht
      rw [← Proposal.threeWay_self ht hth] at hcon
      exact ⟨_, hcon, planned_proposed "" ht hs ht hd hth options
        List.filter_sublist.subset⟩

end Operation

end SceneMerge
