/-
Classification is exact. Which changes of the source collide with changes
of the target is said without differences or proposals, by the three
versions of an entity or the three values of a key (`Collision`). The
conflicts of a merge are the collisions, one for each, and what is
proposed besides stays clear of them (`conflicts_exact`).

# From blocks to operations

A block proposes a conflict exactly where its entity is collided
(`collision_of_mem`, `exists_of_collision`), and no two at one place
(`pairwise_apart`). Blocks of different entities have no place in common,
so the same holds of all proposals of a merge, and the layout of the
operation carries it over to actions.
-/
import SceneMerge.Proofs.Review.Layout
import SceneMerge.Proofs.Review.SideChange

namespace SceneMerge

-- =========================================================== specification

/-- The source and the target changed the same place in ways that do not
go together. -/
inductive Collision (base source target : Snapshot) :
    NodePath → ConflictType → Prop where
  | modifiedRemoved {n : EntityName} {b s : Entity} :
      base.entity? n = some b → source.entity? n = some s →
      target.entity? n = none → s.semanticallyEqual b = false →
      Collision base source target (.entity n) .modificationOfRemovedEntity
  | removedModified {n : EntityName} {b t : Entity} :
      base.entity? n = some b → source.entity? n = none →
      target.entity? n = some t → t.semanticallyEqual b = false →
      Collision base source target (.entity n) .removalOfModifiedEntity
  | addedUnlike {n : EntityName} {s t : Entity} :
      base.entity? n = none → source.entity? n = some s →
      target.entity? n = some t → s.semanticallyEqual t = false →
      Collision base source target (.entity n) .settingKeyToDifferentValue
  | keyValue {n : EntityName} {b s t : Entity} {key : String} :
      base.entity? n = some b → source.entity? n = some s →
      target.entity? n = some t → s.value? key ≠ b.value? key →
      t.value? key ≠ b.value? key → s.value? key ≠ t.value? key →
      Collision base source target (.keyValue n key)
        (Proposal.keyConflict (s.value? key) (t.value? key))

variable {base source target : Snapshot} {n : EntityName}

/-- Collisions are where the source changed something. -/
theorem Collision.exists_delta {node : NodePath} {type : ConflictType}
    (h : Collision base source target node type) :
    ∃ d, base.deltaOf? source node.owner = some d := by
  -- an entity that the source has, and has otherwise than the base
  have hmodified : ∀ {n b s}, base.entity? n = some b →
      source.entity? n = some s → s.semanticallyEqual b = false →
      ∃ d, base.deltaOf? source n = some d := by
    intro n b s hb hs hne
    rw [Entity.semanticallyEqual_comm] at hne
    rw [Snapshot.deltaOf?, hb, hs]
    exact (Snapshot.exists_delta? hb hs).2 hne
  cases h with
  | modifiedRemoved hb hs _ hne => exact hmodified hb hs hne
  | removedModified hb hs =>
      rw [NodePath.owner, Snapshot.deltaOf?, hb, hs]
      exact ⟨_, rfl⟩
  | addedUnlike hb hs =>
      rw [NodePath.owner, Snapshot.deltaOf?, hb, hs]
      exact ⟨_, rfl⟩
  | keyValue hb hs _ hmine =>
      refine hmodified hb hs (Bool.eq_false_iff.2 fun heq => hmine ?_)
      exact Entity.value?_of_semanticallyEqual heq _

-- ============================================================== one block

namespace Proposal

/-- Where a proposed conflict is, and of which type. -/
def place? : Proposal → Option (NodePath × ConflictType)
  | .action _ => none
  | .conflict type source .. => some (Operation.conflictNode type source, type)

/-- Not conflicts at one place. -/
def Apart (p q : Proposal) : Prop :=
  ∀ x y, p.place? = some x → q.place? = some y → x.1 ≠ y.1

/-- The change of a key is at the node of that key, whatever change it is. -/
theorem sourceKeyValue_node (target : Snapshot) (n : EntityName)
    (c : KeyValueChange) :
    (sourceKeyValue target n c).node = .keyValue n c.key := by
  cases c <;> rfl

/-- A collision of two values is one of the key, whichever it is. -/
theorem conflictNode_keyConflict (mine their : Option String) (a : Action) :
    Operation.conflictNode (keyConflict mine their) a = a.node := by
  cases mine <;> cases their <;> rfl

variable {ps : List Proposal} {p : Proposal}

/-- The conflicts of a block are collisions of its entity. -/
theorem collision_of_mem (h : Block base source target n ps) (hp : p ∈ ps)
    {node : NodePath} {type : ConflictType}
    (hplace : p.place? = some (node, type)) :
    Collision base source target node type ∧ node.owner = n := by
  cases h with
  | add => cases List.mem_singleton.1 hp; cases hplace
  | addedAlike => cases hp
  | addedUnlike hb hs ht hne =>
      cases List.mem_singleton.1 hp
      cases hplace
      have hn := Snapshot.entity?_name hs
      subst hn
      exact ⟨.addedUnlike hb hs ht hne, rfl⟩
  | removedBoth => cases hp
  | remove => cases List.mem_singleton.1 hp; cases hplace
  | removedModified hb hs ht hne =>
      cases List.mem_singleton.1 hp
      cases hplace
      have hn := Snapshot.entity?_name ht
      subst hn
      rw [Entity.semanticallyEqual_comm] at hne
      exact ⟨.removedModified hb hs ht hne, rfl⟩
  -- the conflict is at the entity of the part that was changed, whichever part that is
  | modifiedRemoved hb hs ht hne hpart =>
      cases List.mem_singleton.1 hp
      cases hplace
      obtain ⟨-, hn⟩ := sideChange_part hb hs hpart
      rw [Entity.semanticallyEqual_comm] at hne
      rw [Operation.conflictNode, hn]
      exact ⟨.modifiedRemoved hb hs ht hne, rfl⟩
  -- of the parts only keys can collide
  | parts hb hs ht =>
      cases ofPart_of_mem hp with
      | key => cases hplace
      | child => cases hplace
      | conflict hc _ htheir hunlike =>
          rw [place?, Option.some.injEq, Prod.mk.injEq,
            conflictNode_keyConflict, sourceKeyValue_node] at hplace
          obtain ⟨rfl, rfl⟩ := hplace
          have hmine := (KeyValues.mem_changes.1 hc).2.2
          exact ⟨.keyValue hb hs ht (Ne.symm hmine) htheir hunlike, rfl⟩

/-- A collision of two values is proposed with the parts of the entity. -/
theorem exists_keyConflict {b s t : Entity} {key : String}
    (hmine : s.value? key ≠ b.value? key)
    (htheir : t.value? key ≠ b.value? key)
    (hunlike : s.value? key ≠ t.value? key) :
    ∃ p ∈ parts target n b s t, p.place?
      = some (.keyValue n key, keyConflict (s.value? key) (t.value? key)) := by
  obtain ⟨c, hc, rfl⟩ := KeyValues.exists_change (Ne.symm hmine)
  generalize hps : keyValue target n (b.keyValueChanges t) s t c = qs
  have hblock := keyBlock hc target n t
  rw [hps] at hblock
  cases hblock with
  | untouched heq => exact absurd heq htheir
  | alike _ heq => exact absurd heq hunlike
  | again _ heq => exact absurd heq hunlike
  | unlike =>
      refine ⟨_, List.mem_append_left _ (List.mem_flatMap_of_mem hc
        (hps.symm ▸ List.mem_singleton_self _)), ?_⟩
      rw [place?, conflictNode_keyConflict, sourceKeyValue_node]

/-- Every collision of its entity is a conflict of the block. -/
theorem exists_of_collision (h : Block base source target n ps)
    {node : NodePath} {type : ConflictType}
    (hcol : Collision base source target node type) (hn : node.owner = n) :
    ∃ p ∈ ps, p.place? = some (node, type) := by
  cases hcol with
  | modifiedRemoved hb hs ht hne =>
      subst hn
      rw [Entity.semanticallyEqual_comm] at hne
      cases h with
      | modifiedRemoved hb' hs' ht' hne' hpart =>
          refine ⟨_, List.mem_singleton_self _, ?_⟩
          rw [place?, Operation.conflictNode, (sideChange_part hb' hs' hpart).2]
          rfl
      | _ => simp_all [NodePath.owner]
  | removedModified hb hs ht hne =>
      subst hn
      rw [Entity.semanticallyEqual_comm] at hne
      cases h with
      | removedModified hb' hs' ht' hne' =>
          refine ⟨_, List.mem_singleton_self _, ?_⟩
          rw [place?, Operation.conflictNode, Action.removeEntity,
            Action.entity, NodePath.owner, Snapshot.entity?_name ht']
          rfl
      | _ => simp_all [NodePath.owner]
  | addedUnlike hb hs ht hne =>
      subst hn
      cases h with
      | addedUnlike hb' hs' ht' hne' =>
          refine ⟨_, List.mem_singleton_self _, ?_⟩
          have hname := Snapshot.entity?_name hs'
          show some (NodePath.entity _, _) = _
          rw [hname]
          rfl
      | _ => simp_all [NodePath.owner]
  -- all three have the entity, so its block is that of its parts
  | keyValue hb hs ht hmine htheir hunlike =>
      subst hn
      cases h with
      | parts hb' hs' ht' =>
          cases hb.symm.trans hb'
          cases hs.symm.trans hs'
          cases ht.symm.trans ht'
          exact exists_keyConflict hmine htheir hunlike
      | _ => simp_all [NodePath.owner]

/-- Whatever is proposed as an action is fresh. -/
theorem plain_of_mem (h : Block base source target n ps) (hp : p ∈ ps) :
    p.Plain := by
  cases h with
  | parts =>
      cases ofPart_of_mem hp with
      | @key c => cases c <;> exact ⟨rfl, rfl, rfl⟩
      | @child c => cases c <;> exact ⟨rfl, rfl, rfl⟩
      | conflict => trivial
  | add => cases List.mem_singleton.1 hp; exact ⟨rfl, rfl, rfl⟩
  | remove => cases List.mem_singleton.1 hp; exact ⟨rfl, rfl, rfl⟩
  | addedUnlike => cases List.mem_singleton.1 hp; trivial
  | removedModified => cases List.mem_singleton.1 hp; trivial
  | modifiedRemoved => cases List.mem_singleton.1 hp; trivial
  | addedAlike => cases hp
  | removedBoth => cases hp

/-- A conflict wraps a change of either side, and knows the versions of
its entity. -/
theorem sides_of_mem (h : Block base source target n ps) {type : ConflictType}
    {a : Action} {target? : Option Action} {s? t? : Option Entity}
    (hp : .conflict type a target? s? t? ∈ ps) :
    SideChange base source a.kind a.node
      ∧ s? = source.entity? n ∧ t? = target.entity? n
      ∧ ∃ their, target? = some their ∧ their.entity = n
        ∧ SideChange base target their.kind their.node := by
  cases h with
  | addedUnlike hb hs ht =>
      cases List.mem_singleton.1 hp
      have hn := Snapshot.entity?_name hs
      have hn' := Snapshot.entity?_name ht
      subst hn
      exact ⟨.added hb hs, hs.symm, ht.symm, _, rfl, hn',
        .added (hn'.symm ▸ hb) (hn'.symm ▸ ht)⟩
  -- the source removed the entity, and the change of the target is one of the entity's
  -- parts
  | removedModified hb hs ht _ hpart =>
      cases List.mem_singleton.1 hp
      obtain ⟨hchange, hn⟩ := sideChange_part hb ht hpart
      have hn' := Snapshot.entity?_name ht
      exact ⟨.removed (hn'.symm ▸ hb) (hn'.symm ▸ hs), hs.symm, ht.symm, _,
        rfl, hn, hchange⟩
  | modifiedRemoved hb hs ht _ hpart =>
      cases List.mem_singleton.1 hp
      obtain ⟨hchange, -⟩ := sideChange_part hb hs hpart
      have hn := Snapshot.entity?_name hb
      exact ⟨hchange, hs.symm, ht.symm, _, rfl, hn,
        .removed (hn.symm ▸ hb) (hn.symm ▸ ht)⟩
  | parts hb hs ht =>
      cases ofPart_of_mem hp with
      | conflict hc hc' =>
          obtain ⟨hmine, -⟩ := sideChange_part hb hs (.keyValue hc)
          obtain ⟨htheir, hn⟩ := sideChange_part hb ht (.keyValue hc')
          exact ⟨hmine, hs.symm, ht.symm, _, rfl, hn, htheir⟩
  | _ => simp at hp

/-- What is proposed as an action is clear of all collisions. -/
theorem clear_of_mem (h : Block base source target n ps) {a : Action}
    (hp : .action a ∈ ps) (type : ConflictType) :
    ¬ Collision base source target (.entity a.entity) type
      ∧ ¬ Collision base source target a.node type := by
  -- where there is nothing but the action, there is no conflict to be found
  have halone : ∀ node, ps = [.action a] → node.owner = n →
      ¬ Collision base source target node type := by
    rintro node rfl hn hcol
    obtain ⟨q, hq, hplace⟩ := exists_of_collision h hcol hn
    rw [List.mem_singleton.1 hq] at hplace
    cases hplace
  cases h with
  | add hb hs ht =>
      cases List.mem_singleton.1 hp
      have hn := Snapshot.entity?_name hs
      exact ⟨halone _ rfl hn, halone _ rfl hn⟩
  | remove hb hs ht =>
      cases List.mem_singleton.1 hp
      have hn := Snapshot.entity?_name ht
      exact ⟨halone _ rfl hn, halone _ rfl hn⟩
  | @parts b s t hb hs ht =>
      have hentity : ¬ Collision base source target (.entity n) type := by
        intro hcol
        cases hcol <;> simp_all
      cases ofPart_of_mem hp with
      | @key c hc hclear =>
          rw [Action.entity, sourceKeyValue_node]
          refine ⟨hentity, fun hcol => ?_⟩
          cases hcol with
          | keyValue hb' hs' ht' _ htheir hunlike =>
              cases hb.symm.trans hb'
              cases hs.symm.trans hs'
              cases ht.symm.trans ht'
              rcases hclear with heq | heq
              · exact htheir heq
              · exact hunlike heq
      | child hc =>
          obtain ⟨-, hn⟩ := sideChange_part hb hs (.child hc)
          rw [hn]
          refine ⟨hentity, fun hcol => ?_⟩
          cases ‹ChildChange› <;> cases hcol
  | _ => simp at hp

/-- A conflict about a change of a key is at the key. -/
theorem place_keyValue {b s t : Entity} {c : KeyValueChange}
    (hc : c ∈ b.keyValueChanges s)
    (hp : p ∈ keyValue target n (b.keyValueChanges t) s t c)
    {x : NodePath × ConflictType} (hx : p.place? = some x) :
    x.1 = .keyValue n c.key := by
  generalize hps : keyValue target n (b.keyValueChanges t) s t c = qs at hp
  have hblock := keyBlock hc target n t
  rw [hps] at hblock
  cases hblock with
  | unlike =>
      cases List.mem_singleton.1 hp
      rw [place?, conflictNode_keyConflict, sourceKeyValue_node] at hx
      cases hx
      rfl
  | alike => cases hp
  | _ => cases List.mem_singleton.1 hp; cases hx

/-- Changes of children are no conflicts. -/
theorem place_child {theirs : List ChildChange} {c : ChildChange}
    (hp : p ∈ child n theirs c) : p.place? = none := by
  cases mem_child hp
  rfl

/-- No two conflicts of a block are at one place. -/
theorem pairwise_apart (h : Block base source target n ps) :
    ps.Pairwise Apart := by
  cases h with
  | @parts b s t hb hs ht =>
      refine List.pairwise_append.2 ⟨?_, ?_, ?_⟩
      · -- keys are each changed once, and a change of a key is one proposal at most
        have hkeys : (b.keyValueChanges s).Pairwise fun c c' =>
            c.key ≠ c'.key :=
          List.pairwise_map.1 KeyValues.changes_nodup
        refine List.pairwise_flatMap.2 ⟨?_, hkeys.imp_of_mem ?_⟩
        · intro c hc
          generalize hps : keyValue target n (b.keyValueChanges t) s t c = qs
          have hblock := keyBlock hc target n t
          rw [hps] at hblock
          cases hblock with
          | alike => exact .nil
          | _ => exact List.pairwise_singleton ..
        · intro c c' hc hc' hne p hp q hq x y hx hy hxy
          rw [place_keyValue hc hp hx, place_keyValue hc' hq hy] at hxy
          exact hne (NodePath.keyValue.inj hxy).2
      · refine List.pairwise_of_forall_mem_list fun p hp q _ x y hx => ?_
        obtain ⟨c, -, hp⟩ := List.mem_flatMap.1 hp
        rw [place_child hp] at hx
        cases hx
      · intro p _ q hq x y _ hy
        obtain ⟨c, -, hq⟩ := List.mem_flatMap.1 hq
        rw [place_child hq] at hy
        cases hy
  | addedAlike => exact .nil
  | removedBoth => exact .nil
  | _ => exact List.pairwise_singleton ..

-- ============================================================ all blocks

section threeWay

variable {ours theirs : SceneDiff} (hb : base.names.Nodup)
  (hs : source.names.Nodup) (ht : target.names.Nodup)
  (ho : base.changes source = .ok ours) (hth : base.changes target = .ok theirs)

include hb hs ht ho hth

/-- Whatever is proposed is proposed in a block. -/
theorem block_of_mem (hp : p ∈ threeWay ours theirs target) :
    ∃ n ps, Block base source target n ps ∧ p ∈ ps := by
  rw [threeWay_eq] at hp
  obtain ⟨c, hc, hp⟩ := List.mem_flatMap.1 hp
  exact ⟨c.name, _, block_about hb hs ht ho hth hc, hp⟩

/-- Every collision is proposed as a conflict. -/
theorem exists_of_collision_threeWay {node : NodePath} {type : ConflictType}
    (hcol : Collision base source target node type) :
    ∃ p ∈ threeWay ours theirs target, p.place? = some (node, type) := by
  obtain ⟨d, hd⟩ := hcol.exists_delta
  have hc := (Snapshot.mem_changes hb hs ho (c := ⟨node.owner, d⟩)).2 hd
  obtain ⟨p, hp, hplace⟩ :=
    exists_of_collision (block_about hb hs ht ho hth hc) hcol rfl
  exact ⟨p, List.mem_flatMap_of_mem hc hp, hplace⟩

/-- No two conflicts are at one place. -/
theorem pairwise_apart_threeWay :
    (threeWay ours theirs target).Pairwise Apart := by
  have hnames : ours.changes.Pairwise fun c c' => c.name ≠ c'.name :=
    List.pairwise_map.1 (Snapshot.changes_names_nodup hb hs ho)
  rw [threeWay_eq]
  refine List.pairwise_flatMap.2 ⟨fun c hc => ?_, hnames.imp_of_mem ?_⟩
  · exact pairwise_apart (block_about hb hs ht ho hth hc)
  · intro c c' hc hc' hne p hp q hq x y hx hy hxy
    have hx := (collision_of_mem (block_about hb hs ht ho hth hc) hp hx).2
    have hy := (collision_of_mem (block_about hb hs ht ho hth hc') hq hy).2
    rw [hxy] at hx
    exact hne (hx.symm.trans hy)

end threeWay

end Proposal

-- ============================================================= operations

namespace Operation

/-- A conflict of the operation and the place that it is at. -/
def ConflictAt (op : Operation) (node : NodePath) (id : ActionId)
    (c : Conflict) : Prop :=
  id ∈ op.conflicts
    ∧ ∃ a, op.action? id = some a ∧ a.node = node ∧ a.conflict? = some c

variable {op : Operation} {ps : List Proposal} {node : NodePath}
  {id id' : ActionId} {c c' : Conflict}

/-- A conflict that stands on its own is in the order. -/
theorem ConflictAt.mem_order (h : op.ConflictAt node id c) : id ∈ op.order :=
  (List.mem_filter.1 h.1).1

/-- The conflict at a node is the one that its action has. -/
theorem ConflictAt.conflict? (h : op.ConflictAt node id c) :
    op.conflict? id = some c := by
  obtain ⟨-, a, ha, -, hc⟩ := h
  rw [Operation.conflict?, ha]
  exact hc

/-- A conflict stands for the proposal of one. -/
theorem Represents.eq_conflict {p : Proposal} (h : op.Represents id p)
    (hat : op.ConflictAt node id c) :
    ∃ source target?, p = .conflict c.type source target? c.sourceEntity?
        c.targetEntity?
      ∧ conflictNode c.type source = node ∧ op.Wraps id c.source source
      ∧ Option.Rel (op.Wraps id) c.target? target? := by
  obtain ⟨-, a, ha, rfl, hc⟩ := hat
  cases p with
  | action b =>
      obtain ⟨hb, hplain⟩ := h
      cases ha.symm.trans hb
      rw [hplain.2.2] at hc
      cases hc
  | conflict type source target? sourceEntity? targetEntity? =>
      obtain ⟨c', hb, rfl, rfl, rfl, hw, hw'⟩ := h
      cases ha.symm.trans hb
      cases hc
      exact ⟨source, target?, rfl, rfl, hw, hw'⟩

/-- A conflict that was proposed is where it was proposed, and of that type. -/
theorem Represents.place {p : Proposal} (h : op.Represents id p)
    (hat : op.ConflictAt node id c) : p.place? = some (node, c.type) := by
  obtain ⟨source, target?, rfl, hn, -⟩ := h.eq_conflict hat
  rw [Proposal.place?, hn]

/-- The proposal of a conflict is stood for by one. -/
theorem Represents.exists_conflictAt {p : Proposal} (h : op.Represents id p)
    (hid : id ∈ op.order) {type : ConflictType}
    (hplace : p.place? = some (node, type)) :
    ∃ c, op.ConflictAt node id c ∧ c.type = type := by
  cases p with
  | action => cases hplace
  | conflict type source target? sourceEntity? targetEntity? =>
      obtain ⟨c, ha, ht, -⟩ := h
      cases hplace
      refine ⟨c, ⟨List.mem_filter.2 ⟨hid, ?_⟩, _, ha, rfl, rfl⟩, ht⟩
      rw [Operation.conflict?, ha]
      rfl

/-- Where no two proposed conflicts are at one place, no two conflicts
are. -/
theorem LaidOut.conflictAt_unique (h : op.LaidOut ps)
    (hap : ps.Pairwise Proposal.Apart) (hat : op.ConflictAt node id c)
    (hat' : op.ConflictAt node id' c') : id = id' := by
  obtain ⟨i, hi, rfl⟩ := List.getElem_of_mem hat.mem_order
  obtain ⟨j, hj, rfl⟩ := List.getElem_of_mem hat'.mem_order
  have hlen := h.represents.length_eq
  have hplace := (h.getElem hi (hlen ▸ hi)).place hat
  have hplace' := (h.getElem hj (hlen ▸ hj)).place hat'
  have hlt := List.pairwise_iff_getElem.1 hap
  rcases Nat.lt_trichotomy i j with hij | rfl | hij
  · have hne := hlt i j _ _ hij (node, c.type) (node, c'.type) hplace hplace'
    exact absurd rfl hne
  · rfl
  · have hne := hlt j i _ _ hij (node, c'.type) (node, c.type) hplace' hplace
    exact absurd rfl hne

/-- Where a conflict is reported depends on the node of the source's change alone. -/
theorem conflictNode_congr {a b : Action} (h : a.node = b.node)
    (type : ConflictType) : conflictNode type a = conflictNode type b := by
  cases type <;> simp only [conflictNode, Action.entity, h]

/-- How the operation is laid out that merges what has distinct names. -/
theorem laidOut_proposed (path : String) {ours theirs : SceneDiff}
    (hb : base.names.Nodup) (hs : source.names.Nodup) (ht : target.names.Nodup)
    (ho : base.changes source = .ok ours)
    (hth : base.changes target = .ok theirs) (options : MergeOptions)
    (changes : List MembershipChange) :
    let op := ((blank source path options).proposeAll
      (Proposal.threeWay ours theirs target)).addMemberships changes
    op.LaidOut (Proposal.threeWay ours theirs target) ∧ op.Undecided
      ∧ op.applied = [] := by
  have hplain : ∀ p ∈ Proposal.threeWay ours theirs target, p.Plain := by
    intro p hp
    obtain ⟨n, ps, hblock, hp⟩ := Proposal.block_of_mem hb hs ht ho hth hp
    exact Proposal.plain_of_mem hblock hp
  have hundecided : (blank source path options).Undecided := by
    intro id hid
    cases hid
  obtain ⟨hlaid, hun⟩ :=
    laidOut_proposeAll hplain (laidOut_blank source path options) hundecided
  have happlied := proposeAll_keeps (P := fun op => op.applied = [])
    (fun op p h => by cases p <;> exact h)
    (Proposal.threeWay ours theirs target)
    (rfl : (blank source path options).applied = [])
  exact ⟨laidOut_addMemberships changes hlaid,
    addMemberships_keeps (fun _ _ h => h) changes hun,
    addMemberships_keeps (P := fun op => op.applied = []) (fun _ _ h => h)
      changes happlied⟩

/-- Comparing both sides with a base lays out the proposals of that, with the path of
the base, and leaves conflicts unresolved and nothing applied. -/
theorem laidOut_threeWay {ours theirs : SceneDiff} (hb : base.names.Nodup)
    (hs : source.names.Nodup) (ht : target.names.Nodup)
    (ho : base.changes source = .ok ours)
    (hth : base.changes target = .ok theirs) (options : MergeOptions)
    (changes : List MembershipChange) :
    let op := ((blank source base.path options).proposeAll
      (Proposal.threeWay ours theirs target)).addMemberships changes
    op.LaidOut (Proposal.threeWay ours theirs target) ∧ op.Undecided
      ∧ op.applied = [] :=
  laidOut_proposed base.path hb hs ht ho hth options changes

/-- What a conflict at `node` is about: a collision there, undecided, of a
change of the source with one of the target. -/
structure Justified (base source target : Snapshot) (op : Operation)
    (node : NodePath) (id : ActionId) (c : Conflict) : Prop where
  collision : Collision base source target node c.type
  unresolved : c.resolution = .unresolved
  sourceEntity : c.sourceEntity? = source.entity? node.owner
  targetEntity : c.targetEntity? = target.entity? node.owner
  mine : ∃ mine, op.action? c.source = some mine ∧ mine.owner? = some id
    ∧ SideChange base source mine.kind mine.node
    ∧ conflictNode c.type mine = node
  their : ∃ j their, c.target? = some j ∧ op.action? j = some their
    ∧ their.owner? = some id ∧ SideChange base target their.kind their.node
    ∧ their.entity = node.owner

section threeWay

variable {ours theirs : SceneDiff} (hb : base.names.Nodup)
  (hs : source.names.Nodup) (ht : target.names.Nodup)
  (ho : base.changes source = .ok ours) (hth : base.changes target = .ok theirs)
  (hlaid : op.LaidOut (Proposal.threeWay ours theirs target))

include hb hs ht ho hth hlaid

/-- A conflict was proposed by some block, which says that it is a collision and what it
wraps. The layout carries both over to the actions. -/
theorem justified_of_conflictAt (hun : op.Undecided)
    (hat : op.ConflictAt node id c) :
    Justified base source target op node id c := by
  obtain ⟨p, hp, hrep⟩ := hlaid.exists_proposal hat.mem_order
  obtain ⟨n, ps, hblock, hp⟩ := Proposal.block_of_mem hb hs ht ho hth hp
  obtain ⟨hcol, hn⟩ := Proposal.collision_of_mem hblock hp (hrep.place hat)
  subst hn
  obtain ⟨mine, target?, rfl, hnode, hmine, htheir⟩ := hrep.eq_conflict hat
  obtain ⟨hchange, hse, hte, their, rfl, hentity, hchange'⟩ :=
    Proposal.sides_of_mem hblock hp
  obtain ⟨w, hw, hkind, hwnode, howner⟩ := hmine
  refine ⟨hcol, hun id hat.mem_order c hat.conflict?, hse, hte,
    ⟨w, hw, howner, ?_, ?_⟩, ?_⟩
  · rw [hkind, hwnode]
    exact hchange
  · rw [conflictNode_congr hwnode, hnode]
  · -- there is an action of the target's, and it is a change of the target
    cases hj : c.target? with
    | none => rw [hj] at htheir; cases htheir
    | some j =>
        rw [hj] at htheir
        obtain ⟨w', hw', hkind', hnode', howner'⟩ := Option.rel_some_some.1 htheir
        refine ⟨j, w', rfl, hw', howner', ?_, ?_⟩
        · rw [hkind', hnode']
          exact hchange'
        · rw [Action.entity, hnode']
          exact hentity

/-- A collision is proposed by the block of its entity, and what is proposed is in the
order. There is no other, for no two proposals are at one place. -/
theorem exists_conflictAt_of_collision {type : ConflictType}
    (hcol : Collision base source target node type) :
    ∃ id c, op.ConflictAt node id c ∧ c.type = type
      ∧ ∀ id' c', op.ConflictAt node id' c' → id' = id := by
  obtain ⟨p, hp, hplace⟩ :=
    Proposal.exists_of_collision_threeWay hb hs ht ho hth hcol
  obtain ⟨id, hid, hrep⟩ := hlaid.exists_id hp
  obtain ⟨c, hat, htype⟩ := hrep.exists_conflictAt hid hplace
  have hap := Proposal.pairwise_apart_threeWay hb hs ht ho hth
  exact ⟨id, c, hat, htype, fun id' c' hat' =>
    hlaid.conflictAt_unique hap hat' hat⟩

/-- An action that stands on its own was proposed as one, by a block that has no
conflict at its entity or its node. -/
theorem clear_of_plain {a : Action} (ha : op.action? id = some a)
    (howner : a.owner? = none) (hconflict : a.conflict? = none)
    (type : ConflictType) :
    ¬ Collision base source target (.entity a.entity) type
      ∧ ¬ Collision base source target a.node type := by
  obtain ⟨p, hp, hrep⟩ := hlaid.exists_proposal (hlaid.top id a ha howner)
  obtain ⟨n, ps, hblock, hp⟩ := Proposal.block_of_mem hb hs ht ho hth hp
  cases p with
  | action b =>
      cases ha.symm.trans hrep.1
      exact Proposal.clear_of_mem hblock hp type
  | conflict =>
      obtain ⟨c, hc, -⟩ := hrep
      cases ha.symm.trans hc
      cases hconflict

end threeWay

end Operation

-- ==================================================================== result

/-- The conflicts of a merge are the collisions, one for each and of its
type. Whatever else stands on its own addresses neither a collided entity
or a part of it, nor a collided key. -/
theorem conflicts_exact (base source target : Snapshot) (options : MergeOptions)
    (hb : base.names.Nodup) (hs : source.names.Nodup)
    (ht : target.names.Nodup) :
    ∃ op, Operation.construct source (some base) target options = .ok op
      ∧ op.conflicts.Nodup
      ∧ (∀ node type, Collision base source target node type →
          ∃ id c, op.ConflictAt node id c ∧ c.type = type
            ∧ ∀ id' c', op.ConflictAt node id' c' → id' = id)
      ∧ (∀ id ∈ op.conflicts, ∃ node c, op.ConflictAt node id c
          ∧ Operation.Justified base source target op node id c)
      ∧ ∀ id a, op.action? id = some a → a.owner? = none →
          a.conflict? = none → ∀ type,
            ¬ Collision base source target (.entity a.entity) type
              ∧ ¬ Collision base source target a.node type := by
  obtain ⟨ours, theirs, ho, hth, hcon⟩ :=
    Operation.construct_threeWay hb hs ht options
  obtain ⟨hlaid, hun, -⟩ := Operation.laidOut_threeWay hb hs ht ho hth options
    (Proposal.memberships options ours.memberships theirs.memberships)
  refine ⟨_, hcon, hlaid.distinct.filter _, ?_, ?_, ?_⟩
  · intro node type hcol
    exact Operation.exists_conflictAt_of_collision hb hs ht ho hth hlaid hcol
  · intro id hid
    obtain ⟨-, hsome⟩ := List.mem_filter.1 hid
    obtain ⟨c, hc⟩ := Option.isSome_iff_exists.1 hsome
    obtain ⟨a, ha, hac⟩ := Option.bind_eq_some_iff.1 hc
    have hat : Operation.ConflictAt _ a.node id c := ⟨hid, a, ha, rfl, hac⟩
    exact ⟨a.node, c, hat, Operation.justified_of_conflictAt hb hs ht ho hth
      hlaid hun hat⟩
  · intro id a ha howner hconflict type
    exact Operation.clear_of_plain hb hs ht ho hth hlaid ha howner hconflict type

/-- Two sides set the brightness of a light, and there is one conflict, at
the key. -/
theorem conflicts_exact_brightness :
    let light (value : String) : Entity :=
      ({ name := "light" } : Entity).withKeyValue "brightness" value
    let scene (path value : String) : Snapshot := ⟨path, [light value], {}⟩
    (scene "base" "200").names.Nodup ∧ (scene "source" "300").names.Nodup
      ∧ (scene "target" "400").names.Nodup
      ∧ ∃ op, Operation.construct (scene "source" "300")
            (some (scene "base" "200")) (scene "target" "400") {} = .ok op
          ∧ ∃ id c, op.ConflictAt (.keyValue "light" "brightness") id c
              ∧ c.type = .settingKeyToDifferentValue := by
  intro light scene
  have hnames : ∀ path value, (scene path value).names.Nodup :=
    fun _ _ => List.nodup_singleton _
  have hvalue : ∀ value, (light value).value? "brightness" = some value := by
    intro value
    rw [Entity.value?_withKeyValue, if_pos rfl]
  have hcol : Collision (scene "base" "200") (scene "source" "300")
      (scene "target" "400") (.keyValue "light" "brightness")
      (Proposal.keyConflict ((light "300").value? "brightness")
        ((light "400").value? "brightness")) :=
    .keyValue rfl rfl rfl (by rw [hvalue, hvalue]; decide)
      (by rw [hvalue, hvalue]; decide) (by rw [hvalue, hvalue]; decide)
  obtain ⟨op, hcon, -, hexists, -⟩ := conflicts_exact (scene "base" "200")
    (scene "source" "300") (scene "target" "400") {} (hnames _ _) (hnames _ _)
    (hnames _ _)
  obtain ⟨id, c, hat, htype, -⟩ := hexists _ _ hcol
  rw [hvalue, hvalue] at htype
  exact ⟨hnames _ _, hnames _ _, hnames _ _, op, hcon, id, c, hat, htype⟩

end SceneMerge
