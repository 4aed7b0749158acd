/-
What it is for an action to be a change that one side made (`SideChange`).
It is said by the versions of the entity in the base and on that side,
without a difference between them; that differences list nothing else
is what is proved here.
-/
import SceneMerge.Proofs.Review.Block

namespace SceneMerge

/-- What an action does, and where, is a change that one side made to the
base. -/
inductive SideChange (base side : Snapshot) :
    ActionKind → NodePath → Prop where
  | added {e : Entity} :
      base.entity? e.name = none → side.entity? e.name = some e →
      SideChange base side (.addEntity e) (.entity e.name)
  | removed {b e : Entity} :
      base.entity? e.name = some b → side.entity? e.name = none →
      SideChange base side (.removeEntity e) (.entity e.name)
  | keyAdded {b e : Entity} {edit : KeyValueAction} :
      base.entity? edit.entity = some b → side.entity? edit.entity = some e →
      b.value? edit.key = none → e.value? edit.key = edit.value? →
      edit.value? ≠ none →
      SideChange base side (.addKeyValue edit)
        (.keyValue edit.entity edit.key)
  | keyChanged {b e : Entity} {edit : KeyValueAction} :
      base.entity? edit.entity = some b → side.entity? edit.entity = some e →
      b.value? edit.key ≠ none → e.value? edit.key = edit.value? →
      edit.value? ≠ none → b.value? edit.key ≠ edit.value? →
      SideChange base side (.changeKeyValue edit)
        (.keyValue edit.entity edit.key)
  | keyRemoved {b e : Entity} {edit : KeyValueAction} :
      base.entity? edit.entity = some b → side.entity? edit.entity = some e →
      b.value? edit.key ≠ none → e.value? edit.key = none →
      edit.value? = none →
      SideChange base side (.removeKeyValue edit)
        (.keyValue edit.entity edit.key)
  | childAdded {n : EntityName} {b e : Entity} {key : ChildKey}
      {node : ChildNode} :
      base.entity? n = some b → side.entity? n = some e →
      node ∈ e.children →
      b.fingerprints.count node.fingerprint
        < e.fingerprints.count node.fingerprint →
      SideChange base side (.addChildNode n key node) (.child n key)
  | childRemoved {n : EntityName} {b e : Entity} {key : ChildKey}
      {node : ChildNode} :
      base.entity? n = some b → side.entity? n = some e →
      node ∈ b.children →
      e.fingerprints.count node.fingerprint
        < b.fingerprints.count node.fingerprint →
      SideChange base side (.removeChildNode n key node) (.child n key)

-- ================================================================ changes

variable {base side : Snapshot} {n : EntityName}

theorem sideChange_keyValue {b s : Entity} (hb : base.entity? n = some b)
    (hs : side.entity? n = some s) {c : KeyValueChange}
    (hc : c ∈ b.keyValueChanges s) (unchanged? : Option String) :
    SideChange base side (Action.ofKeyValueChange n unchanged? c).kind
      (Action.ofKeyValueChange n unchanged? c).node := by
  obtain ⟨hold, hnew, hne⟩ := KeyValues.mem_changes.1 hc
  cases c with
  | added key value =>
      exact .keyAdded hb hs hold.symm
        hnew.symm (Option.some_ne_none _)
  | removed key value =>
      refine .keyRemoved hb hs ?_
        hnew.symm rfl
      show b.keyValues[key]? ≠ none
      rw [show b.keyValues[key]? = some value from hold.symm]
      exact Option.some_ne_none _
  | changed key old new =>
      refine .keyChanged hb hs ?_
        hnew.symm (Option.some_ne_none _) ?_
      · show b.keyValues[key]? ≠ none
        rw [show b.keyValues[key]? = some old from hold.symm]
        exact Option.some_ne_none _
      · show b.keyValues[key]? ≠ some new
        rw [show some new = s.keyValues[key]? from hnew]
        exact hne

theorem sideChange_child {b s : Entity} (hb : base.entity? n = some b)
    (hs : side.entity? n = some s) {c : ChildChange}
    (hc : c ∈ b.childChanges s) :
    SideChange base side (Action.ofChildChange n c).kind
      (Action.ofChildChange n c).node := by
  cases c with
  | removed key node =>
      have hmem := Entity.mem_childChanges_removed.1 hc
      obtain ⟨-, hnode, hprint⟩ := Matching.of_mem_onlyLeft hmem
      refine .childRemoved hb hs hnode ?_
      have hcount := Matching.count_onlyLeft b s key.fingerprint
      have hpos := List.count_pos_iff.2
        (List.mem_map_of_mem (f := fun x => x.1.fingerprint) hmem)
      rw [hprint]
      simp only at hpos
      omega
  | added key node =>
      have hmem := Entity.mem_childChanges_added.1 hc
      obtain ⟨hnode, hprint, -⟩ := Matching.of_mem_onlyRight hmem
      refine .childAdded hb hs hnode ?_
      have hcount := Matching.count_onlyRight b s key.fingerprint
      have hpos := List.count_pos_iff.2
        (List.mem_map_of_mem (f := fun x => x.1.fingerprint) hmem)
      rw [hprint]
      simp only at hpos
      omega

/-- A change of a part is a change of the source, and of its entity. -/
theorem sideChange_part {b s : Entity} (hb : base.entity? n = some b)
    (hs : side.entity? n = some s) {a : Action}
    (ha : Proposal.PartChange b s n a) :
    SideChange base side a.kind a.node ∧ a.entity = n := by
  cases ha with
  | keyValue hc =>
      refine ⟨sideChange_keyValue hb hs hc _, ?_⟩
      cases ‹KeyValueChange› <;> rfl
  | child hc =>
      refine ⟨sideChange_child hb hs hc, ?_⟩
      cases ‹ChildChange› <;> rfl

end SceneMerge
