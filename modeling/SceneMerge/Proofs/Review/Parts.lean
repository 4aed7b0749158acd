/-
What becomes of an entity that all three versions have. What becomes of a
key depends on the three values of it and the decision on its conflict alone
(`Chosen`). Keys are merged one by one, and each change leaves the keys of
the others alone (`KeysMerged.append`, `turns_keyValues`).

Children are only counted. Each removal that is proposed is of a child that
the target did not remove as well, so there are never more of them than the
target still has (`count_removed_le`), and none is refused
(`turns_children`).
-/
import Mathlib.Data.List.Perm.Subperm
import SceneMerge.Proofs.Review.Turn

namespace SceneMerge

/-- What becomes of something that is `b` in the base, `s` in the source and
`t` in the target. -/
structure Chosen {α : Type} (alike : α → α → Prop)
    (decision : Resolution → Prop) (b s t v : α) : Prop where
  kept : alike s b → v = t
  made : ¬ alike s b → alike t b → v = s
  same : ¬ alike s b → alike t s → v = t
  contested : ¬ alike s b → ¬ alike t b → ¬ alike t s →
    ∃ r, decision r ∧ v = if r = .applySource then s else t

namespace Chosen

variable {α : Type} {alike : α → α → Prop} {decision : Resolution → Prop}
  {b s t v : α}

/-- The source left it alone. -/
theorem of_kept (hs : alike s b) : Chosen alike decision b s t t where
  kept _ := rfl
  made h := absurd hs h
  same h := absurd hs h
  contested h := absurd hs h

/-- The target left it alone, and the source did not. -/
theorem of_made (hs : ¬ alike s b) (ht : alike t b) (hts : ¬ alike t s) :
    Chosen alike decision b s t s where
  kept h := absurd h hs
  made _ _ := rfl
  same _ h := absurd h hts
  contested _ h := absurd ht h

/-- Both changed it alike. -/
theorem of_same (ht : ¬ alike t b) (hts : alike t s) :
    Chosen alike decision b s t t where
  kept _ := rfl
  made _ h := absurd h ht
  same _ _ := rfl
  contested _ _ h := absurd hts h

/-- Where the three are unlike, the decision alone counts. -/
theorem of_decision (hs : ¬ alike s b) (ht : ¬ alike t b) (hts : ¬ alike t s)
    (h : ∃ r, decision r ∧ v = if r = .applySource then s else t) :
    Chosen alike decision b s t v where
  kept h' := absurd h' hs
  made _ h' := absurd h' ht
  same _ h' := absurd h' hts
  contested _ _ _ := h

end Chosen

-- ============================================================= key/values

/-- The entity after the change of a key. -/
def KeyValueChange.applyTo (c : KeyValueChange) (e : Entity) : Entity :=
  match c.newValue? with
  | some value => e.withKeyValue c.key value
  | none => { e with keyValues := e.keyValues.erase c.key }

/-- The key has its new value afterwards, none if it was removed, and no other key is
touched. -/
theorem KeyValueChange.value?_applyTo (c : KeyValueChange) (e : Entity)
    (key : String) :
    (c.applyTo e).value? key
      = if key = c.key then c.newValue? else e.value? key := by
  unfold applyTo
  cases hv : c.newValue? with
  | some value => exact e.value?_withKeyValue c.key value key
  | none => exact e.value?_erase c.key key

/-- A change of a key leaves the children alone. -/
theorem KeyValueChange.children_applyTo (c : KeyValueChange) (e : Entity) :
    (c.applyTo e).children = e.children := by
  unfold applyTo
  cases c.newValue? <;> rfl

/-- `e'` is `e` but for some of the keys, of which it has what is chosen. -/
structure KeysMerged (decision : NodePath → Resolution → Prop) (n : EntityName)
    (b s t : Entity) (keys : List String) (e e' : Entity) : Prop where
  children : e'.children = e.children
  chosen : ∀ key ∈ keys, Chosen Eq (decision (.keyValue n key)) (b.value? key)
    (s.value? key) (t.value? key) (e'.value? key)
  others : ∀ key, key ∉ keys → e'.value? key = e.value? key

namespace KeysMerged

variable {decision : NodePath → Resolution → Prop} {n : EntityName}
  {b s t e e₁ e₂ : Entity} {keys keys' : List String}

/-- No key is merged, and nothing happened. -/
theorem nil : KeysMerged decision n b s t [] e e where
  children := rfl
  chosen := by simp
  others _ _ := rfl

/-- Some keys and then others: the second changes leave the keys of the
first alone. -/
theorem append (h : KeysMerged decision n b s t keys e e₁)
    (h' : KeysMerged decision n b s t keys' e₁ e₂) (hd : keys.Disjoint keys') :
    KeysMerged decision n b s t (keys ++ keys') e e₂ where
  children := h'.children.trans h.children
  chosen := by
    intro key hkey
    rcases List.mem_append.1 hkey with hkey | hkey
    · rw [h'.others key (hd hkey)]
      exact h.chosen key hkey
    · exact h'.chosen key hkey
  others := by
    intro key hkey
    rw [List.mem_append, not_or] at hkey
    rw [h'.others key hkey.2, h.others key hkey.1]

/-- The key stays as it is. -/
theorem kept {key : String} (h : Chosen Eq (decision (.keyValue n key))
      (b.value? key) (s.value? key) (t.value? key) (e.value? key)) :
    KeysMerged decision n b s t [key] e e where
  children := rfl
  chosen := by
    intro key' hkey
    cases List.mem_singleton.1 hkey
    exact h
  others _ _ := rfl

/-- The key is changed. -/
theorem made {c : KeyValueChange}
    (h : Chosen Eq (decision (.keyValue n c.key)) (b.value? c.key)
      (s.value? c.key) (t.value? c.key) c.newValue?) :
    KeysMerged decision n b s t [c.key] e (c.applyTo e) where
  children := c.children_applyTo e
  chosen := by
    intro key hkey
    cases List.mem_singleton.1 hkey
    rw [c.value?_applyTo, if_pos rfl]
    exact h
  others := by
    intro key hkey
    rw [c.value?_applyTo, if_neg (mt List.mem_singleton.2 hkey)]

end KeysMerged

namespace Proposal

variable {op : Operation} {decision : NodePath → Resolution → Prop}
  {base source target : Snapshot} {n : EntityName} {b s t e : Entity}
  {c : KeyValueChange}

/-- The change of a key is made, if there is something to be removed. -/
theorem puts_sourceKeyValue {l : LiveScene} {id : ActionId} {a : Action}
    (hkind : a.kind = (sourceKeyValue target n c).kind)
    (hnode : a.node = (sourceKeyValue target n c).node) (hl : l.Open)
    (he : l.scene.entity? n = some e)
    (hv : c.newValue? = none → e.value? c.key ≠ none) :
    Puts (Performed.plain id a) l n (some (c.applyTo e)) := by
  refine Performed.puts_plain (fun _ => ⟨e, ?_⟩) ?_
  · rw [Action.entity, hnode, sourceKeyValue_node]
    exact he
  · rw [hkind]
    cases c with
    | added key value => exact (puts_setValue hl he key value).map _
    | changed key old new => exact (puts_setValue hl he key new).map _
    | removed key old => exact (puts_removeValue hl he (hv rfl)).map _

/-- A collision of two values is settled by the source's change alone. -/
theorem conflict_keyConflict {mine their : Option String} {id : ActionId}
    {a w : Action} {conflict : Conflict} (ht : conflict.type = keyConflict mine their)
    (hw : op.action? conflict.source = some w)
    (hkind : w.kind = (sourceKeyValue target n c).kind) :
    (Performed.conflict op id a conflict : EStateM MergeError LiveScene Performed)
      = Performed.plain conflict.source w := by
  refine Performed.conflict_plain hw ?_ fun _ e h => ?_
  · rw [ht]
    cases mine <;> cases their <;> exact nofun
  · rw [hkind] at h
    cases c <;> cases h

/-- A change that is proposed as an action is made. -/
theorem turns_sourceKeyValue
    (hthere : c.newValue? = none → e.value? c.key ≠ none)
    (h : Chosen Eq (decision (.keyValue n c.key)) (b.value? c.key)
      (s.value? c.key) (t.value? c.key) c.newValue?) :
    Turns op n (some e) [.action (sourceKeyValue target n c)]
      fun x => ∃ e', x = some e' ∧ KeysMerged decision n b s t [c.key] e e' := by
  refine Turns.imp (.action (some (c.applyTo e)) fun id l hl he =>
    puts_sourceKeyValue rfl rfl hl he hthere) fun x hx => ?_
  exact ⟨c.applyTo e, hx, .made h⟩

/-- A change that is proposed as a conflict is made if that is decided. -/
theorem turns_keyConflict (hop : op.Decides decision)
    (hthere : c.newValue? = none → e.value? c.key ≠ none)
    {mine their : Option String} {target? : Option Action}
    {s? t? : Option Entity}
    (h : ∀ r, decision (.keyValue n c.key) r →
      Chosen Eq (decision (.keyValue n c.key)) (b.value? c.key)
        (s.value? c.key) (t.value? c.key)
        (if r = .applySource then c.newValue? else e.value? c.key)) :
    Turns op n (some e)
      [.conflict (keyConflict mine their) (sourceKeyValue target n c) target? s? t?]
      fun x => ∃ e', x = some e' ∧ KeysMerged decision n b s t [c.key] e e' := by
  refine Turns.imp (.conflict hop (some (c.applyTo e))
    fun id a conflict w l htype _ hw hkind hnode hl he => ?_) fun x hx => ?_
  · rw [conflict_keyConflict htype hw hkind]
    exact puts_sourceKeyValue hkind hnode hl he hthere
  · obtain ⟨r, hr, rfl⟩ := hx
    rw [conflictNode_keyConflict, sourceKeyValue_node] at hr
    have hchosen := h r hr
    by_cases happly : r = .applySource
    · rw [if_pos happly] at hchosen ⊢
      exact ⟨c.applyTo e, rfl, .made hchosen⟩
    · rw [if_neg happly] at hchosen ⊢
      exact ⟨e, rfl, .kept hchosen⟩

/-- What a change of a key comes to, where the key has the target's
value. -/
theorem turns_keyValue (hop : op.Decides decision)
    (hc : c ∈ b.keyValueChanges s) (he : e.value? c.key = t.value? c.key) :
    Turns op n (some e) (keyValue target n (b.keyValueChanges t) s t c)
      fun x => ∃ e', x = some e' ∧ KeysMerged decision n b s t [c.key] e e' := by
  have hmine : s.value? c.key ≠ b.value? c.key :=
    Ne.symm (KeyValues.mem_changes.1 hc).2.2
  have hnew : c.newValue? = s.value? c.key := (KeyValues.mem_changes.1 hc).2.1
  generalize hps : keyValue target n (b.keyValueChanges t) s t c = ps
  have hblock := keyBlock hc target n t
  rw [hps] at hblock
  cases hblock with
  -- the target left the key alone: the source's change is made
  | untouched heq =>
      refine turns_sourceKeyValue (fun hnone => ?_) ?_
      · rw [he, heq, ← hnone, hnew]
        exact Ne.symm hmine
      · rw [hnew]
        exact .of_made hmine heq fun hts => hmine (hts.symm.trans heq)
  -- both made the same change: the target has it already
  | alike htheir heq =>
      refine .nil ⟨e, rfl, .kept ?_⟩
      rw [he]
      exact .of_same htheir heq.symm
  -- both made it, and it is proposed all the same, which gives the key the value that
  -- it has
  | again htheir heq hsome =>
      refine turns_sourceKeyValue (fun hnone => ?_) ?_
      · exact absurd (hnew.symm.trans hnone) hsome
      · rw [hnew, heq]
        exact .of_same htheir rfl
  -- they differ: a conflict decides
  | unlike htheir hunlike =>
      refine turns_keyConflict hop (fun hnone => ?_) fun r hr => ?_
      · rw [he, ← hnone, hnew]
        exact Ne.symm hunlike
      · rw [hnew, he]
        exact .of_decision hmine htheir (Ne.symm hunlike) ⟨r, hr, rfl⟩

/-- Changes of different keys do not meet. -/
theorem turns_keyValues (hop : op.Decides decision) (cs : List KeyValueChange)
    (hcs : ∀ c ∈ cs, c ∈ b.keyValueChanges s)
    (hkeys : (cs.map KeyValueChange.key).Nodup) :
    ∀ {e : Entity}, (∀ c ∈ cs, e.value? c.key = t.value? c.key) →
      Turns op n (some e)
        (cs.flatMap (keyValue target n (b.keyValueChanges t) s t))
        fun x => ∃ e', x = some e'
          ∧ KeysMerged decision n b s t (cs.map KeyValueChange.key) e e' := by
  induction cs with
  | nil => exact fun _ => .nil ⟨_, rfl, .nil⟩
  | cons c cs ih =>
      intro e he
      rw [List.map_cons, List.nodup_cons] at hkeys
      rw [List.flatMap_cons]
      refine (turns_keyValue hop (hcs c List.mem_cons_self)
        (he c List.mem_cons_self)).append fun x hx => ?_
      obtain ⟨e₁, rfl, hfirst⟩ := hx
      refine Turns.imp (ih (fun c' hc' => hcs c' (List.mem_cons_of_mem _ hc'))
        hkeys.2 fun c' hc' => ?_) fun x hx => ?_
      · -- the first change leaves the keys of the others at the target's values, which
        -- the induction asks for
        have hfresh : c'.key ∉ [c.key] := by
          intro hmem
          rw [← List.mem_singleton.1 hmem] at hkeys
          exact hkeys.1 (List.mem_map_of_mem hc')
        rw [hfirst.others _ hfresh]
        exact he c' (List.mem_cons_of_mem _ hc')
      · obtain ⟨e₂, hx, hrest⟩ := hx
        exact ⟨e₂, hx, hfirst.append hrest (List.singleton_disjoint.2 hkeys.1)⟩

-- =============================================================== children

/-- Whether the target did not make the change of a child as well. -/
def survives (theirs : List ChildChange) (c : ChildChange) : Bool :=
  match theirs.reverse.find? (·.key == c.key) with
  | some their => their.isAddition != c.isAddition
  | none => true

/-- Of the changes of children those that survive are proposed, each as an action and in
the order of the changes. -/
theorem flatMap_child (n : EntityName) (theirs changes : List ChildChange) :
    changes.flatMap (child n theirs)
      = (changes.filter (survives theirs)).map fun c =>
          .action (.ofChildChange n c) := by
  induction changes with
  | nil => rfl
  | cons c cs ih =>
      have hone : child n theirs c
          = if survives theirs c then [.action (.ofChildChange n c)] else [] := by
        unfold child survives
        cases theirs.reverse.find? (·.key == c.key) with
        | none => rfl
        | some their =>
            by_cases hkind : their.isAddition = c.isAddition
            · simp [hkind]
            · simp [hkind]
      rw [List.flatMap_cons, List.filter_cons, ih, hone]
      split <;> rfl

/-- The children that changes add, or those that they remove. -/
def keysOf (added : Bool) (cs : List ChildChange) : List ChildKey :=
  (cs.filter (·.isAddition == added)).map ChildChange.key

/-- A child is added, or removed, just if some change of that kind is about it. -/
theorem mem_keysOf {added : Bool} {cs : List ChildChange} {key : ChildKey} :
    key ∈ keysOf added cs ↔ ∃ c ∈ cs, c.isAddition = added ∧ c.key = key := by
  simp only [keysOf, List.mem_map, List.mem_filter, beq_iff_eq, and_assoc]

/-- A removal that is listed first removes its own child first. -/
theorem keysOf_removed (key : ChildKey) (node : ChildNode) (cs : List ChildChange) :
    keysOf false (.removed key node :: cs) = key :: keysOf false cs := rfl

/-- A child is added whatever other children there are, for they need not differ. -/
theorem turns_addChild (e : Entity) (key : ChildKey) (node : ChildNode) :
    Turns op n (some e) [.action (.addChild n key node)] (· = some (e.withChild node)) :=
  .action _ fun _ _ hl he => Performed.puts_plain (fun _ => ⟨e, he⟩)
    ((puts_insertChild hl he node).map _)

/-- A child is removed if there is one that looks alike. -/
theorem turns_removeChild {e : Entity} (key : ChildKey) {node : ChildNode}
    (hmem : node.fingerprint ∈ e.fingerprints) :
    ∃ e₁ : Entity, e₁.keyValues = e.keyValues
      ∧ e.fingerprints.Perm (node.fingerprint :: e₁.fingerprints)
      ∧ Turns op n (some e) [.action (.removeChild n key node)] (· = some e₁) := by
  obtain ⟨e₁, hvalues, hperm, hputs⟩ := puts_removeChild hmem
  exact ⟨e₁, hvalues, hperm, .action _ fun _ _ hl he =>
    Performed.puts_plain (fun _ => ⟨e, he⟩) ((hputs hl he).map _)⟩

/-- Changes of children are made as long as there is enough to be
removed. -/
theorem turns_children (cs : List ChildChange)
    (hprint : ∀ key node, .removed key node ∈ cs →
      node.fingerprint = key.fingerprint) :
    ∀ {e : Entity},
      (∀ f, ((keysOf false cs).map (·.fingerprint)).count f
        ≤ e.fingerprints.count f) →
      Turns op n (some e) (cs.map fun c => .action (.ofChildChange n c))
        fun x => ∃ e', x = some e' ∧ e'.keyValues = e.keyValues := by
  induction cs with
  | nil => exact fun _ => .nil ⟨_, rfl, rfl⟩
  | cons c cs ih =>
      intro e hcount
      have hrest := fun key node h =>
        hprint key node (List.mem_cons_of_mem c h)
      cases c with
      -- one more child leaves enough to be removed
      | added key node =>
          refine (turns_addChild e key node).append fun x hx => ?_
          subst hx
          refine Turns.imp (ih hrest fun f => ?_) fun x hx => hx
          have hmore : (e.withChild node).fingerprints
              = e.fingerprints ++ [node.fingerprint] := List.map_append
          rw [hmore, List.count_append]
          exact Nat.le_add_right_of_le (hcount f)
      | removed key node =>
          have hf := hprint key node List.mem_cons_self
          -- the first removal is counted as well, so there is one to be removed, and
          -- enough is left for the others
          have hmem : node.fingerprint ∈ e.fingerprints := by
            have := hcount node.fingerprint
            simp only [keysOf_removed, List.map_cons, hf, List.count_cons_self] at this
            rw [hf]
            exact List.count_pos_iff.1 (by omega)
          obtain ⟨e₁, hvalues, hperm, hone⟩ := turns_removeChild key hmem
          refine hone.append fun x hx => ?_
          subst hx
          refine Turns.imp (ih hrest fun f => ?_) fun x hx => ?_
          · have hall := hcount f
            simp only [keysOf_removed, List.map_cons, hperm.count_eq f, hf,
              List.count_cons] at hall
            exact Nat.le_of_add_le_add_right hall
          · obtain ⟨e₂, hx, hvalues'⟩ := hx
            exact ⟨e₂, hx, hvalues'.trans hvalues⟩

/-- Where changes of one child are of one kind, whatever the target changed as well
does not survive. -/
theorem survives_eq {theirs : List ChildChange} {c : ChildChange}
    (hkind : ∀ their ∈ theirs, their.key = c.key → their.isAddition = c.isAddition) :
    survives theirs c = decide (c.key ∉ keysOf c.isAddition theirs) := by
  unfold survives
  cases hfound : theirs.reverse.find? (·.key == c.key) with
  | none =>
      -- the target has no change of this child
      have hmem : c.key ∉ keysOf c.isAddition theirs := by
        intro hmem
        obtain ⟨their, htheir, -, hkey⟩ := mem_keysOf.1 hmem
        exact find?_eq_none_iff_key.1 hfound their (List.mem_reverse.2 htheir) hkey
      exact (decide_eq_true hmem).symm
  | some their =>
      have htheir := List.mem_reverse.1 (List.mem_of_find?_eq_some hfound)
      have hkey : their.key = c.key := by simpa using List.find?_some hfound
      -- it has one, and that one is of the same kind
      have hmem : c.key ∈ keysOf c.isAddition theirs :=
        mem_keysOf.2 ⟨their, htheir, hkind their htheir hkey, hkey⟩
      simp only [hkind their htheir hkey, bne_self_eq_false, hmem, not_true_eq_false,
        decide_false]

/-- Of what the source adds or removes that survives which the target does not. -/
theorem keysOf_surviving (added : Bool) (b s t : Entity) :
    keysOf added ((b.childChanges s).filter (survives (b.childChanges t)))
      = (keysOf added (b.childChanges s)).filter (· ∉ keysOf added (b.childChanges t)) := by
  have hone : ∀ c ∈ (b.childChanges s).filter (·.isAddition == added),
      survives (b.childChanges t) c
        = decide (c.key ∉ keysOf added (b.childChanges t)) := by
    intro c hc
    obtain ⟨hc, hadded⟩ := List.mem_filter.1 hc
    rw [← eq_of_beq hadded]
    -- what is added has another key than what is removed
    exact survives_eq fun their htheir hkey => by
      rw [Entity.isAddition_of_mem htheir, Entity.isAddition_of_mem hc, hkey]
  generalize keysOf added (b.childChanges t) = theirs at hone ⊢
  rw [keysOf, keysOf, List.filter_comm, List.filter_map]
  exact congrArg _ (List.filter_congr hone)

/-- What is removed are the children of the first version that have no partner in the
second. -/
theorem keysOf_false_childChanges (a b : Entity) :
    keysOf false (a.childChanges b) = (Matching.ofChildren a b).onlyLeft.map (·.1) := by
  unfold keysOf Entity.childChanges
  rw [List.filter_append, List.filter_map, List.filter_map]
  simp [Function.comp_def, ChildChange.isAddition, ChildChange.key]

/-- What is added are the children of the second version that have no partner in the
first. -/
theorem keysOf_true_childChanges (a b : Entity) :
    keysOf true (a.childChanges b) = (Matching.ofChildren a b).onlyRight.map (·.1) := by
  unfold keysOf Entity.childChanges
  rw [List.filter_append, List.filter_map, List.filter_map]
  simp [Function.comp_def, ChildChange.isAddition, ChildChange.key]

/-- Of each fingerprint as many are removed as there are more of before. -/
theorem count_removed (a b : Entity) (f : Fingerprint) :
    ((keysOf false (a.childChanges b)).map (·.fingerprint)).count f
      = a.fingerprints.count f - b.fingerprints.count f := by
  rw [keysOf_false_childChanges, List.map_map]
  exact Matching.count_onlyLeft a b f

/-- No child is removed twice: the number among those that look alike tells them apart.
-/
theorem nodup_removed (a b : Entity) : (keysOf false (a.childChanges b)).Nodup := by
  rw [keysOf_false_childChanges]
  exact Matching.nodup_onlyLeft

/-- Only children of the first version are removed. -/
theorem removed_subset (a b : Entity) : keysOf false (a.childChanges b) ⊆ a.childKeys := by
  rw [keysOf_false_childChanges]
  intro key hkey
  obtain ⟨x, hx, rfl⟩ := List.mem_map.1 hkey
  exact (Matching.of_mem_onlyLeft hx).1

/-- No more is to be removed than the target still has. -/
theorem count_removed_le (b s t : Entity) (f : Fingerprint) :
    ((keysOf false ((b.childChanges s).filter
        (survives (b.childChanges t)))).map (·.fingerprint)).count f
      ≤ t.fingerprints.count f := by
  rw [keysOf_surviving]
  have htheirs := count_removed b t f
  have htheir := removed_subset b t
  have hnodup := nodup_removed b t
  generalize keysOf false (b.childChanges t) = theirs at *
  -- both are keys of the base, and no key is in both
  have hall : ((keysOf false (b.childChanges s)).filter (· ∉ theirs) ++ theirs).Nodup := by
    refine List.nodup_append.2 ⟨(nodup_removed b s).sublist List.filter_sublist, hnodup,
      fun key hkey key' hkey' heq => ?_⟩
    exact of_decide_eq_true (List.mem_filter.1 hkey).2 (heq ▸ hkey')
  have hsub : (keysOf false (b.childChanges s)).filter (· ∉ theirs) ++ theirs ⊆ b.childKeys :=
    List.append_subset.2
      ⟨List.Subset.trans List.filter_sublist.subset (removed_subset b s), htheir⟩
  have hcount := (List.subperm_of_subset hall hsub).countP_le
    fun key => key.fingerprint == f
  rw [List.countP_append, ChildKey.countP_fingerprint, ChildKey.countP_fingerprint,
    ChildKey.countP_fingerprint, b.map_fingerprint_childKeys, htheirs] at hcount
  omega

end Proposal

end SceneMerge
