/-
What a merge proposes, entity by entity. The proposals are a sequence of
blocks, one for each entity that the source changed, and what a block
looks like depends on the three versions of that entity alone. `Block`
lists the shapes that there are; everything that is proved about the
proposals of a merge goes by cases on it.

An entity that all three have is merged part by part (`Block.parts`).
There the source's changes are met by the target's, which are none if
the target left the entity alone, so it makes no difference whether it
did.
-/
import SceneMerge.Proofs.Difference.Scene
import SceneMerge.Review.Proposal

namespace SceneMerge.Proposal

/-- A change of a part of the entity `n` that leads from `b` to `s`. -/
inductive PartChange (b s : Entity) (n : EntityName) : Action → Prop where
  | keyValue {unchanged? : Option String} {c : KeyValueChange} :
      c ∈ b.keyValueChanges s →
      PartChange b s n (.ofKeyValueChange n unchanged? c)
  | child {c : ChildChange} :
      c ∈ b.childChanges s → PartChange b s n (.ofChildChange n c)

/-- What is proposed for the parts of an entity that all three have. -/
def parts (target : Snapshot) (n : EntityName) (b s t : Entity) :
    List Proposal :=
  (b.keyValueChanges s).flatMap (keyValue target n (b.keyValueChanges t) s t)
    ++ (b.childChanges s).flatMap (child n (b.childChanges t))

/-- What is proposed for the entity `n`, by what the three versions of it
are. -/
inductive Block (base source target : Snapshot) (n : EntityName) :
    List Proposal → Prop where
  | add {s : Entity} :
      base.entity? n = none → source.entity? n = some s →
      target.entity? n = none →
      Block base source target n [.action (.addEntity s)]
  | addedAlike {s t : Entity} :
      base.entity? n = none → source.entity? n = some s →
      target.entity? n = some t → s.semanticallyEqual t = true →
      Block base source target n []
  | addedUnlike {s t : Entity} :
      base.entity? n = none → source.entity? n = some s →
      target.entity? n = some t → s.semanticallyEqual t = false →
      Block base source target n
        [.conflict .settingKeyToDifferentValue (.addEntity s)
          (some (.addEntity t)) (some s) (some t)]
  | removedBoth {b : Entity} :
      base.entity? n = some b → source.entity? n = none →
      target.entity? n = none → Block base source target n []
  | remove {b t : Entity} :
      base.entity? n = some b → source.entity? n = none →
      target.entity? n = some t → b.semanticallyEqual t = true →
      Block base source target n [.action (.removeEntity t)]
  | removedModified {b t : Entity} {a : Action} :
      base.entity? n = some b → source.entity? n = none →
      target.entity? n = some t → b.semanticallyEqual t = false →
      PartChange b t n a →
      Block base source target n
        [.conflict .removalOfModifiedEntity (.removeEntity t) (some a) none
          (some t)]
  | modifiedRemoved {b s : Entity} {a : Action} :
      base.entity? n = some b → source.entity? n = some s →
      target.entity? n = none → b.semanticallyEqual s = false →
      PartChange b s n a →
      Block base source target n
        [.conflict .modificationOfRemovedEntity a (some (.removeEntity b))
          (some s) none]
  | parts {b s t : Entity} :
      base.entity? n = some b → source.entity? n = some s →
      target.entity? n = some t → b.semanticallyEqual s = false →
      Block base source target n (parts target n b s t)

/-- What is proposed for a change of the source. -/
def about (theirs : SceneDiff) (target : Snapshot) (change : EntityChange) :
    List Proposal :=
  match theirs.change? change.name with
  | none => plain target change
  | some their => entity target change their

theorem threeWay_eq (ours theirs : SceneDiff) (target : Snapshot) :
    threeWay ours theirs target = ours.changes.flatMap (about theirs target) :=
  rfl

/-- What changed has a first change. -/
theorem exists_firstChange {b s : Entity} {n : EntityName}
    {d : EntityDelta} (f : KeyValueChange → Option String)
    (h : b.delta? s = some d) :
    ∃ a, firstChange? n (fun c => .ofKeyValueChange n (f c) c)
        (b.keyValueChanges s) (b.childChanges s) = some a
      ∧ PartChange b s n a := by
  have h : ¬ ((b.keyValueChanges s).isEmpty
      && (b.childChanges s).isEmpty) = true := by
    intro hempty
    unfold Entity.delta? at h
    simp only [hempty, if_true] at h
    cases h
  -- keys come before children
  cases hk : b.keyValueChanges s with
  | cons c cs =>
      refine ⟨_, rfl, .keyValue ?_⟩
      rw [hk]
      exact List.mem_cons_self
  | nil =>
      cases hc : b.childChanges s with
      | nil => rw [hk, hc] at h; exact absurd rfl h
      | cons c cs =>
          refine ⟨_, rfl, .child ?_⟩
          rw [hc]
          exact List.mem_cons_self

/-- Where the target changed nothing, changes of keys are proposed as they
are. -/
theorem flatMap_keyValue_nil (target : Snapshot) (n : EntityName)
    (mine their : Entity) (changes : List KeyValueChange) :
    changes.flatMap (keyValue target n [] mine their)
      = changes.map fun kv => .action (sourceKeyValue target n kv) := by
  induction changes with
  | nil => rfl
  | cons c cs ih => rw [List.flatMap_cons, ih]; rfl

theorem flatMap_child_nil (n : EntityName) (changes : List ChildChange) :
    changes.flatMap (child n [])
      = changes.map fun c => .action (.ofChildChange n c) := by
  induction changes with
  | nil => rfl
  | cons c cs ih => rw [List.flatMap_cons, ih]; rfl

variable {base source target : Snapshot} {ours theirs : SceneDiff}

section about

variable {n : EntityName} {b s : Entity}
  (htheirs : theirs.change? n = (base.deltaOf? target n).map (⟨n, ·⟩))

include htheirs

/-- The source added the entity. -/
theorem block_added (hb : base.entity? n = none) (hs : source.entity? n = some s) :
    Block base source target n (about theirs target ⟨n, .added s⟩) := by
  unfold about
  rw [Snapshot.deltaOf?, hb] at htheirs
  simp only [htheirs]
  cases ht : target.entity? n with
  | none => exact .add hb hs ht
  | some t =>
      simp only [Option.map_some, entity]
      cases heq : s.semanticallyEqual t with
      | true =>
          simp only [if_true]
          exact .addedAlike hb hs ht heq
      | false =>
          simp only [Bool.false_eq_true, if_false]
          exact .addedUnlike hb hs ht heq

/-- The source removed the entity. -/
theorem block_removed (hb : base.entity? n = some b) (hs : source.entity? n = none) :
    Block base source target n (about theirs target ⟨n, .removed b⟩) := by
  unfold about
  rw [Snapshot.deltaOf?, hb] at htheirs
  simp only [htheirs]
  cases ht : target.entity? n with
  | none => exact .removedBoth hb hs ht
  | some t =>
      cases hd : b.delta? t with
      | none =>
          simp only [hd, Option.map_none, plain, ht, Option.getD_some]
          exact .remove hb hs ht ((Snapshot.delta?_eq_none hb ht).1 hd)
      | some d =>
          have hne := (Snapshot.exists_delta? hb ht).1 ⟨d, hd⟩
          cases Entity.delta?_eq_some hd
          obtain ⟨a, ha, hpart⟩ := exists_firstChange (n := n)
            KeyValueChange.oldValue? hd
          have htarget : firstChange? n (targetKeyValue n)
              (b.keyValueChanges t) (b.childChanges t) = some a := ha
          simp only [hd, Option.map_some, entity, htarget]
          exact .removedModified hb hs ht hne hpart

/-- The source changed the entity. -/
theorem block_modified (hb : base.entity? n = some b)
    (hs : source.entity? n = some s) {d : EntityDelta} (hd : b.delta? s = some d) :
    Block base source target n (about theirs target ⟨n, d⟩) := by
  have hne := (Snapshot.exists_delta? hb hs).1 ⟨d, hd⟩
  cases Entity.delta?_eq_some hd
  unfold about
  rw [Snapshot.deltaOf?, hb] at htheirs
  simp only [htheirs]
  cases ht : target.entity? n with
  | none =>
      obtain ⟨a, ha, hpart⟩ := exists_firstChange (n := n)
        (fun c => targetValue? target n c.key) hd
      have hsource : firstChange? n (sourceKeyValue target n)
          (b.keyValueChanges s) (b.childChanges s) = some a := ha
      simp only [Option.map_some, entity, hsource]
      exact .modifiedRemoved hb hs ht hne hpart
  | some t =>
      have hparts := Block.parts hb hs ht hne
      cases hd' : b.delta? t with
      | none =>
          -- the target changed nothing, so its changes are none
          have heq := Entity.semanticallyEqual_iff.1
            ((Snapshot.delta?_eq_none hb ht).1 hd')
          have hk : b.keyValueChanges t = [] := KeyValues.changes_eq_nil.2 heq.2.1
          have hc : b.childChanges t = [] := Entity.childChanges_eq_nil.2 heq.2.2
          rw [Proposal.parts, hk, hc, flatMap_keyValue_nil,
            flatMap_child_nil] at hparts
          simp only [hd', Option.map_none, plain]
          exact hparts
      | some d' =>
          cases Entity.delta?_eq_some hd'
          simp only [hd', Option.map_some, entity]
          exact hparts

end about

/-- The proposals for a change of the source are a block of its entity. -/
theorem block_about (hb : base.names.Nodup) (hs : source.names.Nodup)
    (ht : target.names.Nodup) (ho : base.changes source = .ok ours)
    (hth : base.changes target = .ok theirs) {c : EntityChange}
    (hc : c ∈ ours.changes) :
    Block base source target c.name (about theirs target c) := by
  obtain ⟨n, delta⟩ := c
  have hdelta := (Snapshot.mem_changes hb hs ho).1 hc
  have htheirs := Snapshot.change?_eq hb ht hth n
  simp only at hdelta ⊢
  unfold Snapshot.deltaOf? at hdelta
  -- what the source did to the entity is said by whether the base and the source have
  -- it
  cases hbn : base.entity? n with
  | none =>
      cases hsn : source.entity? n with
      | none => rw [hbn, hsn] at hdelta; cases hdelta
      | some s =>
          rw [hbn, hsn] at hdelta
          cases hdelta
          exact block_added htheirs hbn hsn
  | some b =>
      cases hsn : source.entity? n with
      | none =>
          rw [hbn, hsn] at hdelta
          cases hdelta
          exact block_removed htheirs hbn hsn
      | some s =>
          rw [hbn, hsn] at hdelta
          exact block_modified htheirs hbn hsn hdelta

-- =================================================================== parts

/-- How two sides collide that set a key to different values, `none` if a
side removed it. -/
def keyConflict (mine their : Option String) : ConflictType :=
  match mine, their with
  | none, _ => .removalOfModifiedKeyValue
  | some _, none => .modificationOfRemovedKeyValue
  | some _, some _ => .settingKeyToDifferentValue

/-- Two changes of a key collide just if their new values differ. -/
theorem collision?_eq (ours theirs : KeyValueChange) :
    collision? ours theirs
      = if ours.newValue? = theirs.newValue? then none
        else some (keyConflict ours.newValue? theirs.newValue?) := by
  unfold collision?
  cases ours.newValue? <;> cases theirs.newValue? <;>
    simp [keyConflict]

/-- What is proposed for the change of a key, by the values that the three
versions have under it. -/
inductive KeyBlock (target : Snapshot) (n : EntityName) (b s t : Entity)
    (c : KeyValueChange) : List Proposal → Prop where
  | untouched :
      t.value? c.key = b.value? c.key →
      KeyBlock target n b s t c [.action (sourceKeyValue target n c)]
  | alike :
      t.value? c.key ≠ b.value? c.key → s.value? c.key = t.value? c.key →
      KeyBlock target n b s t c []
  /-- Setting a key to the value that it has is proposed again. -/
  | again :
      t.value? c.key ≠ b.value? c.key → s.value? c.key = t.value? c.key →
      s.value? c.key ≠ none →
      KeyBlock target n b s t c [.action (sourceKeyValue target n c)]
  | unlike {their : KeyValueChange} :
      t.value? c.key ≠ b.value? c.key → s.value? c.key ≠ t.value? c.key →
      their ∈ b.keyValueChanges t →
      KeyBlock target n b s t c
        [.conflict (keyConflict (s.value? c.key) (t.value? c.key))
          (sourceKeyValue target n c) (some (targetKeyValue n their)) (some s)
          (some t)]

/-- What a change of a key comes to depends on the key's three values, and on whether a
value that both set is set again. -/
theorem keyBlock {b s : Entity} {c : KeyValueChange}
    (hc : c ∈ b.keyValueChanges s) (target : Snapshot) (n : EntityName)
    (t : Entity) :
    KeyBlock target n b s t c (keyValue target n (b.keyValueChanges t) s t c) := by
  have hnodup : ((b.keyValueChanges t).map KeyValueChange.key).Nodup :=
    KeyValues.changes_nodup
  have hmine : c.newValue? = s.value? c.key := (KeyValues.mem_changes.1 hc).2.1
  unfold keyValue
  simp only
  rw [find?_reverse_of_nodup hnodup]
  -- the target has no change of the key, or it has one, and then there are no others
  cases hf : (b.keyValueChanges t).find? (·.key == c.key) with
  | none =>
      refine .untouched ?_
      by_contra hne
      obtain ⟨c', hc', hk⟩ := KeyValues.exists_change (Ne.symm hne)
      exact find?_eq_none_iff_key.1 hf c' hc' hk
  | some c' =>
      obtain ⟨hc', hk⟩ := (find?_eq_some_of_nodup hnodup).1 hf
      obtain ⟨-, htheir, hne⟩ := KeyValues.mem_changes.1 hc'
      rw [hk] at htheir hne
      have hchanged : t.value? c.key ≠ b.value? c.key := Ne.symm hne
      have htheir' : c'.newValue? = t.value? c.key := htheir
      simp only [collision?_eq, hmine, htheir']
      by_cases heq : s.value? c.key = t.value? c.key
      · rw [if_pos heq]
        cases c with
        | added key value => exact .alike hchanged heq
        | removed key value => exact .alike hchanged heq
        | changed key old new =>
            refine .again hchanged heq ?_
            rw [← hmine]
            exact Option.some_ne_none new
      · rw [if_neg heq]
        exact .unlike hchanged heq hc'

/-- Changes of children are proposed as they are, or not at all. -/
theorem mem_child {n : EntityName} {theirs : List ChildChange}
    {c : ChildChange} {p : Proposal} (h : p ∈ child n theirs c) :
    p = .action (.ofChildChange n c) := by
  unfold child at h
  split at h
  · split at h
    · cases h
    · exact List.mem_singleton.1 h
  · exact List.mem_singleton.1 h

/-- What may be proposed for a part of an entity that all three have. -/
inductive OfPart (target : Snapshot) (n : EntityName) (b s t : Entity) :
    Proposal → Prop where
  | key {c : KeyValueChange} :
      c ∈ b.keyValueChanges s →
      t.value? c.key = b.value? c.key ∨ s.value? c.key = t.value? c.key →
      OfPart target n b s t (.action (sourceKeyValue target n c))
  | conflict {c their : KeyValueChange} :
      c ∈ b.keyValueChanges s → their ∈ b.keyValueChanges t →
      t.value? c.key ≠ b.value? c.key → s.value? c.key ≠ t.value? c.key →
      OfPart target n b s t
        (.conflict (keyConflict (s.value? c.key) (t.value? c.key))
          (sourceKeyValue target n c) (some (targetKeyValue n their)) (some s)
          (some t))
  | child {c : ChildChange} :
      c ∈ b.childChanges s →
      OfPart target n b s t (.action (.ofChildChange n c))

/-- What is proposed for an entity that all three have is about one of its parts. -/
theorem ofPart_of_mem {b s t : Entity} {n : EntityName} {p : Proposal}
    (h : p ∈ parts target n b s t) : OfPart target n b s t p := by
  rw [parts, List.mem_append, List.mem_flatMap, List.mem_flatMap] at h
  rcases h with ⟨c, hc, hp⟩ | ⟨c, hc, hp⟩
  · generalize hps : keyValue target n (b.keyValueChanges t) s t c = ps at hp
    have hblock := keyBlock hc target n t
    rw [hps] at hblock
    cases hblock with
    | untouched heq =>
        cases List.mem_singleton.1 hp
        exact .key hc (.inl heq)
    | alike => cases hp
    | again _ heq =>
        cases List.mem_singleton.1 hp
        exact .key hc (.inr heq)
    | unlike htheir hunlike hc' =>
        cases List.mem_singleton.1 hp
        exact .conflict hc hc' htheir hunlike
  · cases mem_child hp
    exact .child hc

end SceneMerge.Proposal
