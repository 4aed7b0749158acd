/-
What merging proposes to add. However the changes of two sides collide, all
actions that come of it, those that conflicts wrap included, are made by the
constructors of actions (`Proposal.constructed_threeWay`,
`Proposal.constructed_twoWay`). So what holds of everything that a client can
construct holds of what populating adds as well.
-/
import SceneMerge.Review.Proposal

namespace SceneMerge

-- ============================================================== additions

/-- What the constructors of actions make: an action that is switched on,
not wrapped, and no conflict. -/
inductive Action.Constructed : Action → Prop where
  | noAction (n : EntityName) : Constructed (.noAction n)
  | addEntity (e : Entity) : Constructed (.addEntity e)
  | removeEntity (e : Entity) : Constructed (.removeEntity e)
  | addKeyValue (n : EntityName) (key value : String) (old? : Option String) :
      Constructed (.addKeyValue n key value old?)
  | changeKeyValue (n : EntityName) (key value : String) (old? : Option String) :
      Constructed (.changeKeyValue n key value old?)
  | removeKeyValue (n : EntityName) (key : String) (old? : Option String) :
      Constructed (.removeKeyValue n key old?)
  | addChild (n : EntityName) (key : ChildKey) (node : ChildNode) :
      Constructed (.addChild n key node)
  | removeChild (n : EntityName) (key : ChildKey) (node : ChildNode) :
      Constructed (.removeChild n key node)

/-- A changed key becomes an addition, a change or a removal, which are the three
constructors for keys. -/
theorem Action.constructed_ofKeyValueChange (n : EntityName)
    (old? : Option String) (change : KeyValueChange) :
    (Action.ofKeyValueChange n old? change).Constructed := by
  cases change <;> constructor

/-- A changed child becomes an addition or a removal. -/
theorem Action.constructed_ofChildChange (n : EntityName)
    (change : ChildChange) : (Action.ofChildChange n change).Constructed := by
  cases change <;> constructor

/-- The proposal adds such actions only. -/
def Proposal.Adds (ok : Action → Prop) : Proposal → Prop
  | .action a => ok a
  | .conflict _ source target? _ _ => ok source ∧ ∀ t ∈ target?, ok t

namespace Proposal

variable {target : Snapshot} {n : EntityName}

/-- The change that stands for all of a modified entity is the first of its keys, or of
its children if no key was changed. Either is made by a constructor, given that
`keyValue` makes the former so. -/
theorem constructed_firstChange? {keyValue : KeyValueChange → Action}
    (hk : ∀ change, (keyValue change).Constructed)
    {keyValues : List KeyValueChange} {children : List ChildChange} :
    ∀ a ∈ firstChange? n keyValue keyValues children, a.Constructed := by
  intro a ha
  -- a change of a key goes before all changes of children
  cases keyValues with
  | cons change rest =>
      cases ha
      exact hk change
  | nil =>
      obtain ⟨change, -, rfl⟩ := Option.map_eq_some_iff.1 ha
      exact Action.constructed_ofChildChange n change

/-- What the target did not touch is proposed as plain actions: one for an entity that
was added or removed, and one for each key and each child of an entity that was
modified. -/
theorem constructed_plain (change : EntityChange) :
    ∀ p ∈ plain target change, p.Adds Action.Constructed := by
  intro p hp
  unfold plain at hp
  -- added, removed, and modified
  split at hp
  · cases List.mem_singleton.1 hp
    exact .addEntity _
  · cases List.mem_singleton.1 hp
    exact .removeEntity _
  · rcases List.mem_append.1 hp with hp | hp
    · obtain ⟨kv, -, rfl⟩ := List.mem_map.1 hp
      exact Action.constructed_ofKeyValueChange _ _ _
    · obtain ⟨c, -, rfl⟩ := List.mem_map.1 hp
      exact Action.constructed_ofChildChange _ _

/-- A key that both sides changed is proposed as an action or as a conflict, or not at
all. In the conflict both sides are actions that constructors make. -/
theorem constructed_keyValue {theirs : List KeyValueChange} {mine their : Entity}
    (change : KeyValueChange) :
    ∀ p ∈ keyValue target n theirs mine their change,
      p.Adds Action.Constructed := by
  intro p hp
  have hsource : (sourceKeyValue target n change).Constructed :=
    Action.constructed_ofKeyValueChange _ _ _
  unfold keyValue at hp
  simp only at hp
  split at hp
  · cases List.mem_singleton.1 hp
    exact hsource
  · -- the target changed the key as well: the two collide, or agree
    split at hp
    · cases List.mem_singleton.1 hp
      refine ⟨hsource, fun t ht => ?_⟩
      cases ht
      exact Action.constructed_ofKeyValueChange _ _ _
    · split at hp
      · cases List.mem_singleton.1 hp
        exact hsource
      · cases hp

/-- A child is proposed unless the target did the same to it. Children never collide. -/
theorem constructed_child {theirs : List ChildChange} (change : ChildChange) :
    ∀ p ∈ child n theirs change, p.Adds Action.Constructed := by
  intro p hp
  have hchange := Action.constructed_ofChildChange n change
  unfold child at hp
  split at hp
  · split at hp
    · cases hp
    · cases List.mem_singleton.1 hp
      exact hchange
  · cases List.mem_singleton.1 hp
    exact hchange

/-- An entity that both sides changed gives one conflict for the whole of it where one
side added or removed it, and otherwise what its keys and children give one by one. What
cannot be of one base counts as untouched by the target. -/
theorem constructed_entity (ours theirs : EntityChange) :
    ∀ p ∈ entity target ours theirs, p.Adds Action.Constructed := by
  intro p hp
  have hsource : ∀ change, (sourceKeyValue target ours.name change).Constructed :=
    fun _ => Action.constructed_ofKeyValueChange _ _ _
  have htarget : ∀ change, (targetKeyValue ours.name change).Constructed :=
    fun _ => Action.constructed_ofKeyValueChange _ _ _
  unfold entity at hp
  simp only at hp
  -- added twice, removed twice, removed and modified, modified and removed, modified
  -- twice, and what cannot be of one base
  split at hp
  · split at hp
    · cases hp
    · cases List.mem_singleton.1 hp
      refine ⟨.addEntity _, fun t ht => ?_⟩
      cases ht
      exact .addEntity _
  · cases hp
  · cases List.mem_singleton.1 hp
    exact ⟨.removeEntity _, constructed_firstChange? htarget⟩
  · split at hp
    · cases hp
    · next source hfirst =>
        cases List.mem_singleton.1 hp
        refine ⟨constructed_firstChange? hsource source hfirst, fun t ht => ?_⟩
        cases ht
        exact .removeEntity _
  · rcases List.mem_append.1 hp with hp | hp
    · obtain ⟨change, -, hp⟩ := List.mem_flatMap.1 hp
      exact constructed_keyValue change p hp
    · obtain ⟨change, -, hp⟩ := List.mem_flatMap.1 hp
      exact constructed_child change p hp
  · exact constructed_plain ours p hp

/-- All that a three-way merge proposes is made by constructors, wrapped actions
included. -/
theorem constructed_threeWay (ours theirs : SceneDiff) :
    ∀ p ∈ threeWay ours theirs target, p.Adds Action.Constructed := by
  intro p hp
  obtain ⟨change, -, hp⟩ := List.mem_flatMap.1 hp
  split at hp
  · exact constructed_plain change p hp
  · exact constructed_entity change _ p hp

/-- All that a two-way merge proposes is made by constructors, where nothing is wrapped.
-/
theorem constructed_twoWay (diff : SceneDiff) :
    ∀ p ∈ twoWay diff target, p.Adds Action.Constructed := by
  intro p hp
  obtain ⟨change, -, hp⟩ := List.mem_flatMap.1 hp
  exact constructed_plain change p hp

/-- A weaker demand on actions is met by the same proposals. -/
theorem Adds.imp {ok ok' : Action → Prop} (himp : ∀ a, ok a → ok' a)
    {p : Proposal} (h : p.Adds ok) : p.Adds ok' := by
  cases p with
  | action a => exact himp a h
  | conflict => exact ⟨himp _ h.1, fun t ht => himp t (h.2 t ht)⟩

end Proposal

end SceneMerge
