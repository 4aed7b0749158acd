/-
What becomes of an operation while it is reviewed and applied. Switches are
turned, conflicts decided, earlier values filled in and the lists of what
was applied grow; but the order stays, and so does what each action is about
(`Kin`). In particular an action keeps its deed (`Kin.deed?`).

A review does not touch what was applied either (`Revised`).
-/
import SceneMerge.Proofs.Review.Execution

namespace SceneMerge

-- ================================================================= cores

/-- The action as far as neither review nor passes change it. -/
def Action.core (a : Action) : Action :=
  { a with
    kind := (a.kind.withUnchanged none).withResolution .unresolved
    active := false }

namespace Action

variable (a : Action)

/-- Whether an action is switched on is no part of its core. -/
theorem core_active (active : Bool) : core { a with active } = a.core := rfl

/-- How a conflict was decided, which is written together with the switch, is no part of
its core. Only a conflict has a resolution to write; of any other kind nothing changes.
-/
theorem core_withResolution (r : Resolution) (active : Bool) :
    core { a with kind := a.kind.withResolution r, active } = a.core := by
  obtain ⟨kind, node, active, owner?⟩ := a
  cases kind <;> rfl

/-- The earlier value of a key is no part of the core: a pass fills it in when it finds
the key as it is to be. No other kind of action has one. -/
theorem core_withUnchanged (value? : Option String) :
    core { a with kind := a.kind.withUnchanged value? } = a.core := by
  obtain ⟨kind, node, active, owner?⟩ := a
  cases kind <;> rfl

/-- What an action does to an entity says nothing of switch, decision or earlier value,
so it can be read off the core. -/
theorem deed?_core : a.core.deed? = a.deed? := by
  obtain ⟨kind, node, active, owner?⟩ := a
  cases kind <;> rfl

/-- A conflict has a core that is a conflict, of the same type, about the same source
and target, and undecided. -/
theorem conflict?_core :
    a.core.conflict? = a.conflict?.map ({ · with resolution := .unresolved }) := by
  obtain ⟨kind, node, active, owner?⟩ := a
  cases kind <;> rfl

end Action

/-- What a conflict does, once accepted, is what its source does or the removal or
insertion of an entity, and for that too the core of the source is enough. -/
theorem Deed.ofConflict?_core (type : ConflictType) (w : Action)
    (sourceEntity? : Option Entity) :
    ofConflict? type w.core sourceEntity? = ofConflict? type w sourceEntity? := by
  -- a modification of what the target removed brings the source's entity in, whatever
  -- the wrapped action is; every other type asks for the deed of the source
  cases type with
  | modificationOfRemovedEntity => rfl
  | _ => simp only [ofConflict?, Action.deed?_core]

/-- What the modification leaves alone is the same for all. -/
theorem map_modify_of_eq {α β : Type} {f : α → α} {g : α → β}
    (h : ∀ a, g (f a) = g a) (l : List α) (i : Nat) :
    (l.modify i f).map g = l.map g := by
  refine List.ext_getElem? fun j => ?_
  rw [List.getElem?_map, List.getElem?_map, List.getElem?_modify]
  cases l[j]? with
  | none => rfl
  | some a =>
      -- at the position that is modified `h` applies, and elsewhere nothing was
      -- modified
      by_cases hij : i = j
      · simp [hij, h]
      · simp [hij]

namespace Operation

variable {op op' op'' : Operation} {id : ActionId} {active : Bool}

-- =================================================================== kin

/-- The two list the same things, about the same. -/
structure Kin (op op' : Operation) : Prop where
  order : op'.order = op.order
  cores : op'.actions.map Action.core = op.actions.map Action.core
  changes : op'.memberships.map (·.change) = op.memberships.map (·.change)

/-- Nothing has happened. -/
theorem Kin.refl (op : Operation) : op.Kin op := ⟨rfl, rfl, rfl⟩

/-- One thing happened, then another. -/
theorem Kin.trans (h : op.Kin op') (h' : op'.Kin op'') : op.Kin op'' :=
  ⟨h'.order.trans h.order, h'.cores.trans h.cores, h'.changes.trans h.changes⟩

/-- The deed is computed from the cores alone: the action's, and for a conflict that of
the action which it wraps. So two operations with the same cores cannot disagree about
it. -/
private theorem deed?_eq (op : Operation) (id : ActionId) :
    op.deed? id = (op.actions.map Action.core)[id]?.bind fun a =>
      match a.conflict? with
      | none => a.deed?
      | some c => (op.actions.map Action.core)[c.source]?.bind fun source =>
          Deed.ofConflict? c.type source c.sourceEntity? := by
  rw [deed?, List.getElem?_map]
  show (op.action? id).bind _ = ((op.action? id).map Action.core).bind _
  -- not there; a plain action; a conflict, whose source is looked up in turn
  cases op.action? id with
  | none => rfl
  | some a =>
      simp only [Option.map_some, Option.bind_some, a.conflict?_core, a.deed?_core]
      cases a.conflict? with
      | none => rfl
      | some c =>
          simp only [Option.map_some, List.getElem?_map]
          show (op.action? c.source).bind _
            = ((op.action? c.source).map Action.core).bind _
          cases op.action? c.source with
          | none => rfl
          | some w => exact (Deed.ofConflict?_core c.type w c.sourceEntity?).symm

/-- An action keeps its deed. Who performs it in the end, and when, may differ between
the two operations, but not what it does. -/
theorem Kin.deed? (h : op.Kin op') (id : ActionId) : op'.deed? id = op.deed? id := by
  rw [deed?_eq, deed?_eq, h.cores]

/-- An action may be changed in place if that leaves its core alone. -/
theorem Kin.modifyAction {f : Action → Action} (hf : ∀ a, (f a).core = a.core)
    (op : Operation) (id : ActionId) : op.Kin (op.modifyAction id f) :=
  ⟨rfl, map_modify_of_eq hf _ _, rfl⟩

/-- What a pass reports is written back: what it applied, the entries that list it, and
the earlier values of keys that it found as they were to be. Of these only the last
concern actions, and no core. -/
theorem Kin.absorb (op : Operation) (p : Pass) : op.Kin (op.absorb p) := by
  refine ⟨rfl, ?_, rfl⟩
  unfold Operation.absorb
  simp only
  generalize op.actions = actions
  -- the earlier values are filled in one after the other, and each leaves the cores
  -- alone
  induction p.unchanged generalizing actions with
  | nil => rfl
  | cons item rest ih =>
      rw [List.foldl_cons, ih]
      exact map_modify_of_eq (fun a => a.core_withUnchanged item.2) _ _

-- =============================================================== reviews

/-- What a review leaves as it is. -/
structure Revised (op op' : Operation) : Prop where
  kin : op.Kin op'
  applied : op'.applied = op.applied
  memberships : op'.appliedMemberships = op.appliedMemberships
  mutable : op'.ensureMutable = op.ensureMutable

/-- Nothing was reviewed. -/
theorem Revised.refl (op : Operation) : op.Revised op := ⟨.refl op, rfl, rfl, rfl⟩

/-- One review, then another. -/
theorem Revised.trans (h : op.Revised op') (h' : op'.Revised op'') :
    op.Revised op'' :=
  ⟨h.kin.trans h'.kin, h'.applied.trans h.applied,
    h'.memberships.trans h.memberships, h'.mutable.trans h.mutable⟩

/-- A change in place that leaves the core of the action alone is a review. -/
theorem Revised.modifyAction {f : Action → Action} (hf : ∀ a, (f a).core = a.core)
    (op : Operation) (id : ActionId) : op.Revised (op.modifyAction id f) :=
  ⟨.modifyAction hf op id, rfl, rfl, rfl⟩

/-- Showing an action among the staged nodes, or taking it out, is one too: what is
staged is a view of what was applied, and not the record of it. -/
theorem Revised.restage (op : Operation) (id : ActionId) (a : Action)
    (active : Bool) : op.Revised (op.restage id a active) := by
  obtain ⟨staged, h⟩ := restage_eq op id a active
  rw [h]
  exact ⟨⟨rfl, rfl, rfl⟩, rfl, rfl, rfl⟩

/-- An action is switched on or off and staged accordingly, if it was applied. -/
theorem revised_setActive (h : op.setActive id active = .ok (some op')) :
    op.Revised op' := by
  obtain ⟨a, -, -, -, rfl⟩ := of_setActive_ok h
  have hself : op.Revised (op.modifyAction id ({ · with active })) :=
    .modifyAction (fun a => a.core_active active) op id
  -- only an action that was applied is staged, and otherwise the switch is all
  split
  · exact hself.trans (.restage _ id a active)
  · exact hself

/-- A membership change is switched on or off, and stays the change that it was. -/
theorem revised_setMembershipActive {index : Nat}
    (h : op.setMembershipActive index active = .ok op') : op.Revised op' := by
  obtain rfl := of_setMembershipActive_ok h
  have hsame : ∀ m : MembershipAction, ({ m with active }).change = m.change :=
    fun _ => rfl
  exact ⟨⟨rfl, rfl, map_modify_of_eq hsame _ _⟩, rfl, rfl, rfl⟩

/-- A decision writes three times: to the conflict, to the action that it wraps, and to
the staged nodes. None of it concerns cores. -/
theorem revised_setResolution {r : Resolution} (h : op.setResolution id r = .ok op') :
    op.Revised op' := by
  obtain ⟨a, c, -, -, rfl⟩ := of_setResolution_ok h
  have hself : op.Revised (op.modifyAction id fun a =>
      { a with kind := a.kind.withResolution r, active := r.appliesSource }) :=
    .modifyAction (fun a => a.core_withResolution r _) op id
  refine (hself.trans ?_).trans (.restage _ id a _)
  exact .modifyAction (fun a => a.core_active _) _ c.source

end Operation

end SceneMerge
