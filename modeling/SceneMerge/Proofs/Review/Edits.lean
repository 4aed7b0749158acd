/-
Changes of keys, and what they replace. When it is the turn of an action,
at most one key is changed: by the action itself, or, if it is a conflict,
by the change of the source that it wraps (`Operation.edit?`). What was
there before is noted with the action whose change it is
(`Performed.unchanged_ofAction`), and taking in a pass writes down what was
noted (`Operation.action?_absorb_of_mem`) and nothing else
(`Operation.action?_absorb_of_not_mem`).

Among the deeds of a plan at most one writes a key. So before it is made
the entity has under that key what the target has
(`Scene.CameOf.value?_eq`).
-/
import SceneMerge.Proofs.Review.Linkage
import SceneMerge.Proofs.Review.Progress

namespace SceneMerge

-- ================================================================ changes

/-- The change of a key that an action of the kind makes. -/
def ActionKind.edit? : ActionKind → Option KeyValueAction
  | .addKeyValue edit | .removeKeyValue edit | .changeKeyValue edit => some edit
  | _ => none

/-- What is under a key of an entity, if there is such an entity. -/
def Scene.value? (s : Scene) (n : EntityName) (key : String) : Option String :=
  (s.entity? n).bind (·.value? key)

/-- The change of a key that is made when it is the turn of the action at
`id`, with the action whose change it is. A conflict makes the change of the
source that it wraps, unless the entity is gone, and comes back whole. -/
def Operation.edit? (op : Operation) (s : Scene) (id : ActionId) :
    Option (ActionId × KeyValueAction) :=
  (op.action? id).bind fun a =>
    match a.conflict? with
    | none => a.kind.edit?.map (id, ·)
    | some c => (op.action? c.source).bind fun w =>
        if c.type = .modificationOfRemovedEntity ∧ s.contains w.entity = false then none
        else w.kind.edit?.map (c.source, ·)

/-- What such a change replaces, with the action whose change it is. -/
def Operation.replaced? (op : Operation) (s : Scene) (id : ActionId) :
    Option (ActionId × Option String) :=
  (op.edit? s id).map fun (x, edit) => (x, s.value? edit.entity edit.key)

/-- Only what is known of the key's earlier value is replaced. -/
theorem ActionKind.edit?_withUnchanged {kind : ActionKind} {edit : KeyValueAction}
    (h : kind.edit? = some edit) (old? : Option String) :
    (kind.withUnchanged old?).edit? = some { edit with unchanged? := old? } := by
  cases kind <;> cases h <;> rfl

/-- Who changes a key has the deed of writing that key. -/
theorem ActionKind.deed?_edit {kind : ActionKind} {edit : KeyValueAction}
    (h : kind.edit? = some edit) :
    ∃ value?, kind.deed? = some (.setKey edit.entity edit.key value?) := by
  cases kind <;> cases h <;> exact ⟨_, rfl⟩

/-- Who changes a key targets a part of an entity. -/
theorem ActionKind.targetsEntityPart_edit {kind : ActionKind} {edit : KeyValueAction}
    (h : kind.edit? = some edit) : kind.type.targetsEntityPart = true := by
  cases kind <;> cases h <;> rfl

-- =================================================================== notes

namespace Performed

variable {l l' : LiveScene} {op : Operation} {id : ActionId} {a : Action}
  {done : Performed}

/-- Whoever changes a key notes what was there. -/
theorem unchanged_plainKind {kind : ActionKind} (h : plainKind id kind l = .ok done l') :
    done.unchanged? = kind.edit?.map fun edit => (id, l.scene.value? edit.entity edit.key) := by
  -- adding and changing are one mutation, which answers the value that it overwrote
  have hset : ∀ {edit : KeyValueAction} {value : String},
      (Surface.setValue edit.entity edit.key value >>= fun old? => pure
        { reverts := [.restoreValue edit.entity edit.key old?]
          unchanged? := some (id, old?) } : EStateM SceneError LiveScene Performed) l
        = .ok done l' →
      done.unchanged? = some (id, l.scene.value? edit.entity edit.key) := by
    intro edit value h
    obtain ⟨old?, l₁, hset, hrest⟩ := of_bind_ok h
    cases hrest
    obtain ⟨r, hr, rfl, -⟩ := LiveScene.of_mutate_ok hset
    obtain ⟨e, he, rfl⟩ := Scene.setValue_ok_iff.1 hr
    rw [Scene.value?, he]
    rfl
  cases kind with
  | noAction | conflict =>
      cases h
      rfl
  | addEntity | addChildNode =>
      obtain ⟨_, _, -, hrest⟩ := of_bind_ok h
      cases hrest
      rfl
  | removeEntity | removeChildNode =>
      obtain ⟨_, _, -, hrest⟩ := of_bind_ok h
      cases hrest
      rfl
  | addKeyValue edit | changeKeyValue edit => exact hset h
  | removeKeyValue edit =>
      obtain ⟨old, l₁, hremove, hrest⟩ := of_bind_ok h
      cases hrest
      obtain ⟨r, hr, rfl, -⟩ := LiveScene.of_mutate_ok hremove
      obtain ⟨e, old, he, hold, rfl⟩ := Scene.removeValue_ok_iff.1 hr
      show some (id, some old) = some (id, l.scene.value? edit.entity edit.key)
      rw [Scene.value?, he, Option.bind_some, hold]

/-- An action on a part was run where its entity is. -/
theorem contains_of_plain_ok (h : plain id a l = .ok done l')
    (ht : a.type.targetsEntityPart = true) : l.scene.contains a.entity = true := by
  cases hc : l.scene.contains a.entity with
  | true => rfl
  | false =>
      rw [plain_violation id ht hc] at h
      cases h

/-- An action that is run notes what its key had, if it changes one, and that is read
from the scene as it was before. -/
theorem unchanged_plain (h : plain id a l = .ok done l') :
    done.unchanged? = a.kind.edit?.map fun edit =>
      (id, l.scene.value? edit.entity edit.key) := by
  unfold plain at h
  rw [get_bind_eq] at h
  split at h
  · cases h
  · exact unchanged_plainKind (of_adaptExcept_ok h)

/-- An entity that takes the place of another one changes no key of it. -/
theorem unchanged_replacement {e : Entity} (h : replacement e l = .ok done l') :
    done.unchanged? = none := by
  unfold replacement at h
  rw [get_bind_eq] at h
  split at h
  · obtain ⟨_, _, -, h⟩ := of_bind_ok h
    obtain ⟨_, _, -, h⟩ := of_bind_ok h
    obtain ⟨_, _, -, h⟩ := of_bind_ok h
    cases h
    rfl
  · obtain ⟨_, _, -, h⟩ := of_bind_ok h
    cases h
    rfl

/-- A conflict notes what the source's change notes, under the id of that change. If the
whole entity is inserted or replaced instead, no key is changed and nothing is noted. -/
theorem unchanged_conflict {c : Conflict} (ha : op.action? id = some a)
    (hc : a.conflict? = some c) (h : conflict op id a c l = .ok done l') :
    done.unchanged? = op.replaced? l.scene id := by
  cases hw : op.action? c.source with
  | none =>
      unfold conflict at h
      rw [hw] at h
      cases h
  | some w =>
      simp only [Operation.replaced?, Operation.edit?, ha, Option.bind_some, hc, hw]
      have hplain : plain c.source w l = .ok done l' →
          done.unchanged? = (w.kind.edit?.map (c.source, ·)).map fun x =>
            (x.1, l.scene.value? x.2.entity x.2.key) := by
        intro h
        rw [unchanged_plain h, Option.map_map]
        rfl
      by_cases hgone : c.type = .modificationOfRemovedEntity
          ∧ l.scene.contains w.entity = false
      · rw [if_pos hgone]
        cases he : c.sourceEntity? with
        | some e =>
            rw [conflict_insert hw hgone.1 he hgone.2] at h
            obtain ⟨_, _, -, hrest⟩ := of_bind_ok h
            cases hrest
            rfl
        | none =>
            -- a change of a key would have been refused
            rw [conflict_there hw hgone.1 (.inr he)] at h
            cases hedit : w.kind.edit? with
            | none => rw [hplain h, hedit]; rfl
            | some edit =>
                have hthere := contains_of_plain_ok h
                  (ActionKind.targetsEntityPart_edit hedit)
                rw [hgone.2] at hthere
                cases hthere
      · rw [if_neg hgone]
        by_cases htype : c.type = .modificationOfRemovedEntity
        · have hthere := eq_true_of_ne_false fun hnone => hgone ⟨htype, hnone⟩
          rw [conflict_there hw htype (.inl hthere)] at h
          exact hplain h
        · by_cases hadd : c.type = .settingKeyToDifferentValue ∧ ∃ e, w.kind = .addEntity e
          · obtain ⟨hset, e, hkind⟩ := hadd
            rw [conflict_replacement hw hset hkind] at h
            rw [unchanged_replacement (of_adaptExcept_ok h), hkind]
            rfl
          · rw [conflict_plain hw htype fun hset e hkind => hadd ⟨hset, e, hkind⟩] at h
            exact hplain h

/-- What is noted when it is the turn of an action is what it replaces. -/
theorem unchanged_ofAction (ha : op.action? id = some a)
    (h : ofAction op id a l = .ok done l') :
    done.unchanged? = op.replaced? l.scene id := by
  cases hc : a.conflict? with
  | some c =>
      unfold ofAction at h
      rw [hc] at h
      exact unchanged_conflict ha hc h
  | none =>
      rw [ofAction_plain hc] at h
      simp only [Operation.replaced?, Operation.edit?, ha, Option.bind_some, hc,
        Option.map_map]
      exact unchanged_plain h

end Performed

-- ============================================================ taking notes

namespace Operation

/-- Notes of other actions do not concern the action. -/
theorem getElem?_noted_of_not_mem {x : ActionId} :
    ∀ (notes : List (ActionId × Option String)) (actions : List Action),
      x ∉ notes.map (·.1) →
      (notes.foldl (fun actions (id, value?) =>
        actions.modify id fun a => { a with kind := a.kind.withUnchanged value? })
          actions)[x]? = actions[x]? := by
  intro notes
  induction notes with
  | nil => exact fun _ _ => rfl
  | cons note notes ih =>
      intro actions hx
      obtain ⟨hne, hx⟩ := not_or.1 (mt List.mem_cons.2 hx)
      rw [List.foldl_cons, ih _ hx]
      exact List.getElem?_modify_ne _ _ (Ne.symm hne)

/-- Where no action has two notes, each action has its own. -/
theorem getElem?_noted_of_mem {x : ActionId} {old? : Option String} :
    ∀ (notes : List (ActionId × Option String)) (actions : List Action),
      (notes.map (·.1)).Nodup → (x, old?) ∈ notes →
      (notes.foldl (fun actions (id, value?) =>
        actions.modify id fun a => { a with kind := a.kind.withUnchanged value? })
          actions)[x]?
        = actions[x]?.map fun a => { a with kind := a.kind.withUnchanged old? } := by
  intro notes
  induction notes with
  | nil => exact fun _ _ hx => nomatch hx
  | cons note notes ih =>
      intro actions hnodup hx
      obtain ⟨hfresh, hnodup⟩ := List.nodup_cons.1 hnodup
      rw [List.foldl_cons]
      -- the note is the first one, and no later note is about the same action, or it is
      -- a later one
      rcases List.mem_cons.1 hx with rfl | hx
      · rw [getElem?_noted_of_not_mem _ _ hfresh]
        exact List.getElem?_modify_eq _ _ _
      · have hne : note.1 ≠ x := by
          rintro rfl
          exact hfresh (List.mem_map.2 ⟨_, hx, rfl⟩)
        rw [ih _ hnodup hx]
        exact congrArg _ (List.getElem?_modify_ne _ _ hne)

variable {op : Operation} {p : Pass} {x : ActionId} {old? : Option String}

/-- What nothing was noted for is what it was. -/
theorem action?_absorb_of_not_mem (hx : x ∉ p.unchanged.map (·.1)) :
    (op.absorb p).action? x = op.action? x :=
  getElem?_noted_of_not_mem p.unchanged op.actions hx

/-- What something was noted for has it written down, and is otherwise what it was. -/
theorem action?_absorb_of_mem (hnodup : (p.unchanged.map (·.1)).Nodup)
    (hx : (x, old?) ∈ p.unchanged) :
    (op.absorb p).action? x
      = (op.action? x).map fun a => { a with kind := a.kind.withUnchanged old? } :=
  getElem?_noted_of_mem p.unchanged op.actions hnodup hx

-- ================================================================== owners

/-- The action in whose turn the action at `x` is run: the conflict that
wraps it, if there is one. -/
def turnFor (op : Operation) (x : ActionId) : ActionId :=
  ((op.action? x).bind (·.owner?)).getD x

variable {s : Scene} {id : ActionId} {edit : KeyValueAction}

/-- The change of a key is that of an action which is there, be it the one whose turn it
is or the one that it wraps. -/
theorem exists_of_edit? (h : op.edit? s id = some (x, edit)) :
    ∃ w, op.action? x = some w ∧ w.kind.edit? = some edit := by
  obtain ⟨a, ha, h⟩ := Option.bind_eq_some_iff.1 h
  split at h
  · obtain ⟨edit', hedit, heq⟩ := Option.map_eq_some_iff.1 h
    cases heq
    exact ⟨a, ha, hedit⟩
  · obtain ⟨w, hw, h⟩ := Option.bind_eq_some_iff.1 h
    split at h
    · cases h
    · obtain ⟨edit', hedit, heq⟩ := Option.map_eq_some_iff.1 h
      cases heq
      exact ⟨w, hw, hedit⟩

/-- A change of a key is made in one turn only. -/
theorem Linked.turnFor_eq (hl : op.Linked) (hid : id ∈ op.order)
    (h : op.edit? s id = some (x, edit)) : op.turnFor x = id := by
  obtain ⟨a, ha, h⟩ := Option.bind_eq_some_iff.1 h
  split at h
  · obtain ⟨edit', -, heq⟩ := Option.map_eq_some_iff.1 h
    cases heq
    obtain ⟨k, hk, howner⟩ := (hl.top _).1 hid
    rw [links_of_action? ha] at hk
    cases hk
    rw [turnFor, ha, Option.bind_some, show a.owner? = none from howner]
    rfl
  · next c hc =>
      obtain ⟨w, hw, h⟩ := Option.bind_eq_some_iff.1 h
      split at h
      · cases h
      · obtain ⟨edit', -, heq⟩ := Option.map_eq_some_iff.1 h
        cases heq
        obtain ⟨w', hw', howner⟩ := hl.of_wrapped ha hc List.mem_cons_self
        cases hw.symm.trans hw'
        rw [turnFor, hw, Option.bind_some, howner]
        rfl

end Operation

-- =================================================================== plans

open Deed

variable {op : Operation} {s : Scene} {id x : ActionId} {edit : KeyValueAction}

/-- The deed of a change of a key writes that key. -/
theorem Operation.setKey_of_edit? {d : Deed} {e? : Option Entity}
    (h : op.edit? s id = some (x, edit)) (hd : op.deed? id = some d)
    (hmake : d.make (s.entity? d.name) = some e?) :
    ∃ value?, d = .setKey edit.entity edit.key value? := by
  have hkind : ∀ {a : Action} {d : Deed}, a.kind.edit? = some edit → a.deed? = some d →
      ∃ value?, d = .setKey edit.entity edit.key value? := by
    intro a d hedit hd
    obtain ⟨value?, hvalue⟩ := ActionKind.deed?_edit hedit
    exact ⟨value?, Option.some.inj ((Action.deed?_eq_some.1 hd).1.symm.trans hvalue)⟩
  obtain ⟨a, ha, h⟩ := Option.bind_eq_some_iff.1 h
  rw [deed?, ha, Option.bind_some] at hd
  split at h
  · next hc =>
      obtain ⟨edit', hedit, heq⟩ := Option.map_eq_some_iff.1 h
      cases heq
      rw [hc] at hd
      exact hkind hedit hd
  · next c hc =>
      obtain ⟨w, hw, h⟩ := Option.bind_eq_some_iff.1 h
      rw [hc] at hd
      simp only [hw, Option.bind_some] at hd
      split at h
      · cases h
      · next hthere =>
          obtain ⟨edit', hedit, heq⟩ := Option.map_eq_some_iff.1 h
          cases heq
          cases htype : c.type with
          | modificationOfRemovedEntity =>
              -- the entity would come back whole, but it is there
              rw [htype] at hd
              obtain ⟨e, he, rfl⟩ := Option.map_eq_some_iff.1 hd
              have hname := eq_of_beq (Option.filter_eq_some_iff.1 he).2
              refine absurd ⟨htype, ?_⟩ hthere
              rw [← hname, Scene.contains]
              show (s.entity? (Deed.insert e).name).isSome = false
              rw [(make_insert.1 hmake).1]
              rfl
          | settingKeyToDifferentValue =>
              rw [htype] at hd
              obtain ⟨d₀, hd₀, rfl⟩ := Option.map_eq_some_iff.1 hd
              obtain ⟨value?, rfl⟩ := hkind hedit hd₀
              exact ⟨value?, rfl⟩
          | _ =>
              rw [htype] at hd
              exact hkind hedit hd

/-- Before a planned deed writes a key, the entity has there what the target
has. -/
theorem Scene.CameOf.value?_eq {target : Snapshot} {all ds : List Deed}
    {n : EntityName} {key : String} {value? : Option String} (h : s.CameOf target ds)
    (hall : target.Plans all) (hsub : (ds ++ [Deed.setKey n key value?]).Subperm all) :
    s.value? n key = Proposal.targetValue? target n key := by
  have hplan := hall n
  have hmade := h n
  have hlast : [Deed.setKey n key value?].filter (·.name == n) = [.setKey n key value?] :=
    List.filter_cons_of_pos (beq_self_eq_true n)
  have hsub := hsub.filter (·.name == n)
  rw [List.filter_append, hlast] at hsub
  have hmem : Deed.setKey n key value? ∈ all.filter (·.name == n) :=
    hsub.subset (List.mem_append_right _ List.mem_cons_self)
  rw [Scene.value?, Proposal.targetValue?]
  generalize target.entity? n = t?, all.filter (·.name == n) = planned at hplan hmade hsub hmem
  cases hplan with
  | nothing => cases hmem
  | insert | replace | remove => cases List.mem_singleton.1 hmem
  | @parts t _ hfits =>
      have hearlier := hfits.subperm (((List.sublist_append_left _ _).subperm).trans hsub)
      obtain ⟨e, hmake, hworked⟩ := hearlier.makeAll
      have he : s.entity? n = some e := Option.some.inj (hmade.symm.trans hmake)
      have hkeys := (hfits.subperm hsub).keys
      rw [List.filterMap_append] at hkeys
      -- the deeds before write other keys, so this one is as the target has it
      have hfresh := fun hin =>
        List.disjoint_of_nodup_append hkeys hin (List.mem_singleton_self key)
      rw [he, Option.bind_some, Option.bind_some, hworked.kept key hfresh]

end SceneMerge
