/-
What calls do to the one entity that they address. `Puts call l n e?` says
that the call is granted from the live scene `l` on, that it leaves `e?`
under the name `n`, an entity or none, and that under every other name it
leaves what was there. Calls made of such calls are followed step by step
(`Puts.bind`).

Of the live scene this takes no more than distinct names and a transaction
that is open (`LiveScene.Open`). Metadata may list anything: joining and
leaving is between names, and no mutation of entities asks for it.
-/
import Mathlib.Data.List.Perm.Basic
import SceneMerge.Proofs.Review.Reverts

namespace SceneMerge

/-- In the middle of a transaction, with distinct names. -/
structure LiveScene.Open (l : LiveScene) : Prop where
  distinct : l.scene.names.Nodup
  begun : ∃ j, l.transaction = some j

/-- An open transaction is granted its commit, which keeps the scene. -/
theorem LiveScene.Open.commit {l : LiveScene} (h : l.Open) :
    ∃ t, LiveScene.commit l = .ok () t ∧ t.scene = l.scene
      ∧ t.transaction = none := by
  obtain ⟨j, hj⟩ := h.begun
  unfold LiveScene.commit
  rw [hj]
  cases hempty : j.inverse.isEmpty with
  | true => exact ⟨{ l with transaction := none }, by simp [hempty], rfl, rfl⟩
  | false =>
      exact ⟨{ l with transaction := none, undos := j :: l.undos, redos := [] },
        by simp [hempty], rfl, rfl⟩

/-- The call is granted, leaves `e?` under the name `n` and every other
entity as it was. -/
def Puts {ε α : Type} (call : EStateM ε LiveScene α) (l : LiveScene)
    (n : EntityName) (e? : Option Entity) : Prop :=
  ∃ a l', call l = .ok a l' ∧ l'.Open
    ∧ ∀ x, l'.scene.entity? x = if x = n then e? else l.scene.entity? x

namespace Puts

variable {ε ε' α β : Type} {l : LiveScene} {n : EntityName}
  {e? e?' : Option Entity}

/-- Answering leaves everything as it is. -/
theorem pure (hl : l.Open) (a : α) :
    Puts (Pure.pure a : EStateM ε LiveScene α) l n (l.scene.entity? n) := by
  refine ⟨a, l, rfl, hl, fun x => ?_⟩
  split
  · next hx => rw [hx]
  · rfl

/-- What the second call puts is what is there in the end. -/
theorem bind {call : EStateM ε LiveScene α} {next : α → EStateM ε LiveScene β}
    (hc : Puts call l n e?)
    (hn : ∀ a l', call l = .ok a l' → l'.Open → l'.scene.entity? n = e? →
      Puts (next a) l' n e?') : Puts (call >>= next) l n e?' := by
  obtain ⟨a, l₁, hcall, hopen, hentity⟩ := hc
  have hfirst : l₁.scene.entity? n = e? := by rw [hentity, if_pos rfl]
  obtain ⟨b, l₂, hnext, hopen', hentity'⟩ := hn a l₁ hcall hopen hfirst
  refine ⟨b, l₂, (bind_ok hcall).trans hnext, hopen', fun x => ?_⟩
  rw [hentity', hentity]
  split <;> rfl

/-- What is answered may be worked up. -/
theorem map {call : EStateM ε LiveScene α} (h : Puts call l n e?) (f : α → β) :
    Puts (call >>= fun a => Pure.pure (f a)) l n e? := by
  refine h.bind fun a l' _ hl' he => ?_
  rw [← he]
  exact .pure hl' _

/-- Reading the live scene puts nothing, so the call may be looked at with the scene
that it has read. -/
theorem get_bind {next : LiveScene → EStateM ε LiveScene α}
    (h : Puts (next l) l n e?) :
    Puts (MonadState.get >>= next) l n e? :=
  h

/-- Two calls that come to the same from this live scene on put the same. -/
theorem congr {call call' : EStateM ε LiveScene α} (heq : call l = call' l)
    (h : Puts call' l n e?) : Puts call l n e? := by
  obtain ⟨a, l', hcall, hrest⟩ := h
  exact ⟨a, l', heq.trans hcall, hrest⟩

/-- Only refusals are renamed, and a call that puts something is granted. -/
theorem adaptExcept {call : EStateM ε LiveScene α} (h : Puts call l n e?)
    (f : ε → ε') : Puts (call.adaptExcept f) l n e? := by
  obtain ⟨a, l', hcall, hrest⟩ := h
  exact ⟨a, l', adaptExcept_ok hcall, hrest⟩

end Puts

-- ============================================================= mutations

section mutations

variable {l : LiveScene} {n : EntityName} {e : Entity}

/-- A mutation that is granted puts what the scene that it leads to has. -/
private theorem puts_mutate {α : Type} {m : Mutation α} {r : Edited α}
    {e? : Option Entity} (hl : l.Open) (hm : m l.scene = .ok r)
    (hd : r.scene.names.Nodup)
    (he : ∀ x, r.scene.entity? x = if x = n then e? else l.scene.entity? x) :
    Puts (Surface.mutate m : EStateM SceneError LiveScene α) l n e? := by
  obtain ⟨j, hj⟩ := hl.begun
  have hrun : (Surface.mutate m : EStateM SceneError LiveScene α) l
      = .ok r.result
          { l with scene := r.scene, transaction := l.record r.inverse } := by
    show LiveScene.mutate m l = _
    unfold LiveScene.mutate
    rw [hm]
  refine ⟨r.result, _, hrun, ⟨hd, ?_⟩, he⟩
  refine ⟨{ j with inverse := r.inverse ++ j.inverse }, ?_⟩
  show l.record r.inverse = _
  rw [LiveScene.record, hj]
  rfl

/-- A mutation that replaces the entity puts the new one. -/
private theorem puts_setEntity {α : Type} {m : Mutation α} {r : Edited α}
    {e' : Entity} (hl : l.Open) (he : l.scene.entity? n = some e)
    (hn : e'.name = e.name) (hm : m l.scene = .ok r)
    (hr : r.scene = l.scene.setEntity n e') :
    Puts (Surface.mutate m : EStateM SceneError LiveScene α) l n (some e') := by
  have hn' : e'.name = n := hn.trans (Scene.entity?_name he)
  refine puts_mutate hl hm ?_ fun x => ?_
  · rw [hr, Scene.names_setEntity he hn']
    exact hl.distinct
  · rw [hr, Scene.entity?_setEntity he hn']

/-- An entity goes in at any position that there is, unless it has a namesake. Nothing
else changes place as far as names can tell. -/
theorem puts_insertEntityAt (hl : l.Open) {i : Nat}
    (he : l.scene.entity? e.name = none) (hi : i ≤ l.scene.entities.length) :
    Puts (Surface.insertEntityAt i e) l e.name (some e) := by
  have hm := Scene.insertEntityAt_ok_iff.2 ⟨he, hi, rfl⟩
  exact puts_mutate hl hm (Scene.nodup_names_insertIdx hl.distinct he hi)
    (Scene.entity?_insertIdx he hi)

/-- Without a position it goes to the end, which is one of them. -/
theorem puts_insertEntity (hl : l.Open) (he : l.scene.entity? e.name = none) :
    Puts (Surface.insertEntity e) l e.name (some e) :=
  .get_bind (puts_insertEntityAt hl he (Nat.le_refl _))

/-- An entity that is there goes. Its memberships go with it, but they are not what is
looked at here. -/
theorem puts_removeEntity (hl : l.Open) (he : l.scene.entity? n = some e) :
    Puts (Surface.removeEntity n) l n none := by
  have hm := Scene.removeEntity_ok_iff.2 ⟨e, he, rfl⟩
  exact puts_mutate hl hm (Scene.nodup_names_without hl.distinct)
    (Scene.entity?_without hl.distinct he)

/-- A key is given a value, whether or not it had one. -/
theorem puts_setValue (hl : l.Open) (he : l.scene.entity? n = some e)
    (key value : String) :
    Puts (Surface.setValue n key value) l n
      (some (e.withKeyValue key value)) :=
  puts_setEntity hl he rfl (Scene.setValue_ok_iff.2 ⟨e, he, rfl⟩) rfl

/-- A key loses its value, if it has one. Without one the call would be refused. -/
theorem puts_removeValue (hl : l.Open) (he : l.scene.entity? n = some e)
    {key : String} (hv : e.value? key ≠ none) :
    Puts (Surface.removeValue n key) l n
      (some { e with keyValues := e.keyValues.erase key }) := by
  obtain ⟨old, hv⟩ := Option.ne_none_iff_exists'.1 hv
  have hm := Scene.removeValue_ok_iff.2 ⟨e, old, he, hv, rfl⟩
  exact puts_setEntity hl he rfl hm rfl

/-- A child goes to the end of the children, which no entity refuses. -/
theorem puts_insertChild (hl : l.Open) (he : l.scene.entity? n = some e)
    (node : ChildNode) :
    Puts (Surface.insertChild n node) l n (some (e.withChild node)) := by
  have hm : ∃ r, Scene.insertChildAt n e.children.length node l.scene = .ok r
      ∧ r.scene = l.scene.setEntity n (e.withChild node) := by
    refine ⟨_, Scene.insertChildAt_ok_iff.2 ⟨e, he, Nat.le_refl _, rfl⟩, ?_⟩
    simp only [List.insertIdx_length_self, Entity.withChild]
  obtain ⟨r, hm, hr⟩ := hm
  have hname : (e.withChild node).name = e.name := rfl
  obtain ⟨a, l', hrun, hrest⟩ := puts_setEntity hl he hname hm hr
  exact ⟨a, l', (Surface.insertChild_eq he node).trans hrun, hrest⟩

/-- Of the children with the fingerprint the last one goes. -/
theorem puts_removeChildLast (hl : l.Open) (he : l.scene.entity? n = some e)
    {f : Fingerprint} {i : Nat}
    (hlast : Scene.lastIdx? (·.fingerprint == f) e.children = some i) :
    Puts (Surface.removeChild n f) l n
      (some { e with children := e.children.eraseIdx i }) := by
  have hi := Scene.lastIdx?_lt hlast
  have hat := Scene.removeChildAt_ok_iff.2
    ⟨e, _, he, List.getElem?_eq_getElem hi, rfl⟩
  have hm := Scene.removeChild_ok_iff.2 ⟨e, i, _, he, hlast, hat, rfl⟩
  exact puts_setEntity hl he rfl hm rfl

/-- A child goes by its fingerprint if there is one that has it. -/
theorem puts_removeChild {f : Fingerprint} (hf : f ∈ e.fingerprints) :
    ∃ e' : Entity, e'.keyValues = e.keyValues
      ∧ e.fingerprints.Perm (f :: e'.fingerprints)
      ∧ ∀ {l : LiveScene} {n : EntityName}, l.Open →
        l.scene.entity? n = some e →
        Puts (Surface.removeChild n f) l n (some e') := by
  obtain ⟨node, hnode, rfl⟩ := List.mem_map.1 hf
  obtain ⟨i, hlast, hi, hp⟩ := Scene.exists_lastIdx
    (p := (·.fingerprint == node.fingerprint)) hnode (by simp)
  refine ⟨{ e with children := e.children.eraseIdx i }, rfl, ?_, ?_⟩
  · have hperm := (List.getElem_cons_eraseIdx_perm hi).map ChildNode.fingerprint
    rw [List.map_cons, eq_of_beq hp] at hperm
    exact hperm.symm
  · exact fun hl he => puts_removeChildLast hl he hlast

/-- Joining and leaving does not concern entities. -/
theorem puts_setMember (hl : l.Open) (hn : l.scene.contains n = true)
    (g : Membership) (b : Bool) (x : EntityName) :
    Puts (Surface.setMember g n b) l x (l.scene.entity? x) := by
  refine puts_mutate hl (Scene.setMember_ok_iff.2 ⟨hn, rfl⟩) hl.distinct
    fun y => ?_
  split
  · next hy => rw [hy]; rfl
  · rfl

end mutations

-- ================================================================ actions

namespace Performed

variable {l : LiveScene} {n : EntityName} {e : Entity} {id : ActionId}

/-- The removal notes the entity and its position before it takes it out, which puts
nothing. -/
theorem puts_removal (hl : l.Open) (he : l.scene.entity? n = some e) :
    Puts (removal n) l n none :=
  .get_bind ((puts_removeEntity hl he).map _)

/-- Joining, one membership after the other, leaves the entity that joins where it is.
The induction is on what is left to join. -/
theorem puts_joinAll (gs : List Membership) :
    ∀ {l : LiveScene}, l.Open → l.scene.entity? n = some e →
      Puts (joinAll n gs) l n (some e) := by
  induction gs with
  | nil =>
      intro l hl he
      rw [← he]
      exact .pure hl _
  | cons g gs ih =>
      intro l hl he
      have hn := Scene.contains_iff_entity?.2 ⟨e, he⟩
      refine (puts_setMember hl hn g true n).bind fun _ l₁ _ hl₁ he₁ => ?_
      exact (ih hl₁ (he₁.trans he)).map _

/-- Whether or not there is one of its name, the entity is there in the
end. -/
theorem puts_replacement (hl : l.Open) (e : Entity) :
    Puts (replacement e) l e.name (some e) := by
  refine .get_bind ?_
  simp only
  split
  · next hc =>
      -- a namesake is there: it is taken out, the new one goes where it stood, and
      -- joins what the old one was in
      obtain ⟨old, hold⟩ := Scene.contains_iff_entity?.1 hc
      refine (puts_removal hl hold).bind fun x l₁ hremoval hl₁ he₁ => ?_
      obtain ⟨removed, revert⟩ := x
      obtain ⟨e', he', hx, hscene⟩ := removal_ok hremoval
      cases hx
      have hi : l.scene.position e.name ≤ l₁.scene.entities.length := by
        rw [hscene]
        exact Scene.position_le_without he'
      refine (puts_insertEntityAt hl₁ he₁ hi).bind fun _ l₂ _ hl₂ he₂ => ?_
      exact (puts_joinAll _ hl₂ he₂).map _
  · next hc =>
      -- no namesake: the new one goes to the end and has nothing to join
      have hnone : l.scene.entity? e.name = none :=
        Option.not_isSome_iff_eq_none.1 hc
      exact (puts_insertEntityAt hl hnone (Nat.le_refl _)).map _

/-- An action on a part is run on an entity that is there. -/
theorem puts_plain {a : Action} {e? : Option Entity}
    (hn : a.type.targetsEntityPart = true → ∃ e, l.scene.entity? a.entity = some e)
    (h : Puts (plainKind id a.kind) l n e?) : Puts (plain id a) l n e? := by
  refine .get_bind ?_
  have hpart : (a.type.targetsEntityPart
      && !(Surface.scene l).contains a.entity) = false := by
    cases ht : a.type.targetsEntityPart with
    | false => rfl
    | true =>
        have hc : (Surface.scene l).contains a.entity = true :=
          Scene.contains_iff_entity?.2 (hn ht)
        rw [hc]
        rfl
  simp only [hpart, Bool.false_eq_true, if_false]
  exact h.adaptExcept _

/-- What is no conflict is run as it is. The operation is not consulted. -/
theorem ofAction_plain {op : Operation} {a : Action} (h : a.conflict? = none) :
    (ofAction op id a : EStateM MergeError LiveScene Performed) = plain id a := by
  unfold ofAction
  rw [h]

/-- Without its entity an action on a part is refused. -/
theorem plain_violation {a : Action} (id : ActionId) (ht : a.type.targetsEntityPart = true)
    (hc : l.scene.contains a.entity = false) :
    plain id a l = .error (.orderingViolation id a.type a.entity) l := by
  have hc' : (Surface.scene l).contains a.entity = false := hc
  unfold plain
  rw [get_bind_eq, ht, hc']
  rfl

section conflicts

variable {op : Operation} {a w : Action} {c : Conflict}

/-- A conflict about an entity that is gone inserts the source's. -/
theorem conflict_insert (hw : op.action? c.source = some w)
    (htype : c.type = .modificationOfRemovedEntity) (he : c.sourceEntity? = some e)
    (hgone : l.scene.contains w.entity = false) :
    conflict op id a c l = ((Surface.insertEntity e).adaptExcept (failure id a)
      >>= fun _ => pure { reverts := [.removeEntity e.name] }) l := by
  have hgone : (Surface.scene l).contains w.entity = false := hgone
  unfold conflict
  rw [hw, htype, he]
  simp only
  rw [get_bind_eq, hgone]
  rfl

/-- If it is not gone after all, or the source's is not known, the source's
change is made. -/
theorem conflict_there (hw : op.action? c.source = some w)
    (htype : c.type = .modificationOfRemovedEntity)
    (hthere : l.scene.contains w.entity = true ∨ c.sourceEntity? = none) :
    conflict op id a c l = plain c.source w l := by
  unfold conflict
  rw [hw, htype]
  simp only
  rw [get_bind_eq]
  split
  · rfl
  · next hgone =>
      rw [hthere.resolve_left hgone]

/-- A conflict about two additions puts the source's entity in place of the
target's. -/
theorem conflict_replacement (hw : op.action? c.source = some w)
    (htype : c.type = .settingKeyToDifferentValue) (hkind : w.kind = .addEntity e) :
    (conflict op id a c : EStateM MergeError LiveScene Performed)
      = (replacement e).adaptExcept (failure id a) := by
  unfold conflict
  rw [hw, htype]
  simp only [hkind]

/-- Any other conflict does what the source's change does. -/
theorem conflict_plain (hw : op.action? c.source = some w)
    (htype : c.type ≠ .modificationOfRemovedEntity)
    (hkind : c.type = .settingKeyToDifferentValue → ∀ e, w.kind ≠ .addEntity e) :
    (conflict op id a c : EStateM MergeError LiveScene Performed)
      = plain c.source w := by
  unfold conflict
  rw [hw]
  simp only
  split
  · next h => exact absurd h htype
  · next e ht hk => exact absurd hk (hkind ht e)
  · rfl

end conflicts

/-- Membership changes do not concern entities, and those of entities that
are not there are passed over. -/
theorem puts_membership (hl : l.Open) (change : MembershipChange)
    (x : EntityName) :
    Puts (membership change) l x (l.scene.entity? x) := by
  refine .get_bind ?_
  split
  · next hc => exact (puts_setMember hl hc _ _ x).map _
  · exact .pure hl _

end Performed

end SceneMerge
