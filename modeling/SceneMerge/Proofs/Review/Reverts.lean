/-
Every action knows the way back from what it did. If running it is
granted, the scene is well formed again and its reverts return to the
scene it was run on (`revertedBy_ofAction`, `revertedBy_membership`).

One mutation is reverted by what answers to the edit that leads back from
it. Replacing an entity takes several: the entity that was in its place
goes, the new one comes and joins what the old one had left. Nobody lists
it before it joins, so leaving everything again is the exact way back.
-/
import SceneMerge.Proofs.Scene.Returns

namespace SceneMerge

open Revert

/-- Whenever the call is granted, `reverts` of its answer returns. -/
def RevertedBy {ε α : Type} (call : EStateM ε LiveScene α)
    (reverts : α → List Revert) : Prop :=
  ∀ l a l', l.scene.WellFormed → call l = .ok a l' →
    l'.scene.WellFormed ∧ Returns (reverts a) l'.scene l.scene

namespace RevertedBy

variable {ε ε' α : Type} {reverts : α → List Revert}

/-- A refusal is not granted, so nothing has to be taken back. -/
theorem throw (e : ε) :
    RevertedBy (MonadExcept.throw e : EStateM ε LiveScene α) reverts := by
  intro l a l' _ h
  cases h

/-- If nothing was done, nothing has to be taken back, as long as that is what is
answered. -/
theorem pure {a : α} (h : reverts a = []) :
    RevertedBy (Pure.pure a : EStateM ε LiveScene α) reverts := by
  intro l a l' hl hrun
  cases hrun
  rw [h]
  exact ⟨hl, .nil⟩

/-- Looking at the scene does nothing to it. -/
theorem get_bind {next : LiveScene → EStateM ε LiveScene α}
    (h : ∀ l, RevertedBy (next l) reverts) :
    RevertedBy (MonadState.get >>= next) reverts :=
  fun l a l' hl hrun => h l l a l' hl hrun

/-- The wording of refusals does not matter to what is granted. -/
theorem adaptExcept {call : EStateM ε LiveScene α}
    (h : RevertedBy call reverts) (f : ε → ε') :
    RevertedBy (call.adaptExcept f) reverts :=
  fun l a l' hl hrun => h l a l' hl (of_adaptExcept_ok hrun)

theorem ite {c : Prop} [Decidable c] {call call' : EStateM ε LiveScene α}
    (h : RevertedBy call reverts) (h' : RevertedBy call' reverts) :
    RevertedBy (if c then call else call') reverts := by
  split
  · exact h
  · exact h'

/-- What is answered may be worked up without the scene. -/
theorem map {β : Type} {call : EStateM ε LiveScene β} {f : β → α}
    (h : RevertedBy call (reverts ∘ f)) :
    RevertedBy (call >>= fun b => Pure.pure (f b)) reverts := by
  intro l a l' hl hrun
  obtain ⟨b, t, hcall, hlast⟩ := of_bind_ok hrun
  cases hlast
  exact h l b l' hl hcall

end RevertedBy

-- ========================================================= one mutation

section mutations

/-- A reversible mutation is reverted by whatever does what its inverse
edits do. -/
private theorem revertedBy_mutate {α : Type} {m : Mutation α}
    (hm : m.Reversible) {reverts : α → List Revert}
    (hback : ∀ s r, m s = .ok r → Leads r.inverse r.scene s →
      Returns (reverts r.result) r.scene s) :
    RevertedBy (Surface.mutate m : EStateM SceneError LiveScene α) reverts := by
  intro l a l' hl hrun
  obtain ⟨r, hr, rfl, hscene⟩ := LiveScene.of_mutate_ok hrun
  obtain ⟨hwf, hlead⟩ := hm.exact hl hr
  rw [← hscene]
  exact ⟨hwf, hback _ _ hr hlead⟩

/-- An entity that came in is removed. -/
theorem revertedBy_insertEntityAt (i : Nat) (e : Entity) :
    RevertedBy (Surface.insertEntityAt i e) fun _ => [.removeEntity e.name] := by
  refine revertedBy_mutate (Scene.reversible_insertEntityAt i e)
    fun s r hr hlead => ?_
  obtain ⟨-, -, rfl⟩ := Scene.insertEntityAt_ok_iff.1 hr
  exact returns_of_removeEntity hlead

/-- An entity that was appended is removed. -/
theorem revertedBy_insertEntity (e : Entity) :
    RevertedBy (Surface.insertEntity e) fun _ => [.removeEntity e.name] :=
  .get_bind fun _ => revertedBy_insertEntityAt _ e

/-- A value that was set is what it was before, or gone if there was none. -/
theorem revertedBy_setValue (n : EntityName) (key value : String) :
    RevertedBy (Surface.setValue n key value)
      fun old? => [.restoreValue n key old?] := by
  refine revertedBy_mutate (Scene.reversible_setValue n key value)
    fun s r hr hlead => ?_
  obtain ⟨e, -, rfl⟩ := Scene.setValue_ok_iff.1 hr
  cases hv : e.value? key with
  | none =>
      rw [hv] at hlead
      exact returns_of_removeValue hlead
  | some old =>
      rw [hv] at hlead
      exact returns_of_setValue hlead

/-- A value that was removed is set again. -/
theorem revertedBy_removeValue (n : EntityName) (key : String) :
    RevertedBy (Surface.removeValue n key)
      fun old => [.restoreValue n key (some old)] := by
  refine revertedBy_mutate (Scene.reversible_removeValue n key)
    fun s r hr hlead => ?_
  obtain ⟨e, old, -, -, rfl⟩ := Scene.removeValue_ok_iff.1 hr
  exact returns_of_setValue hlead

/-- An appended child is the last of its fingerprint. -/
theorem revertedBy_insertChild (n : EntityName) (child : ChildNode) :
    RevertedBy (Surface.insertChild n child)
      fun _ => [.removeChild n child.fingerprint] := by
  intro l a l' hl hrun
  cases he : l.scene.entity? n with
  | none => rw [Surface.insertChild_error he] at hrun; cases hrun
  | some e =>
      rw [Surface.insertChild_eq he] at hrun
      obtain ⟨r, hr, -, hscene⟩ := LiveScene.of_mutate_ok hrun
      obtain ⟨hwf, hlead⟩ := (Scene.reversible_insertChildAt _ _ _).exact hl hr
      rw [← hscene]
      refine ⟨hwf, ?_⟩
      obtain ⟨e', he', -, rfl⟩ := Scene.insertChildAt_ok_iff.1 hr
      cases he.symm.trans he'
      simp only [List.insertIdx_length_self] at hlead ⊢
      have hsame : e.name = n := Scene.entity?_name he
      have hname : (e.withChild child).name = n := hsame
      have hfound : (l.scene.setEntity n (e.withChild child)).entity? n
          = some (e.withChild child) := by
        rw [Scene.entity?_setEntity he hname, if_pos rfl]
      have hlast : Scene.lastIdx? (·.fingerprint == child.fingerprint)
          (e.children ++ [child]) = some e.children.length := by
        rw [Scene.lastIdx?_concat, if_pos (beq_self_eq_true _)]
      exact returns_of_removeChild hfound hlast hlead

/-- A child that was removed goes back to its position, which is why the position is
part of the answer. -/
theorem revertedBy_removeChild (n : EntityName) (f : Fingerprint) :
    RevertedBy (Surface.removeChild n f)
      fun removed => [.restoreChild n removed.index removed.item] := by
  refine revertedBy_mutate (Scene.reversible_removeChild n f)
    fun s r hr hlead => ?_
  obtain ⟨-, i, r', -, -, hat, rfl⟩ := Scene.removeChild_ok_iff.1 hr
  obtain ⟨e, child, -, -, rfl⟩ := Scene.removeChildAt_ok_iff.1 hat
  exact returns_of_insertChild hlead

/-- A membership is what it was. -/
theorem revertedBy_setMember (g : Membership) (n : EntityName) (b : Bool) :
    RevertedBy (Surface.setMember g n b)
      fun previous => [.restoreMember g n previous] := by
  refine revertedBy_mutate (Scene.reversible_setMember g n b)
    fun s r hr hlead => ?_
  obtain ⟨-, rfl⟩ := Scene.setMember_ok_iff.1 hr
  exact returns_of_setMember hlead

end mutations

-- =============================================================== entities

namespace Performed

/-- A removal that is granted answers with what was removed, where it stood and what it
belonged to. -/
theorem removal_ok {n : EntityName} {l l' : LiveScene}
    {x : Removed Entity × Revert} (h : removal n l = .ok x l') :
    ∃ e, l.scene.entity? n = some e
      ∧ x = (⟨l.scene.position n, e⟩, .restoreEntity (l.scene.position n) e
          (l.scene.metadata.membershipsOf n))
      ∧ l'.scene = l.scene.without n := by
  obtain ⟨l₀, _, hget, hrest⟩ := of_bind_ok h
  cases hget
  obtain ⟨removed, _, hremove, hlast⟩ := of_bind_ok hrest
  cases hlast
  obtain ⟨r, hr, hresult, hscene⟩ := LiveScene.of_mutate_ok hremove
  obtain ⟨e, he, rfl⟩ := Scene.removeEntity_ok_iff.1 hr
  refine ⟨e, he, ?_, hscene.symm⟩
  rw [← hresult]
  rfl

/-- With that it is taken back exactly. -/
theorem revertedBy_removal (n : EntityName) :
    RevertedBy (removal n : EStateM SceneError LiveScene _)
      fun x => [x.2] := by
  intro l x l' hl h
  obtain ⟨e, he, rfl, hscene⟩ := removal_ok h
  rw [hscene]
  exact ⟨hl.without he, returns_of_removed hl he⟩

/-- An entity that is put in is there, and nobody lists it yet. -/
theorem insertEntityAt_ok {i : Nat} {e : Entity} {l l' : LiveScene} {u : Unit}
    (hl : l.scene.WellFormed)
    (h : (Surface.insertEntityAt i e : EStateM SceneError LiveScene Unit) l
      = .ok u l') :
    l'.scene.contains e.name = true
      ∧ ∀ g, l'.scene.metadata.isMember g e.name = false := by
  obtain ⟨r, hr, -, hscene⟩ := LiveScene.of_mutate_ok h
  obtain ⟨hnone, hi, rfl⟩ := Scene.insertEntityAt_ok_iff.1 hr
  rw [← hscene]
  refine ⟨?_, hl.not_listed hnone⟩
  rw [Scene.contains, Scene.entity?_insertIdx hnone hi, if_pos rfl]
  rfl

/-- Joining is granted as long as the entity is there, and the way back
leaves in the opposite order. -/
theorem joinAll_ok {n : EntityName} (gs : List Membership) :
    ∀ l : LiveScene, l.scene.contains n = true →
      ∃ l', joinAll n gs l
          = .ok (gs.reverse.map (.restoreMember · n false)) l'
        ∧ l'.scene = { l.scene with
            metadata := gs.foldl (·.put · n true) l.scene.metadata } := by
  induction gs with
  | nil => exact fun l _ => ⟨l, rfl, rfl⟩
  | cons g gs ih =>
      intro l hn
      obtain ⟨l₁, hset, hscene₁⟩ := setMember_ok hn g true
      have hn₁ : l₁.scene.contains n = true := by
        rw [hscene₁]
        exact hn
      obtain ⟨l₂, hrest, hscene₂⟩ := ih l₁ hn₁
      refine ⟨l₂, ?_, ?_⟩
      · refine (bind_ok hset).trans ((bind_ok hrest).trans ?_)
        rw [List.reverse_cons, List.map_append]
        rfl
      · rw [hscene₂, hscene₁, List.foldl_cons]

/-- Joining is taken back by leaving, if the entity belonged to none of it before. -/
theorem revertedBy_joinAll {n : EntityName} {gs : List Membership}
    {l l' : LiveScene} {reverts : List Revert} (hl : l.scene.WellFormed)
    (hn : l.scene.contains n = true)
    (hgs : ∀ g ∈ gs, l.scene.metadata.isMember g n = false)
    (h : joinAll n gs l = .ok reverts l') :
    l'.scene.WellFormed ∧ Returns reverts l'.scene l.scene := by
  obtain ⟨t, ht, hscene⟩ := joinAll_ok gs l hn
  rw [ht] at h
  cases h
  have hwf : l'.scene.WellFormed := by
    rw [hscene]
    exact hl.join hn gs
  have hleave := returns_leave gs.reverse l'.scene
    (by rw [hscene]; exact hn)
  -- leaving what nobody listed before leads back
  have hback : gs.reverse.foldl (·.put · n false) l'.scene.metadata
      = l.scene.metadata := by
    rw [hscene]
    refine Metadata.ext_isMember (Metadata.pruned_foldl_put n false _
      (Metadata.pruned_foldl_put n true _ hl.pruned)) hl.pruned fun g e => ?_
    rw [Metadata.isMember_foldl_put, Metadata.isMember_foldl_put]
    -- the memberships in question are those of `n` in `gs`; no other is touched by
    -- either
    by_cases hg : g ∈ gs ∧ e = n
    · rw [if_pos (by simpa using hg), hg.2, hgs g hg.1]
    · rw [if_neg (by simpa using hg), if_neg hg]
  rw [hback, hscene] at hleave
  refine ⟨hwf, ?_⟩
  rw [hscene]
  exact hleave

/-- The entity that goes has its own way back, the one that comes had no
memberships before it joined. -/
theorem revertedBy_replacement (e : Entity) :
    RevertedBy (replacement e : EStateM SceneError LiveScene Performed)
      Performed.reverts := by
  refine .get_bind fun s => .ite ?_ ?_
  · -- three calls in turn, taken back in the opposite order
    intro l done l' hl h
    obtain ⟨⟨removed, revert⟩, l₁, hremoval, hrest⟩ := of_bind_ok h
    obtain ⟨_, l₂, hinsert, hrest⟩ := of_bind_ok hrest
    obtain ⟨reverts, l₃, hjoin, hlast⟩ := of_bind_ok hrest
    cases hlast
    obtain ⟨hwf₁, hback₁⟩ := revertedBy_removal e.name l _ l₁ hl hremoval
    obtain ⟨hwf₂, hback₂⟩ :=
      revertedBy_insertEntityAt removed.index e l₁ _ l₂ hwf₁ hinsert
    obtain ⟨hin, hlisted⟩ := insertEntityAt_ok hwf₁ hinsert
    obtain ⟨hwf₃, hback₃⟩ :=
      revertedBy_joinAll hwf₂ hin (fun g _ => hlisted g) hjoin
    exact ⟨hwf₃, hback₃.append (hback₂.append hback₁)⟩
  · exact .map (revertedBy_insertEntityAt _ e)

-- ================================================================ actions

/-- Each plain kind reports the way back of the one mutation that it makes. -/
theorem revertedBy_plainKind (id : ActionId) (kind : ActionKind) :
    RevertedBy (plainKind id kind : EStateM SceneError LiveScene Performed)
      Performed.reverts := by
  cases kind with
  | noAction => exact .pure rfl
  | conflict c => exact .pure rfl
  | addEntity e => exact .map (revertedBy_insertEntity e)
  | removeEntity e => exact .map (revertedBy_removal e.name)
  | addKeyValue edit => exact .map (revertedBy_setValue _ _ _)
  | changeKeyValue edit => exact .map (revertedBy_setValue _ _ _)
  | removeKeyValue edit => exact .map (revertedBy_removeValue _ _)
  | addChildNode n key node => exact .map (revertedBy_insertChild n node)
  | removeChildNode n key node => exact .map (revertedBy_removeChild n _)

/-- If the entity is missing then the action is refused. -/
theorem revertedBy_plain (id : ActionId) (a : Action) :
    RevertedBy (plain id a : EStateM MergeError LiveScene Performed)
      Performed.reverts := by
  have hkind := (revertedBy_plainKind id a.kind).adaptExcept (failure id a)
  refine .get_bind fun s => .ite ?_ hkind
  intro l done l' _ h
  cases h

/-- However a conflict is performed, it reports the way back of that. -/
theorem revertedBy_conflict (op : Operation) (id : ActionId) (a : Action)
    (c : Conflict) :
    RevertedBy (conflict op id a c : EStateM MergeError LiveScene Performed)
      Performed.reverts := by
  unfold conflict
  split
  · exact .throw _
  · next source _ =>
      split
      · refine .get_bind fun s => .ite (revertedBy_plain c.source source) ?_
        split
        · exact revertedBy_plain c.source source
        · next e _ =>
            exact .map ((revertedBy_insertEntity e).adaptExcept _)
      · next e _ _ => exact (revertedBy_replacement e).adaptExcept _
      · exact revertedBy_plain c.source source

/-- The reverts of an action return to the scene it was run on. -/
theorem revertedBy_ofAction (op : Operation) (id : ActionId) (a : Action) :
    RevertedBy (ofAction op id a : EStateM MergeError LiveScene Performed)
      Performed.reverts := by
  unfold ofAction
  split
  · next c _ => exact revertedBy_conflict op id a c
  · exact revertedBy_plain id a

/-- A membership that is set to what it was changes nothing, so there is
nothing to go back. -/
theorem revertedBy_membership (change : MembershipChange) :
    RevertedBy (membership change : EStateM SceneError LiveScene _)
      fun reverts? => reverts?.getD [] := by
  refine .get_bind fun s => .ite ?_ (.pure rfl)
  intro l done l' hl h
  obtain ⟨previous, l₁, hset, hlast⟩ := of_bind_ok h
  cases hlast
  obtain ⟨hwf, hback⟩ := revertedBy_setMember _ _ _ l _ l' hl hset
  refine ⟨hwf, ?_⟩
  -- setting a membership to what it was is a mutation all the same, but one that leads
  -- nowhere else
  by_cases hsame : previous = change.member
  · obtain ⟨r, hr, hresult, hscene⟩ := LiveScene.of_mutate_ok hset
    obtain ⟨-, rfl⟩ := Scene.setMember_ok_iff.1 hr
    have hput := Metadata.put_isMember hl.pruned change.membership
      change.entity
    simp only [if_pos hsame, Option.getD_some]
    rw [← hscene]
    simp only at hresult ⊢
    rw [← hsame, ← hresult, hput]
    exact .nil
  · simp only [if_neg hsame, Option.getD_some]
    exact hback

end Performed

end SceneMerge
