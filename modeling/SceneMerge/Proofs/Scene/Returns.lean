/-
The way back from a merge, followed on a live scene. `Returns rs s t`
says that going back by `rs` from the scene `s`, in whatever live scene
it is found, is granted at every step and arrives at `t`. Ways back are
put together from end to end (`Returns.append`).

A revert knows less than the edit that leads back from a mutation: a
child goes by its fingerprint, an entity is put back at a position that
is cut down to what there is, memberships are rejoined in another order.
In the scene that the mutation left behind that is enough, and there the
revert does what the edit does (`returns_of_*`).
-/
import SceneMerge.Proofs.Scene.Keeping

namespace SceneMerge

-- ============================================================= mutations

/-- A mutation that is granted changes the scene as it says. -/
theorem LiveScene.mutate_ok {α : Type} {m : Mutation α} {l : LiveScene}
    {r : Edited α} (h : m l.scene = .ok r) :
    ∃ l', (Surface.mutate m : EStateM SceneError LiveScene α) l
        = .ok r.result l' ∧ l'.scene = r.scene := by
  refine ⟨{ l with scene := r.scene, transaction := l.record r.inverse }, ?_, rfl⟩
  show LiveScene.mutate m l = _
  unfold LiveScene.mutate
  rw [h]

/-- A mutation of a live scene that is granted is granted on the scene, and the two have
the same answer. -/
theorem LiveScene.of_mutate_ok {α : Type} {m : Mutation α} {l l' : LiveScene}
    {a : α}
    (h : (Surface.mutate m : EStateM SceneError LiveScene α) l = .ok a l') :
    ∃ r, m l.scene = .ok r ∧ r.result = a ∧ r.scene = l'.scene := by
  have h' : LiveScene.mutate m l = .ok a l' := h
  unfold LiveScene.mutate at h'
  cases hm : m l.scene with
  | error e => rw [hm] at h'; cases h'
  | ok r =>
      rw [hm] at h'
      cases h'
      exact ⟨r, rfl, rfl, rfl⟩

/-- What a single edit leads to is what it makes. -/
theorem Leads.of_single {edit : Edit} {s t : Scene} (h : Leads [edit] s t) :
    ∃ r, edit.make s = .ok r ∧ r.scene = t := by
  cases h with
  | cons hmake hrest =>
      cases hrest
      exact ⟨_, hmake, rfl⟩

namespace Revert

-- ============================================================== returning

/-- Going back by `rs` from `s` arrives at `t`. -/
def Returns (rs : List Revert) (s t : Scene) : Prop :=
  ∀ l : LiveScene, l.scene = s →
    ∃ l', runAll rs l = .ok () l' ∧ l'.scene = t

/-- Going back by two ways joined is going back by the one and then the other, and stops
where the first that is refused stops. The induction is on the first way. -/
theorem runAll_append {S : Type} [Surface S] (rs' : List Revert) (s : S) :
    ∀ rs : List Revert,
      runAll (rs ++ rs') s = (runAll rs >>= fun _ => runAll rs') s := by
  intro rs
  induction rs generalizing s with
  | nil => rfl
  | cons r rs ih =>
      show (r.run >>= fun _ => runAll (rs ++ rs')) s
        = ((r.run >>= fun _ => runAll rs) >>= fun _ => runAll rs') s
      cases hr : r.run s with
      | error e t => rw [bind_error hr, bind_error (bind_error hr)]
      | ok u t =>
          rw [bind_ok hr, ih]
          cases hrs : runAll rs t with
          | error e t' =>
              rw [bind_error hrs, bind_error ((bind_ok hr).trans hrs)]
          | ok u' t' =>
              rw [bind_ok hrs, bind_ok ((bind_ok hr).trans hrs)]

namespace Returns

/-- The empty way back stays where it is. -/
theorem nil {s : Scene} : Returns [] s s :=
  fun l hl => ⟨l, rfl, hl⟩

/-- Nothing to go back leads nowhere else. -/
theorem eq_of_nil {s t : Scene} (h : Returns [] s t) : s = t := by
  obtain ⟨l', hrun, hscene⟩ := h { scene := s } rfl
  cases hrun
  exact hscene

/-- Ways back that meet are joined from end to end. -/
theorem append {rs rs' : List Revert} {s t u : Scene} (h : Returns rs s t)
    (h' : Returns rs' t u) : Returns (rs ++ rs') s u := by
  intro l hl
  obtain ⟨l₁, hrun₁, hscene₁⟩ := h l hl
  obtain ⟨l₂, hrun₂, hscene₂⟩ := h' l₁ hscene₁
  refine ⟨l₂, ?_, hscene₂⟩
  rw [runAll_append, bind_ok hrun₁, hrun₂]

/-- One step back. -/
theorem single {r : Revert} {s t : Scene}
    (h : ∀ l : LiveScene, l.scene = s →
      ∃ l', r.run l = .ok () l' ∧ l'.scene = t) : Returns [r] s t := by
  intro l hl
  obtain ⟨l', hrun, hscene⟩ := h l hl
  exact ⟨l', bind_ok hrun, hscene⟩

end Returns

-- ============================================================ edit by edit

section edits

variable {s t : Scene}

/-- A step back that is one mutation. -/
private theorem returns_of_mutate {α : Type} {m : Mutation α} {e : Edited α}
    {r : Revert} (hm : m s = .ok e) (ht : e.scene = t)
    (hrun : ∀ (l l' : LiveScene) (a : α), l.scene = s →
      Surface.mutate m l = .ok a l' → r.run l = .ok () l') :
    Returns [r] s t := by
  refine .single fun l hl => ?_
  subst hl
  obtain ⟨l', hmutate, hscene⟩ := LiveScene.mutate_ok hm
  exact ⟨l', hrun l l' e.result rfl hmutate, hscene.trans ht⟩

/-- An insertion is gone back on by removing the entity, as its edit does. -/
theorem returns_of_removeEntity {n : EntityName}
    (h : Leads [.removeEntity n] s t) : Returns [.removeEntity n] s t := by
  obtain ⟨r, hmake, ht⟩ := h.of_single
  obtain ⟨r', hm, rfl⟩ := of_forget_ok hmake
  exact returns_of_mutate hm ht fun _ _ _ _ h => bind_ok h

/-- A key that had a value gets it back, which is the edit of a change of value. -/
theorem returns_of_setValue {n : EntityName} {key value : String}
    (h : Leads [.setValue n key value] s t) :
    Returns [.restoreValue n key (some value)] s t := by
  obtain ⟨r, hmake, ht⟩ := h.of_single
  obtain ⟨r', hm, rfl⟩ := of_forget_ok hmake
  exact returns_of_mutate hm ht fun _ _ _ _ h => bind_ok h

/-- A key that can be removed has a value to be removed. -/
theorem returns_of_removeValue {n : EntityName} {key : String}
    (h : Leads [.removeValue n key] s t) :
    Returns [.restoreValue n key none] s t := by
  obtain ⟨r, hmake, ht⟩ := h.of_single
  obtain ⟨r', hm, rfl⟩ := of_forget_ok hmake
  refine returns_of_mutate hm ht fun l l' a hl hmut => ?_
  obtain ⟨e, old, he, hv, -⟩ := Scene.removeValue_ok_iff.1 hm
  rw [run, get_bind_eq, show Surface.scene l = s from hl, he,
    Option.bind_some, hv]
  exact bind_ok hmut

/-- A membership is put back to what it was, which is the edit as well. -/
theorem returns_of_setMember {g : Membership} {n : EntityName} {b : Bool}
    (h : Leads [.setMember g n b] s t) : Returns [.restoreMember g n b] s t := by
  obtain ⟨r, hmake, ht⟩ := h.of_single
  obtain ⟨r', hm, rfl⟩ := of_forget_ok hmake
  exact returns_of_mutate hm ht fun _ _ _ _ h => bind_ok h

/-- The position was one of the entity, so nothing is cut down. -/
theorem returns_of_insertChild {n : EntityName} {i : Nat} {child : ChildNode}
    (h : Leads [.insertChild n i child] s t) :
    Returns [.restoreChild n i child] s t := by
  obtain ⟨r, hm, ht⟩ := h.of_single
  have hm' : Scene.insertChildAt n i child s = .ok r := hm
  refine returns_of_mutate hm' ht fun l l' a hl hmut => ?_
  obtain ⟨e, he, hi, -⟩ := Scene.insertChildAt_ok_iff.1 hm'
  rw [run, get_bind_eq, show Surface.scene l = s from hl, he]
  simp only [Nat.min_eq_left hi]
  exact hmut

/-- The child is the last of its fingerprint, so its fingerprint finds
it. -/
theorem returns_of_removeChild {n : EntityName} {i : Nat} {f : Fingerprint}
    {e : Entity} (he : s.entity? n = some e)
    (hi : Scene.lastIdx? (·.fingerprint == f) e.children = some i)
    (h : Leads [.removeChild n i] s t) : Returns [.removeChild n f] s t := by
  obtain ⟨r, hmake, ht⟩ := h.of_single
  obtain ⟨r', hm, rfl⟩ := of_forget_ok hmake
  have hm' := Scene.removeChild_ok_iff.2 ⟨e, i, r', he, hi, hm, rfl⟩
  exact returns_of_mutate hm' ht fun _ _ _ _ h => bind_ok h

end edits

-- ============================================================ memberships

section memberships

variable {n : EntityName}

/-- Joining or leaving asks for the entity and for nothing else. -/
theorem setMember_ok {l : LiveScene} (hn : l.scene.contains n = true)
    (g : Membership) (b : Bool) :
    ∃ l', (Surface.setMember g n b : EStateM SceneError LiveScene Bool) l
        = .ok (l.scene.metadata.isMember g n) l'
      ∧ l'.scene
        = { l.scene with metadata := l.scene.metadata.put g n b } :=
  LiveScene.mutate_ok (Scene.setMember_ok_iff.2 ⟨hn, rfl⟩)

/-- Rejoining is joining one membership after the other. None of it takes the entity
away, so it is granted to the end. The induction is on what is left to join. -/
theorem rejoin_ok (gs : List Membership) :
    ∀ l : LiveScene, l.scene.contains n = true →
      ∃ l', rejoin n gs l = .ok () l' ∧ l'.scene = { l.scene with
        metadata := gs.foldl (·.put · n true) l.scene.metadata } := by
  induction gs with
  | nil => exact fun l _ => ⟨l, rfl, rfl⟩
  | cons g gs ih =>
      intro l hn
      obtain ⟨l₁, hset, hscene₁⟩ := setMember_ok hn g true
      have hn₁ : l₁.scene.contains n = true := by
        rw [hscene₁]
        exact hn
      obtain ⟨l₂, hrest, hscene₂⟩ := ih l₁ hn₁
      refine ⟨l₂, (bind_ok hset).trans hrest, ?_⟩
      rw [hscene₂, hscene₁, List.foldl_cons]

/-- Leaving one membership after the other. -/
theorem returns_leave (gs : List Membership) :
    ∀ s : Scene, s.contains n = true →
      Returns (gs.map (.restoreMember · n false)) s
        { s with metadata := gs.foldl (·.put · n false) s.metadata } := by
  induction gs with
  | nil => exact fun s _ => .nil
  | cons g gs ih =>
      intro s hn
      have hfirst : Returns [.restoreMember g n false] s
          { s with metadata := s.metadata.put g n false } := by
        refine .single fun l hl => ?_
        subst hl
        obtain ⟨l', hset, hscene⟩ := setMember_ok hn g false
        exact ⟨l', bind_ok hset, hscene⟩
      exact hfirst.append
        (ih { s with metadata := s.metadata.put g n false } hn)

end memberships

-- =============================================================== entities

/-- An entity that was removed is put back where it stood, and rejoins
what it left. -/
theorem returns_of_removed {s : Scene} (h : s.WellFormed) {n : EntityName}
    {e : Entity} (he : s.entity? n = some e) :
    Returns [.restoreEntity (s.position n) e (s.metadata.membershipsOf n)]
      (s.without n) s := by
  have hname := Scene.entity?_name he
  refine .single fun l hl => ?_
  -- the insertion is granted: the name is free, and the position is no further than the
  -- end
  have hgone : l.scene.entity? e.name = none := by
    rw [hl, Scene.entity?_without h.distinct he, if_pos hname]
  have hcount : s.position n ≤ l.scene.entities.length := by
    rw [hl]
    exact Scene.position_le_without he
  have hentities : l.scene.entities.insertIdx (s.position n) e = s.entities := by
    rw [hl]
    exact Scene.insertIdx_eraseIdx_position he
  obtain ⟨l₁, hrun₁, hscene₁⟩ := LiveScene.mutate_ok
    (Scene.insertEntityAt_ok_iff.2 ⟨hgone, hcount, rfl⟩)
  simp only [hentities] at hscene₁
  have hin : l₁.scene.contains n = true := by
    rw [hscene₁]
    exact Scene.contains_iff_entity?.2 ⟨e, he⟩
  obtain ⟨l₂, hrun₂, hscene₂⟩ := rejoin_ok (s.metadata.membershipsOf n) l₁ hin
  refine ⟨l₂, ?_, ?_⟩
  · show (Surface.insertEntityAt (min (s.position n) l.scene.entities.length) e
      >>= fun _ => rejoin e.name (s.metadata.membershipsOf n)) l = _
    -- so the position is not cut down either
    rw [Nat.min_eq_left hcount, hname]
    exact (bind_ok hrun₁).trans hrun₂
  · -- what was stripped and rejoined is what there was, for everything listed has
    -- members
    rw [hscene₂, hscene₁]
    simp only [hl, Scene.without,
      Metadata.rejoin_strip h.pruned n fun g => Iff.rfl]

end Revert

end SceneMerge
