/-
What mutations are granted, and what they come to. Each of them has one
equivalence: it is granted exactly if what it addresses is there, and
then there is just one thing that it answers with. Whoever wants to know
what a mutation does reads it off that, in either direction, and does not
look into the mutation.

Edits are mutations that forget what is answered (`forget_ok`,
`of_forget_ok`).
-/
import SceneMerge.Proofs.Scene.View

namespace SceneMerge

namespace Scene

variable {s : Scene} {n : EntityName}

-- ============================================================== entities

/-- The scene without the entity of that name, and without the name in any
layer or group. -/
def without (s : Scene) (n : EntityName) : Scene where
  entities := s.entities.eraseIdx (s.position n)
  metadata := (s.metadata.membershipsOf n).foldl (·.put · n false) s.metadata

/-- Where names are distinct, none is left of that name. -/
theorem entity?_without (hd : s.names.Nodup) {e : Entity}
    (h : s.entity? n = some e) (x : EntityName) :
    (s.without n).entity? x = if x = n then none else s.entity? x :=
  entity?_eraseIdx hd h x

/-- Removing an entity leaves the other names distinct. -/
theorem nodup_names_without (hd : s.names.Nodup) : (s.without n).names.Nodup :=
  nodup_names_eraseIdx hd

/-- There is room for the entity where it stood. -/
theorem position_le_without {e : Entity} (h : s.entity? n = some e) :
    s.position n ≤ (s.without n).entities.length := by
  have hlt := position_lt h
  rw [without, List.length_eraseIdx_of_lt hlt]
  omega

/-- An entity is inserted exactly if it has no namesake and the position is no further
than the end. To take that back is to remove it. -/
theorem insertEntityAt_ok_iff {i : Nat} {e : Entity} {r : Edited Unit} :
    insertEntityAt i e s = .ok r ↔
      s.entity? e.name = none ∧ i ≤ s.entities.length
        ∧ r = ⟨(), { s with entities := s.entities.insertIdx i e },
            [.removeEntity e.name]⟩ := by
  unfold insertEntityAt contains
  cases he : s.entity? e.name with
  | some _ => simp
  | none =>
      by_cases hi : s.entities.length < i
      · simp [hi, Nat.not_le_of_lt hi]
      · simp [hi, Nat.le_of_not_lt hi, eq_comm]

/-- An entity is removed exactly if it is there. Its memberships go with it, so to take
that back is to insert it and have it rejoin them. -/
theorem removeEntity_ok_iff {r : Edited (Removed Entity)} :
    removeEntity n s = .ok r ↔ ∃ e, s.entity? n = some e
      ∧ r = ⟨⟨s.position n, e⟩, s.without n, .insertEntity (s.position n) e
          :: (s.metadata.membershipsOf n).reverse.map (.setMember · n true)⟩ := by
  unfold removeEntity without
  cases s.entity? n with
  | none => simp
  | some e => simp [eq_comm]

-- ============================================================ key/values

variable {key : String}

/-- The way back from setting a value: to the old one, or to none. -/
theorem setValue_ok_iff {value : String} {r : Edited (Option String)} :
    setValue n key value s = .ok r ↔ ∃ e, s.entity? n = some e
      ∧ r = ⟨e.value? key, s.setEntity n (e.withKeyValue key value),
          [(e.value? key).elim (.removeValue n key) (.setValue n key)]⟩ := by
  unfold setValue
  cases s.entity? n with
  | none => simp
  | some e => cases hv : e.value? key <;> simp [hv, eq_comm]

/-- A value is removed exactly if the entity has one for the key, and the value is what
is answered. -/
theorem removeValue_ok_iff {r : Edited String} :
    removeValue n key s = .ok r ↔ ∃ e old, s.entity? n = some e
      ∧ e.value? key = some old
      ∧ r = ⟨old, s.setEntity n { e with keyValues := e.keyValues.erase key },
          [.setValue n key old]⟩ := by
  unfold removeValue
  cases s.entity? n with
  | none => simp
  | some e => cases hv : e.value? key <;> simp [hv, eq_comm]

-- ============================================================== children

variable {i : Nat} {child : ChildNode}

/-- A child is inserted exactly if the entity is there and the position is no further
than the end of its children. -/
theorem insertChildAt_ok_iff {r : Edited Unit} :
    insertChildAt n i child s = .ok r ↔ ∃ e, s.entity? n = some e
      ∧ i ≤ e.children.length
      ∧ r = ⟨(), s.setEntity n
            { e with children := e.children.insertIdx i child },
          [.removeChild n i]⟩ := by
  unfold insertChildAt
  cases s.entity? n with
  | none => simp
  | some e =>
      by_cases hi : e.children.length < i
      · simp [hi, Nat.not_le_of_lt hi]
      · simp [hi, Nat.le_of_not_lt hi, eq_comm]

/-- A child is removed exactly if there is one at the position, and the child is what is
answered. -/
theorem removeChildAt_ok_iff {r : Edited ChildNode} :
    removeChildAt n i s = .ok r ↔ ∃ e child, s.entity? n = some e
      ∧ e.children[i]? = some child
      ∧ r = ⟨child, s.setEntity n
            { e with children := e.children.eraseIdx i },
          [.insertChild n i child]⟩ := by
  unfold removeChildAt
  cases s.entity? n with
  | none => simp
  | some e => cases hc : e.children[i]? <;> simp [hc, eq_comm]

/-- Of several children with the fingerprint the last one goes. -/
theorem removeChild_ok_iff {f : Fingerprint} {r : Edited (Removed ChildNode)} :
    removeChild n f s = .ok r ↔ ∃ e i r', s.entity? n = some e
      ∧ lastIdx? (·.fingerprint == f) e.children = some i
      ∧ removeChildAt n i s = .ok r'
      ∧ r = ⟨⟨i, r'.result⟩, r'.scene, r'.inverse⟩ := by
  unfold removeChild
  cases s.entity? n with
  | none => simp
  | some e =>
      cases hi : lastIdx? (·.fingerprint == f) e.children with
      | none => simp [hi]
      | some i =>
          cases hr : removeChildAt n i s <;> simp [hi, hr, Except.map, eq_comm]

-- =========================================================== memberships

/-- A membership is set exactly if the entity is there, whether or not it was set
before. That it was or was not is what is answered. -/
theorem setMember_ok_iff {g : Membership} {b : Bool} {r : Edited Bool} :
    setMember g n b s = .ok r ↔ s.contains n = true
      ∧ r = ⟨s.metadata.isMember g n,
          { s with metadata := s.metadata.put g n b },
          [.setMember g n (s.metadata.isMember g n)]⟩ := by
  unfold setMember
  by_cases hn : s.contains n = true
  · simp [hn, eq_comm]
  · simp [hn]

end Scene

-- ================================================================= edits

section forget

variable {α : Type} {r? : Except SceneError (Edited α)}

/-- Forgetting the answer keeps the scene and the way back. -/
theorem forget_ok {r : Edited α} (h : r? = .ok r) :
    (r?.map fun r => ({ r with result := () } : Edited Unit))
      = .ok { r with result := () } := by
  rw [h]
  rfl

/-- What is granted without its answer is granted with one. -/
theorem of_forget_ok {r : Edited Unit}
    (h : (r?.map fun r => ({ r with result := () } : Edited Unit)) = .ok r) :
    ∃ r', r? = .ok r' ∧ r = { r' with result := () } := by
  cases r? with
  | error e => cases h
  | ok r' =>
      cases h
      exact ⟨r', rfl, rfl⟩

end forget

end SceneMerge
