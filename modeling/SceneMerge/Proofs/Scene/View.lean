/-
Scenes seen through `entity?`. A mutation touches one entity; what it
does to that entity, and that every other one is as it was, is said once
for each of the three things a mutation does to the list of entities:
put one in the place of another (`entity?_setEntity`), put one in
(`entity?_insertIdx`) and take one out (`entity?_eraseIdx`).

The list is opened only here. It is split at the entity in question
(`entities_split`), and then replacing, inserting and erasing at that
position are all equations between appended lists.
-/
import Mathlib.Data.List.Induction
import Mathlib.Data.List.InsertIdx
import Mathlib.Data.List.Nodup
import SceneMerge.Scene.Edit

namespace SceneMerge.Scene

-- ============================================================= the split

/-- An entity splits the list at its position, and no namesake stands
before it. -/
theorem entities_split {s : Scene} {n : EntityName} {e : Entity}
    (h : s.entity? n = some e) :
    e.name = n ∧ ∃ before after, s.entities = before ++ e :: after
      ∧ (∀ x ∈ before, x.name ≠ n) ∧ s.position n = before.length := by
  unfold entity? at h
  obtain ⟨hn, before, after, hs, hb⟩ := List.find?_eq_some_iff_append.1 h
  have hb' : ∀ x ∈ before, (x.name == n) = false := by
    intro x hx
    simpa using hb x hx
  refine ⟨by simpa using hn, before, after, hs, ?_, ?_⟩
  · intro x hx
    simpa using hb x hx
  · unfold position
    rw [hs, List.findIdx_append, List.findIdx_eq_length_of_false hb',
      if_neg (Nat.lt_irrefl _), List.findIdx_cons, hn]
    simp

/-- What is found under a name has that name. -/
theorem entity?_name {s : Scene} {n : EntityName} {e : Entity}
    (h : s.entity? n = some e) : e.name = n :=
  (entities_split h).1

/-- Nothing is found under a name just if no entity has it. -/
theorem entity?_eq_none {s : Scene} {n : EntityName} :
    s.entity? n = none ↔ n ∉ s.names := by
  simp [entity?, names]

/-- A scene contains the names that its entities have. -/
theorem contains_iff {s : Scene} {n : EntityName} :
    s.contains n = true ↔ n ∈ s.names := by
  rw [contains, Option.isSome_iff_ne_none, Ne, entity?_eq_none, not_not]

/-- A name that is contained is one under which something is found, the form in which
callers ask for the entity. -/
theorem contains_iff_entity? {s : Scene} {n : EntityName} :
    s.contains n = true ↔ ∃ e, s.entity? n = some e := by
  rw [contains, Option.isSome_iff_exists]

/-- Names, and with them what is contained, depend on the entities
alone. -/
theorem contains_congr {s t : Scene} (h : s.names = t.names)
    (n : EntityName) : s.contains n = t.contains n := by
  rw [Bool.eq_iff_iff, contains_iff, contains_iff, h]

-- ============================================================= replacing

/-- What replaces an entity under its name is found in its place. -/
theorem entity?_setEntity {s : Scene} {n : EntityName} {e e' : Entity}
    (h : s.entity? n = some e) (hn : e'.name = n) (x : EntityName) :
    (s.setEntity n e').entity? x = if x = n then some e' else s.entity? x := by
  obtain ⟨he, before, after, hs, hb, hp⟩ := entities_split h
  have hset : (s.setEntity n e').entities = before ++ e' :: after := by
    rw [setEntity, hp, hs]
    simp
  unfold entity?
  rw [hset, hs, List.find?_append, List.find?_append, List.find?_cons,
    List.find?_cons, hn, he]
  by_cases hx : x = n
  · subst hx
    -- nobody of the name stands before it, so the search comes to the new one
    have hnone : before.find? (·.name == x) = none := by
      simpa using hb
    rw [hnone, if_pos rfl]
    simp
  · have hx' : (n == x) = false := by simp [Ne.symm hx]
    -- neither the old one nor the new one answers to another name
    rw [if_neg hx, hx']

/-- Replacing an entity under its own name keeps the list of names, order and all. -/
theorem names_setEntity {s : Scene} {n : EntityName} {e e' : Entity}
    (h : s.entity? n = some e) (hn : e'.name = n) :
    (s.setEntity n e').names = s.names := by
  obtain ⟨he, before, after, hs, -, hp⟩ := entities_split h
  rw [names, names, setEntity, hp, hs]
  simp [hn, he]

/-- The second of two replacements counts. -/
theorem setEntity_setEntity {s : Scene} {n : EntityName} {e e₁ e₂ : Entity}
    (h : s.entity? n = some e) (hn : e₁.name = n) :
    (s.setEntity n e₁).setEntity n e₂ = s.setEntity n e₂ := by
  obtain ⟨-, before, after, hs, hb, hp⟩ := entities_split h
  have h₁ : (s.setEntity n e₁).entity? n = some e₁ := by
    rw [entity?_setEntity h hn, if_pos rfl]
  have hp₁ : (s.setEntity n e₁).position n = before.length := by
    unfold position setEntity
    rw [hp, hs]
    simp only [List.set_append_right _ _ (Nat.le_refl _), Nat.sub_self,
      List.set_cons_zero]
    rw [List.findIdx_append,
      List.findIdx_eq_length_of_false (by simpa using hb),
      if_neg (Nat.lt_irrefl _), List.findIdx_cons, hn]
    simp
  unfold setEntity at *
  rw [hp₁, hp]
  simp

/-- Putting an entity in its own place changes nothing. -/
theorem setEntity_self {s : Scene} {n : EntityName} {e : Entity}
    (h : s.entity? n = some e) : s.setEntity n e = s := by
  obtain ⟨-, before, after, hs, -, hp⟩ := entities_split h
  have hset : s.entities.set before.length e = s.entities := by
    rw [hs]
    simp
  rw [setEntity, hp, hset]

-- ============================================================= inserting

/-- Inserting between two lists. -/
private theorem insertIdx_between {α : Type} (a : α) (l₂ : List α) :
    ∀ l₁ : List α, (l₁ ++ l₂).insertIdx l₁.length a = l₁ ++ a :: l₂ := by
  intro l₁
  induction l₁ with
  | nil => rfl
  | cons x l₁ ih => rw [List.cons_append, List.length_cons,
      List.insertIdx_succ_cons, ih, List.cons_append]

/-- Inserting splits the list where the new element goes. -/
theorem insertIdx_split {α : Type} {l : List α} {i : Nat} (a : α)
    (h : i ≤ l.length) : l.insertIdx i a = l.take i ++ a :: l.drop i := by
  have hb := insertIdx_between a (l.drop i) (l.take i)
  rwa [List.take_append_drop, List.length_take_of_le h] at hb

/-- A new entity is found under its name, wherever it was put. It hides nobody, for it
has no namesake. -/
theorem entity?_insertIdx {s : Scene} {e : Entity} {i : Nat} {m : Metadata}
    (h : s.entity? e.name = none) (hi : i ≤ s.entities.length)
    (x : EntityName) :
    (⟨s.entities.insertIdx i e, m⟩ : Scene).entity? x
      = if x = e.name then some e else s.entity? x := by
  unfold entity? at *
  rw [insertIdx_split e hi, List.find?_append, List.find?_cons]
  by_cases hx : x = e.name
  · subst hx
    have hnone : (s.entities.take i).find? (·.name == e.name) = none := by
      rw [List.find?_eq_none] at h ⊢
      exact fun y hy => h y (List.mem_of_mem_take hy)
    rw [hnone, if_pos rfl]
    simp
  · have hx' : (e.name == x) = false := by simp [Ne.symm hx]
    rw [if_neg hx, hx', ← List.find?_append, List.take_append_drop]

/-- The names are inserted where the entities are. -/
theorem names_insertIdx {s : Scene} {e : Entity} {i : Nat} {m : Metadata} :
    (⟨s.entities.insertIdx i e, m⟩ : Scene).names
      = s.names.insertIdx i e.name := by
  exact List.map_insertIdx ..

/-- An entity without a namesake keeps names distinct. The list is a rearrangement of
the one with the new name in front. -/
theorem nodup_names_insertIdx {s : Scene} {e : Entity} {i : Nat} {m : Metadata}
    (hd : s.names.Nodup) (h : s.entity? e.name = none)
    (hi : i ≤ s.entities.length) :
    (⟨s.entities.insertIdx i e, m⟩ : Scene).names.Nodup := by
  have hlen : i ≤ s.names.length := by simpa [names] using hi
  rw [names_insertIdx, (List.perm_insertIdx e.name s.names hlen).nodup_iff]
  exact List.nodup_cons.2 ⟨entity?_eq_none.1 h, hd⟩

/-- A new entity stands where it was put. -/
theorem position_insertIdx {s : Scene} {e : Entity} {i : Nat} {m : Metadata}
    (h : s.entity? e.name = none) (hi : i ≤ s.entities.length) :
    (⟨s.entities.insertIdx i e, m⟩ : Scene).position e.name = i := by
  have hb : ∀ x ∈ s.entities.take i, (x.name == e.name) = false := by
    intro x hx
    have := List.find?_eq_none.1 h x (List.mem_of_mem_take hx)
    simpa using this
  rw [position, insertIdx_split e hi, List.findIdx_append,
    List.findIdx_eq_length_of_false hb, if_neg (Nat.lt_irrefl _),
    List.findIdx_cons]
  simp [hi]

-- =============================================================== erasing

/-- Where names are distinct, erasing an entity leaves none of its name. -/
theorem entity?_eraseIdx {s : Scene} {n : EntityName} {e : Entity}
    {m : Metadata} (hd : s.names.Nodup) (h : s.entity? n = some e)
    (x : EntityName) :
    (⟨s.entities.eraseIdx (s.position n), m⟩ : Scene).entity? x
      = if x = n then none else s.entity? x := by
  obtain ⟨he, before, after, hs, hb, hp⟩ := entities_split h
  have herase : s.entities.eraseIdx (s.position n) = before ++ after := by
    rw [hp, hs, List.eraseIdx_append_of_length_le (Nat.le_refl _)]
    simp
  unfold entity?
  rw [herase, hs]
  by_cases hx : x = n
  · subst hx
    -- a second one of the name after it would contradict distinctness
    have hafter : ∀ y ∈ after, y.name ≠ x := by
      intro y hy hyx
      rw [names, hs, List.map_append, List.map_cons] at hd
      have hmem : e.name ∈ after.map (·.name) := by
        rw [he, ← hyx]
        exact List.mem_map_of_mem hy
      exact (List.nodup_cons.1 hd.of_append_right).1 hmem
    rw [if_pos rfl, List.find?_eq_none]
    intro y hy
    rcases List.mem_append.1 hy with hy | hy
    · simpa using hb y hy
    · simpa using hafter y hy
  · have hx' : (n == x) = false := by simp [Ne.symm hx]
    rw [if_neg hx, List.find?_append, List.find?_append, List.find?_cons, he,
      hx']

/-- The names are erased where the entities are. -/
theorem names_eraseIdx {s : Scene} {i : Nat} {m : Metadata} :
    (⟨s.entities.eraseIdx i, m⟩ : Scene).names = s.names.eraseIdx i := by
  exact (List.eraseIdx_map ..).symm

/-- Taking an entity out cannot make two names equal. -/
theorem nodup_names_eraseIdx {s : Scene} {i : Nat} {m : Metadata}
    (hd : s.names.Nodup) :
    (⟨s.entities.eraseIdx i, m⟩ : Scene).names.Nodup := by
  rw [names_eraseIdx]
  exact hd.sublist (List.eraseIdx_sublist ..)

/-- An entity that is put back where it was taken out. -/
theorem insertIdx_eraseIdx_position {s : Scene} {n : EntityName} {e : Entity}
    (h : s.entity? n = some e) :
    (s.entities.eraseIdx (s.position n)).insertIdx (s.position n) e
      = s.entities := by
  obtain ⟨-, before, after, hs, -, hp⟩ := entities_split h
  rw [hp, hs, List.eraseIdx_append_of_length_le (Nat.le_refl _), Nat.sub_self,
    List.eraseIdx_cons_zero, insertIdx_between]

/-- An entity that is there has a position in the list, not the length that stands for
none. -/
theorem position_lt {s : Scene} {n : EntityName} {e : Entity}
    (h : s.entity? n = some e) : s.position n < s.entities.length := by
  obtain ⟨-, before, after, hs, -, hp⟩ := entities_split h
  rw [hp, hs]
  simp

-- =============================================================== searching

/-- Searching from the back looks at the last element first, which makes induction from
the back the one to use. -/
theorem lastIdx?_concat {α : Type} (p : α → Bool) (l : List α) (x : α) :
    lastIdx? p (l ++ [x])
      = if p x then some l.length else lastIdx? p l := by
  cases hx : p x with
  | true => simp [lastIdx?, List.findIdx?_cons, hx]
  | false =>
      simp only [lastIdx?, List.reverse_append, List.reverse_singleton,
        List.singleton_append, List.findIdx?_cons, hx, Bool.false_eq_true,
        if_false, Option.map_map, List.length_append, List.length_singleton]
      refine congrArg (Option.map · _) (funext fun j => ?_)
      simp only [Function.comp_apply]
      omega

/-- What is found is in the list. -/
theorem lastIdx?_lt {α : Type} {p : α → Bool} {l : List α} {i : Nat}
    (h : lastIdx? p l = some i) : i < l.length := by
  obtain ⟨j, hj, rfl⟩ := Option.map_eq_some_iff.1 h
  have hlt := (List.findIdx?_eq_some_iff_findIdx_eq.1 hj).1
  rw [List.length_reverse] at hlt
  omega

/-- What satisfies `p` is found if there is such a thing. -/
theorem exists_lastIdx {α : Type} {p : α → Bool} {l : List α} {x : α}
    (hx : x ∈ l) (hp : p x = true) :
    ∃ i, lastIdx? p l = some i ∧ ∃ h : i < l.length, p l[i] = true := by
  induction l using List.reverseRecOn with
  | nil => cases hx
  | append_singleton l y ih =>
      rw [lastIdx?_concat]
      -- either the last one is the one, or it is not and what satisfies `p` is among
      -- the others
      cases hy : p y with
      | true => exact ⟨l.length, rfl, by simp, by simpa using hy⟩
      | false =>
          have hmem : x ∈ l := by
            rcases List.mem_append.1 hx with hx | hx
            · exact hx
            · rw [List.mem_singleton.1 hx, hy] at hp
              cases hp
          obtain ⟨i, hi, hlt, hpi⟩ := ih hmem
          refine ⟨i, by simpa using hi, by simp; omega, ?_⟩
          rw [List.getElem_append_left hlt]
          exact hpi

end SceneMerge.Scene
