/-
Entities, seen through the values of their keys. An entity is its name,
its children and what `value?` finds under each key (`ext_value?`), so
what setting and removing a value do, and how one takes back the other,
is said key by key.
-/
import Mathlib.Data.List.Perm.Basic
import SceneMerge.Content.Entity

namespace SceneMerge.Entity

variable {a b e : Entity} {key old : String}

-- ================================================================= values

/-- An entity is its name, its children and the values of its keys. -/
theorem ext_value? (hn : a.name = b.name) (hc : a.children = b.children)
    (hv : ∀ key, a.value? key = b.value? key) : a = b := by
  obtain ⟨name, keyValues, children⟩ := a
  obtain ⟨name', keyValues', children'⟩ := b
  cases hn
  cases hc
  have hkeys : keyValues = keyValues' :=
    Std.ExtTreeMap.ext_getElem? fun {key} => hv key
  rw [hkeys]

/-- A value that is set is there, and the others are as they were. -/
theorem value?_withKeyValue (e : Entity) (key value key' : String) :
    (e.withKeyValue key value).value? key'
      = if key' = key then some value else e.value? key' := by
  show (e.keyValues.insert key value)[key']? = _
  simp only [Std.ExtTreeMap.getElem?_insert, Std.compare_eq_iff_eq,
    eq_comm (a := key'), value?]

/-- A key that is erased has no value, and the others have theirs. -/
theorem value?_erase (e : Entity) (key key' : String) :
    ({ e with keyValues := e.keyValues.erase key } : Entity).value? key'
      = if key' = key then none else e.value? key' := by
  show (e.keyValues.erase key)[key']? = _
  simp only [Std.ExtTreeMap.getElem?_erase, Std.compare_eq_iff_eq,
    eq_comm (a := key'), value?]

/-- Removing a value takes back that it was set for the first time. -/
theorem erase_withKeyValue (h : e.value? key = none) (value : String) :
    ({ e.withKeyValue key value with
      keyValues := (e.withKeyValue key value).keyValues.erase key } : Entity)
      = e := by
  refine ext_value? rfl rfl fun key' => ?_
  rw [value?_erase, value?_withKeyValue]
  split
  · next hk => rw [hk, h]
  · rfl

/-- Setting the old value takes back that another one was set. -/
theorem withKeyValue_withKeyValue (h : e.value? key = some old)
    (value : String) : (e.withKeyValue key value).withKeyValue key old = e := by
  refine ext_value? rfl rfl fun key' => ?_
  rw [value?_withKeyValue, value?_withKeyValue]
  split
  · next hk => rw [hk, h]
  · rfl

/-- Setting the old value takes back that it was removed. -/
theorem withKeyValue_erase (h : e.value? key = some old) :
    withKeyValue { e with keyValues := e.keyValues.erase key } key old = e := by
  refine ext_value? rfl rfl fun key' => ?_
  rw [value?_withKeyValue, value?_erase]
  split
  · next hk => rw [hk, h]
  · rfl

-- =============================================================== equality

/-- Semantically equal entities differ in the order of their children at most, as far as
fingerprints tell. -/
theorem semanticallyEqual_iff :
    a.semanticallyEqual b = true ↔
      a.name = b.name ∧ a.keyValues = b.keyValues
        ∧ a.fingerprints.Perm b.fingerprints := by
  simp [semanticallyEqual, List.isPerm_iff, and_assoc]

/-- Semantic equality goes both ways. -/
theorem semanticallyEqual_symm (h : a.semanticallyEqual b = true) :
    b.semanticallyEqual a = true := by
  rw [semanticallyEqual_iff] at h ⊢
  exact ⟨h.1.symm, h.2.1.symm, h.2.2.symm⟩

/-- Semantic equality is passed on. -/
theorem semanticallyEqual_trans (h : a.semanticallyEqual b = true)
    (h' : b.semanticallyEqual e = true) : a.semanticallyEqual e = true := by
  rw [semanticallyEqual_iff] at h h' ⊢
  exact ⟨h.1.trans h'.1, h.2.1.trans h'.2.1, h.2.2.trans h'.2.2⟩

/-- It does not matter which of the two is compared with which. -/
theorem semanticallyEqual_comm (a b : Entity) :
    a.semanticallyEqual b = b.semanticallyEqual a := by
  rw [Bool.eq_iff_iff]
  exact ⟨semanticallyEqual_symm, semanticallyEqual_symm⟩

/-- Semantically equal entities have the same values. -/
theorem value?_of_semanticallyEqual (h : a.semanticallyEqual b = true)
    (key : String) : a.value? key = b.value? key := by
  rw [value?, (semanticallyEqual_iff.1 h).2.1]
  rfl

end SceneMerge.Entity
