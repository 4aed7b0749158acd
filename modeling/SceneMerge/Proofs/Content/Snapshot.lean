/-
Snapshots whose names are distinct, seen through `entity?`: an entity is
in the snapshot exactly if its name finds it. What merges and differences
look up by a key of some kind is always of this form, so it is said once
for lists with distinct keys (`find?_eq_some_of_nodup`).
-/
import Mathlib.Data.List.Nodup
import SceneMerge.Difference.Matching
import SceneMerge.Proofs.Content.Entity

namespace SceneMerge

-- =========================================================== distinct keys

section keys

variable {α κ : Type} [DecidableEq κ] {f : α → κ} {l : List α}

/-- Where keys are distinct, a key finds exactly what has it. -/
theorem find?_eq_some_of_nodup (h : (l.map f).Nodup) {a : α} {k : κ} :
    l.find? (f · == k) = some a ↔ a ∈ l ∧ f a = k := by
  constructor
  · intro hf
    exact ⟨List.mem_of_find?_eq_some hf, by simpa using List.find?_some hf⟩
  · rintro ⟨ha, rfl⟩
    cases hf : l.find? (f · == f a) with
    | none => exact absurd (List.find?_eq_none.1 hf a ha) (by simp)
    | some b =>
        have hb := List.mem_of_find?_eq_some hf
        have hk : f b = f a := by simpa using List.find?_some hf
        rw [List.inj_on_of_nodup_map h hb ha hk]

/-- Where keys are distinct, the order does not matter to what is found. -/
theorem find?_reverse_of_nodup (h : (l.map f).Nodup) (k : κ) :
    l.reverse.find? (f · == k) = l.find? (f · == k) := by
  have hr : (l.reverse.map f).Nodup := by
    rw [List.map_reverse, List.nodup_reverse]
    exact h
  refine Option.ext fun a => ?_
  rw [find?_eq_some_of_nodup hr, find?_eq_some_of_nodup h, List.mem_reverse]

omit [DecidableEq κ] in
/-- What is picked by key has its keys in the order they had. -/
theorem map_filterMap_sublist {β : Type} {g : α → Option β} {f' : β → κ}
    (h : ∀ a b, g a = some b → f' b = f a) :
    ((l.filterMap g).map f').Sublist (l.map f) := by
  induction l with
  | nil => exact .slnil
  | cons a l ih =>
      rw [List.filterMap_cons]
      cases hg : g a with
      | none => exact ih.cons _
      | some b =>
          simp only [List.map_cons, h a b hg]
          exact ih.cons_cons _

/-- Nothing is found under a key just if nothing has it. -/
theorem find?_eq_none_iff_key {k : κ} :
    l.find? (f · == k) = none ↔ ∀ a ∈ l, f a ≠ k := by
  simp

end keys

-- ============================================================== snapshots

namespace Snapshot

variable {s : Snapshot}

/-- The first repetition is found unless there is none. -/
theorem repeatAfter?_eq_none {before names : List EntityName} :
    repeatAfter? before names = none ↔
      names.Nodup ∧ ∀ n ∈ names, n ∉ before := by
  induction names generalizing before with
  | nil => simp [repeatAfter?]
  | cons n rest ih =>
      unfold repeatAfter?
      -- the first name repeats one of those before the list, or it joins them
      by_cases hn : n ∈ before
      · rw [if_pos hn]
        simp [hn]
      · rw [if_neg hn, ih, List.nodup_cons]
        constructor
        · rintro ⟨hrest, hfresh⟩
          refine ⟨⟨fun hmem => hfresh n hmem List.mem_cons_self, hrest⟩, ?_⟩
          intro x hx
          rcases List.mem_cons.1 hx with rfl | hx
          · exact hn
          · exact fun hb => hfresh x hx (List.mem_cons_of_mem _ hb)
        · rintro ⟨⟨hnot, hrest⟩, hfresh⟩
          refine ⟨hrest, fun x hx hb => ?_⟩
          rcases List.mem_cons.1 hb with rfl | hb
          · exact hnot hx
          · exact hfresh x (List.mem_cons_of_mem _ hx) hb

/-- No name is found to be repeated just if all are distinct. -/
theorem repeated?_eq_none : s.repeated? = none ↔ s.names.Nodup := by
  rw [repeated?, repeatAfter?_eq_none]
  simp

/-- A snapshot whose names are distinct passes its check. -/
theorem checkNames_eq_ok (h : s.names.Nodup) : s.checkNames = .ok () := by
  unfold checkNames
  rw [repeated?_eq_none.2 h]

/-- Where names are distinct an entity is found under its own name, and there only. -/
theorem entity?_eq_some (h : s.names.Nodup) {n : EntityName} {e : Entity} :
    s.entity? n = some e ↔ e ∈ s.entities ∧ e.name = n :=
  find?_eq_some_of_nodup h

/-- Nothing is found under a name just if no entity has it. -/
theorem entity?_eq_none {n : EntityName} :
    s.entity? n = none ↔ n ∉ s.names := by
  simp [entity?, names]

/-- What is found under a name has that name, repeated or not. -/
theorem entity?_name {n : EntityName} {e : Entity} (h : s.entity? n = some e) :
    e.name = n := by
  simpa using List.find?_some h

/-- What is found is in the snapshot. -/
theorem entity?_mem {n : EntityName} {e : Entity} (h : s.entity? n = some e) :
    e ∈ s.entities :=
  List.mem_of_find?_eq_some h

end Snapshot

end SceneMerge
