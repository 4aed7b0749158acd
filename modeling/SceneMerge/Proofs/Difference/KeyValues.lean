/-
The changes of key/values are exact: a change is listed exactly if its
values before and after are those of the two versions and differ, and
each key is listed at most once. An absent key counts as a value here,
`none`.

They are listed in the order that sorting gives them. As no key has two
changes there is only one such order (`sort_eq`), and that is the order of
the keys of the base and then of the new ones (`changes_eq`).
-/
import SceneMerge.Difference.Part
import SceneMerge.Proofs.Content.Snapshot

namespace SceneMerge

namespace KeyValueChange

/-- A change is determined by its key and its values. -/
theorem ext_values {c c' : KeyValueChange} (hk : c.key = c'.key)
    (ho : c.oldValue? = c'.oldValue?) (hn : c.newValue? = c'.newValue?) :
    c = c' := by
  cases c <;> cases c' <;>
    simp_all [key, oldValue?, newValue?]

end KeyValueChange

namespace KeyValueChange

-- ================================================================ sorting

instance : Std.TransCmp order :=
  inferInstanceAs (Std.TransCmp (compareLex (compareOn rank) (compareOn key)))

/-- Only changes of the same key are listed at the same place. -/
theorem key_eq_of_order {c d : KeyValueChange} (h : order c d = .eq) : c.key = d.key := by
  have hkeys : compare c.key d.key = .eq := (Ordering.then_eq_eq.1 h).2
  exact Std.compare_eq_iff_eq.1 hkeys

/-- What the base had comes before what it had not, whatever the keys are. -/
theorem order_of_rank_lt {c d : KeyValueChange} (h : c.rank < d.rank) : order c d = .lt := by
  have hranks : compare c.rank d.rank = .lt := Nat.compare_eq_lt.2 h
  exact Ordering.then_eq_lt.2 (.inl hranks)

/-- Within one rank the keys decide. -/
theorem order_of_rank_eq {c d : KeyValueChange} (h : c.rank = d.rank) :
    order c d = compare c.key d.key := by
  show (compare c.rank d.rank).then (compare c.key d.key) = _
  rw [h, Nat.compare_eq_eq.2 rfl]
  rfl

/-- Inserting adds the change and nothing else. -/
theorem insert_perm (c : KeyValueChange) (l : List KeyValueChange) :
    (insert c l).Perm (c :: l) := by
  fun_induction insert c l with
  | case1 => exact .refl _
  | case2 => exact .refl _
  | case3 d rest _ ih => exact (ih.cons d).trans (.swap c d rest)

/-- Sorting only rearranges. -/
theorem sort_perm (l : List KeyValueChange) : (sort l).Perm l := by
  induction l with
  | nil => exact .refl _
  | cons c l ih => exact (insert_perm c _).trans (ih.cons c)

/-- A change goes in front of the first one that is not listed before it, so a sorted
list stays sorted. The cases are those of the insertion. -/
theorem insert_sorted (c : KeyValueChange) {l : List KeyValueChange}
    (h : l.Pairwise fun d d' => (order d d').isLE) :
    (insert c l).Pairwise fun d d' => (order d d').isLE := by
  fun_induction insert c l with
  | case1 => exact List.pairwise_singleton _ c
  | case2 d rest hle =>
      refine List.pairwise_cons.2 ⟨fun d' hd' => ?_, h⟩
      rcases List.mem_cons.1 hd' with rfl | hd'
      · exact hle
      · exact Std.TransCmp.isLE_trans hle ((List.pairwise_cons.1 h).1 d' hd')
  | case3 d rest hle ih =>
      obtain ⟨hd, hrest⟩ := List.pairwise_cons.1 h
      refine List.pairwise_cons.2 ⟨fun d' hd' => ?_, ih hrest⟩
      rcases List.mem_cons.1 ((insert_perm c rest).subset hd') with rfl | hd'
      · -- the order is total, so what is not before `d` is behind it
        have hswap : order d d' = (order d' d).swap := Std.OrientedCmp.eq_swap
        rw [hswap]
        cases ho : order d' d <;> simp [ho] at hle ⊢
      · exact hd d' hd'

/-- What sorting gives is sorted: it inserts one change after the other. -/
theorem sort_sorted (l : List KeyValueChange) :
    (sort l).Pairwise fun c d => (order c d).isLE := by
  induction l with
  | nil => exact .nil
  | cons c l ih => exact insert_sorted c ih

/-- Changes of different keys have one order in which they are listed. -/
theorem sort_eq {l l' : List KeyValueChange} (h : l.Perm l')
    (hs : l'.Pairwise fun c d => (order c d).isLE) (hn : (l'.map key).Nodup) :
    sort l = l' := by
  refine ((sort_perm l).trans h).eq_of_pairwise ?_ (sort_sorted l) hs
  intro c d hc hd hcd hdc
  have hc' := ((sort_perm l).trans h).subset hc
  refine List.inj_on_of_nodup_map hn hc' hd (key_eq_of_order ?_)
  exact Std.OrientedCmp.isLE_antisymm hcd hdc

end KeyValueChange

namespace KeyValues

variable {a b : KeyValues}

-- ================================================================ listing

/-- What happens to the keys of the base, in key order. -/
def kept (a b : KeyValues) : List KeyValueChange :=
  a.toList.filterMap fun (key, old) =>
    match b[key]? with
    | none => some (.removed key old)
    | some new => if old = new then none else some (.changed key old new)

/-- The keys that the other version has besides, in key order. -/
def added (a b : KeyValues) : List KeyValueChange :=
  b.toList.filterMap fun (key, value) =>
    if key ∈ a then none else some (.added key value)

/-- What happens to the keys that the base has. -/
theorem mem_kept {c : KeyValueChange} :
    c ∈ kept a b ↔ c.oldValue? = a[c.key]? ∧ c.newValue? = b[c.key]?
      ∧ a[c.key]? ≠ b[c.key]? ∧ a[c.key]? ≠ none := by
  rw [kept, List.mem_filterMap]
  constructor
  · rintro ⟨⟨k, old⟩, hmem, hc⟩
    rw [Std.ExtTreeMap.mem_toList_iff_getElem?_eq_some] at hmem
    simp only at hc
    split at hc
    · next hb =>
        cases hc
        simp [KeyValueChange.key, KeyValueChange.oldValue?,
          KeyValueChange.newValue?, hmem, hb]
    · next new hb =>
        split at hc
        · cases hc
        · next hne =>
            cases hc
            simp [KeyValueChange.key, KeyValueChange.oldValue?,
              KeyValueChange.newValue?, hmem, hb, hne]
  · rintro ⟨ho, hn, hne, hsome⟩
    -- the base has the key, so the change is found where that key stands; what it says
    -- is up to the other version
    obtain ⟨old, ha⟩ := Option.ne_none_iff_exists'.1 hsome
    refine ⟨(c.key, old), Std.ExtTreeMap.mem_toList_iff_getElem?_eq_some.2 ha, ?_⟩
    simp only
    cases hb : b[c.key]? with
    | none =>
        refine congrArg some (KeyValueChange.ext_values rfl ?_ ?_)
        · rw [ho, ha]
          rfl
        · rw [hn, hb]
          rfl
    | some new =>
        have hvalues : old ≠ new := by
          rintro rfl
          exact hne (ha.trans hb.symm)
        simp only [if_neg hvalues]
        refine congrArg some (KeyValueChange.ext_values rfl ?_ ?_)
        · rw [ho, ha]
          rfl
        · rw [hn, hb]
          rfl

/-- What the other version has besides. -/
theorem mem_added {c : KeyValueChange} :
    c ∈ added a b ↔ c.oldValue? = a[c.key]? ∧ c.newValue? = b[c.key]?
      ∧ a[c.key]? ≠ b[c.key]? ∧ a[c.key]? = none := by
  rw [added, List.mem_filterMap]
  constructor
  · rintro ⟨⟨k, value⟩, hmem, hc⟩
    rw [Std.ExtTreeMap.mem_toList_iff_getElem?_eq_some] at hmem
    simp only at hc
    split at hc
    · cases hc
    · next hk =>
        cases hc
        have ha : a[k]? = none := by simpa using hk
        simp [KeyValueChange.key, KeyValueChange.oldValue?,
          KeyValueChange.newValue?, hmem, ha]
  · rintro ⟨ho, hn, hne, hnone⟩
    -- the values differ and the base has none, so the other version has one
    cases hb : b[c.key]? with
    | none => exact absurd (hnone.trans hb.symm) hne
    | some value =>
        refine ⟨(c.key, value),
          Std.ExtTreeMap.mem_toList_iff_getElem?_eq_some.2 hb, ?_⟩
        have hk : c.key ∉ a := by simpa using hnone
        simp only [if_neg hk]
        refine congrArg some (KeyValueChange.ext_values rfl ?_ ?_)
        · rw [ho, hnone]
          rfl
        · rw [hn, hb]
          rfl

/-- Changes of what the base has are listed in the order of its keys, with some of them
left out. -/
theorem keys_kept : ((kept a b).map KeyValueChange.key).Sublist a.keys := by
  rw [← Std.ExtTreeMap.map_fst_toList_eq_keys]
  refine map_filterMap_sublist ?_
  rintro ⟨k, old⟩ c hc
  simp only at hc
  split at hc
  · cases hc
    rfl
  · split at hc
    · cases hc
    · cases hc
      rfl

/-- Changes of what is new are listed in the order of the keys of the other version. -/
theorem keys_added : ((added a b).map KeyValueChange.key).Sublist b.keys := by
  rw [← Std.ExtTreeMap.map_fst_toList_eq_keys]
  refine map_filterMap_sublist ?_
  rintro ⟨k, value⟩ c hc
  simp only at hc
  split at hc
  · cases hc
  · cases hc
    rfl

/-- No key is in both halves of the listing, for it is in the base or not. -/
private theorem listing_nodup : ((kept a b ++ added a b).map KeyValueChange.key).Nodup := by
  rw [List.map_append, List.nodup_append]
  refine ⟨Std.ExtTreeMap.nodup_keys.sublist keys_kept,
    Std.ExtTreeMap.nodup_keys.sublist keys_added, ?_⟩
  intro k hl k' hr hk
  obtain ⟨c, hc, rfl⟩ := List.mem_map.1 hl
  obtain ⟨c', hc', rfl⟩ := List.mem_map.1 hr
  have hsome := (mem_kept.1 hc).2.2.2
  rw [hk] at hsome
  exact hsome (mem_added.1 hc').2.2.2

/-- Changes of one rank are listed by key. -/
private theorem sorted_of_keys {l : List KeyValueChange} {keys : List String} {r : Nat}
    (hr : ∀ c ∈ l, c.rank = r) (hl : (l.map KeyValueChange.key).Sublist keys)
    (hkeys : keys.Pairwise fun k k' => compare k k' = .lt) :
    l.Pairwise fun c d => (KeyValueChange.order c d).isLE := by
  refine (List.pairwise_map.1 (hkeys.sublist hl)).imp_of_mem fun {c d} hc hd hlt => ?_
  rw [KeyValueChange.order_of_rank_eq ((hr c hc).trans (hr d hd).symm), hlt]
  rfl

/-- Each half is sorted by key, and the first half is of a lower rank throughout. -/
private theorem listing_sorted :
    (kept a b ++ added a b).Pairwise fun c d => (KeyValueChange.order c d).isLE := by
  have hkept : ∀ c ∈ kept a b, c.rank = 0 := by
    intro c hc
    obtain ⟨hold, -, -, hsome⟩ := mem_kept.1 hc
    cases c with
    | added key value => exact absurd hold.symm hsome
    | removed key value => rfl
    | changed key old new => rfl
  have hadded : ∀ c ∈ added a b, c.rank = 1 := by
    intro c hc
    obtain ⟨hold, -, -, hnone⟩ := mem_added.1 hc
    rw [hnone] at hold
    cases c with
    | added key value => rfl
    | removed key value => cases hold
    | changed key old new => cases hold
  refine List.pairwise_append.2 ⟨sorted_of_keys hkept keys_kept Std.ExtTreeMap.ordered_keys,
    sorted_of_keys hadded keys_added Std.ExtTreeMap.ordered_keys, fun c hc d hd => ?_⟩
  rw [KeyValueChange.order_of_rank_lt (by rw [hkept c hc, hadded d hd]; exact Nat.one_pos)]
  rfl

/-- What is picked in one way or in the other is picked in all. -/
private theorem filterMap_append_perm {α β : Type} {f g h : α → Option β}
    (hsplit : ∀ x, (f x = h x ∧ g x = none) ∨ (f x = none ∧ g x = h x)) (l : List α) :
    (l.filterMap f ++ l.filterMap g).Perm (l.filterMap h) := by
  induction l with
  | nil => exact .refl _
  | cons x l ih =>
      rw [List.filterMap_cons, List.filterMap_cons, List.filterMap_cons]
      rcases hsplit x with ⟨hf, hg⟩ | ⟨hf, hg⟩
      · rw [hf, hg]
        cases h x with
        | none => exact ih
        | some y => exact ih.cons y
      · rw [hf, hg]
        cases h x with
        | none => exact ih
        | some y => exact List.perm_middle.trans (ih.cons y)

/-- The changes, sorted or not, are those of the listing. -/
theorem changes_eq : changes a b = kept a b ++ added a b := by
  have hkept : ((Matching.ofKeyValues a b).both.filterMap (fun x =>
        if x.2.1 = x.2.2 then none else some (KeyValueChange.changed x.1 x.2.1 x.2.2))
      ++ (Matching.ofKeyValues a b).onlyLeft.map fun x =>
        KeyValueChange.removed x.1 x.2).Perm (kept a b) := by
    rw [Matching.ofKeyValues, List.filterMap_filterMap, ← List.filterMap_eq_map,
      List.filterMap_filter]
    refine filterMap_append_perm (fun x => ?_) _
    -- a key of the base is changed if the other version has it, and removed if not
    by_cases hk : x.1 ∈ b
    · simp [hk]
    · simp [hk]
  have hadded : (Matching.ofKeyValues a b).onlyRight.map (fun x =>
      KeyValueChange.added x.1 x.2) = added a b := by
    rw [Matching.ofKeyValues, ← List.filterMap_eq_map, List.filterMap_filter, added]
    refine List.filterMap_congr fun x _ => ?_
    by_cases hk : x.1 ∈ a
    · simp [hk]
    · simp [hk]
  exact KeyValueChange.sort_eq (hkept.append (.of_eq hadded)) listing_sorted listing_nodup

/-- A change is listed exactly if it leads from the one value to the
other and they differ. -/
theorem mem_changes {c : KeyValueChange} :
    c ∈ changes a b ↔
      c.oldValue? = a[c.key]? ∧ c.newValue? = b[c.key]?
        ∧ a[c.key]? ≠ b[c.key]? := by
  rw [changes_eq, List.mem_append]
  refine (or_congr mem_kept mem_added).trans ?_
  by_cases ha : a[c.key]? = none
  · simp [ha]
  · simp [ha]

/-- Each key is listed at most once. -/
theorem changes_nodup : ((changes a b).map KeyValueChange.key).Nodup := by
  rw [changes_eq]
  exact listing_nodup

/-- A key whose values differ is listed. -/
theorem exists_change {k : String} (h : a[k]? ≠ b[k]?) :
    ∃ c ∈ changes a b, c.key = k := by
  -- which change it is depends on which of the two versions has the key
  cases ha : a[k]? with
  | none =>
      cases hb : b[k]? with
      | none => rw [ha, hb] at h; exact absurd rfl h
      | some new =>
          refine ⟨.added k new, mem_changes.2 ?_, rfl⟩
          simp [KeyValueChange.oldValue?, KeyValueChange.newValue?,
            KeyValueChange.key, ha, hb]
  | some old =>
      cases hb : b[k]? with
      | none =>
          refine ⟨.removed k old, mem_changes.2 ?_, rfl⟩
          simp [KeyValueChange.oldValue?, KeyValueChange.newValue?,
            KeyValueChange.key, ha, hb]
      | some new =>
          refine ⟨.changed k old new, mem_changes.2 ?_, rfl⟩
          rw [ha, hb] at h
          simpa [KeyValueChange.oldValue?, KeyValueChange.newValue?,
            KeyValueChange.key, ha, hb] using h

/-- Nothing changes exactly between equal versions. -/
theorem changes_eq_nil : changes a b = [] ↔ a = b := by
  constructor
  · intro h
    refine Std.ExtTreeMap.ext_getElem? fun {k} => ?_
    by_contra hne
    obtain ⟨c, hc, -⟩ := exists_change hne
    rw [h] at hc
    cases hc
  · rintro rfl
    rw [List.eq_nil_iff_forall_not_mem]
    intro c hc
    exact (mem_changes.1 hc).2.2 rfl

end KeyValues

end SceneMerge
