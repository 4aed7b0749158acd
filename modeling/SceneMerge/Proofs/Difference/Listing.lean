/-
The listing of a difference. Of two snapshots whose names are distinct,
everything that differs is listed once and in a fixed order, down to the
key/values inside a modified entity, and nothing else is; so a difference
is empty exactly between snapshots that have the same content:
`changes_listed`.

What counts as a change of an entity is said here by `semanticallyEqual`,
which knows neither the matching of children nor the changes of values.
-/
import SceneMerge.Proofs.Content.Membership
import SceneMerge.Proofs.Difference.Scene

namespace SceneMerge

-- =========================================================== specification

/-- The changes between two sets of key/values, all of them. -/
structure KeyValues.Listed (a b : KeyValues) (changes : List KeyValueChange) : Prop where
  /-- The keys of the base in key order, then the new ones in key order. -/
  inOrder : changes.map (·.key)
    = a.keys.filter (fun key => a[key]? ≠ b[key]?) ++ b.keys.filter (· ∉ a)
  /-- A key has one change if its values differ, and otherwise none. -/
  once : ∀ key, (changes.map (·.key)).count key = if a[key]? = b[key]? then 0 else 1
  values : ∀ c ∈ changes, c.oldValue? = a[c.key]? ∧ c.newValue? = b[c.key]?

namespace Snapshot

/-- What the listing says of an entity of the base. -/
def listed? (other : Snapshot) (e : Entity) : Option EntityDelta :=
  match other.entity? e.name with
  | none => some (.removed e)
  | some current =>
      if e.semanticallyEqual current then none
      else some (.modified e current (e.keyValueChanges current) (e.childChanges current))

/-- The changes between two snapshots, all of them. -/
structure Listed (base other : Snapshot) (diff : SceneDiff) : Prop where
  /-- What happened to the entities of the base in their order, then the
  new ones in theirs. -/
  inOrder : diff.changes
    = base.entities.filterMap (fun e => (other.listed? e).map (⟨e.name, ·⟩))
      ++ (other.entities.filter (·.name ∉ base.names)).map fun e => ⟨e.name, .added e⟩
  once : (diff.changes.map (·.name)).Nodup
  keyValues : ∀ c ∈ diff.changes, ∀ {e current changes children},
    c.delta = .modified e current changes children →
    KeyValues.Listed e.keyValues current.keyValues changes
  isEmpty : diff.isEmpty = true ↔
    (∀ n, n ∈ base.names ↔ n ∈ other.names)
    ∧ (∀ {n e current}, base.entity? n = some e → other.entity? n = some current →
      e.semanticallyEqual current = true)
    ∧ base.metadata.memberships = other.metadata.memberships

end Snapshot

-- ============================================================== key/values

namespace KeyValues

variable {a b : KeyValues}

/-- The changes of the base are those of the keys whose values differ. -/
private theorem map_key_kept : (kept a b).map (·.key)
    = a.keys.filter fun key => a[key]? ≠ b[key]? := by
  rw [kept, ← Std.ExtTreeMap.map_fst_toList_eq_keys, List.map_filterMap, List.filter_map,
    ← List.filterMap_eq_map, List.filterMap_filter]
  refine List.filterMap_congr fun x hmem => ?_
  obtain ⟨key, old⟩ := x
  have hold : a[key]? = some old := Std.ExtTreeMap.mem_toList_iff_getElem?_eq_some.1 hmem
  cases hnew : b[key]? with
  | none => simp [hold, hnew, KeyValueChange.key]
  | some new =>
      by_cases heq : old = new
      · simp [hold, hnew, heq]
      · simp [hold, hnew, heq, KeyValueChange.key]

private theorem map_key_added : (added a b).map (·.key) = b.keys.filter (· ∉ a) := by
  rw [added, ← Std.ExtTreeMap.map_fst_toList_eq_keys, List.map_filterMap, List.filter_map,
    ← List.filterMap_eq_map, List.filterMap_filter]
  refine List.filterMap_congr fun x _ => ?_
  by_cases hk : x.1 ∈ a
  · simp [hk]
  · simp [hk, KeyValueChange.key]

/-- The changes of key/values are listed in order, each once, and with the values of
both sides. -/
theorem listed_changes (a b : KeyValues) : Listed a b (changes a b) where
  inOrder := by rw [changes_eq, List.map_append, map_key_kept, map_key_added]
  once := by
    intro key
    split
    · next heq =>
        rw [List.count_eq_zero]
        intro hkey
        obtain ⟨c, hc, rfl⟩ := List.mem_map.1 hkey
        exact (mem_changes.1 hc).2.2 heq
    · next hne => exact List.count_eq_one_of_mem changes_nodup (List.mem_map.2 (exists_change hne))
  values := by
    intro c hc
    have h := mem_changes.1 hc
    exact ⟨h.1, h.2.1⟩

end KeyValues

-- ============================================================= memberships

/-- Nothing is listed between metadata just if they have the same memberships. -/
theorem Metadata.changes_eq_nil {m m' : Metadata} :
    m.changes m' = [] ↔ m.memberships = m'.memberships := by
  rw [memberships_eq_iff]
  unfold changes
  simp only [List.append_eq_nil_iff, List.map_eq_nil_iff, List.filter_eq_nil_iff,
    decide_eq_true_eq, not_not]
  constructor
  · rintro ⟨hleft, hright⟩ g e
    rw [Bool.eq_iff_iff, ← mem_memberships, ← mem_memberships]
    exact ⟨hleft (g, e), hright (g, e)⟩
  · intro h
    constructor
    · rintro ⟨g, e⟩ hmem
      rw [mem_memberships, ← h, ← mem_memberships]
      exact hmem
    · rintro ⟨g, e⟩ hmem
      rw [mem_memberships, h, ← mem_memberships]
      exact hmem

-- ============================================================== snapshots

namespace Snapshot

variable {base other : Snapshot} {diff : SceneDiff}

private theorem keptChange?_eq (e : Entity) :
    keptChange? other e = (other.listed? e).map (⟨e.name, ·⟩) := by
  unfold keptChange? listed?
  cases h : other.entity? e.name with
  | none => rfl
  | some current => simp only [Entity.delta?_eq (entity?_name h).symm]

/-- Nothing is listed exactly if both have the same names, and what has the
same name is semantically equal. -/
private theorem changes_eq_nil (hb : base.names.Nodup) (ho : other.names.Nodup)
    (h : base.changes other = .ok diff) :
    diff.changes = [] ↔ (∀ n, n ∈ base.names ↔ n ∈ other.names)
      ∧ ∀ {n e current}, base.entity? n = some e → other.entity? n = some current →
        e.semanticallyEqual current = true := by
  -- nothing is listed just if nothing happened under any name
  have hnil : diff.changes = [] ↔ ∀ n, deltaOf? base other n = none := by
    constructor
    · intro hnil n
      cases hd : deltaOf? base other n with
      | none => rfl
      | some d =>
          have hmem := (mem_changes hb ho h (c := ⟨n, d⟩)).2 hd
          rw [hnil] at hmem
          cases hmem
    · intro hnone
      rw [List.eq_nil_iff_forall_not_mem]
      intro c hc
      have hd := (mem_changes hb ho h).1 hc
      rw [hnone] at hd
      cases hd
  have hnames : ∀ {s : Snapshot} {n}, n ∈ s.names ↔ s.entity? n ≠ none := by
    intro s n
    rw [Ne, entity?_eq_none, not_not]
  rw [hnil]
  unfold deltaOf?
  constructor
  · intro hnone
    constructor
    · intro n
      have hn := hnone n
      rw [hnames, hnames]
      cases hbe : base.entity? n <;> cases hoe : other.entity? n <;> simp [hbe, hoe] at hn ⊢
    · intro n e current hbe hoe
      have hn := hnone n
      simp only [hbe, hoe] at hn
      exact (delta?_eq_none hbe hoe).1 hn
  · rintro ⟨hsame, hequal⟩ n
    have hn := hsame n
    rw [hnames, hnames] at hn
    cases hbe : base.entity? n with
    | none =>
        cases hoe : other.entity? n with
        | none => rfl
        | some current => simp [hbe, hoe] at hn
    | some e =>
        cases hoe : other.entity? n with
        | none => simp [hbe, hoe] at hn
        | some current => exact (delta?_eq_none hbe hoe).2 (hequal hbe hoe)

/-- The difference of two snapshots is there, and it is the listing. -/
theorem changes_listed (hb : base.names.Nodup) (ho : other.names.Nodup) :
    ∃ diff, base.changes other = .ok diff ∧ Listed base other diff := by
  obtain ⟨diff, h, hchanges⟩ := changes_eq_ok hb ho
  refine ⟨diff, h, ?inOrder, changes_names_nodup hb ho h, ?keyValues, ?isEmpty⟩
  case inOrder =>
    rw [hchanges, kept, added]
    exact congrArg (· ++ _) (List.filterMap_congr fun e _ => keptChange?_eq e)
  case keyValues =>
    intro c hc e current changes children hdelta
    have hd := (mem_changes hb ho h).1 hc
    rw [hdelta] at hd
    unfold deltaOf? at hd
    split at hd
    · cases hd
    · cases hd
    · cases hd
    · cases Entity.delta?_eq_some hd
      exact KeyValues.listed_changes _ _
  case isEmpty =>
    rw [SceneDiff.isEmpty, Bool.and_eq_true, List.isEmpty_iff, List.isEmpty_iff,
      changes_eq_nil hb ho h, changes_memberships h, Metadata.changes_eq_nil, and_assoc]

/-- A wall and a lamp. -/
def furnished : Snapshot where
  path := "furnished"
  entities := [{ name := "wall", keyValues := .ofList [("color", "red")] }, { name := "lamp" }]

/-- The wall was painted, and the lamp made way for a light. -/
def refurbished : Snapshot where
  path := "refurbished"
  entities := [{ name := "light" },
    { name := "wall", keyValues := .ofList [("color", "blue"), ("width", "2")] }]

theorem changes_listed_wall :
    furnished.names.Nodup ∧ refurbished.names.Nodup
      ∧ ∃ diff, furnished.changes refurbished = .ok diff ∧ Listed furnished refurbished diff :=
  ⟨by decide, by decide, changes_listed (by decide) (by decide)⟩

example : (furnished.changes refurbished).toOption.map (·.changes.map (·.name))
    = some ["wall", "lamp", "light"] := by
  decide +kernel

end Snapshot

end SceneMerge
