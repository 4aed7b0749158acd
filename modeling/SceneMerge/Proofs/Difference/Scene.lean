/-
The changes between two snapshots whose names are distinct are exact:
what is listed under a name is what happened to the entity of that name
(`deltaOf?`), and no name is listed twice. So a difference is a lookup by
name (`change?_eq`), and what a merge does about an entity depends on the
three versions of that entity alone.

The entities that are gone and the matched ones are two lists, which the
difference interleaves by the positions in the base. Each of the two is
in the order of the base, so from the left only the one that stands there
can come next (`interleave_gone`, `interleave_both`), and the result is
one walk along the base (`changes_eq_ok`).
-/
import SceneMerge.Difference.Scene
import SceneMerge.Proofs.Difference.Children
import SceneMerge.Proofs.Difference.KeyValues

namespace SceneMerge

-- ============================================================= one entity

namespace Entity

variable {e c : Entity}

/-- Nothing happened to an entity exactly if it is semantically equal. -/
theorem delta?_eq_none (hn : e.name = c.name) :
    e.delta? c = none ↔ e.semanticallyEqual c = true := by
  rw [semanticallyEqual_iff]
  unfold delta?
  simp only [ite_eq_left_iff, Bool.and_eq_true, List.isEmpty_iff,
    keyValueChanges, KeyValues.changes_eq_nil, childChanges_eq_nil]
  constructor
  · intro h
    by_contra hne
    exact Option.some_ne_none _ (h fun heq => hne ⟨hn, heq⟩)
  · intro h hne
    exact absurd h.2 hne

/-- Whatever happened is listed in full. -/
theorem delta?_eq_some {d : EntityDelta} (h : e.delta? c = some d) :
    d = .modified e c (e.keyValueChanges c) (e.childChanges c) := by
  unfold delta? at h
  simp only at h
  split at h
  · cases h
  · cases h
    rfl

/-- What happened to an entity that both have. -/
theorem delta?_eq (hn : e.name = c.name) :
    e.delta? c = if e.semanticallyEqual c then none
      else some (.modified e c (e.keyValueChanges c) (e.childChanges c)) := by
  by_cases heq : e.semanticallyEqual c = true
  · rw [if_pos heq, (delta?_eq_none hn).2 heq]
  · obtain ⟨d, hd⟩ := Option.ne_none_iff_exists'.1 (mt (delta?_eq_none hn).1 heq)
    rw [if_neg heq, hd, delta?_eq_some hd]

end Entity

-- ============================================================== snapshots

namespace Snapshot

variable {base other : Snapshot}

/-- What happened to the entity called `n`. -/
def deltaOf? (base other : Snapshot) (n : EntityName) : Option EntityDelta :=
  match base.entity? n, other.entity? n with
  | none, none => none
  | some e, none => some (.removed e)
  | none, some e => some (.added e)
  | some e, some current => e.delta? current

/-- Nothing happened to an entity that both have exactly if it is
semantically equal. -/
theorem delta?_eq_none {n : EntityName} {e current : Entity}
    (hb : base.entity? n = some e) (ho : other.entity? n = some current) :
    e.delta? current = none ↔ e.semanticallyEqual current = true :=
  Entity.delta?_eq_none ((entity?_name hb).trans (entity?_name ho).symm)

/-- There is a change of an entity that is in both just if it is not semantically equal.
-/
theorem exists_delta? {n : EntityName} {e current : Entity}
    (hb : base.entity? n = some e) (ho : other.entity? n = some current) :
    (∃ d, e.delta? current = some d) ↔ e.semanticallyEqual current = false := by
  rw [← Option.ne_none_iff_exists', Ne, delta?_eq_none hb ho,
    Bool.not_eq_true]

-- =============================================================== positions

/-- The one name stands before the other. -/
def Precedes (positions : Std.ExtTreeMap EntityName Nat) (n n' : EntityName) : Prop :=
  ∃ i i', positions[n]? = some i ∧ positions[n']? = some i' ∧ i < i'

/-- Where names are distinct, each has the position at which it stands. -/
theorem getElem?_positions (h : base.names.Nodup) {i : Nat} {n : EntityName}
    (hi : base.names[i]? = some n) : base.positions[n]? = some i := by
  have hnames : (base.names.zipIdx.map Prod.fst).Pairwise fun n n' =>
      ¬ compare n n' = .eq := by
    rw [List.zipIdx_map_fst]
    exact h.imp fun hne heq => hne (Std.compare_eq_iff_eq.1 heq)
  have hmem : (n, i) ∈ base.names.zipIdx := by
    simpa [List.mem_zipIdx_iff_getElem?] using hi
  exact Std.ExtTreeMap.getElem?_ofList_of_mem Std.ReflCmp.compare_self
    (List.pairwise_map.1 hnames) hmem

/-- The entities of a snapshot stand one after the other. -/
theorem pairwise_precedes (h : base.names.Nodup) :
    base.entities.Pairwise fun e e' => Precedes base.positions e.name e'.name := by
  rw [List.pairwise_iff_getElem]
  intro i i' hi hi' hlt
  exact ⟨i, i', getElem?_positions h (by simp [names, hi]),
    getElem?_positions h (by simp [names, hi']), hlt⟩

section interleave

variable {positions : Std.ExtTreeMap EntityName Nat} {n : EntityName} {e current : Entity}
  {gone : List (EntityName × Entity)} {both : List (EntityName × Entity × Entity)}

/-- Whoever is gone comes next if it stands before the matched ones. -/
theorem interleave_gone (h : ∀ x ∈ both, Precedes positions n x.1) :
    EntityChange.interleave positions ((n, e) :: gone) both
      = ⟨n, .removed e⟩ :: EntityChange.interleave positions gone both := by
  cases both with
  | nil => rfl
  | cons x both =>
      obtain ⟨i, i', hi, hi', hlt⟩ := h x List.mem_cons_self
      have hbefore : EntityChange.isBefore positions x.1 (n, e) = true := by
        simp [EntityChange.isBefore, hi, hi', hlt]
      unfold EntityChange.interleave
      rw [List.takeWhile_cons_of_pos hbefore, List.dropWhile_cons_of_pos hbefore]
      rfl

/-- A matched entity comes next if it stands before those that are gone. -/
theorem interleave_both (h : ∀ x ∈ gone, Precedes positions n x.1) :
    EntityChange.interleave positions gone ((n, e, current) :: both)
      = ((e.delta? current).map (⟨n, ·⟩)).toList
        ++ EntityChange.interleave positions gone both := by
  cases gone with
  | nil => rfl
  | cons x gone =>
      obtain ⟨i, i', hi, hi', hlt⟩ := h x List.mem_cons_self
      have hafter : ¬ EntityChange.isBefore positions n x = true := by
        simpa [EntityChange.isBefore, hi, hi'] using Nat.le_of_lt hlt
      rw [EntityChange.interleave, List.takeWhile_cons_of_neg hafter,
        List.dropWhile_cons_of_neg hafter]
      rfl

end interleave

-- ================================================================= listing

/-- What is listed of an entity that the base has. -/
def keptChange? (other : Snapshot) (e : Entity) : Option EntityChange :=
  match other.entity? e.name with
  | none => some ⟨e.name, .removed e⟩
  | some current => (e.delta? current).map (⟨e.name, ·⟩)

/-- The changes of the entities that the base has. -/
def kept (base other : Snapshot) : List EntityChange :=
  base.entities.filterMap (keptChange? other)

/-- The entities that the other snapshot adds. -/
def added (base other : Snapshot) : List EntityChange :=
  (other.entities.filter (·.name ∉ base.names)).map fun e => ⟨e.name, .added e⟩

/-- Gone and matched entities that stand one after the other come in that
order. -/
private theorem interleave_eq {positions : Std.ExtTreeMap EntityName Nat}
    {l : List Entity} (h : l.Pairwise fun e e' => Precedes positions e.name e'.name) :
    EntityChange.interleave positions
        ((l.filter (·.name ∉ other.names)).map fun e => (e.name, e))
        (l.filterMap fun e => (other.entity? e.name).map (e.name, e, ·))
      = l.filterMap (keptChange? other) := by
  induction l with
  | nil => rfl
  | cons e l ih =>
      obtain ⟨he, hl⟩ := List.pairwise_cons.1 h
      -- the entity that stands next is gone, or it has a partner; either way those
      -- behind it stand behind it in the other list too
      cases hother : other.entity? e.name with
      | none =>
          have hnot : e.name ∉ other.names := entity?_eq_none.1 hother
          have hboth : ∀ x ∈ l.filterMap fun e' =>
              (other.entity? e'.name).map (e'.name, e', ·),
              Precedes positions e.name x.1 := by
            intro x hx
            obtain ⟨e', he', hx⟩ := List.mem_filterMap.1 hx
            obtain ⟨current, -, rfl⟩ := Option.map_eq_some_iff.1 hx
            exact he e' he'
          rw [List.filter_cons_of_pos (by simpa using hnot), List.map_cons,
            List.filterMap_cons_none (by rw [hother]; rfl), interleave_gone hboth, ih hl,
            List.filterMap_cons_some (by rw [keptChange?, hother])]
      | some current =>
          have hmem : e.name ∈ other.names := by
            by_contra hnot
            rw [entity?_eq_none.2 hnot] at hother
            cases hother
          have hgone : ∀ x ∈ (l.filter (·.name ∉ other.names)).map fun e' => (e'.name, e'),
              Precedes positions e.name x.1 := by
            intro x hx
            obtain ⟨e', he', rfl⟩ := List.mem_map.1 hx
            exact he e' (List.mem_of_mem_filter he')
          have hchange : keptChange? other e = (e.delta? current).map (⟨e.name, ·⟩) := by
            rw [keptChange?, hother]
          rw [List.filter_cons_of_neg (by simpa using hmem),
            List.filterMap_cons_some (by rw [hother]; rfl), interleave_both hgone, ih hl]
          rw [List.filterMap_cons, hchange]
          cases e.delta? current <;> rfl

/-- Where names are distinct the difference is taken. It lists what became of the
entities of the base, in their order, and then the new ones. -/
theorem changes_eq_ok (hb : base.names.Nodup) (ho : other.names.Nodup) :
    ∃ diff, base.changes other = .ok diff
      ∧ diff.changes = kept base other ++ added base other := by
  refine ⟨⟨kept base other ++ added base other,
    base.metadata.changes other.metadata⟩, ?_, rfl⟩
  rw [kept, added, ← interleave_eq (pairwise_precedes hb)]
  unfold changes Matching.ofEntities
  rw [checkNames_eq_ok hb, checkNames_eq_ok ho]
  simp only [bind, Except.bind, pure, Except.pure, List.map_map]
  rfl

/-- Of the entities of the base those are listed that something happened to. -/
private theorem mem_kept (hb : base.names.Nodup) {c : EntityChange} :
    c ∈ kept base other ↔
      deltaOf? base other c.name = some c.delta
        ∧ base.entity? c.name ≠ none := by
  rw [kept, List.mem_filterMap]
  constructor
  · rintro ⟨e, he, hc⟩
    unfold keptChange? at hc
    have hfound := (entity?_eq_some hb).2 ⟨he, rfl⟩
    split at hc
    · next hother =>
        cases hc
        simp [deltaOf?, hfound, hother]
    · next current hother =>
        obtain ⟨d, hd, rfl⟩ := Option.map_eq_some_iff.1 hc
        simp [deltaOf?, hfound, hother, hd]
  · rintro ⟨hd, hsome⟩
    obtain ⟨e, hfound⟩ := Option.ne_none_iff_exists'.1 hsome
    have hname := entity?_name hfound
    refine ⟨e, entity?_mem hfound, ?_⟩
    obtain ⟨name, delta⟩ := c
    simp only at hd hfound hname
    subst hname
    unfold deltaOf? at hd
    rw [hfound] at hd
    cases hother : other.entity? e.name with
    | none =>
        rw [hother] at hd
        cases hd
        rw [keptChange?, hother]
    | some current =>
        rw [hother] at hd
        simp only at hd
        simp only [keptChange?, hother, hd, Option.map_some]

/-- What is listed behind them are the entities that the base has not. -/
private theorem mem_added (ho : other.names.Nodup) {c : EntityChange} :
    c ∈ added base other ↔
      deltaOf? base other c.name = some c.delta
        ∧ base.entity? c.name = none := by
  rw [added, List.mem_map]
  constructor
  · rintro ⟨e, he, rfl⟩
    obtain ⟨he, hnot⟩ := List.mem_filter.1 he
    have hfound := (entity?_eq_some ho).2 ⟨he, rfl⟩
    have hnone := entity?_eq_none.2 (of_decide_eq_true hnot)
    simp [deltaOf?, hfound, hnone]
  · rintro ⟨hd, hnone⟩
    unfold deltaOf? at hd
    rw [hnone] at hd
    cases hother : other.entity? c.name with
    | none => rw [hother] at hd; cases hd
    | some e =>
        rw [hother] at hd
        have hname := entity?_name hother
        have hnot : e.name ∉ base.names := by
          rw [hname]
          exact entity?_eq_none.1 hnone
        refine ⟨e, List.mem_filter.2 ⟨entity?_mem hother, decide_eq_true hnot⟩, ?_⟩
        obtain ⟨name, delta⟩ := c
        simp only at hname
        subst hname
        cases hd
        rfl

variable {diff : SceneDiff}

/-- The memberships are compared by themselves. -/
theorem changes_memberships (h : base.changes other = .ok diff) :
    diff.memberships = base.metadata.changes other.metadata := by
  unfold changes at h
  cases hm : Matching.ofEntities base other with
  | error e => rw [hm] at h; cases h
  | ok m => rw [hm] at h; cases h; rfl

/-- A change is listed exactly if it is what happened to the entity of its
name. -/
theorem mem_changes (hb : base.names.Nodup) (ho : other.names.Nodup)
    (h : base.changes other = .ok diff) {c : EntityChange} :
    c ∈ diff.changes ↔ deltaOf? base other c.name = some c.delta := by
  obtain ⟨diff', heq, hchanges⟩ := changes_eq_ok hb ho
  rw [heq] at h
  cases h
  rw [hchanges, List.mem_append, mem_kept hb, mem_added ho]
  by_cases hnone : base.entity? c.name = none
  · simp [hnone]
  · simp [hnone]

/-- No name is listed twice. -/
theorem changes_names_nodup (hb : base.names.Nodup) (ho : other.names.Nodup)
    (h : base.changes other = .ok diff) :
    (diff.changes.map (·.name)).Nodup := by
  obtain ⟨diff', heq, hchanges⟩ := changes_eq_ok hb ho
  rw [heq] at h
  cases h
  rw [hchanges, List.map_append, List.nodup_append]
  refine ⟨hb.sublist (map_filterMap_sublist ?_), ?_, ?_⟩
  · intro e c hc
    unfold keptChange? at hc
    split at hc
    · cases hc
      rfl
    · obtain ⟨d, -, rfl⟩ := Option.map_eq_some_iff.1 hc
      rfl
  · rw [added, List.map_map]
    exact ho.sublist (List.filter_sublist.map _)
  · -- a name in both halves would be in the base and not in it
    intro n hl n' hr hn
    obtain ⟨c, hc, rfl⟩ := List.mem_map.1 hl
    obtain ⟨c', hc', rfl⟩ := List.mem_map.1 hr
    have hsome := ((mem_kept hb).1 hc).2
    rw [hn] at hsome
    exact hsome ((mem_added ho).1 hc').2

/-- What is listed under a name is what happened to the entity. -/
theorem change?_eq (hb : base.names.Nodup) (ho : other.names.Nodup)
    (h : base.changes other = .ok diff) (n : EntityName) :
    diff.change? n = (deltaOf? base other n).map (⟨n, ·⟩) := by
  have hnodup := changes_names_nodup hb ho h
  unfold SceneDiff.change?
  rw [find?_reverse_of_nodup hnodup]
  refine Option.ext fun c => ?_
  rw [find?_eq_some_of_nodup hnodup, mem_changes hb ho h, Option.map_eq_some_iff]
  constructor
  · rintro ⟨hd, rfl⟩
    exact ⟨c.delta, hd, rfl⟩
  · rintro ⟨d, hd, rfl⟩
    exact ⟨hd, rfl⟩

end Snapshot

end SceneMerge
