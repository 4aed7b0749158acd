/-
Taking snapshots. Populating an operation asks three things in turn: whether the
operation takes changes, whether the snapshots can be compared, and whether any
were taken before. Only then something happens to the operation, and from there
on nothing is refused (`Host.populate_eq`).

Snapshots can be compared if each of them tells its entities apart. The base is
read first, then the source and then the target; without a base the target comes
first. The first one that repeats a name is the one that is reported, with the
first name that it repeats (`Proposal.merging_eq_error`).
-/
import SceneMerge.Proofs.Content.Snapshot
import SceneMerge.Proofs.Session.Flight

namespace SceneMerge

-- =================================================================== repetition

namespace Snapshot

variable {s base other : Snapshot} {name : EntityName}

/-- The entities before one of that name have distinct names, and that name is among
them. -/
def FirstRepeat (s : Snapshot) (name : EntityName) : Prop :=
  ∃ earlier later, s.names = earlier ++ name :: later ∧ name ∈ earlier ∧ earlier.Nodup

/-- The name that is found is the first that repeats one before it, in the list or among
those that stand before the list. The induction is on the list, and what was passed
joins those before it. -/
theorem repeatAfter?_eq_some {before names : List EntityName} :
    repeatAfter? before names = some name ↔ ∃ earlier later, names = earlier ++ name :: later
      ∧ (name ∈ earlier ∨ name ∈ before) ∧ earlier.Nodup ∧ ∀ n ∈ earlier, n ∉ before := by
  induction names generalizing before with
  | nil => simp [repeatAfter?]
  | cons n rest ih =>
      unfold repeatAfter?
      -- the first name repeats one, or it is one of those that the rest may repeat
      by_cases hn : n ∈ before
      · rw [if_pos hn]
        constructor
        · rintro ⟨⟩
          exact ⟨[], rest, rfl, .inr hn, .nil, List.forall_mem_nil _⟩
        · rintro ⟨earlier, later, hsplit, -, -, hfresh⟩
          cases earlier with
          | nil =>
              cases hsplit
              rfl
          | cons m earlier =>
              cases hsplit
              exact absurd hn (hfresh n List.mem_cons_self)
      · rw [if_neg hn, ih]
        constructor
        · rintro ⟨earlier, later, rfl, hname, hnodup, hfresh⟩
          have hhead : n ∉ earlier := fun hmem => hfresh n hmem List.mem_cons_self
          refine ⟨n :: earlier, later, rfl, ?_, List.nodup_cons.2 ⟨hhead, hnodup⟩, ?_⟩
          · rcases hname with hname | hname
            · exact .inl (List.mem_cons_of_mem _ hname)
            · rcases List.mem_cons.1 hname with rfl | hname
              · exact .inl List.mem_cons_self
              · exact .inr hname
          · intro m hm
            rcases List.mem_cons.1 hm with rfl | hm
            · exact hn
            · exact fun hb => hfresh m hm (List.mem_cons_of_mem _ hb)
        · rintro ⟨earlier, later, hsplit, hname, hnodup, hfresh⟩
          cases earlier with
          | nil =>
              cases hsplit
              exact absurd (hname.resolve_left List.not_mem_nil) hn
          | cons m earlier =>
              cases hsplit
              obtain ⟨hhead, hnodup⟩ := List.nodup_cons.1 hnodup
              refine ⟨earlier, later, rfl, ?_, hnodup, fun m hm hb => ?_⟩
              · rcases hname with hname | hname
                · rcases List.mem_cons.1 hname with rfl | hname
                  · exact .inr List.mem_cons_self
                  · exact .inl hname
                · exact .inr (List.mem_cons_of_mem _ hname)
              · rcases List.mem_cons.1 hb with rfl | hb
                · exact hhead hm
                · exact hfresh m (List.mem_cons_of_mem _ hm) hb

/-- A snapshot is found to repeat a name just if that name is its first repetition. -/
theorem repeated?_eq_some : s.repeated? = some name ↔ s.FirstRepeat name := by
  rw [repeated?, repeatAfter?_eq_some, FirstRepeat]
  simp

/-- How the snapshot fails to tell its entities apart, if it does. -/
def ambiguity? (s : Snapshot) : Option AmbiguousIdentity :=
  s.repeated?.map (⟨s.path, ·⟩)

/-- A snapshot tells its entities apart just if no name is repeated. -/
theorem ambiguity?_eq_none : s.ambiguity? = none ↔ s.names.Nodup := by
  rw [ambiguity?, Option.map_eq_none_iff, repeated?_eq_none]

/-- Otherwise it is reported with its path and the first name that is repeated. -/
theorem ambiguity?_eq_some {e : AmbiguousIdentity} :
    s.ambiguity? = some e ↔ e.snapshot = s.path ∧ s.FirstRepeat e.name := by
  obtain ⟨path, name⟩ := e
  rw [ambiguity?, Option.map_eq_some_iff]
  constructor
  · rintro ⟨n, hn, heq⟩
    cases heq
    exact ⟨rfl, repeated?_eq_some.1 hn⟩
  · rintro ⟨rfl, hname⟩
    exact ⟨name, repeated?_eq_some.2 hname, rfl⟩

-- ================================================================== comparison

/-- Of two snapshots that are compared the base is read first. -/
theorem changes_cases (base other : Snapshot) :
    (∃ e, [base, other].findSome? ambiguity? = some e ∧ base.changes other = .error e)
      ∨ [base, other].findSome? ambiguity? = none ∧ ∃ diff, base.changes other = .ok diff := by
  have hcheck : ∀ s : Snapshot, s.checkNames
      = match s.ambiguity? with | some e => .error e | none => .ok () := by
    intro s
    unfold checkNames ambiguity?
    cases s.repeated? <;> rfl
  unfold changes Matching.ofEntities
  rw [hcheck base, hcheck other, List.findSome?_cons, List.findSome?_cons]
  cases base.ambiguity? with
  | some e => exact .inl ⟨e, rfl, rfl⟩
  | none =>
      cases other.ambiguity? with
      | some e => exact .inl ⟨e, rfl, rfl⟩
      | none => exact .inr ⟨rfl, _, rfl⟩

/-- The snapshots that take part in a merge, in the order in which they are read. -/
def participants (source : Snapshot) (base? : Option Snapshot) (target : Snapshot) :
    List Snapshot :=
  match base? with
  | some base => [base, source, target]
  | none => [target, source]

end Snapshot

/-- It is about the first of the snapshots that repeats a name, and about the first name
that is repeated there. -/
def AmbiguousIdentity.FirstOf (e : AmbiguousIdentity) (snapshots : List Snapshot) : Prop :=
  ∃ earlier s later, snapshots = earlier ++ s :: later
    ∧ (e.snapshot = s.path ∧ s.FirstRepeat e.name) ∧ ∀ t ∈ earlier, t.names.Nodup

namespace Proposal

variable {source target : Snapshot} {base? : Option Snapshot}

/-- What is proposed to merge snapshots, with the membership changes of the source and
of the target. -/
def merging (source : Snapshot) (base? : Option Snapshot) (target : Snapshot) :
    Except AmbiguousIdentity
      (List Proposal × List MembershipChange × List MembershipChange) := do
  match base? with
  | some base =>
      let ours ← base.changes source
      let theirs ← base.changes target
      return (threeWay ours theirs target, ours.memberships, theirs.memberships)
  | none =>
      let diff ← target.changes source
      return (twoWay diff target, diff.memberships, [])

/-- The setup is ambiguous just if some participant is, in the order in which they are
read, and the report is that of the first one. -/
theorem merging_cases (source : Snapshot) (base? : Option Snapshot) (target : Snapshot) :
    (∃ e, (Snapshot.participants source base? target).findSome? Snapshot.ambiguity? = some e
        ∧ merging source base? target = .error e)
      ∨ (Snapshot.participants source base? target).findSome? Snapshot.ambiguity? = none
        ∧ ∃ plan, merging source base? target = .ok plan := by
  cases base? with
  | none =>
      rcases target.changes_cases source with ⟨e, hfirst, herror⟩ | ⟨hnone, diff, hdiff⟩
      · exact .inl ⟨e, hfirst, by rw [merging, herror]; rfl⟩
      · exact .inr ⟨hnone, (twoWay diff target, diff.memberships, []), by
          rw [merging, hdiff]; rfl⟩
  | some base =>
      rcases base.changes_cases source with ⟨e, hfirst, herror⟩ | ⟨hnone, ours, hours⟩
      · refine .inl ⟨e, ?_, by rw [merging, herror]; rfl⟩
        show ([base, source] ++ [target]).findSome? Snapshot.ambiguity? = some e
        rw [List.findSome?_append, hfirst]
        rfl
      · obtain ⟨hbase, hsource⟩ : base.ambiguity? = none ∧ source.ambiguity? = none := by
          simpa using hnone
        -- the base is read a second time, to no other end
        have hskip : (Snapshot.participants source (some base) target).findSome?
            Snapshot.ambiguity? = [base, target].findSome? Snapshot.ambiguity? := by
          simp [Snapshot.participants, hbase, hsource]
        rw [hskip]
        rcases base.changes_cases target with ⟨e, hfirst, herror⟩ | ⟨hnone', theirs, htheirs⟩
        · exact .inl ⟨e, hfirst, by rw [merging, hours, herror]; rfl⟩
        · exact .inr ⟨hnone', (threeWay ours theirs target, ours.memberships,
            theirs.memberships), by rw [merging, hours, htheirs]; rfl⟩

/-- Merging fails on the first of the snapshots that repeats a name. -/
theorem merging_eq_error {e : AmbiguousIdentity} : merging source base? target = .error e
    ↔ e.FirstOf (Snapshot.participants source base? target) := by
  simp only [AmbiguousIdentity.FirstOf, ← Snapshot.ambiguity?_eq_some,
    ← Snapshot.ambiguity?_eq_none]
  rw [← List.findSome?_eq_some_iff]
  rcases merging_cases source base? target with ⟨e', hsome, herror⟩ | ⟨hnone, plan, hok⟩
  · rw [herror, hsome, Except.error.injEq, Option.some.injEq]
  · rw [hok, hnone]
    exact ⟨nofun, nofun⟩

/-- Snapshots can be compared just if each of them has distinct names. -/
theorem exists_merging : (∃ plan, merging source base? target = .ok plan)
    ↔ ∀ s ∈ Snapshot.participants source base? target, s.names.Nodup := by
  simp only [← Snapshot.ambiguity?_eq_none]
  rw [← List.findSome?_eq_none_iff]
  rcases merging_cases source base? target with ⟨e, hsome, herror⟩ | ⟨hnone, plan, hok⟩
  · rw [herror, hsome]
    exact ⟨nofun, nofun⟩
  · exact ⟨fun _ => hnone, fun _ => ⟨plan, hok⟩⟩

/-- What is proposed is the changes of one snapshot or of two. -/
theorem of_merging_ok {ps : List Proposal} {ours theirs : List MembershipChange}
    (h : merging source base? target = .ok (ps, ours, theirs)) :
    (∃ diff, ps = twoWay diff target) ∨ ∃ ours theirs, ps = threeWay ours theirs target := by
  cases base? with
  | none =>
      rw [merging] at h
      cases hdiff : target.changes source with
      | error e => rw [hdiff] at h; cases h
      | ok diff =>
          rw [hdiff] at h
          cases h
          exact .inl ⟨diff, rfl⟩
  | some base =>
      rw [merging] at h
      cases hours : base.changes source with
      | error e => rw [hours] at h; cases h
      | ok ours =>
          rw [hours] at h
          cases htheirs : base.changes target with
          | error e => rw [htheirs] at h; cases h
          | ok theirs =>
              rw [htheirs] at h
              cases h
              exact .inr ⟨ours, theirs, rfl⟩

end Proposal

-- =================================================================== populating

namespace Host

variable {σ : Type} (h : Host σ)

/-- A difference that cannot be taken refuses the call that asked for it, before
anything was changed. -/
theorem difference_eq (base other : Snapshot) (s : σ) :
    (difference base other : EStateM Halt σ SceneDiff) s = match base.changes other with
      | .ok diff => .ok diff s
      | .error e => .error (.refused (.setup e)) s := by
  unfold difference
  cases base.changes other <;> rfl

/-- What is proposed once the operation is marked as populated. -/
private theorem marked_eq (next : EStateM Halt σ Unit) (s : σ) :
    (h.look >>= fun op => orRefuse op.markPopulated >>= fun op =>
        h.store op >>= fun _ => next) s
      = match (h.read s).markPopulated with
        | .ok op => next (h.write op s)
        | .error e => .error (.refused e) s := by
  rw [bind_ok h.look_eq]
  cases hmark : (h.read s).markPopulated with
  | error e => exact bind_error (orRefuse_error rfl)
  | ok op =>
      have hstore : h.store op s = .ok () (h.write op s) := rfl
      rw [bind_ok (orRefuse_ok rfl), bind_ok hstore]

/-- Populating makes every check before it changes anything. -/
theorem populate_eq (source : Snapshot) (base? : Option Snapshot) (target : Snapshot) (s : σ) :
    h.populate source base? target s
      = match (h.read s).ensureMutable, Proposal.merging source base? target,
          (h.read s).markPopulated with
        | .error e, _, _ => .error (.refused e) s
        | .ok _, .error e, _ => .error (.refused (.setup e)) s
        | .ok _, .ok _, .error e => .error (.refused e) s
        | .ok _, .ok (ps, ours, theirs), .ok op =>
            h.classify ps ours theirs (h.write op s) := by
  unfold populate Proposal.merging
  rw [bind_ok h.look_eq]
  cases hm : (h.read s).ensureMutable with
  | error e => exact bind_error (orRefuse_error rfl)
  | ok =>
      rw [bind_ok (orRefuse_ok rfl)]
      -- without a base one difference is asked for, and with one the second is asked
      -- for once the first was taken
      cases base? with
      | none =>
          simp only
          cases hdiff : target.changes source with
          | error e =>
              refine (bind_error ?_).trans rfl
              rw [difference_eq, hdiff]
          | ok diff =>
              have hdone : (difference target source : EStateM Halt σ SceneDiff) s
                  = .ok diff s := by
                rw [difference_eq, hdiff]
              rw [bind_ok hdone]
              refine (h.marked_eq _ s).trans ?_
              cases (h.read s).markPopulated <;> rfl
      | some base =>
          simp only
          cases hours : base.changes source with
          | error e =>
              refine (bind_error ?_).trans rfl
              rw [difference_eq, hours]
          | ok ours =>
              have hdone : (difference base source : EStateM Halt σ SceneDiff) s
                  = .ok ours s := by
                rw [difference_eq, hours]
              rw [bind_ok hdone]
              cases htheirs : base.changes target with
              | error e =>
                  refine (bind_error ?_).trans rfl
                  rw [difference_eq, htheirs]
              | ok theirs =>
                  have hdone : (difference base target : EStateM Halt σ SceneDiff) s
                      = .ok theirs s := by
                    rw [difference_eq, htheirs]
                  rw [bind_ok hdone]
                  refine (h.marked_eq _ s).trans ?_
                  cases (h.read s).markPopulated <;> rfl

end Host

end SceneMerge
