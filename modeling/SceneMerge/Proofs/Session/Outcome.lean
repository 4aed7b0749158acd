/-
A merge from end to end. Snapshots whose names are distinct are compared,
the proposals become an operation, its conflicts are decided one by one,
and one pass over the live scene that starts out from the target makes of
every entity what is to become of it: `merge_outcome`. Nothing on the way is
refused, whatever the decisions are and whatever layers and groups list.
-/
import SceneMerge.Proofs.Review.Merged
import SceneMerge.Proofs.Scene.Reachable
import SceneMerge.Proofs.Session.Pass

namespace SceneMerge

/-- A first pass whose actions are granted is granted, and makes of the
entities what the actions make of them. -/
theorem Host.apply_ok {op : Operation} (hm : op.ensureMutable = .ok ())
    (happlied : op.applied = []) {l l₁ : LiveScene} (ht : l.transaction = none)
    (hruns : Runs op (op.due op.order) (l.begun s!"Merge {op.sourcePath}") l₁)
    (hl₁ : l₁.Open) :
    ∃ report op' l', (Host.alone.apply :
        EStateM Halt (Operation × LiveScene) ApplyReport) (op, l)
          = .ok report (op', l')
      ∧ ∀ n, l'.scene.entity? n = l₁.scene.entity? n := by
  have hpending : op.pending = op.due op.order := by
    simp [Operation.pending, Operation.due, happlied]
  rw [← hpending] at hruns
  obtain ⟨report, p, l', happly, -, hscene, -⟩ := apply_pass hm ht hruns hl₁
  refine ⟨report, _, l', happly, fun n => ?_⟩
  rw [hscene]
  rfl

-- ============================================================== decisions

namespace Operation

/-- The decision on the one conflict that there is at a place. -/
def Decision (op : Operation) (ρ : ActionId → Resolution) (node : NodePath)
    (r : Resolution) : Prop :=
  ∃ id c, op.ConflictAt node id c
    ∧ (∀ id' c', op.ConflictAt node id' c' → id' = id) ∧ ρ id = r

variable {op op' : Operation} {ps : List Proposal} {ρ : ActionId → Resolution}

/-- Operations that are laid out alike have their conflicts at the same
places. -/
theorem ConflictAt.of_laidOut (h : op.LaidOut ps) (h' : op'.LaidOut ps)
    (ho : op'.order = op.order) {node : NodePath} {id : ActionId} {c : Conflict}
    (hat : op'.ConflictAt node id c) : ∃ c', op.ConflictAt node id c' := by
  obtain ⟨i, hi', rfl⟩ := List.getElem_of_mem hat.mem_order
  have hips : i < ps.length := h'.represents.length_eq ▸ hi'
  have hi : i < op.order.length := ho ▸ hi'
  have hid : op'.order[i] = op.order[i] := by simp only [ho]
  obtain ⟨c', hat', -⟩ := (h.getElem hi hips).exists_conflictAt
    (List.getElem_mem hi) ((h'.getElem hi' hips).place hat)
  exact ⟨c', hid ▸ hat'⟩

/-- Once all conflicts are decided, the decisions are those that were
made. -/
theorem decides_decision (h : op.LaidOut ps) (hap : ps.Pairwise Proposal.Apart)
    (hrev : Reviewed ps op op')
    (hconflicts : ∀ j, op'.conflict? j = (op.conflict? j).map fun c =>
      if j ∈ op.conflicts then { c with resolution := ρ j } else c) :
    op'.Decides (op.Decision ρ) := by
  intro node id c' hat'
  obtain ⟨c, hat⟩ := hat'.of_laidOut h hrev.laidOut hrev.order
  have hc' := hat'.conflict?
  rw [hconflicts, hat.conflict?, Option.map_some, if_pos hat.1] at hc'
  cases hc'
  exact ⟨id, c, hat, fun _ _ h' => h.conflictAt_unique hap h' hat, rfl⟩

/-- A conflict that is listed is in the order and has something to be decided. -/
theorem of_mem_conflicts {id : ActionId} (h : id ∈ op.conflicts) :
    id ∈ op.order ∧ ∃ c, op.conflict? id = some c := by
  obtain ⟨hmem, hsome⟩ := List.mem_filter.1 h
  exact ⟨hmem, Option.isSome_iff_exists.1 hsome⟩

/-- One pass over the live scene that starts out from the target is granted, and
makes of every entity what the three versions and the decisions say. -/
theorem LaidOut.apply_merged {base source target : Snapshot} {ours theirs : SceneDiff}
    {decision : NodePath → Resolution → Prop}
    (h : op.LaidOut (Proposal.threeWay ours theirs target)) (hop : op.Decides decision)
    (hb : base.names.Nodup) (hs : source.names.Nodup) (ht : target.names.Nodup)
    (ho : base.changes source = .ok ours) (hth : base.changes target = .ok theirs)
    (hm : op.ensureMutable = .ok ()) (happlied : op.applied = []) :
    ∃ report op' l', (Host.alone.apply :
        EStateM Halt (Operation × LiveScene) ApplyReport)
          (op, { scene := ⟨target.entities, target.metadata.prune⟩ })
        = .ok report (op', l')
      ∧ ∀ n, Merged base source target decision n (l'.scene.entity? n) := by
  let l : LiveScene := { scene := ⟨target.entities, target.metadata.prune⟩ }
  have hopen : (l.begun s!"Merge {op.sourcePath}").Open := ⟨ht, _, rfl⟩
  obtain ⟨l₁, hruns, hl₁, hmerged⟩ :=
    Proposal.runs_threeWay hop hb hs ht ho hth h hopen fun n => rfl
  obtain ⟨report, op', l', happly, hsame⟩ :=
    Host.apply_ok hm happlied (l := l) rfl hruns hl₁
  refine ⟨report, op', l', happly, fun n => ?_⟩
  rw [hsame]
  exact hmerged n

end Operation

-- ==================================================================== result

/-- Merging snapshots with distinct names is granted from end to end, and
makes of every entity of the target what the three versions and the
decisions say. -/
theorem merge_outcome (base source target : Snapshot) (options : MergeOptions)
    (ρ : ActionId → Resolution) (hb : base.names.Nodup)
    (hs : source.names.Nodup) (ht : target.names.Nodup) :
    ∃ op op' l, Operation.construct source (some base) target options = .ok op
      ∧ Operation.decideAll ρ op.conflicts op = .ok op'
      ∧ LiveScene.ofSnapshot target = .ok l
      ∧ ∃ report op'' l', (Host.alone.apply :
            EStateM Halt (Operation × LiveScene) ApplyReport) (op', l)
              = .ok report (op'', l')
          ∧ ∀ n, Merged base source target (op.Decision ρ) n
            (l'.scene.entity? n) := by
  obtain ⟨ours, theirs, ho, hth, hcon⟩ :=
    Operation.construct_threeWay hb hs ht options
  obtain ⟨hlaid, -, happlied⟩ := Operation.laidOut_threeWay hb hs ht ho hth options
    (Proposal.memberships options ours.memberships theirs.memberships)
  -- no two conflicts are at one place, so a decision is known by its place
  have hap := Proposal.pairwise_apart_threeWay hb hs ht ho hth
  have hstands := Operation.stands_construct hcon
  generalize ((Operation.blank source base.path options).proposeAll
    (Proposal.threeWay ours theirs target)).addMemberships
      (Proposal.memberships options ours.memberships theirs.memberships) = op
    at *
  obtain ⟨reviewed, hdecide, hrev, hdecided⟩ := Operation.decideAll_spec ρ op.conflicts
    hlaid hstands.ensureMutable fun _ hid => Operation.of_mem_conflicts hid
  have hdecides := Operation.decides_decision hlaid hap hrev hdecided
  have hl := LiveScene.ofSnapshot_eq ht
  exact ⟨op, reviewed, _, hcon, hdecide, hl, hrev.laidOut.apply_merged hdecides hb hs ht
    ho hth hrev.open' (hrev.applied.trans happlied)⟩

/-- Two sides set the brightness of a light, and the source wins. -/
theorem merge_outcome_brightness :
    let light (value : String) : Entity :=
      ({ name := "light" } : Entity).withKeyValue "brightness" value
    let scene (path value : String) : Snapshot := ⟨path, [light value], {}⟩
    (scene "base" "200").names.Nodup ∧ (scene "source" "300").names.Nodup
      ∧ (scene "target" "400").names.Nodup
      ∧ ∃ op op' l, Operation.construct (scene "source" "300")
            (some (scene "base" "200")) (scene "target" "400") {} = .ok op
          ∧ Operation.decideAll (fun _ => .applySource) op.conflicts op = .ok op'
          ∧ LiveScene.ofSnapshot (scene "target" "400") = .ok l
          ∧ ∃ report op'' l', (Host.alone.apply :
                EStateM Halt (Operation × LiveScene) ApplyReport) (op', l)
                  = .ok report (op'', l')
              ∧ (l'.scene.entity? "light").bind (·.value? "brightness")
                = some "300" := by
  intro light scene
  have hnames : ∀ path value, (scene path value).names.Nodup :=
    fun _ _ => List.nodup_singleton _
  have hvalue : ∀ value, (light value).value? "brightness" = some value := by
    intro value
    rw [Entity.value?_withKeyValue, if_pos rfl]
  obtain ⟨op, op', l, hcon, hdecide, hl, report, op'', l', happly, hmerged⟩ :=
    merge_outcome (scene "base" "200") (scene "source" "300")
      (scene "target" "400") {} (fun _ => .applySource) (hnames _ _)
      (hnames _ _) (hnames _ _)
  refine ⟨hnames _ _, hnames _ _, hnames _ _, op, op', l, hcon, hdecide, hl,
    report, op'', l', happly, ?_⟩
  obtain ⟨e, he, hkeys⟩ := (hmerged "light").parts (light "200") (light "300")
    (light "400") rfl rfl rfl
  obtain ⟨r, ⟨id, c, -, -, hr⟩, hv⟩ := (hkeys "brightness").contested
    (by rw [hvalue, hvalue]; decide) (by rw [hvalue, hvalue]; decide)
    (by rw [hvalue, hvalue]; decide)
  rw [he, Option.bind_some, hv, if_pos hr.symm, hvalue]

end SceneMerge
