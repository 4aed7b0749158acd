/-
How often a child occurs after a merge. All that is done to the children of an
entity that the three versions have is done by actions that are no conflicts, so
once all of these are applied, whatever is decided on conflicts, the children
are those of the target with all that is proposed for them
(`Operation.countP_chosen`), and that tells how many there are of each
(`children_counted`).
-/
import SceneMerge.Proofs.Review.Tally
import SceneMerge.Proofs.Session.Course

namespace SceneMerge

open Deed

namespace Operation

/-- All actions that are no conflicts are switched on. -/
def PlainActive (op : Operation) : Prop :=
  ∀ id ∈ op.order, ∀ a, op.action? id = some a → a.conflict? = none → a.active = true

variable {base source target : Snapshot} {ours theirs : SceneDiff} {op op' : Operation}
  {id : ActionId} {n : EntityName}

/-- What is proposed is switched on. -/
theorem LaidOut.plainActive {ps : List Proposal} (h : op.LaidOut ps) : op.PlainActive := by
  intro id hid a ha hplain
  obtain ⟨p, -, hrep⟩ := h.exists_proposal hid
  cases p with
  | action a' =>
      obtain ⟨ha', hactive, -⟩ := hrep
      cases ha.symm.trans ha'
      exact hactive
  | conflict =>
      obtain ⟨c, ha', -⟩ := hrep
      cases ha.symm.trans ha'
      cases hplain

/-- Reviews and passes make no conflict of an action. -/
theorem Kin.plain (h : op.Kin op') {a : Action} (ha : op.action? id = some a)
    (hplain : a.conflict? = none) :
    ∃ a', op'.action? id = some a' ∧ a'.conflict? = none := by
  have hcore : (op'.action? id).map Action.core = some a.core := by
    have hall := congrArg (·[id]?) h.cores
    simp only [List.getElem?_map] at hall
    exact hall.trans (congrArg _ ha)
  obtain ⟨a', ha', hcore⟩ := Option.map_eq_some_iff.1 hcore
  refine ⟨a', ha', ?_⟩
  have hnone := a'.conflict?_core
  rw [hcore, a.conflict?_core, hplain] at hnone
  exact Option.map_eq_none_iff.1 hnone.symm

section laidOut

variable (hb : base.names.Nodup) (hs : source.names.Nodup) (ht : target.names.Nodup)
  (ho : base.changes source = .ok ours) (hth : base.changes target = .ok theirs)
  (hlaid : op.LaidOut (Proposal.threeWay ours theirs target))

include hb hs ht ho hth hlaid

/-- Only actions that are no conflicts add and remove children. -/
theorem plain_of_isChild (hid : id ∈ op.order) {d : Deed} (hd : op.deed? id = some d)
    (hchild : d.isChild = true) : ∃ a, op.action? id = some a ∧ a.conflict? = none := by
  obtain ⟨p, hp, hrep⟩ := hlaid.exists_proposal hid
  have hdeed := hrep.deed?.symm.trans hd
  obtain ⟨m, ps, hblock, hp⟩ := Proposal.block_of_mem hb hs ht ho hth hp
  cases p with
  | action a => exact ⟨a, hrep.1, hrep.2.2.2⟩
  | conflict => cases hchild.symm.trans (Proposal.isChild_of_conflict hblock hp hdeed)

/-- Once all actions that are no conflicts are switched on, all that adds and
removes children is chosen. -/
theorem countP_chosen (hkin : op.Kin op') (hactive : op'.PlainActive) {q : Deed → Bool}
    (hq : ∀ d, q d = true → d.isChild = true) (n : EntityName) :
    ((op.deedsOf op'.chosen).filter (·.name == n)).countP q
      = ((op.deedsOf op.order).filter (·.name == n)).countP q := by
  rw [List.countP_filter, List.countP_filter, deedsOf, deedsOf, List.countP_filterMap,
    List.countP_filterMap, chosen, List.countP_filter, hkin.order]
  refine List.countP_congr fun id hid => ?_
  rw [Bool.and_eq_true, and_iff_left_iff_imp]
  intro hcounted
  obtain ⟨d, hd, hdq⟩ : ∃ d, op.deed? id = some d ∧ q d = true := by
    cases hd : op.deed? id with
    | none => rw [hd] at hcounted; cases hcounted
    | some d =>
        rw [hd] at hcounted
        exact ⟨d, rfl, (Bool.and_eq_true_iff.1 hcounted).1⟩
  obtain ⟨a, ha, hplain⟩ := plain_of_isChild hb hs ht ho hth hlaid hid hd (hq d hdq)
  obtain ⟨a', ha', hplain'⟩ := hkin.plain ha hplain
  rw [ha', Option.any_some]
  exact hactive id (hkin.order ▸ hid) a' ha' hplain'

end laidOut

end Operation

/-- What is chosen of a merge makes of an entity that the three versions have one
whose children are counted, if all that is no conflict is chosen. -/
theorem Progress.balanced {base source target : Snapshot} {ours theirs : SceneDiff}
    {op op' : Operation} (hb : base.names.Nodup) (hs : source.names.Nodup)
    (ht : target.names.Nodup) (ho : base.changes source = .ok ours)
    (hth : base.changes target = .ok theirs)
    (hlaid : op.LaidOut (Proposal.threeWay ours theirs target)) (hkin : op.Kin op')
    (hactive : op'.PlainActive) {made : List MembershipChange} {scene : Scene}
    (h : Progress target (op.deedsOf op'.chosen) made scene) {n : EntityName}
    {b s t : Entity} (hbn : base.entity? n = some b) (hsn : source.entity? n = some s)
    (htn : target.entity? n = some t) :
    ∃ e, scene.entity? n = some e ∧ e.Balanced b s t := by
  have hall : (op.deedsOf op.order).filter (·.name == n)
      = (Proposal.parts target n b s t).filterMap Proposal.deed? := by
    rw [Operation.deedsOf, hlaid.filterMap_deed?]
    exact Proposal.deeds_threeWay hb hs ht ho hth hbn hsn htn
  have hchosen : op'.chosen.Nodup := (hkin.order ▸ hlaid.distinct).sublist List.filter_sublist
  have hsub := op.deedsOf_subperm hchosen (hkin.order ▸ op'.chosen_subset)
  have hfits : Fits t ((op.deedsOf op'.chosen).filter (·.name == n)) := by
    refine (Proposal.fits_parts target n b s t).subperm ?_
    rw [← hall]
    exact hsub.filter _
  obtain ⟨e, hmade, hworked⟩ := hfits.makeAll
  have hentity := h.entities n
  rw [htn, hmade] at hentity
  refine ⟨e, (Option.some.inj hentity).symm,
    hworked.balanced target n (fun f => ?_) fun f => ?_⟩
  · rw [Operation.countP_chosen hb hs ht ho hth hlaid hkin hactive
      (fun d => Deed.isChild_of_removes), hall]
  · rw [Operation.countP_chosen hb hs ht ho hth hlaid hkin hactive
      (fun d => Deed.isChild_of_adds), hall]

/-- A first pass of a merge applies what is chosen, so it makes entities whose children
are counted if all that is no conflict is chosen. -/
theorem Course.apply_balanced {base source target : Snapshot} {ours theirs : SceneDiff}
    {op op' : Operation} {l : LiveScene} (hb : base.names.Nodup) (hs : source.names.Nodup)
    (ht : target.names.Nodup) (ho : base.changes source = .ok ours)
    (hth : base.changes target = .ok theirs)
    (hlaid : op.LaidOut (Proposal.threeWay ours theirs target)) (hplanned : op.Planned target)
    (hconsistent : MembershipChange.Consistent (op.memberships.map (·.change)))
    (h : Course target op (op', l)) (happlied : op'.applied = [])
    (hactive : op'.PlainActive) :
    ∃ report p, (Host.alone.apply :
        EStateM Halt (Operation × LiveScene) ApplyReport) (op', l) = .ok report p
      ∧ ∀ n b s t, base.entity? n = some b → source.entity? n = some s →
        target.entity? n = some t → ∃ e, p.2.scene.entity? n = some e ∧ e.Balanced b s t := by
  obtain ⟨report, op'', l', happly, hdone, hdue, -⟩ := h.apply hplanned hconsistent
  refine ⟨report, (op'', l'), happly, fun n b s t hbn hsn htn => ?_⟩
  have hall : op''.applied = op'.chosen := by
    rw [hdue, happlied, List.nil_append]
    exact List.filter_eq_self.2 fun id _ => decide_eq_true List.not_mem_nil
  have hprogress := hdone.progress
  rw [hall] at hprogress
  exact hprogress.balanced hb hs ht ho hth hlaid h.kin hactive hbn hsn htn

-- ================================================================ result

/-- However a constructed merge is reviewed, as long as all of its actions that are no
conflicts are switched on in the end, applying it to its target is granted, and in an
entity that the three versions have every child occurs as often as its numbers in
the three versions tell. As constructed, all of these actions are switched on. -/
theorem children_counted (base source target : Snapshot) (options : MergeOptions)
    (hb : base.names.Nodup) (hs : source.names.Nodup) (ht : target.names.Nodup) :
    ∃ op l, Operation.construct source (some base) target options = .ok op
      ∧ LiveScene.ofSnapshot target = .ok l ∧ op.PlainActive
      ∧ ∀ moves : List Move, (∀ m ∈ moves, m.isReview = true) →
        (Move.play moves (op, l)).1.PlainActive →
        ∃ report p, (Host.alone.apply :
            EStateM Halt (Operation × LiveScene) ApplyReport)
          (Move.play moves (op, l)) = .ok report p
          ∧ ∀ n b s t, base.entity? n = some b → source.entity? n = some s →
            target.entity? n = some t →
            ∃ e, p.2.scene.entity? n = some e ∧ ∀ f, ChildCount (b.fingerprints.count f)
              (s.fingerprints.count f) (t.fingerprints.count f)
              (e.fingerprints.count f) := by
  obtain ⟨ours, theirs, op, l, ho, hth, hcon, hl, hlaid, -, hplanned, hconsistent, hfresh,
    hstart⟩ := Operation.construct_laidOut hb hs ht options
  refine ⟨op, l, hcon, hl, hlaid.plainActive, fun moves hmoves hactive => ?_⟩
  have hcourse := hstart.play hplanned hconsistent moves fun m hm => .inl (hmoves m hm)
  obtain ⟨hrevised, -⟩ := Move.revised_play moves hmoves (op, l)
  obtain ⟨report, p, happly, hbalanced⟩ := hcourse.apply_balanced hb hs ht ho hth hlaid
    hplanned hconsistent (hrevised.applied.trans hfresh.applied) hactive
  refine ⟨report, p, happly, fun n b s t hbn hsn htn => ?_⟩
  obtain ⟨e, he, hcounted⟩ := hbalanced n b s t hbn hsn htn
  exact ⟨e, he, hcounted.childCount⟩

/-- The source removed one of two equal brushes and the target added another one. -/
theorem children_counted_brushes :
    let brush : ChildNode := ⟨"brush", "cube"⟩
    let crate (k : Nat) : Entity := { name := "crate", children := List.replicate k brush }
    let scene (path : String) (k : Nat) : Snapshot := ⟨path, [crate k], {}⟩
    (scene "base" 2).names.Nodup ∧ (scene "source" 1).names.Nodup
      ∧ (scene "target" 3).names.Nodup
      ∧ ∃ op l, Operation.construct (scene "source" 1) (some (scene "base" 2))
            (scene "target" 3) {} = .ok op
          ∧ LiveScene.ofSnapshot (scene "target" 3) = .ok l
          ∧ ∃ report p, (Host.alone.apply :
              EStateM Halt (Operation × LiveScene) ApplyReport) (op, l) = .ok report p
            ∧ ∃ e, p.2.scene.entity? "crate" = some e
              ∧ e.fingerprints.count brush.fingerprint = 2 := by
  intro brush crate scene
  have hnames : ∀ path k, (scene path k).names.Nodup := fun _ _ => List.nodup_singleton _
  have hcrate : ∀ path k, (scene path k).entity? "crate" = some (crate k) := fun _ _ => rfl
  have hcount : ∀ k, (crate k).fingerprints.count brush.fingerprint = k := by
    intro k
    show ((List.replicate k brush).map ChildNode.fingerprint).count brush.fingerprint = k
    rw [List.map_replicate, List.count_replicate_self]
  obtain ⟨op, l, hcon, hl, hactive, hall⟩ := children_counted (scene "base" 2)
    (scene "source" 1) (scene "target" 3) {} (hnames _ _) (hnames _ _) (hnames _ _)
  obtain ⟨report, p, happly, hcounted⟩ := hall [] (List.forall_mem_nil _) hactive
  obtain ⟨e, he, hchild⟩ := hcounted "crate" (crate 2) (crate 1) (crate 3) (hcrate _ _)
    (hcrate _ _) (hcrate _ _)
  have hmoved := (hchild brush.fingerprint).moved
  rw [hcount, hcount, hcount] at hmoved
  have hbalance := hmoved (by decide)
  exact ⟨hnames _ _, hnames _ _, hnames _ _, op, l, hcon, hl, report, p, happly, e, he,
    by omega⟩

end SceneMerge
