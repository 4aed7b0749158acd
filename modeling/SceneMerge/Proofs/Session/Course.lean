/-
A merge can always be applied to its target. However its conflicts are
decided and its changes are switched, and however often it is applied in
between, every pass over the live scene that started out from the target is
granted: `apply_granted`.

# The invariant of a run

Reviews do not change what the operation lists, and a pass that is granted
adds to what was applied (`Course`). What was applied is part of a plan, so
whatever is still pending is possible, one after the other
(`Progress.runs`), and once it was run the scene has come to what was
applied by then (`Course.apply`).
-/
import SceneMerge.Proofs.Review.Progress
import SceneMerge.Proofs.Scene.Reachable
import SceneMerge.Proofs.Session.Pass

namespace SceneMerge

open Deed

-- ================================================================ a pass

namespace Operation

variable {op op' : Operation}

/-- What the actions at `ids` do. -/
def deedsOf (op : Operation) (ids : List ActionId) : List Deed :=
  ids.filterMap op.deed?

/-- The membership changes at positions. -/
def changesAt (op : Operation) (indices : List Nat) : List MembershipChange :=
  indices.filterMap fun i => (op.memberships.map (·.change))[i]?

/-- The actions that are switched on, in order. -/
def chosen (op : Operation) : List ActionId :=
  op.order.filter fun id => (op.action? id).any (·.active)

/-- What one series does, and then another. -/
theorem deedsOf_append (ids ids' : List ActionId) :
    op.deedsOf (ids ++ ids') = op.deedsOf ids ++ op.deedsOf ids' :=
  List.filterMap_append

/-- Neither reviews nor passes change what actions do. -/
theorem Kin.deedsOf (h : op.Kin op') (ids : List ActionId) :
    op'.deedsOf ids = op.deedsOf ids :=
  List.filterMap_congr fun id _ => h.deed? id

/-- What is planned stays planned, since the order and all deeds are the same. -/
theorem Kin.planned (h : op.Kin op') {target : Snapshot} (hp : op.Planned target) :
    op'.Planned target where
  distinct := h.order ▸ hp.distinct
  deeds id hid := by
    rw [h.deed?]
    exact hp.deeds id (h.order ▸ hid)
  plan n := by
    show Plan _ ((op'.deedsOf op'.order).filter _)
    rw [h.deedsOf, h.order]
    exact hp.plan n

/-- Some of the actions of the order, each once, come to part of the plan. -/
theorem deedsOf_subperm {ids : List ActionId} (hd : ids.Nodup)
    (hids : ids ⊆ op.order) : (op.deedsOf ids).Subperm (op.deedsOf op.order) := by
  obtain ⟨ids', hperm, hsub⟩ := List.subperm_of_subset hd hids
  exact ⟨_, hperm.filterMap op.deed?, hsub.filterMap op.deed?⟩

/-- What is pending is what was chosen and not applied yet. -/
theorem pending_ids (op : Operation) :
    op.pending.map (·.1) = op.chosen.filter (· ∉ op.applied) := by
  have hactive : ∀ ids : List ActionId,
      (op.due ids).map (·.1) = ids.filter fun id => (op.action? id).any (·.active) := by
    intro ids
    induction ids with
    | nil => rfl
    | cons id ids ih =>
        rw [due, List.filterMap_cons, List.filter_cons, ← ih]
        cases op.action? id with
        | none => rfl
        | some a => cases ha : a.active <;> simp [ha, due]
  show (op.due _).map (·.1) = _
  rw [hactive, chosen, List.filter_filter, List.filter_filter]
  exact List.filter_congr fun id _ => Bool.and_comm _ _

/-- What is pending is an action of the operation. -/
theorem of_mem_pending {id : ActionId} {a : Action} (h : (id, a) ∈ op.pending) :
    op.action? id = some a := by
  obtain ⟨id', -, h⟩ := List.mem_filterMap.1 h
  obtain ⟨a', ha, h⟩ := Option.bind_eq_some_iff.1 h
  split at h
  · cases h
    exact ha
  · cases h

/-- A membership change is pending if it is switched on and was not made yet. -/
theorem mem_pendingMemberships {i : Nat} {c : MembershipChange} :
    (i, c) ∈ op.pendingMemberships ↔ ∃ m, op.memberships[i]? = some m
      ∧ m.active = true ∧ i ∉ op.appliedMemberships ∧ m.change = c := by
  rw [pendingMemberships, List.mem_filterMap]
  constructor
  · rintro ⟨⟨m, j⟩, hm, h⟩
    simp only at h
    split at h
    · next hpending =>
        cases h
        rw [Bool.and_eq_true, decide_eq_true_eq] at hpending
        exact ⟨m, List.mem_zipIdx_iff_getElem?.1 hm, hpending.1, hpending.2, rfl⟩
    · cases h
  · rintro ⟨m, hm, hactive, hi, rfl⟩
    refine ⟨(m, i), List.mem_zipIdx_iff_getElem?.2 hm, ?_⟩
    simp [hactive, hi]

/-- Membership changes stay at their positions as well. -/
theorem Kin.changesAt (h : op.Kin op') (indices : List Nat) :
    op'.changesAt indices = op.changesAt indices := by
  unfold Operation.changesAt
  rw [h.changes]

/-- Those at one series of positions, and then at another. -/
theorem changesAt_append (indices indices' : List Nat) :
    op.changesAt (indices ++ indices')
      = op.changesAt indices ++ op.changesAt indices' :=
  List.filterMap_append

/-- What is pending is listed at its position. -/
theorem changesAt_pending {items : List (Nat × MembershipChange)}
    (h : items ⊆ op.pendingMemberships) :
    op.changesAt (items.map (·.1)) = items.map (·.2) := by
  have hlisted : ∀ item ∈ items,
      (op.memberships.map (·.change))[item.1]? = some item.2 := by
    intro item hitem
    obtain ⟨m, hm, -, -, hc⟩ := mem_pendingMemberships.1 (h hitem)
    rw [List.getElem?_map, hm, Option.map_some, hc]
  rw [changesAt, List.filterMap_map]
  exact (List.filterMap_congr hlisted).trans
    (congrFun List.filterMap_eq_map' items)

/-- Whatever the positions, what is found there is listed. -/
theorem changesAt_subset (indices : List Nat) :
    op.changesAt indices ⊆ op.memberships.map (·.change) := by
  intro c hc
  obtain ⟨i, -, hi⟩ := List.mem_filterMap.1 hc
  exact List.mem_of_getElem? hi

/-- In particular what is pending is. -/
theorem pendingMemberships_subset :
    op.pendingMemberships.map (·.2) ⊆ op.memberships.map (·.change) := by
  rw [← op.changesAt_pending (List.Subset.refl _)]
  exact op.changesAt_subset _

/-- An operation that took in a pass takes changes. -/
theorem ensureMutable_absorb (h : op.ensureMutable = .ok ()) (p : Pass) :
    (op.absorb p).ensureMutable = .ok () := by
  have hflight : (op.absorb p).inFlight = op.inFlight := rfl
  unfold ensureMutable refusal?
  rw [hflight, not_inFlight_of_ensureMutable h]
  rfl

/-- What was applied by the end of a pass was applied once. -/
theorem nodup_applied (hd : op.order.Nodup) (ha : op.applied.Nodup) :
    (op.applied ++ op.chosen.filter (· ∉ op.applied)).Nodup := by
  refine List.nodup_append.2 ⟨ha, ?_, ?_⟩
  · exact (hd.sublist List.filter_sublist).sublist List.filter_sublist
  · rintro id hid _ hid' rfl
    exact absurd hid (of_decide_eq_true (List.mem_filter.1 hid').2)

/-- What is chosen was applied before the pass or by it. -/
theorem mem_applied {id : ActionId} :
    id ∈ op.applied ++ op.chosen.filter (· ∉ op.applied)
      ↔ id ∈ op.applied ∨ id ∈ op.chosen := by
  rw [List.mem_append, List.mem_filter, decide_eq_true_eq]
  by_cases hid : id ∈ op.applied
  · simp only [hid, true_or]
  · simp only [hid, false_or, not_false_eq_true, and_true]

/-- Only what the order lists can be chosen. -/
theorem chosen_subset : op.chosen ⊆ op.order := List.filter_sublist.subset

/-- What is applied once a pass was run. -/
theorem applied_pending (hd : op.order.Nodup) (ha : op.applied.Nodup)
    (hlisted : op.applied ⊆ op.order) :
    (op.applied ++ op.pending.map (·.1)).Nodup
      ∧ op.applied ++ op.pending.map (·.1) ⊆ op.order := by
  rw [op.pending_ids]
  refine ⟨op.nodup_applied hd ha, List.append_subset.2 ⟨hlisted, fun id hid => ?_⟩⟩
  exact op.chosen_subset (List.mem_of_mem_filter hid)

/-- One more action of the order comes to one more deed of the plan. -/
theorem Planned.next {target : Snapshot} (hp : op.Planned target) {done : List ActionId}
    {id : ActionId} (hnodup : (done ++ [id]).Nodup) (hids : done ++ [id] ⊆ op.order) :
    ∃ d, op.deed? id = some d ∧ op.deedsOf (done ++ [id]) = op.deedsOf done ++ [d]
      ∧ (op.deedsOf done ++ [d]).Subperm (op.deedsOf op.order) := by
  obtain ⟨d, hd⟩ := hp.deeds id (hids (by simp))
  have hone : op.deedsOf (done ++ [id]) = op.deedsOf done ++ [d] := by
    rw [op.deedsOf_append, deedsOf, deedsOf, List.filterMap_cons_some hd,
      List.filterMap_nil]
  refine ⟨d, hd, hone, ?_⟩
  rw [← hone]
  exact op.deedsOf_subperm hnodup hids

end Operation

/-- Actions that were not applied yet are run one after the other. The induction is on
what is still to be run, with the scene and what was applied by then general: the next
deed is part of the plan, so it is possible, and running the action puts what comes of
it. -/
theorem Progress.runs {target : Snapshot} {op : Operation} (hp : op.Planned target)
    {made : List MembershipChange} (todo : List (ActionId × Action))
    (htodo : ∀ x ∈ todo, op.action? x.1 = some x.2) :
    ∀ {done : List ActionId} {l : LiveScene}, (done ++ todo.map (·.1)).Nodup →
      done ++ todo.map (·.1) ⊆ op.order → l.Open →
      Progress target (op.deedsOf done) made l.scene →
      ∃ l', Runs op todo l l' ∧ l'.Open
        ∧ Progress target (op.deedsOf (done ++ todo.map (·.1))) made l'.scene := by
  induction todo with
  | nil =>
      intro done l _ _ hl h
      rw [List.map_nil, List.append_nil]
      exact ⟨l, .nil, hl, h⟩
  | cons x todo ih =>
      obtain ⟨id, a⟩ := x
      intro done l hnodup hids hl h
      have ha := htodo (id, a) List.mem_cons_self
      rw [List.map_cons, List.append_cons] at hnodup hids ⊢
      obtain ⟨d, hd, hone, hsub⟩ := hp.next
        (hnodup.sublist (List.sublist_append_left _ _))
        (List.Subset.trans (List.subset_append_left _ _) hids)
      -- possible, run, and what that did to entities and metadata
      obtain ⟨e?, hmake⟩ := h.possible hp.plan hsub
      obtain ⟨done', l₁, hrun, hl₁, hentity⟩ := Performed.puts_ofAction ha hd hl hmake
      have hmetadata := Performed.lists_ofAction ha hd h.pruned hmake done' l₁ hrun
      have hnext := h.deed hmake hentity hmetadata
      rw [← hone] at hnext
      obtain ⟨l₂, hruns, hl₂, hrest⟩ := ih
        (fun y hy => htodo y (List.mem_cons_of_mem _ hy)) hnodup hids hl₁ hnext
      exact ⟨l₂, .cons hrun hruns, hl₂, hrest⟩

-- ================================================================ a run

/-- The operation came of `op₀` by reviews and passes over the live scene,
which started out from the target. -/
structure Course (target : Snapshot) (op₀ : Operation)
    (p : Operation × LiveScene) : Prop where
  kin : op₀.Kin p.1
  mutable : p.1.ensureMutable = .ok ()
  settled : p.2.transaction = none
  distinct : p.2.scene.names.Nodup
  applied : p.1.applied.Nodup
  listed : p.1.applied ⊆ op₀.order
  progress : Progress target (op₀.deedsOf p.1.applied)
    (op₀.changesAt p.1.appliedMemberships) p.2.scene

namespace Course

variable {target : Snapshot} {op₀ : Operation} {p : Operation × LiveScene}

/-- Reviews do not interfere: they change neither what the operation lists nor what was
applied, and the scene is none of their business. -/
theorem revised (h : Course target op₀ p) {op : Operation} (hop : p.1.Revised op) :
    Course target op₀ (op, p.2) where
  kin := h.kin.trans hop.kin
  mutable := hop.mutable.trans h.mutable
  settled := h.settled
  distinct := h.distinct
  applied := by
    rw [hop.applied]
    exact h.applied
  listed := by
    rw [hop.applied]
    exact h.listed
  progress := by
    rw [hop.applied, hop.memberships]
    exact h.progress

variable {op : Operation} {l : LiveScene}

/-- Running what is pending is granted. -/
theorem runs (hp : op₀.Planned target) (h : Course target op₀ (op, l)) :
    (op.applied ++ op.pending.map (·.1)).Nodup
      ∧ op.applied ++ op.pending.map (·.1) ⊆ op₀.order
      ∧ ∃ l₁, Runs op op.pending (l.begun s!"Merge {op.sourcePath}") l₁ ∧ l₁.Open
        ∧ Progress target (op₀.deedsOf (op.applied ++ op.pending.map (·.1)))
          (op₀.changesAt op.appliedMemberships) l₁.scene := by
  have hkin : op₀.Kin op := h.kin
  have hplanned := hkin.planned hp
  have hopen : (l.begun s!"Merge {op.sourcePath}").Open := ⟨h.distinct, _, rfl⟩
  obtain ⟨hnodup, hlisted⟩ := op.applied_pending hplanned.distinct h.applied
    (hkin.order ▸ h.listed)
  have hprogress : Progress target (op.deedsOf op.applied)
      (op₀.changesAt op.appliedMemberships) (l.begun s!"Merge {op.sourcePath}").scene := by
    rw [hkin.deedsOf]
    exact h.progress
  obtain ⟨l₁, hruns, hl₁, hran⟩ := Progress.runs hplanned op.pending
    (fun x hx => Operation.of_mem_pending hx) hnodup hlisted hopen hprogress
  rw [hkin.deedsOf] at hran
  exact ⟨hnodup, hkin.order ▸ hlisted, l₁, hruns, hl₁, hran⟩

/-- The membership changes that are pending are made as far as their
entities are there. -/
theorem enroll (hp : op₀.Planned target)
    (hc : MembershipChange.Consistent (op₀.memberships.map (·.change)))
    (h : Course target op₀ (op, l)) {ds : List Deed}
    (hsub : ds.Subperm (op₀.deedsOf op₀.order)) {s : Scene}
    (hran : Progress target ds (op₀.changesAt op.appliedMemberships) s) :
    Progress target ds
      (op₀.changesAt (op.appliedMemberships
        ++ (op.pendingMemberships.filter fun item =>
          s.contains item.2.entity).map (·.1)))
      (s.enroll (op.pendingMemberships.map (·.2))) := by
  have hkin : op₀.Kin op := h.kin
  -- what was made and what is pending are some of the changes listed, none of which
  -- contradicts another
  have hconsistent : MembershipChange.Consistent
      (op₀.changesAt op.appliedMemberships ++ op.pendingMemberships.map (·.2)) := by
    rw [← hkin.changesAt]
    rw [← hkin.changes] at hc
    exact hc.subset (List.append_subset.2
      ⟨op.changesAt_subset _, op.pendingMemberships_subset⟩)
  have hpending : op.pendingMemberships.filter (fun item =>
      s.contains item.2.entity) ⊆ op.pendingMemberships := List.filter_sublist.subset
  have hmade := op.changesAt_pending hpending
  rw [hkin.changesAt] at hmade
  rw [op₀.changesAt_append, hmade]
  have henrolled := Progress.enroll hp.plan hsub (op.pendingMemberships.map (·.2))
    hran hconsistent
  rw [List.filter_map] at henrolled
  exact henrolled

/-- A pass is granted. It applies what was chosen and not applied before,
and makes the membership changes that are switched on, were not made before
and whose entities are there. -/
theorem apply (hp : op₀.Planned target)
    (hc : MembershipChange.Consistent (op₀.memberships.map (·.change)))
    (h : Course target op₀ (op, l)) :
    ∃ report op' l', (Host.alone.apply :
        EStateM Halt (Operation × LiveScene) ApplyReport) (op, l)
          = .ok report (op', l')
      ∧ Course target op₀ (op', l')
      ∧ op'.applied = op.applied ++ op.chosen.filter (· ∉ op.applied)
      ∧ op'.appliedMemberships = op.appliedMemberships
        ++ (op.pendingMemberships.filter fun item =>
          l'.scene.contains item.2.entity).map (·.1) := by
  have hkin : op₀.Kin op := h.kin
  obtain ⟨hnodup, hlisted, l₁, hruns, hl₁, hran⟩ := h.runs hp
  obtain ⟨report, pass, l', happly, hsettled, hscene, happlied, hmade⟩ :=
    Host.apply_pass h.mutable h.settled hruns hl₁
  have henrolled := h.enroll hp hc (op₀.deedsOf_subperm hnodup hlisted) hran
  have happlied' : (op.absorb pass).applied
      = op.applied ++ op.pending.map (·.1) := by
    rw [← happlied]
    rfl
  have hmade' : (op.absorb pass).appliedMemberships = op.appliedMemberships
      ++ (op.pendingMemberships.filter fun item =>
        l₁.scene.contains item.2.entity).map (·.1) := by
    rw [← hmade]
    rfl
  -- making membership changes adds and removes no entity, so it does not matter at
  -- which point it is asked who is there
  have hsame : ∀ n, l'.scene.contains n = l₁.scene.contains n := by
    intro n
    rw [hscene]
    rfl
  rw [← hscene, ← happlied', ← hmade'] at henrolled
  rw [← happlied'] at hnodup hlisted
  refine ⟨report, op.absorb pass, l', happly, ⟨hkin.trans (.absorb op pass),
    op.ensureMutable_absorb h.mutable pass, hsettled, ?_, hnodup, hlisted, henrolled⟩,
    ?_, ?_⟩
  · rw [hscene]
    exact hl₁.distinct
  · rw [happlied', op.pending_ids]
  · rw [hmade']
    simp only [hsame]

end Course

-- ================================================================= moves

namespace Move

/-- Deciding a conflict, or switching an action or a membership change. -/
def isReview : Move → Bool
  | .setActive .. | .setMembershipActive .. | .setResolution .. => true
  | _ => false

/-- A review, granted or not, revises the operation and leaves the scene
alone. -/
theorem revised_call {m : Move} (hm : m.isReview = true) (p : Operation × LiveScene) :
    p.1.Revised (finalState (m.call p)).1 ∧ (finalState (m.call p)).2 = p.2 := by
  have hfirst : ∀ {call : EStateM Halt Operation Unit}, Keeps p.1.Revised call →
      p.1.Revised (finalState (onFirst call p)).1 ∧ (finalState (onFirst call p)).2 = p.2 :=
    fun hcall => Keeps.onFirst (Q := (· = p.2)) hcall p ⟨.refl _, rfl⟩
  have hf : Host.alone.Follows Operation.Revised p.1.Revised :=
    fun _ _ hop h => h.trans hop
  -- each review looks, checks and stores, and tells nobody here, where the operation
  -- hosts itself
  cases m with
  | setActive id active =>
      exact hfirst (Host.keeps_switch hf (fun _ _ => Operation.revised_setActive) (.pure _))
  | setMembershipActive index active =>
      exact hfirst (Host.keeps_revise hf pure
        (fun _ _ => Operation.revised_setMembershipActive) (.pure _))
  | setResolution id r =>
      exact hfirst (Host.keeps_revise hf _ (fun _ _ => Operation.revised_setResolution)
        (Host.keeps_emit (.pure _)))
  | _ => cases hm

/-- A series of reviews is a review in all, and leaves the scene alone. -/
theorem revised_play (moves : List Move) (hmoves : ∀ m ∈ moves, m.isReview = true) :
    ∀ p : Operation × LiveScene,
      p.1.Revised (play moves p).1 ∧ (play moves p).2 = p.2 := by
  induction moves with
  | nil => exact fun p => ⟨.refl _, rfl⟩
  | cons m moves ih =>
      intro p
      obtain ⟨hop, hl⟩ := m.revised_call (hmoves m List.mem_cons_self) p
      obtain ⟨hop', hl'⟩ := ih (fun m' hm' => hmoves m' (List.mem_cons_of_mem m hm'))
        (finalState (m.call p))
      exact ⟨hop.trans hop', hl'.trans hl⟩

end Move

namespace Course

variable {target : Snapshot} {op₀ : Operation} {p : Operation × LiveScene}

/-- A review, granted or not, leads from course to course. -/
theorem review (h : Course target op₀ p) {m : Move} (hm : m.isReview = true) :
    Course target op₀ (finalState (m.call p)) := by
  obtain ⟨hop, hl⟩ := m.revised_call hm p
  have hnext := h.revised hop
  rw [← hl] at hnext
  exact hnext

/-- Whatever is reviewed and applied, it is a course. By induction on the moves: each
leads from course to course. -/
theorem play (hp : op₀.Planned target)
    (hc : MembershipChange.Consistent (op₀.memberships.map (·.change)))
    (moves : List Move) (hmoves : ∀ m ∈ moves, m.isReview = true ∨ m = .apply) :
    ∀ {p : Operation × LiveScene}, Course target op₀ p →
      Course target op₀ (Move.play moves p) := by
  induction moves with
  | nil => exact fun h => h
  | cons m moves ih =>
      intro p h
      refine ih (fun m' hm' => hmoves m' (List.mem_cons_of_mem m hm')) ?_
      rcases hmoves m List.mem_cons_self with hm | rfl
      · exact h.review hm
      · obtain ⟨report, op', l', happly, hnext, -⟩ := h.apply hp hc
        have hcall : Move.apply.call p = .ok () (op', l') := bind_ok happly
        rw [hcall]
        exact hnext

/-- In the beginning nothing was applied. -/
theorem start (hfresh : op₀.Fresh) (hm : op₀.ensureMutable = .ok ())
    (ht : target.names.Nodup) :
    Course target op₀ (op₀, { scene := ⟨target.entities, target.metadata.prune⟩ }) where
  kin := .refl op₀
  mutable := hm
  settled := rfl
  distinct := ht
  applied := by
    rw [hfresh.applied]
    exact .nil
  listed := by
    rw [hfresh.applied]
    exact List.nil_subset _
  progress := by
    rw [hfresh.applied, hfresh.memberships]
    exact .start target

end Course

/-- Merging snapshots with distinct names, with or without a base, starts a
course. -/
theorem Operation.construct_course {source target : Snapshot}
    {base? : Option Snapshot} (hb : ∀ base ∈ base?, base.names.Nodup)
    (hs : source.names.Nodup) (ht : target.names.Nodup) (options : MergeOptions) :
    ∃ op l, Operation.construct source base? target options = .ok op
      ∧ LiveScene.ofSnapshot target = .ok l ∧ op.Planned target
      ∧ MembershipChange.Consistent (op.memberships.map (·.change))
      ∧ op.Fresh ∧ Course target op (op, l) := by
  obtain ⟨op, hcon, hplanned, hfresh, hconsistent⟩ :=
    Operation.construct_planned hb hs ht options
  have hl := LiveScene.ofSnapshot_eq ht
  have hm := (Operation.stands_construct hcon).ensureMutable
  exact ⟨op, _, hcon, hl, hplanned, hconsistent, hfresh, .start hfresh hm ht⟩

/-- With a base, what is laid out are the proposals for the changes of both sides. -/
theorem Operation.construct_laidOut {base source target : Snapshot}
    (hb : base.names.Nodup) (hs : source.names.Nodup) (ht : target.names.Nodup)
    (options : MergeOptions) :
    ∃ ours theirs op l, base.changes source = .ok ours ∧ base.changes target = .ok theirs
      ∧ Operation.construct source (some base) target options = .ok op
      ∧ LiveScene.ofSnapshot target = .ok l
      ∧ op.LaidOut (Proposal.threeWay ours theirs target) ∧ op.Undecided
      ∧ op.Planned target
      ∧ MembershipChange.Consistent (op.memberships.map (·.change))
      ∧ op.Fresh ∧ Course target op (op, l) := by
  have hbase : ∀ base' ∈ some base, base'.names.Nodup := by
    intro base' hbase'
    cases hbase'
    exact hb
  obtain ⟨ours, theirs, ho, hth, hcon⟩ := Operation.construct_threeWay hb hs ht options
  obtain ⟨hlaid, hundecided, -⟩ := Operation.laidOut_threeWay hb hs ht ho hth options
    (Proposal.memberships options ours.memberships theirs.memberships)
  obtain ⟨op, l, hcon', hl, hstarts⟩ := Operation.construct_course hbase hs ht options
  cases hcon.symm.trans hcon'
  exact ⟨ours, theirs, _, l, ho, hth, hcon, hl, hlaid, hundecided, hstarts⟩

-- ================================================================ result

/-- However a constructed merge is reviewed, and however often it is applied
to its target in between, applying it once more is granted, and whatever is
switched on is applied by then. -/
theorem apply_granted (source : Snapshot) (base? : Option Snapshot)
    (target : Snapshot) (options : MergeOptions)
    (hb : ∀ base ∈ base?, base.names.Nodup) (hs : source.names.Nodup)
    (ht : target.names.Nodup) :
    ∃ op l, Operation.construct source base? target options = .ok op
      ∧ LiveScene.ofSnapshot target = .ok l
      ∧ ∀ moves : List Move, (∀ m ∈ moves, m.isReview = true ∨ m = .apply) →
        ∃ report p, (Host.alone.apply :
            EStateM Halt (Operation × LiveScene) ApplyReport)
          (Move.play moves (op, l)) = .ok report p
            ∧ (Move.play moves (op, l)).1.chosen ⊆ p.1.applied := by
  obtain ⟨op, l, hcon, hl, hplanned, hconsistent, -, hstart⟩ :=
    Operation.construct_course hb hs ht options
  refine ⟨op, l, hcon, hl, fun moves hmoves => ?_⟩
  have hcourse := hstart.play hplanned hconsistent moves hmoves
  obtain ⟨report, op', l', happly, -, happlied, -⟩ := hcourse.apply hplanned hconsistent
  refine ⟨report, (op', l'), happly, ?_⟩
  intro id hid
  show id ∈ op'.applied
  rw [happlied]
  exact Operation.mem_applied.2 (.inr hid)

/-- Two sides set the brightness of a light. The source wins and is applied,
then the decision is taken back, and what is left is applied again. -/
theorem apply_granted_brightness :
    let light (value : String) : Entity :=
      ({ name := "light" } : Entity).withKeyValue "brightness" value
    let scene (path value : String) : Snapshot := ⟨path, [light value], {}⟩
    let moves : List Move :=
      [.setResolution 2 .applySource, .apply, .setResolution 2 .rejectSource]
    (scene "base" "200").names.Nodup ∧ (scene "source" "300").names.Nodup
      ∧ (scene "target" "400").names.Nodup
      ∧ ∃ op l, Operation.construct (scene "source" "300")
            (some (scene "base" "200")) (scene "target" "400") {} = .ok op
          ∧ LiveScene.ofSnapshot (scene "target" "400") = .ok l
          ∧ ∃ report p, (Host.alone.apply :
              EStateM Halt (Operation × LiveScene) ApplyReport)
            (Move.play moves (op, l)) = .ok report p
              ∧ (Move.play moves (op, l)).1.chosen ⊆ p.1.applied := by
  intro light scene moves
  have hnames : ∀ path value, (scene path value).names.Nodup :=
    fun _ _ => List.nodup_singleton _
  have hbase : ∀ base ∈ some (scene "base" "200"), base.names.Nodup := by
    rintro base ⟨⟩
    exact hnames _ _
  obtain ⟨op, l, hcon, hl, hgranted⟩ := apply_granted (scene "source" "300")
    (some (scene "base" "200")) (scene "target" "400") {} hbase (hnames _ _) (hnames _ _)
  refine ⟨hnames _ _, hnames _ _, hnames _ _, op, l, hcon, hl, hgranted moves ?_⟩
  simp [moves, Move.isReview]

end SceneMerge
