/-
Merges with a base and merges without. Without a base the source is compared
with the target, and all that differs is proposed as an action. With a base that
has what the target has, the target changed nothing, so all that the source
changed is proposed as an action: the two operations are the same but for the
path of the base, and applying either of them turns the target into the source
(`merge_untouched`).

Whether there is a base is decided by populating, from the snapshots it is given.
The operation only remembers the path of the base, and a base may have an empty
path. So an operation whose base path is empty may be one that was merged with a
base, and then it is that of the plain difference exactly if the base proposes
nothing else (`plainDifference_iff`).
-/
import SceneMerge.Proofs.Session.Reordered

namespace SceneMerge

-- ================================================================== proposals

/-- The action that is proposed, if it is not a conflict. -/
def Proposal.action? : Proposal → Option Action
  | .action a => some a
  | .conflict .. => none

/-- Without a base, nothing but actions is proposed. -/
theorem Proposal.exists_action_of_mem_twoWay {diff : SceneDiff} {target : Snapshot}
    {p : Proposal} (hp : p ∈ twoWay diff target) : ∃ a, p = .action a ∧ p.Plain := by
  obtain ⟨change, -, hp⟩ := List.mem_flatMap.1 hp
  unfold plain at hp
  split at hp
  · rw [List.mem_singleton.1 hp]
    exact ⟨_, rfl, rfl, rfl, rfl⟩
  · rw [List.mem_singleton.1 hp]
    exact ⟨_, rfl, rfl, rfl, rfl⟩
  · rcases List.mem_append.1 hp with hp | hp
    · obtain ⟨c, -, rfl⟩ := List.mem_map.1 hp
      exact ⟨_, rfl, by cases c <;> exact ⟨rfl, rfl, rfl⟩⟩
    · obtain ⟨c, -, rfl⟩ := List.mem_map.1 hp
      exact ⟨_, rfl, by cases c <;> exact ⟨rfl, rfl, rfl⟩⟩

-- ================================================================= operations

namespace Operation

variable {op : Operation} {ps qs : List Proposal} {diff : SceneDiff} {target : Snapshot}

/-- Every action stands on its own and is switched on, and so is every membership
change; none is a conflict. -/
structure AllPlain (op : Operation) : Prop where
  order : op.order = List.range op.actions.length
  actions : ∀ a ∈ op.actions, a.active = true ∧ a.owner? = none ∧ a.conflict? = none
  memberships : ∀ m ∈ op.memberships, m.active = true

/-- The operation holds what comes of a plain difference that leads from the target
to the source: no conflict, on top the actions that classifying it gives, in their
order, and its membership changes. -/
structure OfDifference (diff : SceneDiff) (target : Snapshot) (op : Operation) : Prop where
  conflicts : op.conflicts = []
  actions : op.order.map op.action? = (Proposal.twoWay diff target).map Proposal.action?
  memberships : op.memberships
    = (Proposal.memberships op.options diff.memberships []).map (⟨·, true⟩)

/-- Where no action has a conflict none is listed. -/
theorem AllPlain.conflicts (h : op.AllPlain) : op.conflicts = [] := by
  refine List.filter_eq_nil_iff.2 fun id _ => ?_
  cases ha : op.action? id with
  | none => simp [conflict?, ha]
  | some a =>
      obtain ⟨-, -, hplain⟩ := h.actions a (List.mem_of_getElem? ha)
      simp [conflict?, ha, hplain]

/-- Proposals that are plain actions are added behind the others, where each has the
next id. -/
theorem AllPlain.proposeAll (hps : ∀ p ∈ ps, ∃ a, p = .action a ∧ p.Plain) :
    ∀ {op : Operation}, op.AllPlain → (op.proposeAll ps).AllPlain := by
  induction ps with
  | nil => exact fun h => h
  | cons p ps ih =>
      intro op h
      obtain ⟨a, rfl, ha⟩ := hps p List.mem_cons_self
      have hadded : (op.addAction a).AllPlain := by
        refine ⟨?_, fun b hb => ?_, h.memberships⟩
        · show op.order ++ [op.actions.length] = List.range (op.actions ++ [a]).length
          rw [h.order, List.length_append, List.length_singleton, List.range_succ]
        · rcases List.mem_append.1 hb with hb | hb
          · exact h.actions b hb
          · rw [List.mem_singleton.1 hb]
            exact ha
      exact ih (fun q hq => hps q (List.mem_cons_of_mem _ hq)) hadded

/-- Membership changes are added switched on, and no action is touched. -/
theorem AllPlain.addMemberships (changes : List MembershipChange) (h : op.AllPlain) :
    (op.addMemberships changes).AllPlain :=
  addMemberships_keeps (P := AllPlain) (fun op change h => by
    refine ⟨h.order, h.actions, fun m hm => ?_⟩
    rcases List.mem_append.1 hm with hm | hm
    · exact h.memberships m hm
    · rw [List.mem_singleton.1 hm]) changes h

/-- The path of the base has no part in what is proposed. -/
theorem proposed_basePath (source : Snapshot) (path : String) (options : MergeOptions)
    (ps : List Proposal) (changes : List MembershipChange) :
    ((blank source path options).proposeAll ps).addMemberships changes
      = { ((blank source "" options).proposeAll ps).addMemberships changes with
          basePath := path } := by
  have hps : ∀ (ps : List Proposal) (op : Operation),
      ({ op with basePath := path } : Operation).proposeAll ps
        = { op.proposeAll ps with basePath := path } := by
    intro ps
    induction ps with
    | nil => exact fun op => rfl
    | cons p ps ih =>
        intro op
        -- a proposal is added without a look at the path
        have hone : ({ op with basePath := path } : Operation).propose p
            = { op.propose p with basePath := path } := by
          cases p <;> rfl
        show (({ op with basePath := path } : Operation).propose p).proposeAll ps = _
        rw [hone]
        exact ih _
  have hchanges : ∀ (changes : List MembershipChange) (op : Operation),
      ({ op with basePath := path } : Operation).addMemberships changes
        = { op.addMemberships changes with basePath := path } := by
    intro changes
    induction changes with
    | nil => exact fun op => rfl
    | cons change changes ih => exact fun op => ih (op.addMembership change)
  exact (congrArg (addMemberships · changes) (hps ps (blank source "" options))).trans
    (hchanges changes _)

/-- What is proposed may be reviewed and applied. -/
theorem mutable_proposed (source : Snapshot) (path : String) (options : MergeOptions)
    (ps : List Proposal) (changes : List MembershipChange) :
    (((blank source path options).proposeAll ps).addMemberships changes).ensureMutable
      = .ok () :=
  addMemberships_keeps (P := (·.ensureMutable = .ok ())) (fun _ _ h => h) changes
    (proposeAll_keeps (P := (·.ensureMutable = .ok ()))
      (fun op p h => by cases p <;> exact h) ps rfl)

/-- What stands for actions is these actions. -/
theorem map_action?_of_represents {ids : List ActionId}
    (h : List.Forall₂ op.Represents ids ps) (hps : ∀ p ∈ ps, ∃ a, p = .action a) :
    ids.map op.action? = ps.map Proposal.action? := by
  induction h with
  | nil => rfl
  | cons hrep _ ih =>
      obtain ⟨a, rfl⟩ := hps _ List.mem_cons_self
      rw [List.map_cons, List.map_cons, ih fun q hq => hps q (List.mem_cons_of_mem _ hq)]
      exact congrArg (· :: _) hrep.1

/-- What stands for proposals and is a list of plain actions was proposed as such. -/
theorem eq_of_map_action? {ids : List ActionId} (h : List.Forall₂ op.Represents ids ps)
    (hqs : ∀ q ∈ qs, ∃ a, q = .action a ∧ q.Plain)
    (heq : ids.map op.action? = qs.map Proposal.action?) : ps = qs := by
  induction h generalizing qs with
  | nil =>
      cases qs with
      | nil => rfl
      | cons => cases heq
  | @cons id p ids ps hrep _ ih =>
      cases qs with
      | nil => cases heq
      | cons q qs =>
          obtain ⟨a, rfl, -, -, hplain⟩ := hqs q List.mem_cons_self
          obtain ⟨hone, hrest⟩ := List.cons.inj heq
          have ha : op.action? id = some a := hone
          rw [ih (fun q hq => hqs q (List.mem_cons_of_mem _ hq)) hrest]
          -- a conflict would stand for an action that has one, and no plain action does
          cases p with
          | action b =>
              cases ha.symm.trans hrep.1
              rfl
          | conflict =>
              obtain ⟨c, hc, -⟩ := hrep
              cases ha.symm.trans hc
              cases hplain

/-- Laid out as classifying a plain difference says, the operation holds what comes
of it, and otherwise it does not. -/
theorem LaidOut.ofDifference_iff (h : op.LaidOut ps) {changes : List MembershipChange}
    (hm : op.memberships = changes.map (⟨·, true⟩)) :
    op.OfDifference diff target ↔ ps = Proposal.twoWay diff target
      ∧ changes = Proposal.memberships op.options diff.memberships [] := by
  have hinj : Function.Injective fun c : MembershipChange => (⟨c, true⟩ : MembershipAction) :=
    fun _ _ heq => congrArg MembershipAction.change heq
  constructor
  · intro hop
    exact ⟨eq_of_map_action? h.represents (fun q => Proposal.exists_action_of_mem_twoWay)
      hop.actions, List.map_injective_iff.2 hinj (hm.symm.trans hop.memberships)⟩
  · rintro ⟨rfl, rfl⟩
    refine ⟨List.filter_eq_nil_iff.2 fun id hid => ?_, map_action?_of_represents h.represents
      fun p hp => ?_, hm⟩
    · obtain ⟨p, hp, hrep⟩ := h.exists_proposal hid
      obtain ⟨a, rfl, -, -, hplain⟩ := Proposal.exists_action_of_mem_twoWay hp
      simp [conflict?, hrep.1, hplain]
    · obtain ⟨a, ha, -⟩ := Proposal.exists_action_of_mem_twoWay hp
      exact ⟨a, ha⟩

/-- The path of the base is the one that the merge began with. -/
theorem basePath_proposed (source : Snapshot) (path : String) (options : MergeOptions)
    (ps : List Proposal) (changes : List MembershipChange) :
    (((blank source path options).proposeAll ps).addMemberships changes).basePath = path := by
  rw [proposed_basePath]

/-- Nothing that is proposed alters the options. -/
theorem options_proposed (source : Snapshot) (path : String) (options : MergeOptions)
    (ps : List Proposal) (changes : List MembershipChange) :
    (((blank source path options).proposeAll ps).addMemberships changes).options = options :=
  addMemberships_keeps (P := (·.options = options)) (fun _ _ h => h) changes
    ((blank source path options).options_proposeAll ps)

/-- What comes of the plain difference is laid out, as all that is proposed is plain. -/
theorem laidOut_twoWay (source : Snapshot) (path : String) (options : MergeOptions)
    (diff : SceneDiff) (target : Snapshot) (changes : List MembershipChange) :
    (((blank source path options).proposeAll
      (Proposal.twoWay diff target)).addMemberships changes).LaidOut
        (Proposal.twoWay diff target) := by
  have hplain : ∀ p ∈ Proposal.twoWay diff target, p.Plain := by
    intro p hp
    obtain ⟨a, -, hp⟩ := Proposal.exists_action_of_mem_twoWay hp
    exact hp
  exact laidOut_addMemberships changes (laidOut_proposeAll hplain
    (laidOut_blank source path options) fun _ hid => nomatch hid).1

/-- What is proposed comes of a plain difference exactly if it is what classifying it
gives. -/
theorem ofDifference_proposed {source : Snapshot} {path : String} {options : MergeOptions}
    {changes : List MembershipChange}
    (h : (((blank source path options).proposeAll ps).addMemberships changes).LaidOut ps) :
    (((blank source path options).proposeAll ps).addMemberships changes).OfDifference diff target
      ↔ ps = Proposal.twoWay diff target
        ∧ changes = Proposal.memberships options diff.memberships [] := by
  rw [h.ofDifference_iff (fresh_proposed source path options ps changes).2, options_proposed]

/-- An operation says that it is of two snapshots just if it has no path of a base. -/
theorem isThreeWay_eq_false (op : Operation) :
    op.isThreeWay = false ↔ op.basePath = "" := by
  rw [isThreeWay, Bool.not_eq_false', String.isEmpty_iff]

end Operation

-- ==================================================================== entities

/-- What is chosen where the target changed nothing is the source's. -/
theorem Chosen.of_untouched {α : Type} {alike : α → α → Prop} (heq : Equivalence alike)
    {decision : Resolution → Prop} {b s v : α} (h : Chosen alike decision b s b v) :
    alike v s := by
  by_cases hs : alike s b
  · rw [h.kept hs]
    exact heq.symm hs
  · rw [h.made hs (heq.refl b)]
    exact heq.refl s

/-- The children of an entity whose target changed nothing are those of the source. -/
theorem Entity.Balanced.of_untouched {e s t : Entity} (h : e.Balanced t s t) :
    e.fingerprints.Perm s.fingerprints := by
  refine List.perm_iff_count.2 fun f => ?_
  have hf := h f
  have hlost := Proposal.lostToBoth_le_target t s t f
  omega

/-- Where the target changed nothing, the entity becomes that of the source. -/
theorem EntityOutcome.of_untouched {source target : Snapshot} {accept : Bool}
    {n : EntityName} {e? : Option Entity}
    (h : EntityOutcome target source target accept n e?) : Alike e? (source.entity? n) := by
  by_cases habsent : target.entity? n = none ∨ source.entity? n = none
      ∨ target.entity? n = none
  · exact (h.merged.whole habsent).of_untouched alike_equivalence
  · simp only [not_or, ← ne_eq, Option.ne_none_iff_exists'] at habsent
    obtain ⟨⟨t, ht⟩, ⟨s, hs⟩, -⟩ := habsent
    obtain ⟨e, rfl, hbalanced⟩ := h.balanced t s t ht hs ht
    obtain ⟨_, heq, hvalues⟩ := h.merged.parts t s t ht hs ht
    cases heq
    have hkeys : e.keyValues = s.keyValues :=
      Std.ExtTreeMap.ext_getElem? fun {key} => (hvalues key).of_untouched eq_equivalence
    rw [hs, Alike, Option.rel_some_some, Entity.semanticallyEqual_iff]
    exact ⟨(h.name e rfl).trans (Snapshot.entity?_name hs).symm, hkeys,
      hbalanced.of_untouched⟩

-- =================================================================== snapshots

/-- Snapshots with distinct names differ from others by what is in them, whatever
their paths are. -/
theorem Snapshot.changes_congr {base base' other : Snapshot}
    (he : base.entities = base'.entities) (hm : base.metadata = base'.metadata)
    (hb : base'.names.Nodup) (ho : other.names.Nodup) :
    base.changes other = base'.changes other := by
  obtain ⟨path, entities, metadata⟩ := base
  cases he
  cases hm
  have hb' : (⟨path, base'.entities, base'.metadata⟩ : Snapshot).names.Nodup := hb
  obtain ⟨diff, hdiff, hchanges⟩ := changes_eq_ok hb' ho
  obtain ⟨diff', hdiff', hchanges'⟩ := changes_eq_ok hb ho
  have hmembers := changes_memberships hdiff
  have hmembers' := changes_memberships hdiff'
  obtain ⟨changes, memberships⟩ := diff
  obtain ⟨changes', memberships'⟩ := diff'
  cases hchanges
  cases hchanges'
  cases hmembers
  cases hmembers'
  exact hdiff.trans hdiff'.symm

/-- A snapshot does not differ from itself in its memberships. -/
theorem Snapshot.memberships_self {s : Snapshot} {diff : SceneDiff}
    (h : s.changes s = .ok diff) : diff.memberships = [] := by
  rw [changes_memberships h, Metadata.changes]
  simp

-- ====================================================================== merges

namespace Operation

section untouched

variable {source target : Snapshot} (hs : source.names.Nodup) (ht : target.names.Nodup)
  (options : MergeOptions)

include hs ht

/-- Without a base and with one that has what the target has, the operations are the
same but for the path of the base. -/
theorem construct_untouched :
    ∃ diff, target.changes source = .ok diff
      ∧ ∃ op, op = ((blank source "" options).proposeAll
            (Proposal.twoWay diff target)).addMemberships
              (Proposal.memberships options diff.memberships [])
        ∧ Operation.construct source none target options = .ok op
        ∧ ∀ base : Snapshot, base.entities = target.entities →
          base.metadata = target.metadata →
          Operation.construct source (some base) target options
            = .ok { op with basePath := base.path } := by
  obtain ⟨diff, hdiff, hnone⟩ := construct_twoWay hs ht options
  refine ⟨diff, hdiff, _, rfl, hnone, fun base he hm => ?_⟩
  have hb : base.names.Nodup := by
    rw [Snapshot.names, he]
    exact ht
  obtain ⟨ours, theirs, hours, htheirs, hsome⟩ := construct_threeWay hb hs ht options
  rw [Snapshot.changes_congr he hm ht hs] at hours
  rw [Snapshot.changes_congr he hm ht ht] at htheirs
  cases hdiff.symm.trans hours
  rw [hsome, Proposal.threeWay_self ht htheirs, Snapshot.memberships_self htheirs,
    proposed_basePath]

/-- Applied to the target, the operation turns it into the source. -/
theorem apply_untouched (path : String) {diff : SceneDiff}
    (hdiff : target.changes source = .ok diff) :
    ∃ report p, (Host.alone.apply : EStateM Halt (Operation × LiveScene) ApplyReport)
        (((blank source path options).proposeAll (Proposal.twoWay diff target)).addMemberships
          (Proposal.memberships options diff.memberships []),
          { scene := ⟨target.entities, target.metadata.prune⟩ }) = .ok report p
      ∧ p.2.scene.names.Perm source.names
      ∧ ∀ n, Alike (p.2.scene.entity? n) (source.entity? n) := by
  -- to the comparison of the target with itself, the target is a base that it did not change
  obtain ⟨theirs, htheirs, -⟩ := Snapshot.changes_eq_ok ht ht
  rw [← Proposal.threeWay_self ht htheirs]
  obtain ⟨hlaid, hundecided, happlied⟩ := laidOut_proposed path ht hs ht hdiff htheirs options
    (Proposal.memberships options diff.memberships [])
  have hsub : Proposal.memberships options diff.memberships [] ⊆ diff.memberships :=
    List.filter_sublist.subset
  obtain ⟨hplanned, hfresh, hconsistent⟩ := planned_proposed path ht hs ht hdiff htheirs
    options hsub
  have hmutable := mutable_proposed source path options
    (Proposal.threeWay diff theirs target) (Proposal.memberships options diff.memberships [])
  generalize ((blank source path options).proposeAll
    (Proposal.threeWay diff theirs target)).addMemberships
      (Proposal.memberships options diff.memberships []) = op at *
  have hdecides : op.Decides fun _ r => r.appliesSource = false := by
    intro node id c hat
    rw [hundecided id hat.mem_order c hat.conflict?]
    rfl
  obtain ⟨report, p, happly, hnames, houtcome⟩ := (Course.start hfresh hmutable ht).apply_outcome
    ht hs ht hdiff htheirs hlaid hplanned hconsistent hlaid hdecides happlied
  have halike := fun n => (houtcome n).of_untouched
  refine ⟨report, p, happly, (List.perm_ext_iff_of_nodup hnames hs).2 fun n => ?_, halike⟩
  rw [← not_iff_not, ← Scene.entity?_eq_none, ← Snapshot.entity?_eq_none,
    ← Option.not_isSome_iff_eq_none, ← Option.not_isSome_iff_eq_none, (halike n).isSome_eq]

end untouched

end Operation

-- ===================================================================== results

/-- Merging with a base that has the entities and the memberships of the target,
whatever its path, is merging without a base: the operations have the same actions,
the same order and the same membership changes, and nothing in them is wrapped, switched
off or a conflict. Applying either of them to the target is granted and turns it into
the source, entity by entity, with none missing and none beside them. -/
theorem merge_untouched (source target base : Snapshot) (options : MergeOptions)
    (hs : source.names.Nodup) (ht : target.names.Nodup)
    (he : base.entities = target.entities) (hm : base.metadata = target.metadata) :
    ∃ op l, Operation.construct source none target options = .ok op
      ∧ Operation.construct source (some base) target options
        = .ok { op with basePath := base.path }
      ∧ op.AllPlain ∧ op.conflicts = []
      ∧ LiveScene.ofSnapshot target = .ok l
      ∧ ∀ merge ∈ [op, { op with basePath := base.path }],
        ∃ report p, (Host.alone.apply :
            EStateM Halt (Operation × LiveScene) ApplyReport) (merge, l) = .ok report p
          ∧ p.2.scene.names.Perm source.names
          ∧ ∀ n, Alike (p.2.scene.entity? n) (source.entity? n) := by
  obtain ⟨diff, hdiff, op, hop, hnone, hsome⟩ := Operation.construct_untouched hs ht options
  have hplain : op.AllPlain := by
    rw [hop]
    exact .addMemberships _ (.proposeAll (fun p => Proposal.exists_action_of_mem_twoWay)
      ⟨rfl, List.forall_mem_nil _, List.forall_mem_nil _⟩)
  refine ⟨op, _, hnone, hsome base he hm, hplain, hplain.conflicts,
    LiveScene.ofSnapshot_eq ht, fun merge hmerge => ?_⟩
  obtain ⟨path, rfl⟩ : ∃ path, merge = { op with basePath := path } := by
    rcases List.mem_cons.1 hmerge with rfl | hmerge
    · exact ⟨merge.basePath, rfl⟩
    · exact ⟨base.path, List.mem_singleton.1 hmerge⟩
  rw [hop, ← Operation.proposed_basePath]
  exact Operation.apply_untouched hs ht options path hdiff

/-- A scene with a light of some brightness. -/
def lit (path value : String) : Snapshot :=
  ⟨path, [({ name := "light" } : Entity).withKeyValue "brightness" value], {}⟩

/-- A scene of a single light repeats no name. -/
private theorem nodup_lit (path value : String) : (lit path value).names.Nodup :=
  List.nodup_singleton _

/-- The source sets the brightness of a light, and the base is an older copy of the
target. -/
theorem merge_untouched_light :
    (lit "source" "300").names.Nodup ∧ (lit "target" "200").names.Nodup
      ∧ (lit "base" "200").entities = (lit "target" "200").entities
      ∧ (lit "base" "200").metadata = (lit "target" "200").metadata
      ∧ ∃ op l report p,
        Operation.construct (lit "source" "300") (some (lit "base" "200"))
          (lit "target" "200") {} = .ok { op with basePath := "base" }
        ∧ op.conflicts = []
        ∧ LiveScene.ofSnapshot (lit "target" "200") = .ok l
        ∧ (Host.alone.apply : EStateM Halt (Operation × LiveScene) ApplyReport) (op, l)
          = .ok report p
        ∧ p.2.scene.names.Perm ["light"]
        ∧ Alike (p.2.scene.entity? "light") ((lit "source" "300").entity? "light") := by
  have hsource := nodup_lit "source" "300"
  have htarget := nodup_lit "target" "200"
  obtain ⟨op, l, -, hcon, -, hconflicts, hl, happly⟩ := merge_untouched (lit "source" "300")
    (lit "target" "200") (lit "base" "200") {} hsource htarget rfl rfl
  obtain ⟨report, p, hrun, hperm, halike⟩ := happly op List.mem_cons_self
  exact ⟨hsource, htarget, rfl, rfl, op, l, report, p, hcon, hconflicts, hl, hrun, hperm,
    halike "light"⟩

/-- Merging snapshots with distinct names is granted. The operation says that it is of
two snapshots if there was no base, and also if there was one with an empty path. It
holds what comes of the plain difference exactly if there was no base, or if the changes
since the base are proposed in the same way as those since the target, whatever the
path of the base is; that is so if the base has what the target has. -/
theorem plainDifference_iff (source : Snapshot) (base? : Option Snapshot) (target : Snapshot)
    (options : MergeOptions) (hb : ∀ base ∈ base?, base.names.Nodup)
    (hs : source.names.Nodup) (ht : target.names.Nodup) :
    ∃ op diff, Operation.construct source base? target options = .ok op
      ∧ target.changes source = .ok diff
      ∧ op.basePath = (base?.map (·.path)).getD ""
      ∧ (op.isThreeWay = false ↔ ∀ base ∈ base?, base.path = "")
      ∧ (op.OfDifference diff target ↔ ∀ base ∈ base?, ∃ ours theirs,
        base.changes source = .ok ours ∧ base.changes target = .ok theirs
          ∧ Proposal.threeWay ours theirs target = Proposal.twoWay diff target
          ∧ Proposal.memberships options ours.memberships theirs.memberships
            = Proposal.memberships options diff.memberships [])
      ∧ ((∀ base ∈ base?, base.entities = target.entities
          ∧ base.metadata = target.metadata) → op.OfDifference diff target) := by
  cases base? with
  | none =>
      obtain ⟨diff, hdiff, hcon⟩ := Operation.construct_twoWay hs ht options
      have hop := (Operation.ofDifference_proposed (Operation.laidOut_twoWay source "" options
        diff target (Proposal.memberships options diff.memberships []))).2 ⟨rfl, rfl⟩
      refine ⟨_, diff, hcon, hdiff, Operation.basePath_proposed .., ?_,
        iff_of_true hop nofun, fun _ => hop⟩
      rw [Operation.isThreeWay_eq_false, Operation.basePath_proposed]
      exact iff_of_true rfl nofun
  | some base =>
      have hb := hb base rfl
      obtain ⟨diff, hdiff, -⟩ := Snapshot.changes_eq_ok ht hs
      obtain ⟨ours, theirs, hours, htheirs, hcon⟩ :=
        Operation.construct_threeWay hb hs ht options
      obtain ⟨hlaid, -⟩ := Operation.laidOut_threeWay hb hs ht hours htheirs options
        (Proposal.memberships options ours.memberships theirs.memberships)
      refine ⟨_, diff, hcon, hdiff, Operation.basePath_proposed .., ?_, ?_, fun hsame => ?_⟩
      · rw [Operation.isThreeWay_eq_false, Operation.basePath_proposed]
        exact ⟨fun h base' hbase' => Option.some.inj hbase' ▸ h, fun h => h base rfl⟩
      · rw [Operation.ofDifference_proposed hlaid]
        constructor
        · rintro ⟨hps, hchanges⟩ base' hbase'
          cases hbase'
          exact ⟨ours, theirs, hours, htheirs, hps, hchanges⟩
        · intro h
          obtain ⟨ours', theirs', hours', htheirs', hps, hchanges⟩ := h base rfl
          cases hours.symm.trans hours'
          cases htheirs.symm.trans htheirs'
          exact ⟨hps, hchanges⟩
      · obtain ⟨he, hm⟩ := hsame base rfl
        have hours' := (Snapshot.changes_congr he hm ht hs).symm.trans hours
        have htheirs' := (Snapshot.changes_congr he hm ht ht).symm.trans htheirs
        cases hdiff.symm.trans hours'
        rw [Operation.ofDifference_proposed hlaid, Proposal.threeWay_self ht htheirs',
          Snapshot.memberships_self htheirs']
        exact ⟨rfl, rfl⟩

/-- A base without a path, which is an older copy of the target. -/
theorem plainDifference_iff_light :
    (∀ base ∈ some (lit "" "200"), base.names.Nodup)
      ∧ (lit "source" "300").names.Nodup ∧ (lit "target" "200").names.Nodup
      ∧ ∃ op diff, Operation.construct (lit "source" "300") (some (lit "" "200"))
          (lit "target" "200") {} = .ok op
        ∧ (lit "target" "200").changes (lit "source" "300") = .ok diff
        ∧ op.isThreeWay = false ∧ op.OfDifference diff (lit "target" "200") := by
  have hbase : ∀ base ∈ some (lit "" "200"), base.names.Nodup := by
    rintro base ⟨⟩
    exact nodup_lit _ _
  obtain ⟨op, diff, hcon, hdiff, -, hthree, -, hsame⟩ := plainDifference_iff
    (lit "source" "300") (some (lit "" "200")) (lit "target" "200") {} hbase (nodup_lit _ _)
    (nodup_lit _ _)
  refine ⟨hbase, nodup_lit _ _, nodup_lit _ _, op, diff, hcon, hdiff, hthree.2 ?_, hsame ?_⟩
  · rintro base ⟨⟩
    rfl
  · rintro base ⟨⟩
    exact ⟨rfl, rfl⟩

/-- A base without a path, since which the source and the target both set the
brightness. The operation says that it is of two snapshots, and holds a conflict. -/
theorem conflict_of_emptyBasePath :
    (lit "" "200").names.Nodup ∧ (lit "source" "300").names.Nodup
      ∧ (lit "target" "400").names.Nodup
      ∧ ∃ op diff, Operation.construct (lit "source" "300") (some (lit "" "200"))
          (lit "target" "400") {} = .ok op
        ∧ (lit "target" "400").changes (lit "source" "300") = .ok diff
        ∧ op.basePath = "" ∧ op.isThreeWay = false ∧ op.conflicts = [2]
        ∧ ¬ op.OfDifference diff (lit "target" "400") := by
  have hrun : (Operation.construct (lit "source" "300") (some (lit "" "200"))
      (lit "target" "400") {}).map (fun op => (op.basePath, op.isThreeWay, op.conflicts))
        = .ok ("", false, [2]) := by
    decide +kernel
  obtain ⟨diff, hdiff, -⟩ := Snapshot.changes_eq_ok (nodup_lit "target" "400")
    (nodup_lit "source" "300")
  cases hcon : Operation.construct (lit "source" "300") (some (lit "" "200"))
      (lit "target" "400") {} with
  | error e =>
      rw [hcon] at hrun
      cases hrun
  | ok op =>
      rw [hcon] at hrun
      simp only [Except.map, Except.ok.injEq, Prod.mk.injEq] at hrun
      obtain ⟨hpath, hthree, hconflicts⟩ := hrun
      refine ⟨nodup_lit _ _, nodup_lit _ _, nodup_lit _ _, op, diff, rfl, hdiff, hpath, hthree,
        hconflicts, fun h => ?_⟩
      rw [h.conflicts] at hconflicts
      cases hconflicts

end SceneMerge
