/-
A pass over a scene is one step of its history, and that step can be
undone and redone. Undoing it brings back the entities of the target as
they were, and redoing it brings back the merged scene exactly:
`merge_undone`.

# What undoing loses

The metadata of a target may list names that no entity has. If the merge
puts in an entity of such a name, taking it out again strips the name, so
the strays of the target that became entities are lost by undoing. All
others are still there: what a merge does not put in it does not touch
(`Progress.untouched`). So the target is brought back exactly if and only
if none of its strays became an entity.
-/
import SceneMerge.Proofs.Scene.Reachable
import SceneMerge.Proofs.Session.Course

namespace SceneMerge

open LiveScene

-- =========================================================== specification

/-- `u` is `s`, except that names which had no entity there and have one in
`t` are listed no more. -/
structure Scene.Restores (u s t : Scene) : Prop where
  entities : u.entities = s.entities
  pruned : u.metadata.Pruned
  members : ∀ g n, u.metadata.isMember g n = true ↔
    s.metadata.isMember g n = true
      ∧ (t.contains n = true → s.contains n = true)

namespace Scene

variable {u s t : Scene}

/-- Going back from `t` to `s` restores it, if what is not there in either is
listed in both or in neither. -/
theorem Trims.restores (h : u.Trims s)
    (hstrays : ∀ g n, u.Stray g n ↔ t.Stray g n)
    (hkept : ∀ g n, s.contains n = false → t.contains n = false →
      t.metadata.isMember g n = s.metadata.isMember g n) :
    u.Restores s t where
  entities := h.entities
  pruned := h.pruned
  members g n := by
    -- what is there in the end is listed as it was; of what is not there either it is
    -- listed for being a stray before and after, or it is not listed
    cases hn : s.contains n with
    | true =>
        rw [h.members g n hn]
        exact (and_iff_left fun _ => rfl).symm
    | false =>
        have hu : u.contains n = false := (h.contains_eq n).trans hn
        constructor
        · intro hm
          obtain ⟨ht, hlisted⟩ := (hstrays g n).1 ⟨hu, hm⟩
          rw [hkept g n hn ht] at hlisted
          exact ⟨hlisted, fun hin => ht.symm.trans hin⟩
        · rintro ⟨hlisted, hin⟩
          have ht : t.contains n = false := Bool.eq_false_iff.2 fun ht => by
            cases hin ht
          refine ((hstrays g n).2 ⟨ht, ?_⟩).2
          rwa [hkept g n hn ht]

/-- Nothing is missing exactly if no stray of `s` became an entity. -/
theorem Restores.eq_iff (h : u.Restores s t) (hs : s.metadata.Pruned) :
    u = s ↔ ∀ g n, s.Stray g n → t.contains n = false := by
  constructor
  · rintro rfl g n ⟨hn, hm⟩
    refine Bool.eq_false_iff.2 fun ht => ?_
    cases hn.symm.trans (((h.members g n).1 hm).2 ht)
  · intro hfree
    have hmetadata : u.metadata = s.metadata := by
      refine Metadata.ext_isMember h.pruned hs fun g n => ?_
      rw [Bool.eq_iff_iff, h.members]
      refine and_iff_left_of_imp fun hm ht => ?_
      cases hn : s.contains n with
      | true => rfl
      | false => cases ht.symm.trans (hfree g n ⟨hn, hm⟩)
    have hentities := h.entities
    cases u
    cases hentities
    cases hmetadata
    rfl

end Scene

-- ================================================================= a pass

/-- What a pass that is granted adds to the history retraces the pass. -/
theorem Host.apply_recorded {op op' : Operation} {l l' : LiveScene}
    {report : ApplyReport} (htidy : l.scene.Tidy)
    (h : (Host.alone.apply : EStateM Halt (Operation × LiveScene) ApplyReport)
      (op, l) = .ok report (op', l')) :
    l'.transaction = none
      ∧ (l'.undos = l.undos ∧ l'.redos = l.redos
        ∨ ∃ j, l'.undos = j :: l.undos ∧ l'.redos = []
          ∧ Retraces j.inverse l'.scene l.scene) := by
  have hm : op.ensureMutable = .ok () := by
    cases he : op.ensureMutable with
    | ok => rfl
    | error e =>
        have hrefused := Host.apply_refused (x := l) Host.alone (s := op) he
        cases hrefused.symm.trans h
  rw [Host.apply_alone hm] at h
  split at h
  · next p q hfly =>
      obtain ⟨-, x, l₁, l₂, hrun, hcommit, rfl⟩ := Host.of_inFlight_begun hfly
      cases h
      have hbegun : Recorded l (l.begun s!"Merge {op.sourcePath}") :=
        recorded_start htidy _
      obtain ⟨-, hrecorded⟩ := (Host.keeps_runPass (h := Host.alone)
        (Q := fun _ => True) (keptByMutations_recorded l)
        (fun _ _ _ => trivial) op).ok ⟨trivial, hbegun⟩ hrun
      obtain ⟨t, hcommit', hscene, hsettled, hhistory⟩ :=
        commit_of_recorded hrecorded
      cases hcommit'.symm.trans hcommit
      rw [hscene]
      exact ⟨hsettled, hhistory⟩
  · cases h

/-- In the course of a merge, what is not there is listed where the target
listed it. -/
theorem Course.untouched {target : Snapshot} {op₀ : Operation}
    {p : Operation × LiveScene} (hp : op₀.Planned target)
    (h : Course target op₀ p) {n : EntityName}
    (htarget : target.entity? n = none) (hn : p.2.scene.entity? n = none)
    (g : Membership) :
    p.2.scene.metadata.isMember g n = target.metadata.prune.isMember g n :=
  h.progress.untouched hp.plan (op₀.deedsOf_subperm h.applied h.listed)
    htarget hn g

-- ================================================================== result

/-- However the conflicts of a merge are decided, if applying it to its
target puts a step on the history, undoing that step is granted and brings
back the target, except for memberships without an entity whose name the
merge brought in; redoing it is granted and brings back the merged scene. -/
theorem merge_undone (source : Snapshot) (base? : Option Snapshot)
    (target : Snapshot) (options : MergeOptions)
    (hb : ∀ base ∈ base?, base.names.Nodup) (hs : source.names.Nodup)
    (ht : target.names.Nodup) :
    ∃ op l, Operation.construct source base? target options = .ok op
      ∧ LiveScene.ofSnapshot target = .ok l
      ∧ ∀ reviews : List Move, (∀ m ∈ reviews, m.isReview = true) →
        ∃ report op' l', (Host.alone.apply :
            EStateM Halt (Operation × LiveScene) ApplyReport)
          (Move.play reviews (op, l)) = .ok report (op', l')
          ∧ (l'.undos.length = 1 →
            ∃ l₁ l₂, undo l' = .ok true l₁ ∧ redo l₁ = .ok true l₂
              ∧ l₁.scene.Restores l.scene l'.scene
              ∧ (l₁.scene = l.scene ↔ ∀ g n, l.scene.Stray g n →
                  l'.scene.contains n = false)
              ∧ l₂.scene = l'.scene) := by
  obtain ⟨op, l, hcon, hl, hplanned, hconsistent, -, hstart⟩ :=
    Operation.construct_course hb hs ht options
  have htidy := tidy_ofSnapshot hl
  have hl' : l = { scene := ⟨target.entities, target.metadata.prune⟩ } :=
    Except.ok.inj (hl.symm.trans (LiveScene.ofSnapshot_eq ht))
  refine ⟨op, l, hcon, hl, fun reviews hreviews => ?_⟩
  -- reviewing does not concern the scene, so the pass is made on the target
  obtain ⟨-, hsame⟩ := Move.revised_play reviews hreviews (op, l)
  have hcourse := hstart.play hplanned hconsistent reviews
    fun m hm => .inl (hreviews m hm)
  generalize Move.play reviews (op, l) = p at hsame hcourse
  obtain ⟨reviewed, _⟩ := p
  cases hsame
  obtain ⟨report, op', l', happly, hmerged, -⟩ :=
    hcourse.apply hplanned hconsistent
  refine ⟨report, op', l', happly, fun hdepth => ?_⟩
  obtain ⟨hsettled, hhistory⟩ := Host.apply_recorded htidy happly
  rcases hhistory with ⟨hundos, -⟩ | ⟨j, hundos, -, hback⟩
  · rw [hundos, hl'] at hdepth
    cases hdepth
  obtain ⟨l₁, l₂, hundo, htrims, hstrays, hredo, hforth⟩ :=
    undo_recorded hsettled hundos hback
  have hnone : ∀ {s : Scene} {n : EntityName}, s.contains n = false →
      s.entity? n = none := by
    intro s n hn
    rwa [Scene.contains, Option.isSome_eq_false_iff,
      Option.isNone_iff_eq_none] at hn
  have hrestores : l₁.scene.Restores l.scene l'.scene := by
    refine htrims.restores hstrays fun g n hn hn' => ?_
    rw [hl'] at hn ⊢
    exact hmerged.untouched hplanned (hnone hn) (hnone hn') g
  exact ⟨l₁, l₂, hundo, hredo, hrestores, hrestores.eq_iff htidy.pruned, hforth⟩

-- ================================================================= a stray

namespace Stray

/-- A layer lists a light. -/
def lit (path : String) (entities : List Entity) : Snapshot :=
  ⟨path, entities, ({} : Metadata).put (.layer "ground") "light" true⟩

def withLight : Snapshot := lit "source" [{ name := "light" }]

def withoutLight : Snapshot := lit "target" []

/-- The light is all that there is to merge. -/
def bringLight : Operation :=
  ((Operation.blank withLight "" {}).proposeAll (Proposal.twoWay
    ⟨[⟨"light", .added { name := "light" }⟩], []⟩ withoutLight)).addMemberships
      (Proposal.memberships {} [] [])

def unlit : LiveScene := { scene := ⟨[], withoutLight.metadata.prune⟩ }

def lighted : LiveScene where
  scene := ⟨[{ name := "light" }], withoutLight.metadata⟩
  undos := [⟨"Merge source", [.removeEntity "light"]⟩]

/-- Merging the two snapshots proposes the light and nothing else. -/
theorem construct_bringLight :
    Operation.construct withLight none withoutLight {} = .ok bringLight := by
  have hsource : withLight.names.Nodup := List.nodup_singleton _
  have htarget : withoutLight.names.Nodup := List.nodup_nil
  obtain ⟨diff, hdiff, hop⟩ := Operation.construct_twoWay hsource htarget {}
  have hlight : withoutLight.changes withLight
      = .ok ⟨[⟨"light", .added { name := "light" }⟩], []⟩ := rfl
  rw [Except.ok.inj (hdiff.symm.trans hlight)] at hop
  exact hop

/-- Applying that brings the light, whose layer lists it already. -/
theorem apply_bringLight : (finalState ((Host.alone.apply :
      EStateM Halt (Operation × LiveScene) ApplyReport) (bringLight, unlit))).2
    = lighted := by
  decide +kernel

end Stray

open Stray

/-- The target lists a light that is not there, and the source brings one.
Undoing takes the light out again, and the layer with it. -/
theorem merge_undone_light :
    withLight.names.Nodup ∧ withoutLight.names.Nodup
      ∧ ∃ l₁ l₂, Operation.construct withLight none withoutLight {} = .ok bringLight
        ∧ LiveScene.ofSnapshot withoutLight = .ok unlit
        ∧ (finalState ((Host.alone.apply :
            EStateM Halt (Operation × LiveScene) ApplyReport)
              (bringLight, unlit))).2 = lighted
        ∧ lighted.undos.length = 1
        ∧ undo lighted = .ok true l₁ ∧ redo l₁ = .ok true l₂
        ∧ l₁.scene.Restores unlit.scene lighted.scene ∧ l₁.scene ≠ unlit.scene
        ∧ l₂.scene = lighted.scene := by
  have hsource : withLight.names.Nodup := List.nodup_singleton _
  have htarget : withoutLight.names.Nodup := List.nodup_nil
  have hunlit : LiveScene.ofSnapshot withoutLight = .ok unlit := rfl
  obtain ⟨op, l, hop, hl, hundone⟩ := merge_undone withLight none withoutLight {}
    (fun _ h => nomatch h) hsource htarget
  cases hop.symm.trans construct_bringLight
  cases hl.symm.trans hunlit
  obtain ⟨report, op', l', happly, hback⟩ := hundone [] (fun _ h => nomatch h)
  have hl' := apply_bringLight
  rw [show Host.alone.apply (bringLight, unlit) = _ from happly] at hl'
  cases hl'
  obtain ⟨l₁, l₂, hundo, hredo, hrestores, hexact, hforth⟩ := hback rfl
  refine ⟨hsource, htarget, l₁, l₂, construct_bringLight, hunlit,
    apply_bringLight, rfl, hundo, hredo, hrestores, fun heq => ?_, hforth⟩
  -- the light was a stray of the target and is none after the merge
  have hstray : unlit.scene.Stray (.layer "ground") "light" :=
    ⟨rfl, by decide +kernel⟩
  cases hexact.1 heq (.layer "ground") "light" hstray

/-- So the target is not brought back in every case. -/
theorem undo_loses_stray :
    Operation.construct withLight none withoutLight {} = .ok bringLight
      ∧ LiveScene.ofSnapshot withoutLight = .ok unlit
      ∧ (finalState ((Host.alone.apply :
          EStateM Halt (Operation × LiveScene) ApplyReport)
            (bringLight, unlit))).2 = lighted
      ∧ lighted.undos.length = 1
      ∧ ∃ l₁, undo lighted = .ok true l₁ ∧ l₁.scene ≠ unlit.scene := by
  refine ⟨construct_bringLight, rfl, apply_bringLight, rfl, _, rfl, ?_⟩
  decide +kernel

end SceneMerge
