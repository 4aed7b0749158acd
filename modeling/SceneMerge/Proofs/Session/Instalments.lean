/-
Applying in instalments comes to the same as applying at once. Where every
pass runs what the pass before ran and possibly more, only the last choice
counts: `instalments_agree`. What was passed over because its entity was not
there yet is made up for by a later pass, and a membership that was set
early is neither lost when the entity is replaced nor kept when it is
removed.

After each pass that was granted exactly what is chosen was applied, and the
membership changes that were made are those chosen whose entities are there
(`Settled`), not counting those of entities that were removed. Two scenes of
which this is true for one choice have the same content (`Settled.same`).
-/
import SceneMerge.Proofs.Session.Course

namespace SceneMerge

-- =========================================================== specification

/-- What is switched on: actions, conflicts that are decided for the source
among them, and membership changes by position. -/
structure Choice where
  actions : List ActionId
  memberships : List Nat
deriving DecidableEq

/-- Everything chosen here is chosen there. -/
structure Choice.Within (c c' : Choice) : Prop where
  actions : c.actions ⊆ c'.actions
  memberships : c.memberships ⊆ c'.memberships

def Operation.choice (op : Operation) : Choice where
  actions := op.chosen
  memberships := (List.range op.memberships.length).filter fun i =>
    op.memberships[i]?.any (·.active)

/-- Reviews and then a pass, once for each list of reviews. -/
def instalments : List (List Move) → EStateM Halt (Operation × LiveScene) Unit
  | [] => pure ()
  | reviews :: rest => do
      modify (Move.play reviews)
      let _ ← Host.alone.apply
      instalments rest

/-- What is chosen at each of the passes. -/
def choices : List (List Move) → Operation × LiveScene → List Choice
  | [], _ => []
  | reviews :: rest, p =>
      let p := Move.play reviews p
      p.1.choice :: choices rest (finalState
        ((Host.alone.apply : EStateM Halt (Operation × LiveScene) ApplyReport) p))

-- ================================================================ a pass

/-- The operation was applied to the scene with just that choice. -/
structure Settled (target : Snapshot) (op₀ : Operation) (choice : Choice)
    (p : Operation × LiveScene) : Prop where
  course : Course target op₀ p
  applied : ∀ id, id ∈ p.1.applied ↔ id ∈ choice.actions
  made : p.1.appliedMemberships ⊆ choice.memberships
  complete : ∀ i ∈ choice.memberships, ∀ c,
    (op₀.memberships.map (·.change))[i]? = some c →
    p.2.scene.contains c.entity = true → i ∈ p.1.appliedMemberships

variable {target : Snapshot} {op₀ : Operation}

section passes

variable (hp : op₀.Planned target)
  (hc : MembershipChange.Consistent (op₀.memberships.map (·.change)))

include hp hc

/-- A pass settles the choice that it is made with, if all that was applied
before is still chosen. -/
theorem Course.settles {op : Operation} {l : LiveScene}
    (h : Course target op₀ (op, l)) (happlied : op.applied ⊆ op.choice.actions)
    (hmade : op.appliedMemberships ⊆ op.choice.memberships) :
    ∃ report q, (Host.alone.apply :
        EStateM Halt (Operation × LiveScene) ApplyReport) (op, l) = .ok report q
      ∧ Settled target op₀ op.choice q := by
  obtain ⟨report, op', l', happly, hcourse, happlied', hmade'⟩ := h.apply hp hc
  have hkin : op₀.Kin op := h.kin
  refine ⟨report, (op', l'), happly, hcourse, fun id => ?_, ?_, ?_⟩
  · show id ∈ op'.applied ↔ _
    rw [happlied', Operation.mem_applied]
    exact or_iff_right_of_imp fun hid => happlied hid
  · show op'.appliedMemberships ⊆ _
    rw [hmade']
    refine List.append_subset.2 ⟨hmade, fun i hi => ?_⟩
    obtain ⟨item, hitem, rfl⟩ := List.mem_map.1 hi
    obtain ⟨m, hm, hactive, -⟩ :=
      Operation.mem_pendingMemberships.1 (List.mem_of_mem_filter hitem)
    refine List.mem_filter.2 ⟨?_, by simp [hm, hactive]⟩
    exact List.mem_range.2 (List.getElem?_eq_some_iff.1 hm).1
  · intro i hi c hci hthere
    show i ∈ op'.appliedMemberships
    rw [hmade', List.mem_append]
    -- made before, or pending now, and then it is made since its entity is there
    by_cases hin : i ∈ op.appliedMemberships
    · exact .inl hin
    · right
      obtain ⟨-, hactive⟩ := List.mem_filter.1 hi
      obtain ⟨m, hm, hactive⟩ := (Option.any_eq_true _ _).1 hactive
      rw [← hkin.changes, List.getElem?_map, hm, Option.map_some] at hci
      cases hci
      refine List.mem_map.2 ⟨(i, m.change), List.mem_filter.2 ⟨?_, hthere⟩, rfl⟩
      exact Operation.mem_pendingMemberships.2 ⟨m, hm, hactive, hin, rfl⟩

/-- Passes whose choices grow settle the last of them. -/
theorem Course.instalments_settle (passes : List (List Move))
    (hreviews : ∀ reviews ∈ passes, ∀ m ∈ reviews, m.isReview = true) :
    ∀ {p : Operation × LiveScene}, Course target op₀ p →
      (∀ c ∈ (choices passes p).head?, p.1.applied ⊆ c.actions
        ∧ p.1.appliedMemberships ⊆ c.memberships) →
      (choices passes p).IsChain Choice.Within →
      ∀ last ∈ (choices passes p).getLast?,
        ∃ q, instalments passes p = .ok () q ∧ Settled target op₀ last q := by
  induction passes with
  | nil => exact fun _ _ _ last hlast => absurd hlast (by simp [choices])
  | cons reviews passes ih =>
      intro p h hfirst hchain last hlast
      have hreviewed := hreviews reviews List.mem_cons_self
      obtain ⟨hop, -⟩ := Move.revised_play reviews hreviewed p
      have hcourse := h.play hp hc reviews fun m hm => .inl (hreviewed m hm)
      obtain ⟨happlied, hmade⟩ := hfirst _ rfl
      rw [← hop.applied] at happlied
      rw [← hop.memberships] at hmade
      obtain ⟨report, q, happly, hsettled⟩ := hcourse.settles hp hc happlied hmade
      have hrest : choices (reviews :: passes) p
          = (Move.play reviews p).1.choice :: choices passes q := by
        rw [choices, happly]
        rfl
      have hrun : instalments (reviews :: passes) p = instalments passes q := by
        have hmodify : (modify (Move.play reviews) :
            EStateM Halt (Operation × LiveScene) Unit) p
              = .ok () (Move.play reviews p) := rfl
        exact (bind_ok hmodify).trans (bind_ok happly)
      rw [hrest] at hchain hlast
      rw [hrun]
      cases passes with
      | nil =>
          cases hlast
          exact ⟨q, rfl, hsettled⟩
      | cons reviews' passes =>
          obtain ⟨hwithin, hchain⟩ := List.isChain_cons_cons.1 hchain
          rw [choices, List.getLast?_cons_cons] at hlast
          refine ih (fun r hr => hreviews r (List.mem_cons_of_mem _ hr)) hsettled.course
            (fun c hnext => ?_) hchain last hlast
          -- what was applied up to here is what was chosen, hence chosen again
          cases hnext
          exact ⟨fun id hid => hwithin.actions ((hsettled.applied id).1 hid),
            List.Subset.trans hsettled.made hwithin.memberships⟩

end passes

/-- What is settled alike has the same content. -/
theorem Settled.same {choice : Choice} {p q : Operation × LiveScene}
    (hp : op₀.Planned target) (h : Settled target op₀ choice p)
    (h' : Settled target op₀ choice q) : p.2.scene.Same q.2.scene := by
  have hdeeds := op₀.deedsOf_subperm h.course.applied h.course.listed
  have hperm : (op₀.deedsOf p.1.applied).Perm (op₀.deedsOf q.1.applied) := by
    refine ((List.perm_ext_iff_of_nodup h.course.applied h'.course.applied).2
      fun id => ?_).filterMap op₀.deed?
    rw [h.applied, h'.applied]
  have halike := h.course.progress.alike h'.course.progress hp.plan hdeeds hperm
  -- a change that was made in one of the runs was made in the other one
  have hmade : ∀ {p q : Operation × LiveScene}, Settled target op₀ choice p →
      Settled target op₀ choice q →
      (∀ n, p.2.scene.contains n = q.2.scene.contains n) →
      ∀ c, .remove c.entity ∉ op₀.deedsOf p.1.applied →
        c ∈ op₀.changesAt p.1.appliedMemberships →
        c ∈ op₀.changesAt q.1.appliedMemberships := by
    intro p q hp hq hsame c hn hc
    have hthere := hp.course.progress.entered c hc hn
    obtain ⟨i, hi, hci⟩ := List.mem_filterMap.1 hc
    rw [hsame] at hthere
    exact List.mem_filterMap.2 ⟨i, hq.complete i (hp.made hi) c hci hthere, hci⟩
  have hcontains : ∀ n, p.2.scene.contains n = q.2.scene.contains n :=
    fun n => (halike n).isSome_eq
  refine h.course.progress.same h'.course.progress hp.plan hdeeds hperm
    fun c hn => ⟨hmade h h' hcontains c hn, ?_⟩
  exact hmade h' h (fun n => (hcontains n).symm) c (mt hperm.mem_iff.2 hn)

-- ================================================================== result

/-- Passes whose choices grow make of the target what a single pass with the
last choice makes of it. In both, just what is chosen was applied. -/
theorem instalments_agree (source : Snapshot) (base? : Option Snapshot)
    (target : Snapshot) (options : MergeOptions)
    (hb : ∀ base ∈ base?, base.names.Nodup) (hs : source.names.Nodup)
    (ht : target.names.Nodup) :
    ∃ op l, Operation.construct source base? target options = .ok op
      ∧ LiveScene.ofSnapshot target = .ok l
      ∧ ∀ (once : List Move) (passes : List (List Move)),
        (∀ m ∈ once, m.isReview = true) →
        (∀ reviews ∈ passes, ∀ m ∈ reviews, m.isReview = true) →
        (choices passes (op, l)).IsChain Choice.Within →
        ∀ choice, (Move.play once (op, l)).1.choice = choice →
        (choices passes (op, l)).getLast? = some choice →
        ∃ p q, instalments [once] (op, l) = .ok () p
          ∧ instalments passes (op, l) = .ok () q ∧ p.2.scene.Same q.2.scene
          ∧ ∀ id, (id ∈ p.1.applied ↔ id ∈ choice.actions)
            ∧ (id ∈ q.1.applied ↔ id ∈ choice.actions) := by
  obtain ⟨op, l, hcon, hl, hplanned, hconsistent, hfresh, hstart⟩ :=
    Operation.construct_course hb hs ht options
  refine ⟨op, l, hcon, hl, fun once passes honce hpasses hchain choice hchoice hlast => ?_⟩
  -- nothing was applied yet, so any choice may come first
  have hfirst : ∀ c : Choice, op.applied ⊆ c.actions
      ∧ op.appliedMemberships ⊆ c.memberships := by
    intro c
    rw [hfresh.applied, hfresh.memberships]
    exact ⟨List.nil_subset _, List.nil_subset _⟩
  obtain ⟨p, hrun, hsettled⟩ := hstart.instalments_settle hplanned hconsistent [once]
    (by simpa using honce) (fun c _ => hfirst c) (.singleton _) choice
    (congrArg some hchoice)
  obtain ⟨q, hrun', hsettled'⟩ := hstart.instalments_settle hplanned hconsistent
    passes hpasses (fun c _ => hfirst c) hchain _ hlast
  exact ⟨p, q, hrun, hrun', hsettled.same hplanned hsettled',
    fun id => ⟨hsettled.applied id, hsettled'.applied id⟩⟩

/-- A wall is added and enters a layer. In instalments the first pass has to
pass the layer over, since the wall is switched off, and the second one
makes up for it. -/
theorem instalments_agree_wall :
    let wall : Entity := { name := "wall" }
    let source : Snapshot :=
      ⟨"source", [wall], ({} : Metadata).put (.layer "ground") "wall" true⟩
    let target : Snapshot := ⟨"target", [], {}⟩
    let late : List (List Move) := [[.setActive 0 false], [.setActive 0 true]]
    source.names.Nodup ∧ target.names.Nodup
      ∧ ∃ op l p q, Operation.construct source none target {} = .ok op
        ∧ LiveScene.ofSnapshot target = .ok l
        ∧ choices late (op, l) = [⟨[], [0]⟩, ⟨[0], [0]⟩]
        ∧ instalments [[]] (op, l) = .ok () p ∧ instalments late (op, l) = .ok () q
        ∧ p.2.scene.Same q.2.scene
        ∧ (∀ id, (id ∈ p.1.applied ↔ id ∈ [0]) ∧ (id ∈ q.1.applied ↔ id ∈ [0]))
        ∧ q.1.appliedMemberships = [0] := by
  intro wall source target late
  have hsource : source.names.Nodup := List.nodup_singleton _
  have htarget : target.names.Nodup := List.nodup_nil
  let diff : SceneDiff :=
    ⟨[⟨"wall", .added wall⟩], [⟨.layer "ground", "wall", true⟩]⟩
  let op₀ : Operation :=
    ((Operation.blank source "" {}).proposeAll (Proposal.twoWay diff target)).addMemberships
      (Proposal.memberships {} diff.memberships [])
  let l₀ : LiveScene := { scene := ⟨[], {}⟩ }
  have hop : Operation.construct source none target {} = .ok op₀ := by
    obtain ⟨diff', hdiff, hop⟩ := Operation.construct_twoWay hsource htarget {}
    have hwall : target.changes source = .ok diff := rfl
    rw [Except.ok.inj (hdiff.symm.trans hwall)] at hop
    exact hop
  have hl : LiveScene.ofSnapshot target = .ok l₀ := rfl
  have hlate : choices late (op₀, l₀) = [⟨[], [0]⟩, ⟨[0], [0]⟩] := by decide +kernel
  have honce : op₀.choice = ⟨[0], [0]⟩ := by decide +kernel
  have hmade : (finalState (instalments late (op₀, l₀))).1.appliedMemberships = [0] := by
    decide +kernel
  obtain ⟨op, l, hop', hl', hagree⟩ := instalments_agree source none target {}
    (fun _ h => nomatch h) hsource htarget
  rw [Except.ok.inj (hop'.symm.trans hop), Except.ok.inj (hl'.symm.trans hl)] at hagree
  have hgrow : (choices late (op₀, l₀)).IsChain Choice.Within := by
    rw [hlate]
    exact .cons_cons ⟨List.nil_subset _, List.Subset.refl _⟩ (.singleton _)
  have hlast : (choices late (op₀, l₀)).getLast? = some ⟨[0], [0]⟩ := by
    rw [hlate]
    rfl
  obtain ⟨p, q, hp, hq, hsame, happlied⟩ :=
    hagree [] late (fun _ h => nomatch h) (by decide) hgrow _ honce hlast
  rw [hq] at hmade
  exact ⟨hsource, htarget, op₀, l₀, p, q, hop, hl, hlate, hp, hq, hsame, happlied, hmade⟩

end SceneMerge
