/-
Aborting is the exact inverse of everything applied. Whatever is made of
an operation on one scene, decided, switched, added to and applied pass
by pass, aborting it is granted and brings the initial scene back:
`abort_returns`.

# The invariant of a run

The journal of the operation returns from the scene as it is to the scene
as it was when the operation was fresh (`Revertible`). A pass that is
committed puts its own way back in front; one that is refused leaves both
journal and scene alone; no other call touches either.
-/
import SceneMerge.Proofs.Review.Layout
import SceneMerge.Proofs.Review.Reverts
import SceneMerge.Proofs.Session.Flight
import SceneMerge.Proofs.Session.InFlight
import SceneMerge.Proofs.Session.Upkeep

namespace SceneMerge

open LiveScene Revert

-- ================================================================ a pass

namespace Host

variable {σ : Type} (h : Host σ) {s₀ : Scene}

/-- The pass so far, with the scene that it came to: its reverts return
to where it began. -/
structure Undoes (s₀ : Scene) (p : Pass) (l : LiveScene) : Prop where
  wellFormed : l.scene.WellFormed
  back : Returns p.reverts l.scene s₀

/-- Membership changes put their way back in front of that of the pass. One that is
passed over goes nowhere and has none. -/
theorem runMemberships_undoes (todo : List (Nat × MembershipChange)) :
    ∀ {p p' : Pass} {x y : σ} {l l' : LiveScene}, Undoes s₀ p l →
      runMemberships todo p (x, l) = .ok p' (y, l') → Undoes s₀ p' l' := by
  induction todo with
  | nil =>
      intro p p' x y l l' hp hrun
      cases hrun
      exact hp
  | cons item rest ih =>
      intro p p' x y l l' hp hrun
      obtain ⟨reverts?, q, hone, hrest⟩ := of_bind_ok hrun
      obtain ⟨l₁, hone', rfl⟩ := of_onSecond_ok hone
      obtain ⟨hwf, hback⟩ := Performed.revertedBy_membership item.2 l _ l₁
        hp.wellFormed (of_adaptExcept_ok hone')
      cases reverts? with
      | none => exact ih ⟨hwf, hback.append hp.back⟩ hrest
      | some reverts => exact ih ⟨hwf, hback.append hp.back⟩ hrest

/-- Actions do the same. What is told of them in between does not concern the scene. -/
theorem runActions_undoes (todo : List (ActionId × Action)) :
    ∀ {p p' : Pass} {x y : σ} {l l' : LiveScene}, Undoes s₀ p l →
      h.runActions todo p (x, l) = .ok p' (y, l') → Undoes s₀ p' l' := by
  induction todo with
  | nil =>
      intro p p' x y l l' hp hrun
      cases hrun
      exact hp
  | cons item rest ih =>
      intro p p' x y l l' hp hrun
      rw [runActions_cons] at hrun
      obtain ⟨done, q, hone, hrest⟩ := of_bind_ok hrun
      obtain ⟨l₁, hone', rfl⟩ := of_onSecond_ok hone
      obtain ⟨u, q, htell, hrest⟩ := of_bind_ok hrest
      obtain ⟨y₁, htell', rfl⟩ := of_onFirst_ok htell
      obtain ⟨hwf, hback⟩ := Performed.revertedBy_ofAction (h.read x) item.1 item.2 l _
        l₁ hp.wellFormed (of_adaptExcept_ok hone')
      exact ih ⟨hwf, hback.append hp.back⟩ hrest

/-- The reverts of a pass return to where it began. -/
theorem runPass_undoes (op : Operation) {p : Pass} {x y : σ}
    {l l' : LiveScene} (hl : l.scene.WellFormed)
    (hrun : h.runPass op (x, l) = .ok p (y, l')) : Undoes l.scene p l' := by
  obtain ⟨p₁, ⟨x₁, l₁⟩, hactions, hrest⟩ := of_bind_ok hrun
  obtain ⟨op', q, hlook, hrest⟩ := of_bind_ok hrest
  cases hlook
  exact runMemberships_undoes _
    (h.runActions_undoes _ ⟨hl, .nil⟩ hactions) hrest

end Host

-- ================================================================= moves

/-- What can be made of an operation on one scene, short of ending it. -/
inductive Move where
  | addAction (a : Action)
  | addConflict (type : ConflictType) (source : Action)
      (target? : Option Action) (sourceEntity? targetEntity? : Option Entity)
  | addMembership (change : MembershipChange)
  | populate (source : Snapshot) (base? : Option Snapshot) (target : Snapshot)
  | setActive (id : ActionId) (active : Bool)
  | setMembershipActive (index : Nat) (active : Bool)
  | setResolution (id : ActionId) (r : Resolution)
  | apply

namespace Move

def call : Move → EStateM Halt (Operation × LiveScene) Unit
  | .addAction a => do let _ ← onFirst (Host.alone.addAction a)
  | .addConflict type source target? sourceEntity? targetEntity? => do
      let _ ← onFirst (Host.alone.addConflict type source target?
        sourceEntity? targetEntity?)
  | .addMembership change => do let _ ← onFirst (Host.alone.addMembership change)
  | .populate source base? target =>
      onFirst (Host.alone.populate source base? target)
  | .setActive id active => onFirst (Host.alone.setActive id active)
  | .setMembershipActive index active =>
      onFirst (Host.alone.setMembershipActive index active)
  | .setResolution id r => onFirst (Host.alone.setResolution id r)
  | .apply => do let _ ← Host.alone.apply

/-- Makes one move after the other, refused or not. -/
def play : List Move → Operation × LiveScene → Operation × LiveScene
  | [], p => p
  | m :: rest, p => play rest (finalState (m.call p))

end Move

-- ============================================================= operations

namespace Operation

/-- The operation takes changes, and this is the way back from what it
applied. -/
structure Stands (journal : List Revert) (op : Operation) : Prop where
  journal : op.journal = journal
  flight : op.inFlight = false
  state : op.state.isClosed = false

variable {op op' : Operation} {j : List Revert}

/-- What stands is neither in flight nor closed, so no call is refused on that account.
-/
theorem Stands.ensureMutable (h : op.Stands j) : op.ensureMutable = .ok () := by
  unfold Operation.ensureMutable refusal?
  rw [h.flight, h.state]
  rfl

/-- An action that is modified is not applied by that. -/
theorem stands_modifyAction (h : op.Stands j) (id : ActionId)
    (f : Action → Action) : (op.modifyAction id f).Stands j :=
  ⟨h.journal, h.flight, h.state⟩

/-- Restaging concerns the staged nodes, and nothing that goes back. -/
theorem stands_restage (h : op.Stands j) (id : ActionId) (a : Action)
    (active : Bool) : (op.restage id a active).Stands j := by
  unfold restage
  split
  · split
    · exact ⟨h.journal, h.flight, h.state⟩
    · exact h
  · exact ⟨h.journal, h.flight, h.state⟩

/-- Switching modifies and restages. -/
theorem stands_setActive (h : op.Stands j) {id : ActionId} {active : Bool}
    (hop : op.setActive id active = .ok (some op')) : op'.Stands j := by
  obtain ⟨a, -, -, -, rfl⟩ := of_setActive_ok hop
  split
  · exact stands_restage (stands_modifyAction h _ _) _ _ _
  · exact stands_modifyAction h _ _

/-- Switching a membership modifies it and nothing else. -/
theorem stands_setMembershipActive (h : op.Stands j) {index : Nat}
    {active : Bool} (hop : op.setMembershipActive index active = .ok op') :
    op'.Stands j := by
  obtain rfl := of_setMembershipActive_ok hop
  exact ⟨h.journal, h.flight, h.state⟩

/-- Deciding modifies the conflict and what it wraps, and restages. -/
theorem stands_setResolution (h : op.Stands j) {id : ActionId} {r : Resolution}
    (hop : op.setResolution id r = .ok op') : op'.Stands j := by
  obtain ⟨a, c, -, -, rfl⟩ := of_setResolution_ok hop
  exact stands_restage (stands_modifyAction (stands_modifyAction h _ _) _ _) _ _ _

/-- Neither building nor reviewing touches the way back. -/
theorem keptByReviews_stands (j : List Revert) :
    KeptByReviews (fun _ => True) (Stands j) where
  proposed _ _ := trivial
  addAction _ h := ⟨h.journal, h.flight, h.state⟩
  addConflict _ _ h := ⟨h.journal, h.flight, h.state⟩
  addMembership h := ⟨h.journal, h.flight, h.state⟩
  options _ h := ⟨h.journal, h.flight, h.state⟩
  populated h := ⟨h.journal, h.flight, h.state⟩
  setActive h hop := stands_setActive h hop
  setMembershipActive h hop := stands_setMembershipActive h hop
  setResolution h hop := stands_setResolution h hop

end Operation

-- ============================================================== by itself

/-- Applying an operation that takes changes is nothing but its pass, with
what came of it taken in. -/
theorem Host.apply_alone {op : Operation} (hm : op.ensureMutable = .ok ())
    (l : LiveScene) :
    (Host.alone.apply : EStateM Halt (Operation × LiveScene) ApplyReport) (op, l)
      = match Host.alone.inFlight s!"Merge {op.sourcePath}"
            (Host.alone.runPass op) (op, l) with
        | .ok p q =>
            .ok ⟨p.applied, p.memberships.length, op.skipped⟩
              (q.1.absorb p, q.2)
        | .error e q => .error e q := by
  refine (Host.apply_eq Host.alone hm).trans ?_
  cases hfly : Host.alone.inFlight s!"Merge {op.sourcePath}"
      (Host.alone.runPass op) (op, l) with
  | error e q => exact bind_error hfly
  | ok p q => exact bind_ok hfly

-- =================================================================== runs

/-- The journal of the operation returns from the scene as it is to `s₀`. -/
structure Revertible (s₀ : Scene) (p : Operation × LiveScene) : Prop where
  stands : p.1.Stands p.1.journal
  settled : p.2.transaction = none
  wellFormed : p.2.scene.WellFormed
  back : Returns p.1.journal p.2.scene s₀

section runs

variable {s₀ : Scene} {op : Operation} {l : LiveScene}

/-- A call on the operation alone that leaves the journal as it is. -/
theorem revertible_onFirst {α : Type} {call : EStateM Halt Operation α}
    (hc : ∀ j, Keeps (Operation.Stands j) call) :
    Keeps (Revertible s₀) (onFirst call) := by
  rintro ⟨op, l⟩ hp
  have hstands := hc op.journal op hp.stands
  unfold onFirst focus
  cases hrun : call op with
  | ok a op' =>
      rw [hrun] at hstands
      have hj : op'.journal = op.journal := hstands.journal
      simp only
      exact ⟨⟨rfl, hstands.flight, hstands.state⟩, hp.settled, hp.wellFormed,
        by rw [finalState, hj]; exact hp.back⟩
  | error e op' =>
      rw [hrun] at hstands
      have hj : op'.journal = op.journal := hstands.journal
      simp only
      exact ⟨⟨rfl, hstands.flight, hstands.state⟩, hp.settled, hp.wellFormed,
        by rw [finalState, hj]; exact hp.back⟩

/-- Alone, the flag is raised and lowered again, and that is all. -/
theorem fly_alone (hop : op.inFlight = false) :
    Host.alone.fly false { op with inFlight := true } = op := by
  show { op with inFlight := false } = op
  rw [← hop]

/-- A step of a pass keeps the operation as it is in flight, and that the
journal of the scene leads back. -/
theorem keeps_runPass_alone (op : Operation) (l : LiveScene) :
    Keeps (fun p : Operation × LiveScene =>
      p.1 = Host.alone.fly true op ∧ Since l p.2) (Host.alone.runPass op) :=
  Host.keeps_runPass (h := Host.alone) (Q := (· = Host.alone.fly true op))
    (keptByMutations_since l) (fun _ => .pure ()) op

/-- A pass that is committed puts its way back in front of the journal,
one that is stopped never was. -/
theorem revertible_apply : Keeps (Revertible s₀) Move.apply.call := by
  rintro ⟨op, l⟩ hp
  have hm := hp.stands.ensureMutable
  have hflight := hp.stands.flight
  cases hfly : Host.alone.inFlight s!"Merge {op.sourcePath}"
      (Host.alone.runPass op) (op, l) with
  -- the transaction is rolled back and the flag lowered, so nothing has changed
  | error e q =>
      obtain ⟨t, rfl, rfl⟩ := Host.inFlight_error
        (Q := (· = Host.alone.fly true op)) (keeps_runPass_alone op l)
        hp.wellFormed hp.settled rfl hfly
      have hcall : Move.apply.call (op, l) = .error e (op, l) := by
        have happly := Host.apply_alone hm l
        rw [hfly, show Host.alone.fly false (Host.alone.fly true op) = op from
          fly_alone hflight] at happly
        exact bind_error happly
      rw [hcall]
      exact hp
  | ok pass q =>
      -- the pass goes back to where the journal begins, and the journal from there to
      -- `s₀`
      obtain ⟨-, t, l₁, l₂, hrun, hcommit, rfl⟩ := Host.of_inFlight_begun hfly
      have hbegun : Since l (l.begun s!"Merge {op.sourcePath}") :=
        since_start hp.wellFormed _
      obtain ⟨ht, hsince⟩ := (keeps_runPass_alone op l).ok ⟨rfl, hbegun⟩ hrun
      simp only at ht hsince
      subst ht
      obtain ⟨-, hback⟩ := Host.runPass_undoes Host.alone op
        (l := l.begun s!"Merge {op.sourcePath}") hp.wellFormed hrun
      obtain ⟨l₂', hcommit', hscene, hsettled, -⟩ := commit_of_since hsince
      rw [hcommit'] at hcommit
      cases hcommit
      have hcall : Move.apply.call (op, l) = .ok () (op.absorb pass, l₂) := by
        have happly := Host.apply_alone hm l
        rw [hfly, show Host.alone.fly false (Host.alone.fly true op) = op from
          fly_alone hflight] at happly
        exact bind_ok happly
      rw [hcall]
      refine ⟨⟨rfl, hflight, rfl⟩, hsettled, ?_, ?_⟩
      · rw [finalState, hscene]
        exact hsince.wellFormed
      · rw [finalState, hscene]
        exact hback.append hp.back

/-- No move breaks the way back. -/
theorem keeps_revertible (m : Move) : Keeps (Revertible s₀) m.call := by
  have hf := fun j => (Host.lawful_alone.keeper (Operation.Stands j)).follows
  have hR := fun j => (Operation.keptByReviews_stands j).changed
  have ht : ∀ j event, Keeps (Operation.Stands j) (Host.alone.tell event) :=
    fun _ _ => .pure _
  cases m with
  | addAction a =>
      exact .bind (revertible_onFirst fun j =>
        Host.keeps_addAction (hf j) (hR j) (ht j) trivial) fun _ => .pure _
  | addConflict type source target? sourceEntity? targetEntity? =>
      exact .bind (revertible_onFirst fun j =>
        Host.keeps_addConflict (hf j) (hR j) (ht j) trivial fun _ _ => trivial) fun _ => .pure _
  | addMembership change =>
      exact .bind (revertible_onFirst fun j =>
        Host.keeps_addMembership (hf j) (hR j) change) fun _ => .pure _
  | populate source base? target =>
      exact revertible_onFirst fun j =>
        Host.keeps_populate (hf j) (hR j) (ht j)
          (fun _ => (Operation.keptByReviews_stands j).populated) source base? target
  | setActive id active =>
      exact revertible_onFirst fun j => Host.keeps_setActive (hf j) (hR j) (ht j) id active
  | setMembershipActive index active =>
      exact revertible_onFirst fun j =>
        Host.keeps_setMembershipActive (hf j) (hR j) index active
  | setResolution id r =>
      exact revertible_onFirst fun j => Host.keeps_setResolution (hf j) (hR j) (ht j) id r
  | apply => exact revertible_apply

/-- No move breaks the way back, so none does at the end of all of them. -/
theorem revertible_play (moves : List Move) :
    ∀ {p : Operation × LiveScene}, Revertible s₀ p →
      Revertible s₀ (Move.play moves p) := by
  induction moves with
  | nil => exact fun hp => hp
  | cons m moves ih => exact fun hp => ih (keeps_revertible m _ hp)

/-- Aborting goes back by the whole journal, in one transaction. -/
theorem abort_revertible (hp : Revertible s₀ (op, l)) :
    ∃ op' l', (Host.alone.abort : EStateM Halt (Operation × LiveScene) Unit)
        (op, l) = .ok () (op', l')
      ∧ l'.scene = s₀
      ∧ (l'.undos = l.undos ∨ ∃ j, l'.undos = j :: l.undos) := by
  have hm := hp.stands.ensureMutable
  cases hj : op.journal.isEmpty with
  -- nothing was applied, so the scene is `s₀` still, and no transaction is begun
  | true =>
      have hback := hp.back
      simp only [List.isEmpty_iff.1 hj] at hback
      exact ⟨op.close, l, Host.abort_eq_of_nil Host.alone hm hj,
        hback.eq_of_nil, .inl rfl⟩
  -- the journal goes back in a transaction, which leaves a step to undo unless it
  -- changed nothing
  | false =>
      obtain ⟨l₁, hrun, hscene₁⟩ := hp.back
        (l.begun s!"Abort merge {op.sourcePath}") rfl
      have hsince : Since l l₁ :=
        (KeptByMutations.keeps_runAll (keptByMutations_since l) op.journal).ok
          (since_start hp.wellFormed _) hrun
      obtain ⟨l₂, hcommit, hscene₂, -, hhistory⟩ := commit_of_since hsince
      have hbody : onSecond ((Revert.runAll op.journal).adaptExcept
          (Halt.refused ∘ MergeError.scene)) (Host.alone.fly true op,
            l.begun s!"Abort merge {op.sourcePath}")
          = .ok () (Host.alone.fly true op, l₁) :=
        onSecond_ok (adaptExcept_ok hrun)
      have hfly := Host.inFlight_ok (s := op) hp.settled hbody hcommit
      rw [show Host.alone.fly false (Host.alone.fly true op) = op from
        fly_alone hp.stands.flight] at hfly
      refine ⟨op.close, l₂, ?_, hscene₂.trans hscene₁, ?_⟩
      · exact (Host.abort_eq Host.alone hm hj).trans (bind_ok hfly)
      · rcases hhistory with ⟨hundos, -⟩ | ⟨j, hundos, -⟩
        · exact .inl hundos
        · exact .inr ⟨j, hundos⟩

end runs

-- ================================================================= fresh

/-- What merges snapshots has applied nothing yet, and takes changes. -/
theorem Operation.stands_construct {source target : Snapshot}
    {base? : Option Snapshot} {options : MergeOptions} {op : Operation}
    (h : Operation.construct source base? target options = .ok op) :
    op.Stands [] :=
  (keptByReviews_stands []).construct ⟨rfl, rfl, rfl⟩ h

/-- Whatever is made of an operation on one scene, as long as nothing was
applied before, aborting it is granted and brings the scene back, with at
most one step to undo. -/
theorem abort_returns {op : Operation} (hop : op.Stands []) {l : LiveScene}
    (hwf : l.scene.WellFormed) (ht : l.transaction = none) (moves : List Move) :
    ∃ op' l', (Host.alone.abort : EStateM Halt (Operation × LiveScene) Unit)
        (Move.play moves (op, l)) = .ok () (op', l')
      ∧ l'.scene = l.scene
      ∧ (l'.undos = (Move.play moves (op, l)).2.undos
        ∨ ∃ j, l'.undos = j :: (Move.play moves (op, l)).2.undos) := by
  have hstands : op.Stands op.journal := by
    rw [hop.journal]
    exact hop
  have hstart : Revertible l.scene (op, l) :=
    ⟨hstands, ht, hwf, by rw [hop.journal]; exact .nil⟩
  exact abort_revertible (revertible_play moves hstart)

/-- A wall made way for a light, and stands there again. -/
theorem abort_returns_wall :
    let l : LiveScene := { scene := ⟨[⟨"wall", ∅, []⟩], {}⟩ }
    let p := Move.play
      [.addAction (.removeEntity ⟨"wall", ∅, []⟩),
        .addAction (.addEntity ⟨"light", ∅, []⟩), .apply]
      ({ sourcePath := "source", basePath := "" }, l)
    p.2.scene.names = ["light"]
      ∧ ∃ op' l', (Host.alone.abort :
            EStateM Halt (Operation × LiveScene) Unit) p = .ok () (op', l')
          ∧ l'.scene = l.scene := by
  intro l p
  have hwf : l.scene.WellFormed :=
    ⟨by decide, Metadata.pruned_empty, by simp [l]⟩
  have hop : Operation.Stands []
      { sourcePath := "source", basePath := "" } := ⟨rfl, rfl, rfl⟩
  obtain ⟨op', l', hrun, hscene, -⟩ := abort_returns hop (l := l) hwf rfl _
  exact ⟨by decide +kernel, op', l', hrun, hscene⟩

end SceneMerge
