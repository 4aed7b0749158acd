/-
Transactions of a live scene. From the moment a transaction is begun
until it is closed, its journal retraces what was done since, and the
history is not touched (`Recorded`). Every reversible mutation keeps
that, taken or refused. So committing puts on the undo stack what leads
back, but for strays (`commit_of_recorded`), and undoing and redoing are
granted (`undo_recorded`).

Where there were no strays when the transaction was begun (`Since`), it
can be rolled back at any point, and rolling it back restores the live
scene exactly (`rollback_of_since`). `within_error` is what everybody else
needs of this: a body that keeps to reversible mutations and is stopped
leaves the live scene as it found it.
-/
import SceneMerge.Proofs.Scene.Keeping

namespace SceneMerge

namespace LiveScene

-- ============================================================ the journal

/-- `l` is what a transaction begun on `l₀` has come to so far. -/
structure Recorded (l₀ l : LiveScene) : Prop where
  /-- The journal retraces what was done since. -/
  back : ∃ j, l.transaction = some j ∧ Retraces j.inverse l.scene l₀.scene
  undos : l.undos = l₀.undos
  redos : l.redos = l₀.redos

/-- What was done since is recorded, and the transaction was begun on a scene without
strays. -/
structure Since (l₀ l : LiveScene) : Prop extends Recorded l₀ l where
  origin : l₀.scene.WellFormed

variable {l₀ l : LiveScene}

/-- A transaction is begun with an empty journal, if none is open. -/
theorem start_eq (h : l₀.transaction = none) (label : String) :
    start label l₀ = .ok () { l₀ with transaction := some ⟨label, []⟩ } := by
  unfold start
  rw [h]

/-- An empty journal retraces nothing, which is what was done so far. -/
theorem recorded_start (h : l₀.scene.Tidy) (label : String) :
    Recorded l₀ { l₀ with transaction := some ⟨label, []⟩ } where
  back := ⟨⟨label, []⟩, rfl, .nil h⟩
  undos := rfl
  redos := rfl

/-- A transaction begun on a scene without strays has recorded what was done since,
which is nothing. -/
theorem since_start (h : l₀.scene.WellFormed) (label : String) :
    Since l₀ { l₀ with transaction := some ⟨label, []⟩ } :=
  ⟨recorded_start h.tidy label, h⟩

/-- The journal leads back exactly. -/
theorem Since.leads (hl : Since l₀ l) :
    ∃ j, l.transaction = some j ∧ Leads j.inverse l.scene l₀.scene := by
  obtain ⟨j, hj, hback⟩ := hl.back
  exact ⟨j, hj, (hback.exact hl.origin).2⟩

/-- What can be retraced exactly is well-formed, as where it began is. -/
theorem Since.wellFormed (hl : Since l₀ l) : l.scene.WellFormed := by
  obtain ⟨j, -, hback⟩ := hl.back
  exact (hback.exact hl.origin).1

/-- One mutation prepends its way back to the journal. -/
theorem keptByMutations_recorded (l₀ : LiveScene) :
    KeptByMutations (Recorded l₀) := by
  intro α m hm l hl
  show Recorded l₀ (finalState (mutate m l))
  unfold mutate
  cases hr : m l.scene with
  | error e => exact hl
  | ok r =>
      obtain ⟨j, hj, hback⟩ := hl.back
      refine ⟨⟨{ j with inverse := r.inverse ++ j.inverse }, ?_, ?_⟩,
        hl.undos, hl.redos⟩
      · show l.record r.inverse = _
        rw [record, hj]
        rfl
      · exact (hm _ _ hback.tidy hr).append hback

/-- Mutations, granted or refused, are recorded, and where it all began stays where it
was. -/
theorem keptByMutations_since (l₀ : LiveScene) :
    KeptByMutations (Since l₀) :=
  fun m hm l hl =>
    ⟨keptByMutations_recorded l₀ m hm l hl.toRecorded, hl.origin⟩

-- ================================================================ closing

/-- Rolling back restores the live scene, history and all. -/
theorem rollback_of_since (h : l₀.transaction = none) (hl : Since l₀ l) :
    rollback l = .ok () l₀ := by
  obtain ⟨j, hj, hback⟩ := hl.leads
  obtain ⟨-, back, -, hreplay⟩ := hback.reverse hl.wellFormed
  unfold rollback
  rw [hj]
  simp only [hreplay]
  obtain ⟨scene, transaction, undos, redos⟩ := l₀
  simp only at h
  rw [h, hl.undos, hl.redos]

/-- Committing ends the transaction and keeps the scene. -/
theorem of_commit_ok {m : LiveScene} (h : commit l = .ok () m) :
    m.scene = l.scene ∧ m.transaction = none := by
  unfold commit at h
  split at h
  · cases h
  · split at h
    · cases h
      exact ⟨rfl, rfl⟩
    · cases h
      exact ⟨rfl, rfl⟩

/-- Where there were strays, rolling back may lose some of them. -/
theorem rollback_of_recorded (h : l₀.transaction = none) (hl : Recorded l₀ l) :
    ∃ s : Scene, s.Trims l₀.scene ∧ rollback l = .ok () { l₀ with scene := s } := by
  obtain ⟨j, hj, hback⟩ := hl.back
  obtain ⟨v, back, htrims, -, hreplay, -⟩ := hback.there_and_back
  refine ⟨v, htrims, ?_⟩
  unfold rollback
  rw [hj]
  simp only [hreplay]
  rw [h, hl.undos, hl.redos]

/-- Committing keeps the scene. It leaves the history alone if nothing
was changed, and adds one step to it otherwise. -/
theorem commit_of_recorded (hl : Recorded l₀ l) :
    ∃ t, commit l = .ok () t ∧ t.scene = l.scene ∧ t.transaction = none
      ∧ (t.undos = l₀.undos ∧ t.redos = l₀.redos
        ∨ ∃ j, t.undos = j :: l₀.undos ∧ t.redos = []
          ∧ Retraces j.inverse l.scene l₀.scene) := by
  obtain ⟨j, hj, hback⟩ := hl.back
  unfold commit
  rw [hj]
  cases hempty : j.inverse.isEmpty with
  | true =>
      refine ⟨{ l with transaction := none }, ?_, rfl, rfl, ?_⟩
      · simp [hempty]
      · exact .inl ⟨hl.undos, hl.redos⟩
  | false =>
      refine ⟨{ l with transaction := none, undos := j :: l.undos, redos := [] },
        ?_, rfl, rfl, ?_⟩
      · simp [hempty]
      · exact .inr ⟨j, by rw [hl.undos], rfl, hback⟩

/-- Without strays, what committing adds to the history leads back. -/
theorem commit_of_since (hl : Since l₀ l) :
    ∃ t, commit l = .ok () t ∧ t.scene = l.scene ∧ t.transaction = none
      ∧ (t.undos = l₀.undos ∧ t.redos = l₀.redos
        ∨ ∃ j, t.undos = j :: l₀.undos ∧ t.redos = []
          ∧ Leads j.inverse l.scene l₀.scene) := by
  obtain ⟨t, hcommit, hscene, hsettled, hhistory⟩ :=
    commit_of_recorded hl.toRecorded
  refine ⟨t, hcommit, hscene, hsettled, hhistory.imp_right ?_⟩
  rintro ⟨j, hundos, hredos, hback⟩
  exact ⟨j, hundos, hredos, (hback.exact hl.origin).2⟩

/-- A step of the history is undone and redone. Undoing loses strays of the
scene that it goes back to, those of names that are entities by now and
those that were given up since; redoing loses nothing. -/
theorem undo_recorded {s : Scene} {j : Journal} {undos : List Journal}
    (ht : l.transaction = none) (hu : l.undos = j :: undos)
    (hback : Retraces j.inverse l.scene s) :
    ∃ l₁ l₂, undo l = .ok true l₁ ∧ l₁.scene.Trims s
      ∧ (∀ g n, l₁.scene.Stray g n ↔ l.scene.Stray g n)
      ∧ redo l₁ = .ok true l₂ ∧ l₂.scene = l.scene := by
  obtain ⟨v, back, htrims, hstrays, hreplay, forth, hreplay'⟩ :=
    hback.there_and_back
  refine ⟨{ l with scene := v, undos, redos := ⟨j.label, back⟩ :: l.redos },
    { l with undos := ⟨j.label, forth⟩ :: undos }, ?_, htrims, hstrays, ?_, rfl⟩
  · unfold undo
    rw [ht, hu]
    simp only [hreplay, List.append_nil]
  · unfold redo
    rw [ht]
    simp only [hreplay', List.append_nil]

end LiveScene

-- ================================================================= bodies

open LiveScene

variable {ε σ α : Type} {l₀ : LiveScene} {body : EStateM ε (σ × LiveScene) α}

/-- What is beside a state is not touched by a call on the state. -/
theorem onSecond_ok {S : Type} {call : EStateM ε S α} {x : σ} {s t : S} {a : α}
    (h : call s = .ok a t) : onSecond call (x, s) = .ok a (x, t) := by
  unfold onSecond focus
  simp only [h]

/-- The live scene in which a transaction was begun. -/
def LiveScene.begun (l₀ : LiveScene) (label : String) : LiveScene :=
  { l₀ with transaction := some ⟨label, []⟩ }

/-- A transaction beside something else is begun. -/
theorem start_beside (ht : l₀.transaction = none) (label : String) (x : σ) :
    (Surface.start label : EStateM SceneError (σ × LiveScene) Unit) (x, l₀)
      = .ok () (x, l₀.begun label) :=
  onSecond_ok (start_eq ht label)

/-- A body that is stopped ends the transaction with its error, and what was
done is rolled back. -/
theorem within_rolledBack (refusal : SceneError → ε) (label : String)
    (ht : l₀.transaction = none) {x y : σ} {l l₁ : LiveScene} {e : ε}
    (h : body (x, l₀.begun label) = .error e (y, l)) (hback : rollback l = .ok () l₁) :
    Surface.within refusal label body (x, l₀) = .error e (y, l₁) := by
  have hrollback : (Surface.rollback :
      EStateM SceneError (σ × LiveScene) Unit) (y, l) = .ok () (y, l₁) :=
    onSecond_ok hback
  have habandon : Surface.abandon (y, l) = (y, l₁) := by
    unfold Surface.abandon
    rw [hrollback]
  unfold Surface.within
  rw [start_beside ht]
  simp only [h, habandon]

/-- A body that is stopped is rolled back, and the live scene is what it was before. -/
theorem within_stopped (refusal : SceneError → ε) (label : String)
    (ht : l₀.transaction = none) {x y : σ} {l : LiveScene} {e : ε}
    (h : body (x, l₀.begun label) = .error e (y, l)) (hl : Since l₀ l) :
    Surface.within refusal label body (x, l₀) = .error e (y, l₀) :=
  within_rolledBack refusal label ht h (rollback_of_since ht hl)

/-- A body that ends well is committed. -/
theorem within_ok (refusal : SceneError → ε) (label : String)
    (ht : l₀.transaction = none) {x y : σ} {a : α} {l t : LiveScene}
    (h : body (x, l₀.begun label) = .ok a (y, l))
    (hcommit : LiveScene.commit l = .ok () t) :
    Surface.within refusal label body (x, l₀) = .ok a (y, t) := by
  have hcommit' : (Surface.commit :
      EStateM SceneError (σ × LiveScene) Unit) (y, l) = .ok () (y, t) :=
    onSecond_ok hcommit
  unfold Surface.within
  rw [start_beside ht]
  simp only [h, hcommit']

/-- A body that is stopped leaves the live scene as it was, and beside
it what the body keeps. -/
theorem within_error {Q : σ → Prop} (refusal : SceneError → ε) (label : String)
    (hbody : Keeps (fun p : σ × LiveScene => Q p.1 ∧ Since l₀ p.2) body)
    (hwf : l₀.scene.WellFormed) (ht : l₀.transaction = none) {x : σ}
    (hx : Q x) {e : ε} {p : σ × LiveScene}
    (h : Surface.within refusal label body (x, l₀) = .error e p) :
    Q p.1 ∧ p.2 = l₀ := by
  have hfirst : Q x ∧ Since l₀ (l₀.begun label) := ⟨hx, since_start hwf label⟩
  cases hb : body (x, l₀.begun label) with
  | error e' q =>
      obtain ⟨y, l⟩ := q
      obtain ⟨hq, hsince⟩ := hbody.error hfirst hb
      rw [within_stopped refusal label ht hb hsince] at h
      cases h
      exact ⟨hq, rfl⟩
  | ok a q =>
      -- an open transaction is never refused its commit
      obtain ⟨y, l⟩ := q
      obtain ⟨-, hsince⟩ := hbody.ok hfirst hb
      obtain ⟨t, hcommit, -⟩ := commit_of_since hsince
      rw [within_ok refusal label ht hb hcommit] at h
      cases h

/-- Where there were strays, a body that is stopped may lose some of them. -/
theorem within_trims {Q : σ → Prop} (refusal : SceneError → ε) (label : String)
    (hbody : Keeps (fun p : σ × LiveScene => Q p.1 ∧ Recorded l₀ p.2) body)
    (htidy : l₀.scene.Tidy) (ht : l₀.transaction = none) {x : σ}
    (hx : Q x) {e : ε} {p : σ × LiveScene}
    (h : Surface.within refusal label body (x, l₀) = .error e p) :
    Q p.1 ∧ ∃ s : Scene, s.Trims l₀.scene ∧ p.2 = { l₀ with scene := s } := by
  have hfirst : Q x ∧ Recorded l₀ (l₀.begun label) := ⟨hx, recorded_start htidy label⟩
  cases hb : body (x, l₀.begun label) with
  | error e' q =>
      obtain ⟨y, l⟩ := q
      obtain ⟨hq, hrecorded⟩ := hbody.error hfirst hb
      -- the body is stopped: the way back ends at the scene it began with, less strays
      obtain ⟨s, htrims, hback⟩ := rollback_of_recorded ht hrecorded
      rw [within_rolledBack refusal label ht hb hback] at h
      cases h
      exact ⟨hq, s, htrims, rfl⟩
  | ok a q =>
      obtain ⟨y, l⟩ := q
      obtain ⟨-, hrecorded⟩ := hbody.ok hfirst hb
      -- the body is not stopped, and then committing is granted, so nothing was refused
      obtain ⟨t, hcommit, -⟩ := commit_of_recorded hrecorded
      rw [within_ok refusal label ht hb hcommit] at h
      cases h

/-- A call that ends well had a body that ended well and was committed,
whatever the surface. -/
theorem of_within_ok {S : Type} [Surface S] {body : EStateM ε (σ × S) α}
    (refusal : SceneError → ε) (label : String) {x : σ} {s : S} {a : α}
    {p : σ × S} (h : Surface.within refusal label body (x, s) = .ok a p) :
    ∃ s₁ y s₂ t, Surface.start label s = .ok () s₁ ∧ body (x, s₁) = .ok a (y, s₂)
      ∧ Surface.commit s₂ = .ok () t ∧ p = (y, t) := by
  unfold Surface.within at h
  split at h
  · cases h
  · next q hstart =>
      obtain ⟨s₁, hstart', rfl⟩ := of_onSecond_ok hstart
      split at h
      · cases h
      · next b q hbody =>
          split at h
          · cases h
          · next r hcommit =>
              obtain ⟨t, hcommit', rfl⟩ := of_onSecond_ok (x := q.1) (s := q.2) hcommit
              cases h
              exact ⟨s₁, q.1, q.2, t, hstart', hbody, hcommit', rfl⟩

end SceneMerge
