/-
What is true of a live scene after any calls whatsoever: mutations in
and outside of transactions, transactions begun and closed, undoing and
redoing, granted or refused. Edits that are undone may meet a scene that
they were not journaled in, for mutations outside of transactions leave
no trace in the history, and then undoing may stop half way.

It is a matter of single edits. Whatever scene an edit is made in, the
scene that it makes is tidy again and lists no name without an entity
that was not listed without one before (`Scene.Sheds`). A replay, however
far it comes, does the same (`Scene.Tidy.sheds_replay`), and so does every
call (`HistoryStep.sheds`). `tidy_of_reachable` is what comes of this.
-/
import SceneMerge.Proofs.Content.Snapshot
import SceneMerge.Proofs.Scene.History

namespace SceneMerge

-- =============================================================== shedding

/-- `t` is tidy, and has no strays but those of `s`. -/
structure Scene.Sheds (s t : Scene) : Prop where
  tidy : t.Tidy
  strays : ∀ g n, t.Stray g n → s.Stray g n

/-- A tidy scene brings no strays to itself, which is what calls come to that change
nothing. -/
theorem Scene.Tidy.sheds {s : Scene} (h : s.Tidy) : s.Sheds s :=
  ⟨h, fun _ _ hs => hs⟩

/-- What can be retraced brought no strays. -/
theorem Retraces.sheds {edits : List Edit} {s t : Scene}
    (h : Retraces edits t s) : s.Sheds t :=
  ⟨h.tidy, h.strays⟩

/-- A replay may stop half way. Where it stops can be retraced to where it began, and
that is enough. -/
theorem Scene.Tidy.sheds_replay {s : Scene} (h : s.Tidy)
    (inverse edits : List Edit) : s.Sheds (s.replay inverse edits).scene := by
  obtain ⟨t, back, error?, hback, hreplay⟩ := h.replay edits
  rw [hreplay]
  exact hback.sheds

namespace LiveScene

variable {l : LiveScene}

/-- A mutation that is granted is one edit. One that is refused makes none. -/
theorem sheds_mutate {α : Type} {m : Mutation α} (hm : m.Reversible)
    (h : l.scene.Tidy) : l.scene.Sheds (finalState (mutate m l)).scene := by
  unfold mutate
  cases hr : m l.scene with
  | error e => exact h.sheds
  | ok r => exact (hm _ _ h hr).sheds

/-- A transaction is begun without touching the scene, or it is refused. -/
theorem scene_start (label : String) :
    (finalState (start label l)).scene = l.scene := by
  unfold start
  cases l.transaction <;> rfl

/-- A transaction is committed without touching the scene, whether or not its journal
becomes a step to undo. -/
theorem scene_commit : (finalState (commit l)).scene = l.scene := by
  unfold commit
  cases l.transaction with
  | none => rfl
  | some j =>
      simp only
      split <;> rfl

/-- Rolling back replays the journal that is open. -/
theorem sheds_rollback (h : l.scene.Tidy) :
    l.scene.Sheds (finalState (rollback l)).scene := by
  unfold rollback
  cases l.transaction with
  | none => exact h.sheds
  | some j =>
      simp only
      split <;> exact h.sheds_replay [] j.inverse

/-- Undoing replays the step that is on top, if one is there and no transaction is open.
Otherwise the scene stays as it is. -/
theorem sheds_undo (h : l.scene.Tidy) :
    l.scene.Sheds (finalState (undo l)).scene := by
  unfold undo
  cases l.transaction with
  | some j => exact h.sheds
  | none =>
      cases l.undos with
      | nil => exact h.sheds
      | cons j undos =>
          simp only
          split <;> exact h.sheds_replay [] j.inverse

/-- Redoing does the same with the other stack, and replays in the order in which the
edits were made. -/
theorem sheds_redo (h : l.scene.Tidy) :
    l.scene.Sheds (finalState (redo l)).scene := by
  unfold redo
  cases l.transaction with
  | some j => exact h.sheds
  | none =>
      cases l.redos with
      | nil => exact h.sheds
      | cons j redos =>
          simp only
          split <;> exact h.sheds_replay [] j.inverse

end LiveScene

/-- The scene does not depend on what is answered. -/
private theorem sheds_map {α β : Type} {call : EStateM SceneError LiveScene α}
    {l : LiveScene} (f : α → β)
    (h : l.scene.Sheds (finalState (call l)).scene) :
    l.scene.Sheds (finalState ((call >>= fun a => pure (f a)) l)).scene := by
  rwa [finalState_map]

/-- Every call keeps the scene tidy and brings no strays. -/
theorem HistoryStep.sheds {l : LiveScene} (h : l.scene.Tidy)
    (step : HistoryStep) : l.scene.Sheds (finalState (step.live l)).scene := by
  cases step with
  | start label =>
      refine sheds_map _ ?_
      rw [LiveScene.scene_start]
      exact h.sheds
  | ask r =>
      refine sheds_map _ ?_
      rw [r.call_eq]
      exact LiveScene.sheds_mutate r.reversible_mutation h
  | commit =>
      refine sheds_map _ ?_
      rw [LiveScene.scene_commit]
      exact h.sheds
  | rollback => exact sheds_map _ (LiveScene.sheds_rollback h)
  | undo => exact sheds_map _ (LiveScene.sheds_undo h)
  | redo => exact sheds_map _ (LiveScene.sheds_redo h)

-- =============================================================== refusals

namespace LiveScene

variable {l l' : LiveScene} {e : SceneError}

/-- A mutation that is refused changes nothing, in a transaction or not. -/
theorem eq_of_call_error {r : Request}
    (h : (r.call : EStateM SceneError LiveScene Unit) l = .error e l') : l' = l := by
  rw [r.call_eq] at h
  unfold mutate at h
  split at h <;> cases h
  rfl

/-- A step was taken off the one stack and is lost. The other stack is as it
was, and no transaction is open. -/
structure Drops (one other : LiveScene → List Journal) (l l' : LiveScene) :
    Prop where
  settled : l'.transaction = none
  taken : ∃ j, one l = j :: one l'
  kept : other l' = other l

/-- The call was not made, for a transaction is open. -/
def Barred (e : SceneError) (l l' : LiveScene) : Prop :=
  ∃ j, l.transaction = some j ∧ e = .transactionOpen j.label ∧ l' = l

/-- Undoing is refused while a transaction is open. Otherwise it fails only in the
replay, and by then the step is off its stack. -/
theorem undo_error (h : undo l = .error e l') :
    Barred e l l' ∨ Drops undos redos l l' := by
  unfold undo at h
  cases ht : l.transaction with
  | some j =>
      rw [ht] at h
      cases h
      exact .inl ⟨j, ht, rfl, rfl⟩
  | none =>
      -- with nothing to undo the call answers so, and does not fail
      -- with nothing to undo the call answers so, and does not fail
      cases hu : l.undos with
      | nil =>
          rw [ht, hu] at h
          cases h
      | cons j undos =>
          rw [ht, hu] at h
          simp only at h
          split at h <;> cases h
          exact .inr ⟨rfl, ⟨j, hu⟩, rfl⟩

/-- Redoing fails in the same two ways. The step that it loses is one of those that were
undone. -/
theorem redo_error (h : redo l = .error e l') :
    Barred e l l' ∨ Drops redos undos l l' := by
  unfold redo at h
  cases ht : l.transaction with
  | some j =>
      rw [ht] at h
      cases h
      exact .inl ⟨j, ht, rfl, rfl⟩
  | none =>
      -- with nothing to redo the call answers so, and does not fail
      -- with nothing to redo the call answers so, and does not fail
      cases hr : l.redos with
      | nil =>
          rw [ht, hr] at h
          cases h
      | cons j redos =>
          rw [ht, hr] at h
          simp only at h
          split at h <;> cases h
          exact .inr ⟨rfl, ⟨j, hr⟩, rfl⟩

-- ============================================================== snapshots

/-- A snapshot whose names are distinct is taken over, without what has no members. -/
theorem ofSnapshot_eq {s : Snapshot} (h : s.names.Nodup) :
    ofSnapshot s = .ok { scene := ⟨s.entities, s.metadata.prune⟩ } := by
  unfold ofSnapshot
  rw [Snapshot.repeated?_eq_none.2 h]

/-- A scene is made of a snapshot only if the names are distinct, and what has no
members is dropped on the way. -/
theorem tidy_ofSnapshot {s : Snapshot} (h : ofSnapshot s = .ok l) :
    l.scene.Tidy := by
  unfold ofSnapshot at h
  split at h
  · cases h
  · next hnone =>
      cases h
      exact ⟨Snapshot.repeated?_eq_none.1 hnone, Metadata.pruned_prune _⟩

/-- A tidy scene is what its snapshot starts out with. -/
theorem ofSnapshot_toSnapshot (h : l.scene.Tidy) (path : String) :
    ofSnapshot (l.toSnapshot path) = .ok { scene := l.scene } := by
  have hnames : (l.toSnapshot path).repeated? = none :=
    Snapshot.repeated?_eq_none.2 h.distinct
  unfold ofSnapshot
  rw [hnames]
  simp only [toSnapshot, Metadata.prune_eq h.pruned]

-- =================================================================== runs

/-- What can become of an empty scene, or of one that starts out from a
snapshot. -/
inductive Reachable : LiveScene → Prop where
  | empty : Reachable {}
  | ofSnapshot {s : Snapshot} {l : LiveScene} :
      LiveScene.ofSnapshot s = .ok l → Reachable l
  | step {l : LiveScene} (step : HistoryStep) :
      Reachable l → Reachable (finalState (step.live l))

/-- Tidiness holds at the start and is kept by every call, granted or not. The induction
is on how the live scene came about. -/
theorem Reachable.tidy (h : l.Reachable) : l.scene.Tidy := by
  induction h with
  | empty => exact ⟨List.nodup_nil, Metadata.pruned_empty⟩
  | ofSnapshot hl => exact tidy_ofSnapshot hl
  | step step _ ih => exact (step.sheds ih).tidy

/-- Further calls lead from what is reachable to what is reachable. -/
theorem Reachable.play (steps : List HistoryStep) :
    ∀ {l : LiveScene}, l.Reachable → (HistoryStep.play steps l).Reachable := by
  induction steps with
  | nil => exact fun h => h
  | cons step rest ih => exact fun h => ih (h.step step)

end LiveScene

-- ================================================================= result

open LiveScene

/-- Whatever became of a live scene, its names are distinct and its layers
and groups have members, no call brings a membership without an entity, a
mutation that is refused changes nothing, undoing and redoing lose at most
the step that they take off, and the snapshot of the scene starts out as
that scene. -/
theorem tidy_of_reachable {l : LiveScene} (h : l.Reachable) :
    l.scene.names.Nodup ∧ l.scene.metadata.Pruned
      ∧ (∀ (step : HistoryStep) g n,
          (finalState (step.live l)).scene.Stray g n → l.scene.Stray g n)
      ∧ (∀ (r : Request) e l', r.call l = .error e l' → l' = l)
      ∧ (∀ e l', undo l = .error e l' →
          Barred e l l' ∨ Drops undos redos l l')
      ∧ (∀ e l', redo l = .error e l' →
          Barred e l l' ∨ Drops redos undos l l')
      ∧ ∀ path, ofSnapshot (l.toSnapshot path) = .ok { scene := l.scene } := by
  have htidy := h.tidy
  refine ⟨htidy.distinct, htidy.pruned, fun step => (step.sheds htidy).strays,
    fun r e l' => eq_of_call_error, fun e l' => undo_error,
    fun e l' => redo_error, ofSnapshot_toSnapshot htidy⟩

/-- A layer lists a light, but there is none. One comes in a transaction and
is taken out again outside of any, which empties the layer. Undoing stops,
for there is no light to take out, and the transaction is lost. -/
theorem tidy_of_reachable_light :
    let light : Entity := { name := "light" }
    let target : Snapshot :=
      ⟨"target", [], ({} : Metadata).put (.layer "ground") "light" true⟩
    let steps : List HistoryStep := [.start "edit", .ask (.insertEntity light),
      .commit, .ask (.removeEntity "light")]
    let l : LiveScene := { undos := [⟨"edit", [.removeEntity "light"]⟩] }
    ∃ l₀, ofSnapshot target = .ok l₀
      ∧ l₀.scene.Stray (.layer "ground") "light"
      ∧ HistoryStep.play steps l₀ = l ∧ l.Reachable
      ∧ undo l = .error (.entityNotFound "light") {}
      ∧ Drops undos redos l {}
      ∧ ofSnapshot (l.toSnapshot "saved") = .ok {} := by
  intro light target steps l
  let l₀ : LiveScene := { scene := ⟨[], target.metadata.prune⟩ }
  have hl : ofSnapshot target = .ok l₀ := rfl
  have hplay : HistoryStep.play steps l₀ = l := by decide +kernel
  have hreach : l.Reachable := by
    rw [← hplay]
    exact .play steps (.ofSnapshot hl)
  have hstopped : undo l = .error (.entityNotFound "light") {} := rfl
  obtain ⟨-, -, -, -, hundo, -, hsaved⟩ := tidy_of_reachable hreach
  refine ⟨l₀, hl, ⟨rfl, by decide +kernel⟩, hplay, hreach, hstopped, ?_,
    hsaved "saved"⟩
  rcases hundo _ _ hstopped with ⟨j, hj, -⟩ | hdrops
  · cases hj
  · exact hdrops

end SceneMerge
