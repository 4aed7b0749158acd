/-
Live scenes: a scene together with its history.

While a transaction is open every mutation is journaled as the edits
that lead back from it, newest first. Rolling back makes those edits.
Committing puts the journal on the undo stack; undoing makes its edits,
and what leads back from them is the journal that redoing makes, so the
two stacks exchange journals that revert each other.

Mutations made while no transaction is open leave no trace in the
history.
-/
import SceneMerge.Scene.Edit

namespace SceneMerge

/-- One transaction: the edits that revert it, newest first. -/
structure Journal where
  label : String
  inverse : List Edit := []
deriving DecidableEq

structure LiveScene where
  scene : Scene := {}
  /-- The transaction that is open. -/
  transaction : Option Journal := none
  /-- Committed transactions, the newest first. -/
  undos : List Journal := []
  /-- Undone transactions, the one undone last first. -/
  redos : List Journal := []
deriving DecidableEq

namespace LiveScene

-- ============================================================= snapshots

/-- The live scene that starts out from a snapshot. -/
def ofSnapshot (s : Snapshot) : Except SceneError LiveScene :=
  match s.repeated? with
  | some name => .error (.duplicateEntity s.path name)
  | none => .ok { scene := ⟨s.entities, s.metadata.prune⟩ }

def toSnapshot (l : LiveScene) (path : String) : Snapshot :=
  ⟨path, l.scene.entities, l.scene.metadata⟩

-- ============================================================= mutations

/-- Journals the edits that lead back, if a transaction is open. -/
def record (l : LiveScene) (inverse : List Edit) : Option Journal :=
  l.transaction.map fun j => { j with inverse := inverse ++ j.inverse }

/-- A mutation that is refused changes nothing. -/
def mutate {α : Type} (m : Mutation α) : EStateM SceneError LiveScene α :=
  fun l =>
  match m l.scene with
  | .error e => .error e l
  | .ok r =>
      .ok r.result { l with scene := r.scene, transaction := l.record r.inverse }

-- ========================================================== transactions

/-- Transactions do not nest. -/
def start (label : String) : EStateM SceneError LiveScene Unit := fun l =>
  match l.transaction with
  | some j => .error (.transactionOpen j.label) l
  | none => .ok () { l with transaction := some ⟨label, []⟩ }

/-- A transaction without any change is not worth undoing: it leaves both
stacks alone. -/
def commit : EStateM SceneError LiveScene Unit := fun l =>
  match l.transaction with
  | none => .error .noTransaction l
  | some j =>
      if j.inverse.isEmpty then
        .ok () { l with transaction := none }
      else
        .ok () { l with transaction := none, undos := j :: l.undos, redos := [] }

/-- The transaction is closed even if the way back is refused. -/
def rollback : EStateM SceneError LiveScene Unit := fun l =>
  match l.transaction with
  | none => .error .noTransaction l
  | some j =>
      let r := l.scene.replay [] j.inverse
      let l := { l with scene := r.scene, transaction := none }
      match r.error? with
      | some e => .error e l
      | none => .ok () l

-- ======================================================= undoing, redoing

/-- Reverts the transaction committed last; answers whether there was
one. If the way back is refused, the transaction is lost and what was
reverted of it stays reverted. -/
def undo : EStateM SceneError LiveScene Bool := fun l =>
  match l.transaction, l.undos with
  | some j, _ => .error (.transactionOpen j.label) l
  | none, [] => .ok false l
  | none, j :: undos =>
      let r := l.scene.replay [] j.inverse
      let l := { l with scene := r.scene, undos := undos }
      match r.error? with
      | some e => .error e l
      | none => .ok true { l with redos := ⟨j.label, r.inverse⟩ :: l.redos }

/-- Reverts the last undoing, likewise. -/
def redo : EStateM SceneError LiveScene Bool := fun l =>
  match l.transaction, l.redos with
  | some j, _ => .error (.transactionOpen j.label) l
  | none, [] => .ok false l
  | none, j :: redos =>
      let r := l.scene.replay [] j.inverse
      let l := { l with scene := r.scene, redos := redos }
      match r.error? with
      | some e => .error e l
      | none => .ok true { l with undos := ⟨j.label, r.inverse⟩ :: l.undos }

end LiveScene

end SceneMerge
