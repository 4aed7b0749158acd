/-
What a merge operation can refuse, and how each refusal is worded.
-/
import SceneMerge.Review.Action
import SceneMerge.Scene.Edit

namespace SceneMerge

inductive MergeError where
  /-- The snapshots cannot be matched. -/
  | setup (cause : AmbiguousIdentity)
  /-- A part was to be changed of an entity that is not there. -/
  | orderingViolation (action : ActionId) (type : ActionType)
      (entity : EntityName)
  /-- The operation was to be changed in the middle of a pass. -/
  | concurrentMergeAccess
  /-- The scene refused an action. -/
  | applyFailure (action : ActionId) (type : ActionType) (node : NodePath)
      (cause : SceneError)
  | unknownAction (action : ActionId)
  | notAConflict (action : ActionId)
  /-- Only the resolution of a conflict can switch this action. -/
  | resolutionRequired (action : ActionId)
  | alreadyPopulated
  /-- The operation was finished or aborted. -/
  | operationClosed (state : MergeState)
  /-- The scene refused something that belongs to no action. -/
  | scene (cause : SceneError)
deriving DecidableEq

def MergeError.message : MergeError → String
  | .setup cause => s!"merge setup failed: {cause.message}"
  | .orderingViolation action type entity =>
      s!"ordering violation: {action.display} ({type.name}) targets entity "
        ++ s!"{entity}, which is not in the scene"
  | .concurrentMergeAccess =>
      "merge operation is being applied; no changes allowed until the "
        ++ "transaction closes"
  | .applyFailure action type node cause =>
      s!"failed to apply {action.display} ({type.name}) to {node}: "
        ++ cause.message
  | .unknownAction action => s!"unknown action {action.display}"
  | .notAConflict action => s!"action {action.display} is not a conflict"
  | .resolutionRequired action =>
      s!"action {action.display} is controlled by a conflict resolution"
  | .alreadyPopulated => "merge operation is already populated"
  | .operationClosed state => s!"merge operation is closed ({state.name})"
  | .scene cause => s!"scene error: {cause.message}"

end SceneMerge
