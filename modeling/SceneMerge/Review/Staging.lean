/-
Staged nodes: the places of the scene that applied actions are shown at
while the merge is reviewed. Entities and children are nodes of a scene
and keys are not, so what concerns a key is staged at its entity. A
staged node has at least one action.
-/
import SceneMerge.Review.Action

namespace SceneMerge

structure StagedNode where
  /-- The type of the action staged first. -/
  type : ActionType
  ids : List ActionId
deriving DecidableEq

/-- Staged nodes by place, in path order. -/
abbrev StagedNodes := Std.ExtTreeMap NodePath StagedNode NodePath.order

/-- The node at which what concerns this place is staged. -/
def NodePath.wrapper : NodePath → NodePath
  | .keyValue owner _ => .entity owner
  | path => path

namespace StagedNodes

/-- Stages an action at its place, once. -/
def stage (s : StagedNodes) (path : NodePath) (id : ActionId)
    (type : ActionType) : StagedNodes :=
  s.alter path.wrapper fun
    | none => some ⟨type, [id]⟩
    | some n => some (if id ∈ n.ids then n else { n with ids := n.ids ++ [id] })

/-- Takes an action from wherever it is staged. -/
def unstage (s : StagedNodes) (id : ActionId) : StagedNodes :=
  s.filterMap fun _ n =>
    let ids := n.ids.filter (· ≠ id)
    if ids.isEmpty then none else some { n with ids }

/-- The node at which what concerns the place is staged, if anything is. -/
def node? (s : StagedNodes) (path : NodePath) : Option StagedNode :=
  s[path.wrapper]?

end StagedNodes

end SceneMerge
