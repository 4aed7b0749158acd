/-
Actions: the steps of a merge that can be switched on and off one by
one. An operation keeps its actions in a list and refers to them by
their position there.

A conflict is an action that wraps two others, the source's change and
the target's. The wrapped ones are never run or switched on their own;
the resolution of the conflict decides whether the source's is made. The
target's is for information, since the target contains its effect.
-/
import SceneMerge.Content.NodePath
import SceneMerge.Difference.Scene
import SceneMerge.Review.Kind

namespace SceneMerge

/-- The position of an action among all actions of its operation. -/
abbrev ActionId := Nat

/-- How a reader is shown an action's position. -/
def ActionId.display (id : ActionId) : String := s!"#{id}"

/-- A change of one key. -/
structure KeyValueAction where
  entity : EntityName
  key : String
  /-- What to write; a removal writes nothing. -/
  value? : Option String
  /-- What the key held before the action ran, as far as is known. -/
  unchanged? : Option String := none
deriving DecidableEq

structure Conflict where
  type : ConflictType
  source : ActionId
  target? : Option ActionId
  /-- The entity as the source has it. -/
  sourceEntity? : Option Entity
  /-- The entity as the target has it. -/
  targetEntity? : Option Entity
  resolution : Resolution := .unresolved
deriving DecidableEq

inductive ActionKind where
  | noAction
  /-- Inserts the entity with all its parts. -/
  | addEntity (entity : Entity)
  /-- Carries the entity as it was last seen. -/
  | removeEntity (entity : Entity)
  | addKeyValue (edit : KeyValueAction)
  | removeKeyValue (edit : KeyValueAction)
  | changeKeyValue (edit : KeyValueAction)
  /-- Appends the child. -/
  | addChildNode (entity : EntityName) (key : ChildKey) (node : ChildNode)
  | removeChildNode (entity : EntityName) (key : ChildKey) (node : ChildNode)
  | conflict (conflict : Conflict)
deriving DecidableEq

structure Action where
  kind : ActionKind
  /-- The place in the scene that it concerns. -/
  node : NodePath
  active : Bool := true
  /-- The conflict that wraps it. -/
  owner? : Option ActionId := none
deriving DecidableEq

namespace ActionKind

def type : ActionKind → ActionType
  | .noAction => .noAction
  | .addEntity _ => .addEntity
  | .removeEntity _ => .removeEntity
  | .addKeyValue _ => .addKeyValue
  | .removeKeyValue _ => .removeKeyValue
  | .changeKeyValue _ => .changeKeyValue
  | .addChildNode .. => .addChildNode
  | .removeChildNode .. => .removeChildNode
  | .conflict _ => .conflictResolution

def conflict? : ActionKind → Option Conflict
  | .conflict c => some c
  | _ => none

/-- The kind with what is known of the key's earlier value replaced; only
changes of keys know of one. -/
def withUnchanged (unchanged? : Option String) : ActionKind → ActionKind
  | .addKeyValue edit => .addKeyValue { edit with unchanged? }
  | .removeKeyValue edit => .removeKeyValue { edit with unchanged? }
  | .changeKeyValue edit => .changeKeyValue { edit with unchanged? }
  | kind => kind

/-- The kind with another decision on the conflict, if it is one. -/
def withResolution (resolution : Resolution) : ActionKind → ActionKind
  | .conflict c => .conflict { c with resolution }
  | kind => kind

end ActionKind

namespace Action

-- ========================================================= construction

/-- Changes nothing. -/
def noAction (entity : EntityName) : Action where
  kind := .noAction
  node := .entity entity

def addEntity (entity : Entity) : Action where
  kind := .addEntity entity
  node := .entity entity.name

def removeEntity (entity : Entity) : Action where
  kind := .removeEntity entity
  node := .entity entity.name

def addKeyValue (entity : EntityName) (key value : String)
    (unchanged? : Option String) : Action where
  kind := .addKeyValue ⟨entity, key, some value, unchanged?⟩
  node := .keyValue entity key

def changeKeyValue (entity : EntityName) (key value : String)
    (unchanged? : Option String) : Action where
  kind := .changeKeyValue ⟨entity, key, some value, unchanged?⟩
  node := .keyValue entity key

def removeKeyValue (entity : EntityName) (key : String)
    (unchanged? : Option String) : Action where
  kind := .removeKeyValue ⟨entity, key, none, unchanged?⟩
  node := .keyValue entity key

def addChild (entity : EntityName) (key : ChildKey) (node : ChildNode) :
    Action where
  kind := .addChildNode entity key node
  node := .child entity key

def removeChild (entity : EntityName) (key : ChildKey) (node : ChildNode) :
    Action where
  kind := .removeChildNode entity key node
  node := .child entity key

/-- The action for a change of a key. -/
def ofKeyValueChange (entity : EntityName) (unchanged? : Option String) :
    KeyValueChange → Action
  | .added key value => addKeyValue entity key value unchanged?
  | .changed key _ new => changeKeyValue entity key new unchanged?
  | .removed key _ => removeKeyValue entity key unchanged?

/-- The action for a change of a child. -/
def ofChildChange (entity : EntityName) : ChildChange → Action
  | .added key node => addChild entity key node
  | .removed key node => removeChild entity key node

-- =============================================================== reading

def type (a : Action) : ActionType := a.kind.type

/-- The entity that it concerns. -/
def entity (a : Action) : EntityName := a.node.owner

def isWrapped (a : Action) : Bool := a.owner?.isSome

def conflict? (a : Action) : Option Conflict := a.kind.conflict?

end Action

/-- A membership change of the source, to be made or not. -/
structure MembershipAction where
  change : MembershipChange
  active : Bool := true
deriving DecidableEq

/-- What a merge takes into account. -/
structure MergeOptions where
  mergeSelectionGroups : Bool := true
  mergeLayers : Bool := true
deriving DecidableEq

/-- Entities alone. -/
def MergeOptions.withoutMetadata : MergeOptions := ⟨false, false⟩

/-- What one pass did. -/
structure ApplyReport where
  /-- The actions that were applied, in order. -/
  applied : List ActionId
  /-- How many membership changes were made. -/
  memberships : Nat
  /-- How many actions were passed over because they are not active. -/
  skipped : Nat
deriving DecidableEq

end SceneMerge
