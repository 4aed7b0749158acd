/-
The kinds of things a review deals with, and their names. A name is read
back by looking it up among the names of all values, so reading accepts
exactly what is written.
-/

namespace SceneMerge

/-- What an action does to the scene. -/
inductive ActionType where
  | noAction
  | addEntity
  | removeEntity
  | addKeyValue
  | removeKeyValue
  | changeKeyValue
  | addChildNode
  | removeChildNode
  | conflictResolution
deriving DecidableEq

namespace ActionType

def all : List ActionType :=
  [noAction, addEntity, removeEntity, addKeyValue, removeKeyValue,
   changeKeyValue, addChildNode, removeChildNode, conflictResolution]

def name : ActionType → String
  | noAction => "no_action"
  | addEntity => "add_entity"
  | removeEntity => "remove_entity"
  | addKeyValue => "add_key_value"
  | removeKeyValue => "remove_key_value"
  | changeKeyValue => "change_key_value"
  | addChildNode => "add_child_node"
  | removeChildNode => "remove_child_node"
  | conflictResolution => "conflict_resolution"

def ofName? (s : String) : Option ActionType := all.find? (·.name == s)

/-- Whether it works on a part of an entity that has to be there. -/
def targetsEntityPart : ActionType → Bool
  | addKeyValue | removeKeyValue | changeKeyValue | addChildNode
  | removeChildNode => true
  | _ => false

end ActionType

/-- How a change of the source collides with one of the target. -/
inductive ConflictType where
  | noConflict
  /-- The target removed the entity, the source modified it. -/
  | modificationOfRemovedEntity
  /-- The target modified the entity, the source removed it. -/
  | removalOfModifiedEntity
  /-- The target removed the key, the source set it. -/
  | modificationOfRemovedKeyValue
  /-- The target set the key, the source removed it. -/
  | removalOfModifiedKeyValue
  /-- Both set the key, or created the entity, but not alike. -/
  | settingKeyToDifferentValue
deriving DecidableEq

namespace ConflictType

def all : List ConflictType :=
  [noConflict, modificationOfRemovedEntity, removalOfModifiedEntity,
   modificationOfRemovedKeyValue, removalOfModifiedKeyValue,
   settingKeyToDifferentValue]

def name : ConflictType → String
  | noConflict => "no_conflict"
  | modificationOfRemovedEntity => "modification_of_removed_entity"
  | removalOfModifiedEntity => "removal_of_modified_entity"
  | modificationOfRemovedKeyValue => "modification_of_removed_key_value"
  | removalOfModifiedKeyValue => "removal_of_modified_key_value"
  | settingKeyToDifferentValue => "setting_key_to_different_value"

def ofName? (s : String) : Option ConflictType := all.find? (·.name == s)

end ConflictType

/-- The decision on a conflict. -/
inductive Resolution where
  | unresolved
  /-- The target stays as it is. -/
  | rejectSource
  | applySource
deriving DecidableEq, Inhabited

namespace Resolution

def all : List Resolution := [unresolved, rejectSource, applySource]

def name : Resolution → String
  | unresolved => "unresolved"
  | rejectSource => "reject_source_change"
  | applySource => "apply_source_change"

def ofName? (s : String) : Option Resolution := all.find? (·.name == s)

/-- Whether the source's change is to be made. -/
def appliesSource : Resolution → Bool
  | applySource => true
  | _ => false

end Resolution

/-- Where a merge operation is in its life. -/
inductive MergeState where
  /-- Nothing was applied yet. -/
  | idle
  /-- At least one pass was applied, and may still be reverted. -/
  | previewing
  /-- Finished: what was applied stays. -/
  | committed
  /-- Aborted: what was applied is reverted. -/
  | rolledBack
deriving DecidableEq, Inhabited

namespace MergeState

def all : List MergeState := [idle, previewing, committed, rolledBack]

def name : MergeState → String
  | idle => "idle"
  | previewing => "previewing"
  | committed => "committed"
  | rolledBack => "rolled_back"

/-- The name in an operation's summary line. -/
def caption : MergeState → String
  | idle => "Idle"
  | previewing => "Previewing"
  | committed => "Committed"
  | rolledBack => "RolledBack"

def ofName? (s : String) : Option MergeState := all.find? (·.name == s)

/-- No further change is taken. -/
def isClosed : MergeState → Bool
  | committed | rolledBack => true
  | _ => false

end MergeState

end SceneMerge
