/-
What a merge proposes, given what each side changed.

A change of the source that the target did not touch is proposed as an
action. One that collides with a change of the target is proposed as a
conflict. One that the target made as well is dropped, except that
setting a key to the value it has in the target already is proposed
again.

Per entity, the source's change first:

  added and added        dropped if semantically equal, else a conflict
  removed and removed    dropped
  removed and modified   a conflict
  modified and removed   one conflict for the whole entity
  modified and modified  key by key and child by child
  anything and nothing   actions

Children never collide: the same addition or removal on both sides is
dropped, and everything else is an action.
-/
import SceneMerge.Review.Action

namespace SceneMerge

inductive Proposal where
  | action (action : Action)
  | conflict (type : ConflictType) (source : Action) (target? : Option Action)
      (sourceEntity? targetEntity? : Option Entity)
deriving DecidableEq

namespace Proposal

/-- What the target has under a key. -/
def targetValue? (target : Snapshot) (entity : EntityName) (key : String) :
    Option String :=
  (target.entity? entity).bind (·.value? key)

/-- The action for a change of a key by the source. What it replaces is
what the target has. -/
def sourceKeyValue (target : Snapshot) (entity : EntityName)
    (change : KeyValueChange) : Action :=
  .ofKeyValueChange entity (targetValue? target entity change.key) change

/-- The action for a change of a key by the target. What it replaced is
what the base had. -/
def targetKeyValue (entity : EntityName) (change : KeyValueChange) : Action :=
  .ofKeyValueChange entity change.oldValue? change

/-- The first of the changes of an entity, those of keys before those of
children. -/
def firstChange? (entity : EntityName) (keyValue : KeyValueChange → Action)
    (keyValues : List KeyValueChange) (children : List ChildChange) :
    Option Action :=
  match keyValues with
  | change :: _ => some (keyValue change)
  | [] => children.head?.map (.ofChildChange entity)

-- ================================================ untouched by the target

/-- The actions for a change that collides with nothing. A removal is of
the entity as the target has it. -/
def plain (target : Snapshot) (change : EntityChange) : List Proposal :=
  match change.delta with
  | .added entity => [.action (.addEntity entity)]
  | .removed entity =>
      [.action (.removeEntity ((target.entity? change.name).getD entity))]
  | .modified _ _ keyValues children =>
      keyValues.map (fun kv => .action (sourceKeyValue target change.name kv))
        ++ children.map fun c => .action (.ofChildChange change.name c)

-- ================================================== modified on both sides

/-- How changes of one key collide, if they do. -/
def collision? (ours theirs : KeyValueChange) : Option ConflictType :=
  match ours.newValue?, theirs.newValue? with
  | none, none => none
  | none, some _ => some .removalOfModifiedKeyValue
  | some _, none => some .modificationOfRemovedKeyValue
  | some mine, some their =>
      if mine = their then none else some .settingKeyToDifferentValue

/-- What is proposed for a change of a key. Of several changes of the
same key by the target the last one counts. -/
def keyValue (target : Snapshot) (name : EntityName)
    (theirs : List KeyValueChange) (mine their : Entity)
    (change : KeyValueChange) : List Proposal :=
  let source := sourceKeyValue target name change
  match theirs.reverse.find? (·.key == change.key) with
  | none => [.action source]
  | some their' =>
      match collision? change their' with
      | some type =>
          [.conflict type source (some (targetKeyValue name their'))
            (some mine) (some their)]
      | none =>
          match change with
          | .changed .. => [.action source]
          | _ => []

/-- What is proposed for a change of a child. -/
def child (name : EntityName) (theirs : List ChildChange)
    (change : ChildChange) : List Proposal :=
  match theirs.reverse.find? (·.key == change.key) with
  | some their =>
      if their.isAddition = change.isAddition then []
      else [.action (.ofChildChange name change)]
  | none => [.action (.ofChildChange name change)]

-- =============================================================== entities

/-- What is proposed when both sides changed the entity. Changes that
cannot be of one base, such as one that adds what the other removes, are
proposed as if the target had not changed it. -/
def entity (target : Snapshot) (ours theirs : EntityChange) : List Proposal :=
  let name := ours.name
  match ours.delta, theirs.delta with
  | .added mine, .added their =>
      if mine.semanticallyEqual their then []
      else
        [.conflict .settingKeyToDifferentValue (.addEntity mine)
          (some (.addEntity their)) (some mine) (some their)]
  | .removed _, .removed _ => []
  | .removed _, .modified _ current keyValues children =>
      [.conflict .removalOfModifiedEntity (.removeEntity current)
        (firstChange? name (targetKeyValue name) keyValues children)
        none (some current)]
  | .modified _ current keyValues children, .removed base =>
      match firstChange? name (sourceKeyValue target name) keyValues children with
      | none => []
      | some source =>
          [.conflict .modificationOfRemovedEntity source
            (some (.removeEntity base)) (some current) none]
  | .modified _ mine keyValues children,
    .modified _ their keyValues' children' =>
      keyValues.flatMap (keyValue target name keyValues' mine their)
        ++ children.flatMap (child name children')
  | _, _ => plain target ours

/-- The proposals of a three-way merge: `ours` is what the source changed
and `theirs` what the target changed, both from the common base. -/
def threeWay (ours theirs : SceneDiff) (target : Snapshot) : List Proposal :=
  ours.changes.flatMap fun change =>
    match theirs.change? change.name with
    | none => plain target change
    | some their => entity target change their

/-- The proposals of a two-way merge: `diff` leads from the target to the
source. -/
def twoWay (diff : SceneDiff) (target : Snapshot) : List Proposal :=
  diff.changes.flatMap (plain target)

-- ============================================================ memberships

/-- The membership changes of the source that are taken into account and
that the target did not make as well. -/
def memberships (options : MergeOptions) (ours theirs : List MembershipChange) :
    List MembershipChange :=
  ours.filter fun change =>
    (match change.membership with
      | .layer _ => options.mergeLayers
      | .selectionGroup _ => options.mergeSelectionGroups)
    && change ∉ theirs

end Proposal

end SceneMerge
