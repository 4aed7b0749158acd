/-
What an action does to a scene when its turn comes.

Every change made is answered with the way back from it. Nothing here
undoes anything: if an action is refused halfway, whoever runs it takes
back the whole pass.
-/
import SceneMerge.Review.Operation

namespace SceneMerge

/-- What came of one action. -/
structure Performed where
  /-- The way back, in the order it is to be gone. -/
  reverts : List Revert := []
  /-- What the key held before, with the action that changed it. -/
  unchanged? : Option (ActionId × Option String) := none

namespace Performed

variable {S : Type} [Surface S]

/-- Removes an entity; the way back lets it rejoin what it belonged to. -/
def removal (name : EntityName) :
    EStateM SceneError S (Removed Entity × Revert) := do
  let memberships := (Surface.scene (← get)).metadata.membershipsOf name
  let removed ← Surface.removeEntity name
  return (removed, .restoreEntity removed.index removed.item memberships)

/-- Runs an action of its own kind. Conflicts do nothing by themselves. -/
def plainKind (id : ActionId) : ActionKind → EStateM SceneError S Performed
  | .noAction | .conflict _ => return {}
  | .addEntity entity => do
      Surface.insertEntity entity
      return { reverts := [.removeEntity entity.name] }
  | .removeEntity entity => do
      let (_, revert) ← removal entity.name
      return { reverts := [revert] }
  | .addKeyValue edit | .changeKeyValue edit => do
      let old? ← Surface.setValue edit.entity edit.key (edit.value?.getD "")
      return {
        reverts := [.restoreValue edit.entity edit.key old?]
        unchanged? := some (id, old?) }
  | .removeKeyValue edit => do
      let old ← Surface.removeValue edit.entity edit.key
      return {
        reverts := [.restoreValue edit.entity edit.key (some old)]
        unchanged? := some (id, some old) }
  | .addChildNode entity _ node => do
      Surface.insertChild entity node
      return { reverts := [.removeChild entity node.fingerprint] }
  | .removeChildNode entity _ node => do
      let removed ← Surface.removeChild entity node.fingerprint
      return { reverts := [.restoreChild entity removed.index removed.item] }

/-- The error when the scene refuses an action. -/
def failure (id : ActionId) (a : Action) (cause : SceneError) : MergeError :=
  .applyFailure id a.type a.node cause

/-- Runs an action. An action on a part asks for its entity to be there. -/
def plain (id : ActionId) (a : Action) : EStateM MergeError S Performed := do
  if a.type.targetsEntityPart
      && !(Surface.scene (← get)).contains a.entity then
    throw (.orderingViolation id a.type a.entity)
  (plainKind id a.kind).adaptExcept (failure id a)

/-- Lets an entity join memberships; the way back leaves them. -/
def joinAll (name : EntityName) :
    List Membership → EStateM SceneError S (List Revert)
  | [] => return []
  | membership :: rest => do
      let _ ← Surface.setMember membership name true
      let reverts ← joinAll name rest
      return reverts ++ [.restoreMember membership name false]

/-- Puts the entity where one of its name is, in the same layers and
groups, or at the end if there is none. -/
def replacement (entity : Entity) : EStateM SceneError S Performed := do
  let scene := Surface.scene (← get)
  if scene.contains entity.name then
    let memberships := scene.metadata.membershipsOf entity.name
    let (removed, revert) ← removal entity.name
    Surface.insertEntityAt removed.index entity
    let reverts ← joinAll entity.name memberships
    return { reverts := reverts ++ [.removeEntity entity.name, revert] }
  else
    Surface.insertEntityAt scene.entities.length entity
    return { reverts := [.removeEntity entity.name] }

/-- Makes the source's change of a conflict. If the target removed the
entity, the source's version comes back whole; if both sides created it,
the source's version takes the place of the target's. -/
def conflict (op : Operation) (id : ActionId) (a : Action) (c : Conflict) :
    EStateM MergeError S Performed := do
  match op.action? c.source with
  | none => throw (.unknownAction c.source)
  | some source =>
      match c.type, source.kind with
      | .modificationOfRemovedEntity, _ =>
          if (Surface.scene (← get)).contains source.entity then
            plain c.source source
          else
            match c.sourceEntity? with
            | none => plain c.source source
            | some entity =>
                (Surface.insertEntity entity).adaptExcept (failure id a)
                return { reverts := [.removeEntity entity.name] }
      | .settingKeyToDifferentValue, .addEntity entity =>
          (replacement entity).adaptExcept (failure id a)
      | _, _ => plain c.source source

/-- Runs an action of the operation, conflict or not. -/
def ofAction (op : Operation) (id : ActionId) (a : Action) :
    EStateM MergeError S Performed :=
  match a.conflict? with
  | some c => conflict op id a c
  | none => plain id a

/-- Makes a membership change; answers with nothing if the entity is not
there. There is no way back from a change that changed nothing. -/
def membership (change : MembershipChange) :
    EStateM SceneError S (Option (List Revert)) := do
  if (Surface.scene (← get)).contains change.entity then
    let previous ←
      Surface.setMember change.membership change.entity change.member
    return some (if previous = change.member then []
      else [.restoreMember change.membership change.entity previous])
  else
    return none

end Performed

/-- The pass after one more action. -/
def Pass.add (p : Pass) (id : ActionId) (done : Performed) : Pass :=
  { p with
    applied := p.applied ++ [id]
    reverts := done.reverts ++ p.reverts
    unchanged := p.unchanged ++ done.unchanged?.toList }

/-- The pass after one more membership change. -/
def Pass.addMembership (p : Pass) (index : Nat) (reverts : List Revert) : Pass :=
  { p with
    memberships := p.memberships ++ [index]
    reverts := reverts ++ p.reverts }

end SceneMerge
