/-
The way back from a merge, change by change. Other than the journal of a
live scene these survive its commits, and the scene may have moved on
since: positions are cut down to what the scene has now, and a value
that is to go may be gone already.
-/
import SceneMerge.Scene.Surface

namespace SceneMerge

inductive Revert where
  | removeEntity (name : EntityName)
  | restoreEntity (index : Nat) (entity : Entity) (memberships : List Membership)
  /-- Without a value the key is to be absent. -/
  | restoreValue (entity : EntityName) (key : String) (value? : Option String)
  | removeChild (entity : EntityName) (fingerprint : Fingerprint)
  | restoreChild (entity : EntityName) (index : Nat) (node : ChildNode)
  | restoreMember (membership : Membership) (entity : EntityName)
      (member : Bool)
deriving DecidableEq

namespace Revert

variable {S : Type} [Surface S]

/-- Joins the entity to each of the memberships. -/
def rejoin (name : EntityName) : List Membership → EStateM SceneError S Unit
  | [] => pure ()
  | membership :: rest => do
      let _ ← Surface.setMember membership name true
      rejoin name rest

def run : Revert → EStateM SceneError S Unit
  | .removeEntity name => do
      let _ ← Surface.removeEntity name
  | .restoreEntity index entity memberships => do
      let count := (Surface.scene (← get)).entities.length
      Surface.insertEntityAt (min index count) entity
      rejoin entity.name memberships
  | .restoreValue entity key (some value) => do
      let _ ← Surface.setValue entity key value
  | .restoreValue entity key none => do
      match ((Surface.scene (← get)).entity? entity).bind (·.value? key) with
      | none => pure ()
      | some _ => let _ ← Surface.removeValue entity key
  | .removeChild entity fingerprint => do
      let _ ← Surface.removeChild entity fingerprint
  | .restoreChild entity index node => do
      match (Surface.scene (← get)).entity? entity with
      | none => throw (.entityNotFound entity)
      | some e => Surface.insertChildAt entity (min index e.children.length) node
  | .restoreMember membership entity member => do
      let _ ← Surface.setMember membership entity member

/-- Goes back step by step until one is refused. -/
def runAll : List Revert → EStateM SceneError S Unit
  | [] => pure ()
  | r :: rest => do
      r.run
      runAll rest

end Revert

end SceneMerge
