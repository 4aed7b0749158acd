/-
Scripts of calls on a live scene: steps written down as data, and what
each of them answers. Next to the scene a script has a mark, a copy of
the scene's content to compare it with later.

A step may be a transaction with steps inside. These can do anything a
step can, also close the transaction they are in.
-/
import SceneMerge.Scene.Surface

namespace SceneMerge

/-- How a transaction that was opened for some steps is closed. -/
inductive Closing where
  | commit
  | rollback
  /-- Given up: rolled back as far as that is granted. -/
  | drop
deriving DecidableEq

inductive SceneStep where
  /-- A step that cannot be read. -/
  | malformed
  | insertEntity (entity : Entity)
  | insertEntityAt (index : Nat) (entity : Entity)
  | removeEntity (name : EntityName)
  | setValue (entity : EntityName) (key value : String)
  | removeValue (entity : EntityName) (key : String)
  | insertChild (entity : EntityName) (child : ChildNode)
  | insertChildAt (entity : EntityName) (index : Nat) (child : ChildNode)
  /-- Removes a child with the fingerprint of this one. -/
  | removeChild (entity : EntityName) (child : ChildNode)
  | setMember (membership : Membership) (entity : EntityName) (member : Bool)
  | isMember (membership : Membership) (entity : EntityName)
  | membershipsOf (entity : EntityName)
  | metadata
  | lookup (name : EntityName)
  | containsEntity (name : EntityName)
  | entityNames
  | entityCount
  | start (label : String)
  | commit
  | rollback
  | undo
  | redo
  /-- Marks the content as it is now. -/
  | mark
  | sameAsMark
  /-- Starts over from a snapshot of the content. -/
  | reload (path : String)
  /-- Runs steps in a transaction until one is refused, which is then the
  answer. -/
  | within (label : String) (steps : List SceneStep)
  /-- Runs all steps in a transaction that is then closed. -/
  | around (label : String) (closing : Closing) (steps : List SceneStep)

/-- Why a step has no answer. -/
inductive SceneFault where
  | malformed
  | refused (cause : SceneError)
deriving DecidableEq

inductive SceneReply where
  | nothing
  | flag (b : Bool)
  | text (s : String)
  | text? (s? : Option String)
  | entity? (e? : Option Entity)
  | removedEntity (r : Removed Entity)
  | removedChild (r : Removed ChildNode)
  | memberships (l : List Membership)
  | metadata (m : Metadata)
  | names (l : List EntityName)
  | count (n : Nat)
  | all (replies : List SceneReply)
  | around (replies : List (Except SceneFault SceneReply))
      (closed : Except SceneError Unit)

/-- A live scene beside the content that was marked. -/
abbrev Marked := Scene × LiveScene

/-- A live scene, marked as it is. -/
def LiveScene.marked (l : LiveScene) : Marked := (l.scene, l)

namespace SceneStep

/-- A call on the live scene. -/
def onLive {α : Type} (call : EStateM SceneError LiveScene α) :
    EStateM SceneFault Marked α :=
  onSecond (call.adaptExcept .refused)

/-- A call on any surface. -/
def asking {α : Type} (call : EStateM SceneError Marked α) :
    EStateM SceneFault Marked α :=
  call.adaptExcept .refused

/-- What a step comes to, whether or not it is refused. -/
def outcome {ε α σ : Type} (call : EStateM ε σ α) (s : σ) : Except ε α × σ :=
  match call s with
  | .ok a s => (.ok a, s)
  | .error e s => (.error e, s)

/-- Closes a transaction. -/
def close : Closing → EStateM SceneError Marked Unit
  | .commit => Surface.commit
  | .rollback => Surface.rollback
  | .drop => modify Surface.abandon

/-- Runs `steps` in a transaction that is then closed. What the steps and
the closing come to is answered, only the opening can be refused. -/
def guarded (label : String) (closing : Closing)
    (steps : Marked → List (Except SceneFault SceneReply) × Marked) :
    EStateM SceneFault Marked SceneReply := fun m =>
  match asking (Surface.start label) m with
  | .error e m => .error e m
  | .ok _ m =>
      let (replies, m) := steps m
      let (closed, m) := outcome (close closing) m
      .ok (.around replies closed) m

/-- A step that does not consist of others. -/
def runSimple : SceneStep → EStateM SceneFault Marked SceneReply
  | .insertEntity e => do
      asking (Surface.insertEntity e)
      return .nothing
  | .insertEntityAt index e => do
      asking (Surface.insertEntityAt index e)
      return .nothing
  | .removeEntity name => do
      return .removedEntity (← asking (Surface.removeEntity name))
  | .setValue entity key value => do
      return .text? (← asking (Surface.setValue entity key value))
  | .removeValue entity key => do
      return .text (← asking (Surface.removeValue entity key))
  | .insertChild entity child => do
      asking (Surface.insertChild entity child)
      return .nothing
  | .insertChildAt entity index child => do
      asking (Surface.insertChildAt entity index child)
      return .nothing
  | .removeChild entity child => do
      let removed ← asking (Surface.removeChild entity child.fingerprint)
      return .removedChild removed
  | .setMember g e member => do
      return .flag (← asking (Surface.setMember g e member))
  | .isMember g e => return .flag ((← get).2.scene.metadata.isMember g e)
  | .membershipsOf e =>
      return .memberships ((← get).2.scene.metadata.membershipsOf e)
  | .metadata => return .metadata (← get).2.scene.metadata
  | .lookup name => return .entity? ((← get).2.scene.entity? name)
  | .containsEntity name => return .flag ((← get).2.scene.contains name)
  | .entityNames => return .names (← get).2.scene.names
  | .entityCount => return .count (← get).2.scene.entities.length
  | .start label => do
      onLive (LiveScene.start label)
      return .nothing
  | .commit => do
      onLive LiveScene.commit
      return .nothing
  | .rollback => do
      onLive LiveScene.rollback
      return .nothing
  | .undo => return .flag (← onLive LiveScene.undo)
  | .redo => return .flag (← onLive LiveScene.redo)
  | .mark => do
      modify fun m => m.2.marked
      return .nothing
  | .sameAsMark => return .flag ((← get).2.scene = (← get).1)
  | .reload path => fun m =>
      match LiveScene.ofSnapshot (m.2.toSnapshot path) with
      | .ok l => .ok .nothing (m.1, l)
      | .error e => .error (.refused e) m
  | .malformed | .within .. | .around .. => throw .malformed

mutual

/-- What a step answers. -/
def run : SceneStep → EStateM SceneFault Marked SceneReply
  | .within label steps =>
      Surface.within .refused label (.all <$> untilRefused steps)
  | .around label closing steps => guarded label closing (all steps)
  | step => runSimple step

/-- What steps answer, up to one that is refused. -/
def untilRefused : List SceneStep → EStateM SceneFault Marked (List SceneReply)
  | [] => pure []
  | step :: rest => do
      let reply ← run step
      let replies ← untilRefused rest
      return reply :: replies

/-- What steps come to, whether or not they are refused. -/
def all : List SceneStep → Marked → List (Except SceneFault SceneReply) × Marked
  | [], m => ([], m)
  | step :: rest, m =>
      let (reply, m) := outcome (run step) m
      let (replies, m) := all rest m
      (reply :: replies, m)

end

end SceneStep

/-- A script of steps on the live scene of a snapshot: what each step
comes to, with the live scene after it. -/
def SceneStep.trace : List SceneStep → Marked →
    List (Except SceneFault SceneReply × LiveScene)
  | [], _ => []
  | step :: rest, m =>
      let (reply, m) := outcome step.run m
      (reply, m.2) :: trace rest m

end SceneMerge
