/-
What a merge asks of a scene it is applied to: that its content can be
read, and that mutations and transactions can be asked for. A `Surface`
may refuse more than a live scene would.

All public mutations are defined here, once for every surface.

A call that knows only a part of a state is run on the whole (`focus`), and whatever
is beside the part stays as it is, whether or not the call comes to its end.
-/
import SceneMerge.Scene.Live

namespace SceneMerge

-- ================================================================= focus

section focus

variable {ε σ τ S α : Type}

/-- Runs a call on the part of the state that `get` reads and `set`
writes. -/
def focus (get : τ → σ) (set : τ → σ → τ) (call : EStateM ε σ α) :
    EStateM ε τ α := fun t =>
  match call (get t) with
  | .ok a s => .ok a (set t s)
  | .error e s => .error e (set t s)

/-- Runs a call on the first of two states. -/
def onFirst (call : EStateM ε σ α) : EStateM ε (σ × S) α :=
  focus Prod.fst (fun p s => (s, p.2)) call

/-- Runs a call on the second of two states. -/
def onSecond (call : EStateM ε S α) : EStateM ε (σ × S) α :=
  focus Prod.snd (fun p s => (p.1, s)) call

end focus

-- ============================================================== surfaces

class Surface (S : Type) where
  /-- The content as it is now. -/
  scene : S → Scene
  mutate {α : Type} : Mutation α → EStateM SceneError S α
  start : String → EStateM SceneError S Unit
  commit : EStateM SceneError S Unit
  rollback : EStateM SceneError S Unit

instance : Surface LiveScene where
  scene := LiveScene.scene
  mutate := LiveScene.mutate
  start := LiveScene.start
  commit := LiveScene.commit
  rollback := LiveScene.rollback

namespace Surface

variable {S : Type} [Surface S]

-- ============================================================= mutations

def insertEntityAt (index : Nat) (e : Entity) : EStateM SceneError S Unit :=
  mutate (Scene.insertEntityAt index e)

/-- Appends the entity. -/
def insertEntity (e : Entity) : EStateM SceneError S Unit := do
  insertEntityAt (scene (← get)).entities.length e

def removeEntity (name : EntityName) :
    EStateM SceneError S (Removed Entity) :=
  mutate (Scene.removeEntity name)

def setValue (entity : EntityName) (key value : String) :
    EStateM SceneError S (Option String) :=
  mutate (Scene.setValue entity key value)

def removeValue (entity : EntityName) (key : String) :
    EStateM SceneError S String :=
  mutate (Scene.removeValue entity key)

def insertChildAt (entity : EntityName) (index : Nat) (child : ChildNode) :
    EStateM SceneError S Unit :=
  mutate (Scene.insertChildAt entity index child)

/-- Appends the child. -/
def insertChild (entity : EntityName) (child : ChildNode) :
    EStateM SceneError S Unit := do
  match (scene (← get)).entity? entity with
  | none => throw (.entityNotFound entity)
  | some e => insertChildAt entity e.children.length child

def removeChild (entity : EntityName) (fingerprint : Fingerprint) :
    EStateM SceneError S (Removed ChildNode) :=
  mutate (Scene.removeChild entity fingerprint)

def setMember (membership : Membership) (entity : EntityName)
    (member : Bool) : EStateM SceneError S Bool :=
  mutate (Scene.setMember membership entity member)

-- ========================================================== transactions

/-- Rolls back as far as that is granted. -/
def abandon (s : S) : S :=
  match rollback s with
  | .ok _ s => s
  | .error _ s => s

/-- Runs `body` in a transaction of its own, which is committed if it
ends well and abandoned if not. If the commit is refused there is nothing
left to roll back. -/
def within {ε α : Type} (refusal : SceneError → ε) (label : String)
    (body : EStateM ε S α) : EStateM ε S α := fun s =>
  match start label s with
  | .error e s => .error (refusal e) s
  | .ok _ s =>
      match body s with
      | .error e s => .error e (abandon s)
      | .ok a s =>
          match commit s with
          | .error e s => .error (refusal e) s
          | .ok _ s => .ok a s

end Surface

-- ================================================================ beside

/-- A surface with something beside it that the scene's calls leave
alone. -/
instance {σ S : Type} [Surface S] : Surface (σ × S) where
  scene p := Surface.scene p.2
  mutate m := onSecond (Surface.mutate m)
  start label := onSecond (Surface.start label)
  commit := onSecond Surface.commit
  rollback := onSecond Surface.rollback

end SceneMerge
