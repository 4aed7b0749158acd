/-
Scenes, the edits that change them, and what a scene can refuse.

A mutation of a scene either refuses, and then there is no next scene,
or answers with a result, the next scene and the edits that lead back
(`Edited.inverse`). The inverses are data of the same kind as the edits
themselves, so undoing is making edits and can be undone in turn.
-/
import SceneMerge.Content.Snapshot

namespace SceneMerge

-- ============================================================== refusals

inductive SceneError where
  | entityNotFound (name : EntityName)
  | entityExists (name : EntityName)
  /-- A snapshot that was to become a live scene repeats a name. -/
  | duplicateEntity (path : String) (name : EntityName)
  | keyNotFound (entity : EntityName) (key : String)
  | childNotFound (entity : EntityName) (fingerprint : Fingerprint)
  | indexOutOfRange (index len : Nat)
  /-- A transaction is open under that label. -/
  | transactionOpen (label : String)
  | noTransaction
  /-- The scene itself would have taken the change, what keeps it did not. -/
  | backend (reason : String)
deriving DecidableEq

def SceneError.message : SceneError → String
  | .entityNotFound name => s!"entity not found: {name}"
  | .entityExists name => s!"entity already exists: {name}"
  | .duplicateEntity path name =>
      s!"duplicate entity in snapshot '{path}': {name}"
  | .keyNotFound entity key => s!"key '{key}' not found on entity {entity}"
  | .childNotFound entity fingerprint =>
      s!"child {fingerprint.inspect} not found on entity {entity}"
  | .indexOutOfRange index len => s!"index {index} out of range (len {len})"
  | .transactionOpen label => s!"a transaction is already open: {label}"
  | .noTransaction => "no transaction is open"
  | .backend reason => s!"scene backend rejected mutation: {reason}"

-- ================================================================= edits

/-- The content of a live scene: entities in scene order, and metadata. -/
structure Scene where
  entities : List Entity := []
  metadata : Metadata := {}
deriving DecidableEq

/-- An elementary change, with everything it takes to make it. -/
inductive Edit where
  | insertEntity (index : Nat) (entity : Entity)
  | removeEntity (name : EntityName)
  | setValue (entity : EntityName) (key value : String)
  | removeValue (entity : EntityName) (key : String)
  | insertChild (entity : EntityName) (index : Nat) (child : ChildNode)
  | removeChild (entity : EntityName) (index : Nat)
  | setMember (membership : Membership) (entity : EntityName) (member : Bool)
deriving DecidableEq

/-- What a mutation leads to. -/
structure Edited (α : Type) where
  result : α
  scene : Scene
  /-- The edits that lead back, to be made from first to last. -/
  inverse : List Edit

abbrev Mutation (α : Type) := Scene → Except SceneError (Edited α)

/-- An item that was taken out, with the position it had. -/
structure Removed (α : Type) where
  index : Nat
  item : α
deriving DecidableEq

namespace Scene

-- =============================================================== reading

def entity? (s : Scene) (name : EntityName) : Option Entity :=
  s.entities.find? (·.name == name)

def contains (s : Scene) (name : EntityName) : Bool :=
  (s.entity? name).isSome

def names (s : Scene) : List EntityName := s.entities.map (·.name)

/-- Where the entity of that name stands, if there is one. -/
def position (s : Scene) (name : EntityName) : Nat :=
  s.entities.findIdx (·.name == name)

/-- The scene with the entity of that name replaced. -/
def setEntity (s : Scene) (name : EntityName) (e : Entity) : Scene :=
  { s with entities := s.entities.set (s.position name) e }

-- ============================================================== entities

def insertEntityAt (index : Nat) (e : Entity) : Mutation Unit := fun s =>
  if s.contains e.name then
    .error (.entityExists e.name)
  else if s.entities.length < index then
    .error (.indexOutOfRange index s.entities.length)
  else
    .ok ⟨(), { s with entities := s.entities.insertIdx index e },
      [.removeEntity e.name]⟩

/-- The entity leaves whatever it belongs to. Leading back, it comes in
again before it rejoins. -/
def removeEntity (name : EntityName) : Mutation (Removed Entity) := fun s =>
  match s.entity? name with
  | none => .error (.entityNotFound name)
  | some e =>
      let index := s.position name
      let left := s.metadata.membershipsOf name
      .ok ⟨⟨index, e⟩,
        { entities := s.entities.eraseIdx index
          metadata := left.foldl (·.put · name false) s.metadata },
        .insertEntity index e :: left.reverse.map (.setMember · name true)⟩

-- ============================================================ key/values

/-- Answers with the value that the key had. -/
def setValue (entity : EntityName) (key value : String) :
    Mutation (Option String) := fun s =>
  match s.entity? entity with
  | none => .error (.entityNotFound entity)
  | some e =>
      let previous := e.value? key
      .ok ⟨previous, s.setEntity entity (e.withKeyValue key value),
        [match previous with
          | some old => .setValue entity key old
          | none => .removeValue entity key]⟩

def removeValue (entity : EntityName) (key : String) : Mutation String :=
  fun s =>
    match s.entity? entity with
    | none => .error (.entityNotFound entity)
    | some e =>
        match e.value? key with
        | none => .error (.keyNotFound entity key)
        | some old =>
            let e' := { e with keyValues := e.keyValues.erase key }
            .ok ⟨old, s.setEntity entity e', [.setValue entity key old]⟩

-- ============================================================== children

def insertChildAt (entity : EntityName) (index : Nat) (child : ChildNode) :
    Mutation Unit := fun s =>
  match s.entity? entity with
  | none => .error (.entityNotFound entity)
  | some e =>
      if e.children.length < index then
        .error (.indexOutOfRange index e.children.length)
      else
        let e' := { e with children := e.children.insertIdx index child }
        .ok ⟨(), s.setEntity entity e', [.removeChild entity index]⟩

def removeChildAt (entity : EntityName) (index : Nat) : Mutation ChildNode :=
  fun s =>
    match s.entity? entity with
    | none => .error (.entityNotFound entity)
    | some e =>
        match e.children[index]? with
        | none => .error (.indexOutOfRange index e.children.length)
        | some child =>
            let e' := { e with children := e.children.eraseIdx index }
            .ok ⟨child, s.setEntity entity e', [.insertChild entity index child]⟩

/-- The position of the last item that satisfies `p`. -/
def lastIdx? {α : Type} (p : α → Bool) (l : List α) : Option Nat :=
  (l.reverse.findIdx? p).map (l.length - 1 - ·)

/-- Of several children with the fingerprint, which cannot be told apart,
the last one goes. -/
def removeChild (entity : EntityName) (fingerprint : Fingerprint) :
    Mutation (Removed ChildNode) := fun s =>
  match s.entity? entity with
  | none => .error (.entityNotFound entity)
  | some e =>
      match lastIdx? (·.fingerprint == fingerprint) e.children with
      | none => .error (.childNotFound entity fingerprint)
      | some index =>
          (removeChildAt entity index s).map fun r =>
            ⟨⟨index, r.result⟩, r.scene, r.inverse⟩

-- =========================================================== memberships

/-- Answers whether the entity was a member. Setting what is so already
is a change like any other. -/
def setMember (membership : Membership) (entity : EntityName)
    (member : Bool) : Mutation Bool := fun s =>
  if s.contains entity then
    let previous := s.metadata.isMember membership entity
    .ok ⟨previous,
      { s with metadata := s.metadata.put membership entity member },
      [.setMember membership entity previous]⟩
  else
    .error (.entityNotFound entity)

end Scene

-- ================================================================ replay

/-- Makes the edit. -/
def Edit.make : Edit → Mutation Unit
  | .insertEntity index entity, s => s.insertEntityAt index entity
  | .removeEntity name, s => (s.removeEntity name).map fun r => { r with result := () }
  | .setValue entity key value, s =>
      (s.setValue entity key value).map fun r => { r with result := () }
  | .removeValue entity key, s =>
      (s.removeValue entity key).map fun r => { r with result := () }
  | .insertChild entity index child, s => s.insertChildAt entity index child
  | .removeChild entity index, s =>
      (s.removeChildAt entity index).map fun r => { r with result := () }
  | .setMember membership entity member, s =>
      (s.setMember membership entity member).map fun r => { r with result := () }

/-- How far a list of edits came. -/
structure Replayed where
  scene : Scene
  /-- The edits that lead back, to be made from first to last. -/
  inverse : List Edit
  /-- What stopped it, if it did not reach the end. -/
  error? : Option SceneError

/-- Makes edits from first to last until one is refused; `inverse` leads
back from `s` already. -/
def Scene.replay (s : Scene) (inverse : List Edit) : List Edit → Replayed
  | [] => ⟨s, inverse, none⟩
  | edit :: rest =>
      match edit.make s with
      | .error e => ⟨s, inverse, some e⟩
      | .ok r => r.scene.replay (r.inverse ++ inverse) rest

end SceneMerge
