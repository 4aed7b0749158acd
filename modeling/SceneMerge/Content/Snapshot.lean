/-
Snapshots: immutable versions of a scene, as they come into a merge. A
snapshot may name an entity twice; whoever needs its names to be
distinct asks `repeated?`.
-/
import SceneMerge.Content.Membership

namespace SceneMerge

structure Snapshot where
  /-- The name or path of the document. -/
  path : String
  entities : List Entity := []
  metadata : Metadata := {}
deriving DecidableEq

namespace Snapshot

/-- The first entity of that name. -/
def entity? (s : Snapshot) (name : EntityName) : Option Entity :=
  s.entities.find? (·.name == name)

def names (s : Snapshot) : List EntityName := s.entities.map (·.name)

def withEntity (s : Snapshot) (e : Entity) : Snapshot :=
  { s with entities := s.entities ++ [e] }

/-- Adds one membership to the metadata. -/
def withMember (s : Snapshot) (membership : Membership) (entity : EntityName) :
    Snapshot :=
  { s with metadata := s.metadata.put membership entity true }

/-- The first name, if any, that stands in `names` or earlier in the
list. -/
def repeatAfter? (names : List EntityName) : List EntityName → Option EntityName
  | [] => none
  | n :: rest => if n ∈ names then some n else repeatAfter? (n :: names) rest

/-- The name of the first entity whose name occurred earlier. -/
def repeated? (s : Snapshot) : Option EntityName := repeatAfter? [] s.names

end Snapshot

end SceneMerge
