/-
Child primitives and their keys. The children of an entity are an
ordered list; equal children are told apart by how many equal ones stand
before them, so a `ChildKey` is a fingerprint with an occurrence.
-/
import SceneMerge.Content.Fingerprint

namespace SceneMerge

/-- A geometry primitive of an entity. The merge never reads `content`;
it only digests it. -/
structure ChildNode where
  kind : String
  content : String
deriving DecidableEq

def ChildNode.fingerprint (n : ChildNode) : Fingerprint :=
  .ofChild n.kind n.content

/-- The identity of a child within its entity. -/
@[ext]
structure ChildKey where
  fingerprint : Fingerprint
  /-- How many children of the same fingerprint come before. -/
  occurrence : Nat
deriving DecidableEq

namespace ChildKey

instance : ToString ChildKey :=
  ⟨fun k => s!"{k.fingerprint.short}#{k.occurrence}"⟩

def inspect (k : ChildKey) : String := s!"ChildKey({toString k})"

/-- The keys of children that come after children with the fingerprints
`before`. -/
def numberAfter (before : List Fingerprint) : List Fingerprint → List ChildKey
  | [] => []
  | f :: rest => ⟨f, before.count f⟩ :: numberAfter (f :: before) rest

end ChildKey

end SceneMerge
