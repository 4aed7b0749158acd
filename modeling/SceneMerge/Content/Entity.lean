/-
Entities: a name, key/values and an ordered list of children.

Two entities are semantically equal when they agree up to the order of
their children. The order is compared through fingerprints, as
everything that concerns the identity of children.
-/
import SceneMerge.Content.Child
import Std.Data.ExtTreeMap

namespace SceneMerge

/-- Names are unique within one version of a scene and join the versions
with one another. -/
abbrev EntityName := String

/-- The form that names the type. -/
def EntityName.inspect (name : EntityName) : String := s!"EntityName({name})"

/-- Attributes by key, in key order. -/
abbrev KeyValues := Std.ExtTreeMap String String

structure Entity where
  name : EntityName
  keyValues : KeyValues := ∅
  children : List ChildNode := []
deriving DecidableEq

namespace Entity

def withKeyValue (e : Entity) (key value : String) : Entity :=
  { e with keyValues := e.keyValues.insert key value }

def withChild (e : Entity) (child : ChildNode) : Entity :=
  { e with children := e.children ++ [child] }

def value? (e : Entity) (key : String) : Option String :=
  e.keyValues[key]?

def fingerprints (e : Entity) : List Fingerprint :=
  e.children.map ChildNode.fingerprint

/-- The keys of the children, in child order. -/
def childKeys (e : Entity) : List ChildKey :=
  ChildKey.numberAfter [] e.fingerprints

/-- Same name, same key/values, and the same children in some order. -/
def semanticallyEqual (a b : Entity) : Bool :=
  a.name == b.name && a.keyValues == b.keyValues
    && a.fingerprints.isPerm b.fingerprints

end Entity

end SceneMerge
