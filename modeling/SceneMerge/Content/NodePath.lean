/-
Places in a scene: an entity, one of its keys, or one of its children.

Paths are ordered: entities first, then keys, then children, each by
what the path is made of. The order is a lexicographic comparison of
components, so that it is transitive and only equal paths compare equal
is read off the components.
-/
import SceneMerge.Content.Entity

namespace SceneMerge

inductive NodePath where
  | entity (name : EntityName)
  | keyValue (entity : EntityName) (key : String)
  | child (entity : EntityName) (key : ChildKey)
deriving DecidableEq

namespace NodePath

/-- The entity that the place is, or is a part of. -/
def owner : NodePath → EntityName
  | .entity name => name
  | .keyValue owner _ => owner
  | .child owner _ => owner

def isEntity : NodePath → Bool
  | .entity _ => true
  | _ => false

/-- Nothing is escaped. -/
protected def toString : NodePath → String
  | .entity name => name
  | .keyValue owner key => s!"{owner}[\"{key}\"]"
  | .child owner key => s!"{owner}/{key}"

instance : ToString NodePath := ⟨NodePath.toString⟩

-- ================================================================= order

def rank : NodePath → Nat
  | .entity _ => 0
  | .keyValue _ _ => 1
  | .child _ _ => 2

private def key : NodePath → String
  | .keyValue _ key => key
  | _ => ""

private def childBytes : NodePath → List UInt8
  | .child _ key => key.fingerprint.bytes.toList
  | _ => []

private def occurrence : NodePath → Nat
  | .child _ key => key.occurrence
  | _ => 0

/-- Kind of place, entity, key, fingerprint byte by byte, occurrence. -/
def order : NodePath → NodePath → Ordering :=
  compareLex (compareOn rank) <| compareLex (compareOn owner) <|
    compareLex (compareOn key) <| compareLex (compareOn childBytes)
      (compareOn occurrence)

instance : Std.TransCmp order :=
  inferInstanceAs (Std.TransCmp (compareLex _ _))

instance : Std.LawfulEqCmp order where
  compare_self := Std.ReflCmp.compare_self
  eq_of_compare {a b} h := by
    simp only [order, compareLex_eq_eq, compareOn, Std.compare_eq_iff_eq] at h
    obtain ⟨hr, ho, hk, hb, hn⟩ := h
    cases a <;> cases b <;> simp [rank] at hr
    case entity.entity => exact congrArg NodePath.entity ho
    case keyValue.keyValue => exact congr (congrArg NodePath.keyValue ho) hk
    case child.child =>
      refine congr (congrArg NodePath.child ho) (ChildKey.ext ?_ hn)
      exact Fingerprint.ext (Vector.toList_inj.1 hb)

end NodePath

end SceneMerge
