/-
What changed inside an entity. A key is added, removed or changed. A
child is added or removed; one that was modified has a new fingerprint
and counts as both.
-/
import SceneMerge.Difference.Matching

namespace SceneMerge

inductive KeyValueChange where
  | added (key value : String)
  | removed (key value : String)
  | changed (key old new : String)
deriving DecidableEq

namespace KeyValueChange

def key : KeyValueChange → String
  | .added key _ => key
  | .removed key _ => key
  | .changed key _ _ => key

/-- The value after the change; a removal leaves none. -/
def newValue? : KeyValueChange → Option String
  | .added _ value => some value
  | .removed _ _ => none
  | .changed _ _ new => some new

/-- The value before the change; an addition found none. -/
def oldValue? : KeyValueChange → Option String
  | .added _ _ => none
  | .removed _ value => some value
  | .changed _ old _ => some old

def isRemoval : KeyValueChange → Bool
  | .removed _ _ => true
  | _ => false

/-- New keys come last. -/
def rank : KeyValueChange → Nat
  | .added _ _ => 1
  | _ => 0

/-- The order in which changes are listed: by rank, then by key. -/
def order : KeyValueChange → KeyValueChange → Ordering :=
  compareLex (compareOn rank) (compareOn key)

/-- Puts a change before the first one that may come after it. -/
def insert (c : KeyValueChange) : List KeyValueChange → List KeyValueChange
  | [] => [c]
  | d :: rest => if (order c d).isLE then c :: d :: rest else d :: insert c rest

def sort (changes : List KeyValueChange) : List KeyValueChange :=
  changes.foldr insert []

end KeyValueChange

inductive ChildChange where
  | added (key : ChildKey) (node : ChildNode)
  | removed (key : ChildKey) (node : ChildNode)
deriving DecidableEq

namespace ChildChange

def key : ChildChange → ChildKey
  | .added key _ => key
  | .removed key _ => key

def isAddition : ChildChange → Bool
  | .added _ _ => true
  | .removed _ _ => false

end ChildChange

/-- The changes that turn `base` into `other`: the keys of `base` in key
order, then the new keys in key order. -/
def KeyValues.changes (base other : KeyValues) : List KeyValueChange :=
  let m := Matching.ofKeyValues base other
  let changed := m.both.filterMap fun (key, old, new) =>
    if old = new then none else some (KeyValueChange.changed key old new)
  let removed := m.onlyLeft.map fun (key, value) => .removed key value
  let added := m.onlyRight.map fun (key, value) => .added key value
  KeyValueChange.sort (changed ++ removed ++ added)

/-- The changes that turn the children of `base` into those of `other`:
removals in the order of `base`, then additions in the order of `other`. -/
def Entity.childChanges (base other : Entity) : List ChildChange :=
  let m := Matching.ofChildren base other
  m.onlyLeft.map (fun (key, node) => .removed key node)
    ++ m.onlyRight.map fun (key, node) => .added key node

def Entity.keyValueChanges (base other : Entity) : List KeyValueChange :=
  KeyValues.changes base.keyValues other.keyValues

end SceneMerge
