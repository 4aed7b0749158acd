/-
What changed between two versions of a scene: entities by name, and
memberships one by one. An entity that both versions have is modified if
any part of it is; nothing else about it can change.
-/
import SceneMerge.Difference.Part

namespace SceneMerge

inductive EntityDelta where
  | added (entity : Entity)
  | removed (entity : Entity)
  | modified (base current : Entity) (keyValues : List KeyValueChange)
      (children : List ChildChange)
deriving DecidableEq

structure EntityChange where
  name : EntityName
  delta : EntityDelta
deriving DecidableEq

/-- An entity joined a layer or group, or left it. -/
structure MembershipChange where
  membership : Membership
  entity : EntityName
  member : Bool
deriving DecidableEq

structure SceneDiff where
  changes : List EntityChange := []
  memberships : List MembershipChange := []
deriving DecidableEq

namespace SceneDiff

def isEmpty (d : SceneDiff) : Bool :=
  d.changes.isEmpty && d.memberships.isEmpty

def additions (d : SceneDiff) : Nat :=
  d.changes.countP fun c => c.delta matches .added _

def removals (d : SceneDiff) : Nat :=
  d.changes.countP fun c => c.delta matches .removed _

def modifications (d : SceneDiff) : Nat :=
  d.changes.countP fun c => c.delta matches .modified ..

/-- The change to the entity of that name; of several, the last one
listed counts. -/
def change? (d : SceneDiff) (name : EntityName) : Option EntityChange :=
  d.changes.reverse.find? (·.name == name)

/-- The names of changed entities, sorted. -/
def names (d : SceneDiff) : List EntityName :=
  (Std.ExtTreeSet.ofList (d.changes.map (·.name))).toList

end SceneDiff

/-- What happened to an entity that both versions have. -/
def Entity.delta? (base current : Entity) : Option EntityDelta :=
  let keyValues := base.keyValueChanges current
  let children := base.childChanges current
  if keyValues.isEmpty && children.isEmpty then none
  else some (.modified base current keyValues children)

/-- The memberships that were left, then those that were joined. -/
def Metadata.changes (base other : Metadata) : List MembershipChange :=
  let before := base.memberships
  let after := other.memberships
  ((before.filter (· ∉ after)).map fun (g, e) => ⟨g, e, false⟩)
    ++ (after.filter (· ∉ before)).map fun (g, e) => ⟨g, e, true⟩

/-- Where the entities of a snapshot stand, by name. -/
def Snapshot.positions (s : Snapshot) : Std.ExtTreeMap EntityName Nat :=
  .ofList s.names.zipIdx

namespace EntityChange

section positions

variable (positions : Std.ExtTreeMap EntityName Nat)

/-- Whether an entity that is gone stands before the one of that name. -/
def isBefore (name : EntityName) (gone : EntityName × Entity) : Bool :=
  positions[name]?.all (positions[gone.1]?.getD 0 < ·)

/-- What happened to entities: those that are `gone` were removed, each
of them before the matched ones that stand after it. -/
def interleave : List (EntityName × Entity) → List (EntityName × Entity × Entity) →
    List EntityChange
  | gone, [] => gone.map fun (name, e) => ⟨name, .removed e⟩
  | gone, (name, e, current) :: both =>
      (gone.takeWhile (isBefore positions name)).map (fun (name, e) => ⟨name, .removed e⟩)
        ++ ((e.delta? current).map (⟨name, ·⟩)).toList
        ++ interleave (gone.dropWhile (isBefore positions name)) both

end positions

end EntityChange

/-- The changes that turn `base` into `other`: what happened to the
entities of `base`, in its order, then the entities that `other` adds, in
its order. -/
def Snapshot.changes (base other : Snapshot) :
    Except AmbiguousIdentity SceneDiff := do
  let m ← Matching.ofEntities base other
  return {
    changes := EntityChange.interleave base.positions m.onlyLeft m.both
      ++ m.onlyRight.map fun (name, e) => ⟨name, .added e⟩
    memberships := base.metadata.changes other.metadata }

end SceneMerge
