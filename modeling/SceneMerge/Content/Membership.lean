/-
Layers and selection groups. An entity may belong to any number of
either; a scene's `Metadata` lists the members of each.

`Metadata.put` is the only way a membership changes: the first member
brings a layer or group into being and the last one takes it away.
-/
import SceneMerge.Content.Entity
import Std.Data.ExtTreeSet

namespace SceneMerge

/-- Something that an entity can belong to. -/
inductive Membership where
  | layer (name : String)
  | selectionGroup (id : Nat)
deriving DecidableEq

instance : ToString Membership where
  toString
    | .layer name => s!"layer '{name}'"
    | .selectionGroup id => s!"selection group {id}"

/-- The names that belong to one layer or group. -/
abbrev Members := Std.ExtTreeSet EntityName

structure Metadata where
  layers : Std.ExtTreeMap String Members := ∅
  selectionGroups : Std.ExtTreeMap Nat Members := ∅
deriving DecidableEq

namespace Metadata

/-- What is left of a layer or group when `entity` joins or leaves it:
nothing at all if that leaves it without members. -/
def regroup (entity : EntityName) (member : Bool) (members? : Option Members) :
    Option Members :=
  if member then
    some ((members?.getD ∅).insert entity)
  else
    (members?.map (·.erase entity)).filter (!·.isEmpty)

def isMember (m : Metadata) (membership : Membership) (entity : EntityName) :
    Bool :=
  let members? := match membership with
    | .layer name => m.layers[name]?
    | .selectionGroup id => m.selectionGroups[id]?
  members?.any (·.contains entity)

/-- The metadata in which `entity` is, or is not, a member. -/
def put (m : Metadata) (membership : Membership) (entity : EntityName)
    (member : Bool) : Metadata :=
  match membership with
  | .layer name =>
      { m with layers := m.layers.alter name (regroup entity member) }
  | .selectionGroup id =>
      { m with
        selectionGroups := m.selectionGroups.alter id (regroup entity member) }

/-- Whatever `entity` belongs to: layers by name, then groups by number. -/
def membershipsOf (m : Metadata) (entity : EntityName) : List Membership :=
  ((m.layers.toList.filter (·.2.contains entity)).map (.layer ·.1))
    ++ (m.selectionGroups.toList.filter (·.2.contains entity)).map
      (.selectionGroup ·.1)

/-- All memberships with their members: layers by name, then groups by
number, the members of each by name. -/
def memberships (m : Metadata) : List (Membership × EntityName) :=
  (m.layers.toList.flatMap fun (name, members) =>
      members.toList.map (.layer name, ·))
    ++ m.selectionGroups.toList.flatMap fun (id, members) =>
      members.toList.map (.selectionGroup id, ·)

/-- Drops the layers and groups that have no members. -/
def prune (m : Metadata) : Metadata where
  layers := m.layers.filter fun _ members => !members.isEmpty
  selectionGroups := m.selectionGroups.filter fun _ members => !members.isEmpty

end Metadata

end SceneMerge
