/-
A merge operation: everything that is known about one merge of a source
into a target while it is built, reviewed and applied.

The operation is plain data and every change of it a function to the
next operation, or to the error for which there is none. Who is told
about a change, and what a pass does to a scene, is said elsewhere; of
that, the operation only keeps what came of it.
-/
import SceneMerge.Review.Error
import SceneMerge.Review.Staging
import SceneMerge.Scene.Revert

namespace SceneMerge

structure Operation where
  sourcePath : String
  /-- The path of the common ancestor; empty in a two-way merge. -/
  basePath : String
  options : MergeOptions := {}
  populated : Bool := false
  /-- All actions, those wrapped by conflicts included. -/
  actions : List Action := []
  /-- The actions that stand on their own, in the order of application. -/
  order : List ActionId := []
  memberships : List MembershipAction := []
  state : MergeState := .idle
  /-- A scene is being changed on behalf of the operation right now. -/
  inFlight : Bool := false
  applied : List ActionId := []
  appliedMemberships : List Nat := []
  /-- The way back from everything applied so far. -/
  journal : List Revert := []
  staged : StagedNodes := ∅
deriving DecidableEq

/-- What a pass did, before the operation has taken it in. -/
structure Pass where
  /-- The actions applied, in order. -/
  applied : List ActionId := []
  /-- The positions of the membership changes made, in order. -/
  memberships : List Nat := []
  /-- The way back, in the order it is to be gone. -/
  reverts : List Revert := []
  /-- What keys held before, by the action that changed them. -/
  unchanged : List (ActionId × Option String) := []
deriving DecidableEq

namespace Operation

-- =============================================================== reading

def isThreeWay (op : Operation) : Bool := !op.basePath.isEmpty

def hasActions (op : Operation) : Bool :=
  !op.order.isEmpty || !op.memberships.isEmpty

def action? (op : Operation) (id : ActionId) : Option Action := op.actions[id]?

/-- The conflict that an action stands for. -/
def conflict? (op : Operation) (id : ActionId) : Option Conflict :=
  (op.action? id).bind (·.conflict?)

/-- The conflicts that stand on their own, in the order of application. -/
def conflicts (op : Operation) : List ActionId :=
  op.order.filter fun id => (op.conflict? id).isSome

/-- The conflicts without a decision. -/
def unresolved (op : Operation) : List ActionId :=
  op.order.filter fun id =>
    (op.conflict? id).any (·.resolution = .unresolved)

/-- The decision on a conflict. -/
def resolution (op : Operation) (id : ActionId) : Except MergeError Resolution :=
  match op.action? id with
  | none => .error (.unknownAction id)
  | some a =>
      match a.conflict? with
      | none => .error (.notAConflict id)
      | some c => .ok c.resolution

/-- Why no change can be taken right now, if that is so. -/
def refusal? (op : Operation) : Option MergeError :=
  if op.inFlight then some .concurrentMergeAccess
  else if op.state.isClosed then some (.operationClosed op.state)
  else none

/-- Succeeds if a change can be taken right now. -/
def ensureMutable (op : Operation) : Except MergeError Unit :=
  match op.refusal? with
  | some e => .error e
  | none => .ok ()

-- ============================================================== building

/-- Adds an action that stands on its own; it gets the next position. -/
def addAction (op : Operation) (a : Action) : Operation :=
  { op with
    actions := op.actions ++ [a]
    order := op.order ++ [op.actions.length] }

/-- The place of a conflict: that of the source's change, or the entity
as a whole if the target's change is one of the whole entity. -/
def conflictNode (type : ConflictType) (source : Action) : NodePath :=
  match type with
  | .modificationOfRemovedEntity | .removalOfModifiedEntity =>
      .entity source.entity
  | _ => source.node

/-- The position that the next conflict gets: after the actions that it
wraps. -/
def nextConflict (op : Operation) (target? : Option Action) : ActionId :=
  op.actions.length + 1 + target?.toList.length

/-- Adds a conflict with the actions that it wraps. Nothing of it is
active before there is a decision. -/
def addConflict (op : Operation) (type : ConflictType) (source : Action)
    (target? : Option Action) (sourceEntity? targetEntity? : Option Entity) :
    Operation :=
  let id := op.nextConflict target?
  let wrap (a : Action) : Action := { a with active := false, owner? := some id }
  let conflict : Action :=
    { kind := .conflict
        { type
          source := op.actions.length
          target? := target?.map fun _ => op.actions.length + 1
          sourceEntity?
          targetEntity? }
      node := conflictNode type source
      active := false }
  { op with
    actions := op.actions ++ wrap source :: target?.toList.map wrap ++ [conflict]
    order := op.order ++ [id] }

def addMembership (op : Operation) (change : MembershipChange) : Operation :=
  { op with memberships := op.memberships ++ [⟨change, true⟩] }

/-- What the merge takes into account is settled once it is populated. -/
def setOptions (op : Operation) (f : MergeOptions → MergeOptions) : Operation :=
  if op.populated then op else { op with options := f op.options }

/-- An operation is populated from snapshots only once. -/
def markPopulated (op : Operation) : Except MergeError Operation :=
  if op.populated then .error .alreadyPopulated
  else .ok { op with populated := true }

-- ============================================================= reviewing

def modifyAction (op : Operation) (id : ActionId) (f : Action → Action) :
    Operation :=
  { op with actions := op.actions.modify id f }

/-- Shows an applied action at its node, or no longer. -/
def restage (op : Operation) (id : ActionId) (a : Action) (active : Bool) :
    Operation :=
  if active then
    if id ∈ op.applied then
      { op with staged := op.staged.stage a.node id a.type }
    else op
  else { op with staged := op.staged.unstage id }

/-- Switches an action on or off. Answers with nothing if it is so
already. -/
def setActive (op : Operation) (id : ActionId) (active : Bool) :
    Except MergeError (Option Operation) := do
  op.ensureMutable
  match op.action? id with
  | none => throw (.unknownAction id)
  | some a =>
      if a.conflict?.isSome || a.isWrapped then throw (.resolutionRequired id)
      if a.active = active then return none
      let op := op.modifyAction id ({ · with active })
      return some (if id ∈ op.applied then op.restage id a active else op)

def setMembershipActive (op : Operation) (index : Nat) (active : Bool) :
    Except MergeError Operation := do
  op.ensureMutable
  if index < op.memberships.length then
    return { op with
      memberships := op.memberships.modify index ({ · with active }) }
  else
    throw (.unknownAction index)

/-- Decides a conflict, or takes a decision back. The conflict and the
source's change that it wraps are switched together. -/
def setResolution (op : Operation) (id : ActionId) (r : Resolution) :
    Except MergeError Operation := do
  op.ensureMutable
  match op.action? id with
  | none => throw (.unknownAction id)
  | some a =>
      match a.conflict? with
      | none => throw (.notAConflict id)
      | some c =>
          let active := r.appliesSource
          let op := op.modifyAction id fun a =>
            { a with kind := a.kind.withResolution r, active }
          let op := op.modifyAction c.source ({ · with active })
          return op.restage id a active

-- ============================================================== applying

/-- The actions that the next pass is to run, with what they are now. -/
def pending (op : Operation) : List (ActionId × Action) :=
  (op.order.filter (· ∉ op.applied)).filterMap fun id =>
    (op.action? id).bind fun a => if a.active then some (id, a) else none

/-- How many actions the next pass passes over because they are not
active. -/
def skipped (op : Operation) : Nat :=
  (op.order.filter (· ∉ op.applied)).countP fun id =>
    (op.action? id).any (!·.active)

/-- The membership changes that the next pass is to make, with their
positions. -/
def pendingMemberships (op : Operation) : List (Nat × MembershipChange) :=
  op.memberships.zipIdx.filterMap fun (m, index) =>
    if m.active && index ∉ op.appliedMemberships then some (index, m.change)
    else none

/-- Shows actions that were just applied at their nodes. -/
def stageAll (op : Operation) (ids : List ActionId) : StagedNodes :=
  ids.foldl (fun staged id =>
    match op.action? id with
    | none => staged
    | some a => staged.stage a.node id a.type) op.staged

/-- Takes in what a pass did. -/
def absorb (op : Operation) (p : Pass) : Operation :=
  { op with
    actions := p.unchanged.foldl (fun actions (id, value?) =>
      actions.modify id fun a =>
        { a with kind := a.kind.withUnchanged value? }) op.actions
    applied := op.applied ++ p.applied
    appliedMemberships := op.appliedMemberships ++ p.memberships
    journal := p.reverts ++ op.journal
    staged := op.stageAll p.applied
    state := .previewing }

/-- Keeps what was applied for good. -/
def finish (op : Operation) : Operation :=
  { op with staged := ∅, journal := [], state := .committed }

/-- Forgets what was applied, once the scene is reverted. -/
def close (op : Operation) : Operation :=
  { op with
    staged := ∅, journal := [], applied := [], appliedMemberships := []
    state := .rolledBack }

end Operation

end SceneMerge
