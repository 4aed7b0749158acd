/-
What an operation holds, in numbers and in one line of text. Text that comes from
elsewhere stands in it between double quotes, with what cannot be shown escaped by a
backslash.
-/
import SceneMerge.Review.Operation
import SceneMerge.Text.Unprintable

namespace SceneMerge

namespace Quoted

/-- A code point in hexadecimal, with as few digits as it takes. -/
def codePoint (c : Char) : List Char :=
  '\\' :: 'u' :: '\x7b' :: Nat.toDigits 16 c.toNat ++ ['\x7d']

/-- One character inside the quotes. A single quote stands for itself. -/
def escape (c : Char) : List Char :=
  if c = '\x00' then ['\\', '0']
  else if c = '\t' then ['\\', 't']
  else if c = '\r' then ['\\', 'r']
  else if c = '\n' then ['\\', 'n']
  else if c = '\\' ∨ c = '"' then ['\\', c]
  else if Unprintable.contains c then codePoint c
  else [c]

def quote (s : String) : String :=
  .ofList ('"' :: s.toList.flatMap escape ++ ['"'])

end Quoted

/-- Numbers of actions are of those that stand on their own. -/
structure MergeSummary where
  state : MergeState := .idle
  entitiesAdded : Nat := 0
  entitiesRemoved : Nat := 0
  keyValuesAdded : Nat := 0
  keyValuesRemoved : Nat := 0
  keyValuesChanged : Nat := 0
  childrenAdded : Nat := 0
  childrenRemoved : Nat := 0
  conflicts : Nat := 0
  unresolved : Nat := 0
  accepted : Nat := 0
  rejected : Nat := 0
  memberships : Nat := 0
  active : Nat := 0
  applied : Nat := 0
  stagedNodes : Nat := 0
deriving DecidableEq

/-- Every conflict has a decision. -/
def MergeSummary.isResolved (s : MergeSummary) : Bool := s.unresolved == 0

namespace Operation

/-- The actions that stand on their own, in the order of application. -/
def topLevel (op : Operation) : List Action := op.order.filterMap op.action?

def summary (op : Operation) : MergeSummary :=
  let actions := op.topLevel
  let ofType (t : ActionType) : Nat := actions.countP (·.type = t)
  let decided (r : Resolution) : Nat :=
    actions.countP fun a => a.conflict?.any (·.resolution = r)
  { state := op.state
    entitiesAdded := ofType .addEntity
    entitiesRemoved := ofType .removeEntity
    keyValuesAdded := ofType .addKeyValue
    keyValuesRemoved := ofType .removeKeyValue
    keyValuesChanged := ofType .changeKeyValue
    childrenAdded := ofType .addChildNode
    childrenRemoved := ofType .removeChildNode
    conflicts := ofType .conflictResolution
    unresolved := decided .unresolved
    accepted := decided .applySource
    rejected := decided .rejectSource
    memberships := op.memberships.length
    active := actions.countP (·.active)
    applied := op.applied.length
    stagedNodes := op.staged.size }

/-- The operation in one line; `observers` are those registered. -/
def inspect (op : Operation) (observers : Nat) : String :=
  "MergeOperation \x7b source_path: " ++ Quoted.quote op.sourcePath
    ++ ", base_path: " ++ Quoted.quote op.basePath
    ++ s!", actions: {op.order.length}"
    ++ s!", memberships: {op.memberships.length}"
    ++ s!", state: {op.state.caption}"
    ++ s!", observers: {observers} \x7d"

end Operation

/-- A staged node as it is shown: each of its actions with its type and
whether it is active now. -/
structure NodeView where
  node : NodePath
  type : ActionType
  ids : List ActionId
  actions : List (ActionId × ActionType × Bool)
deriving DecidableEq

def NodeView.hasActive (v : NodeView) : Bool := v.actions.any (·.2.2)

namespace Operation

def viewNode (op : Operation) (node : NodePath) (n : StagedNode) : NodeView where
  node
  type := n.type
  ids := n.ids
  actions := n.ids.filterMap fun id =>
    (op.action? id).map fun a => (id, a.type, a.active)

/-- All staged nodes, in path order. -/
def nodeViews (op : Operation) : List NodeView :=
  op.staged.toList.map fun (node, n) => op.viewNode node n

end Operation

end SceneMerge
