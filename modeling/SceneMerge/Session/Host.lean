/-
The calls that build, review and finish a merge operation, for any host
of the operation. A host keeps the operation and tells others of what
happened to it; what telling does is the host's business, and it may
fail and stop the call in the middle.

An operation is a host of itself that tells nobody.
-/
import SceneMerge.Review.Operation
import SceneMerge.Review.Proposal
import SceneMerge.Session.Registry

namespace SceneMerge

/-- Why a call did not come to its end. -/
inductive Halt where
  | refused (cause : MergeError)
  /-- An observer failed while it was told of something. -/
  | unwound (observer : SubscriptionId)
deriving DecidableEq

/-- A keeper of an operation. -/
structure Host (σ : Type) where
  read : σ → Operation
  write : Operation → σ → σ
  /-- Stopped by the observer that fails, if one does. -/
  tell : Event → EStateM SubscriptionId σ Unit

/-- The operation by itself. -/
def Host.alone : Host Operation where
  read op := op
  write op _ := op
  tell _ := pure ()

namespace Host

variable {σ : Type} (h : Host σ)

-- ================================================================ access

def look : EStateM Halt σ Operation := return h.read (← get)

def store (op : Operation) : EStateM Halt σ Unit := modify (h.write op)

/-- Tells of an event. -/
def emit (event : Event) : EStateM Halt σ Unit :=
  (h.tell event).adaptExcept .unwound

/-- Changes the operation as `f` says. -/
def update (f : Operation → Operation) : EStateM Halt σ Unit := do
  h.store (f (← h.look))

/-- What `r` yields, or the refusal. -/
def orRefuse {α : Type} (r : Except MergeError α) : EStateM Halt σ α :=
  match r with
  | .ok a => pure a
  | .error e => throw (.refused e)

-- ============================================================== building

def addAction (a : Action) : EStateM Halt σ ActionId := do
  let op ← h.look
  h.store (op.addAction a)
  h.emit (.actionAdded op.actions.length)
  return op.actions.length

def addConflict (type : ConflictType) (source : Action)
    (target? : Option Action) (sourceEntity? targetEntity? : Option Entity) :
    EStateM Halt σ ActionId := do
  let op ← h.look
  h.store (op.addConflict type source target? sourceEntity? targetEntity?)
  h.emit (.actionAdded (op.nextConflict target?))
  return op.nextConflict target?

def addMembership (change : MembershipChange) : EStateM Halt σ Nat := do
  let op ← h.look
  h.store (op.addMembership change)
  return op.memberships.length

def setMergeLayers (enabled : Bool) : EStateM Halt σ Unit :=
  h.update (·.setOptions ({ · with mergeLayers := enabled }))

def setMergeSelectionGroups (enabled : Bool) : EStateM Halt σ Unit :=
  h.update (·.setOptions ({ · with mergeSelectionGroups := enabled }))

-- ============================================================ populating

def propose : Proposal → EStateM Halt σ Unit
  | .action a => do let _ ← h.addAction a
  | .conflict type source target? sourceEntity? targetEntity? => do
      let _ ← h.addConflict type source target? sourceEntity? targetEntity?

def proposeAll : List Proposal → EStateM Halt σ Unit
  | [] => pure ()
  | p :: rest => do
      h.propose p
      proposeAll rest

def addMemberships : List MembershipChange → EStateM Halt σ Unit
  | [] => pure ()
  | change :: rest => do
      let _ ← h.addMembership change
      addMemberships rest

/-- Adds proposals, and then the membership changes that are taken into
account by then. -/
def classify (proposals : List Proposal)
    (ours theirs : List MembershipChange) : EStateM Halt σ Unit := do
  h.proposeAll proposals
  let op ← h.look
  h.addMemberships (Proposal.memberships op.options ours theirs)

/-- Adds what merges the source into the target: `ours` is what the
source changed since the base and `theirs` what the target changed. -/
def classifyThreeWay (ours theirs : SceneDiff) (target : Snapshot) :
    EStateM Halt σ Unit :=
  h.classify (Proposal.threeWay ours theirs target) ours.memberships
    theirs.memberships

/-- Adds what turns the target into the source, from which `diff` leads. -/
def classifyTwoWay (diff : SceneDiff) (target : Snapshot) :
    EStateM Halt σ Unit :=
  h.classify (Proposal.twoWay diff target) diff.memberships []

/-- The changes from one snapshot to the other, or a refusal. -/
def difference (base other : Snapshot) : EStateM Halt σ SceneDiff :=
  match base.changes other with
  | .ok diff => pure diff
  | .error e => throw (.refused (.setup e))

/-- Fills the operation with what merges `source` into `target`. It
stays as it is unless all snapshots can be matched and no others were
taken before. -/
def populate (source : Snapshot) (base? : Option Snapshot)
    (target : Snapshot) : EStateM Halt σ Unit := do
  orRefuse (← h.look).ensureMutable
  match base? with
  | some base =>
      let ours ← difference base source
      let theirs ← difference base target
      h.store (← orRefuse (← h.look).markPopulated)
      h.classifyThreeWay ours theirs target
  | none =>
      let diff ← difference target source
      h.store (← orRefuse (← h.look).markPopulated)
      h.classifyTwoWay diff target

-- ============================================================= reviewing

/-- Switches an action on or off. Nobody is told if it is so already. -/
def setActive (id : ActionId) (active : Bool) : EStateM Halt σ Unit := do
  match ← orRefuse ((← h.look).setActive id active) with
  | none => pure ()
  | some op =>
      h.store op
      h.emit (.actionChanged id)

/-- Switches a membership change on or off. Nobody is told. -/
def setMembershipActive (index : Nat) (active : Bool) :
    EStateM Halt σ Unit := do
  h.store (← orRefuse ((← h.look).setMembershipActive index active))

/-- Decides a conflict. Others are told even if it was decided so. -/
def setResolution (id : ActionId) (r : Resolution) : EStateM Halt σ Unit := do
  h.store (← orRefuse ((← h.look).setResolution id r))
  h.emit (.actionChanged id)

/-- Keeps what was applied. -/
def finish : EStateM Halt σ Unit := do
  orRefuse (← h.look).ensureMutable
  h.update Operation.finish
  h.emit .finished

end Host

-- ========================================================== construction

/-- The operation that merges `source` into `target`, with the base as
the common ancestor if there is one. -/
def Operation.construct (source : Snapshot) (base? : Option Snapshot)
    (target : Snapshot) (options : MergeOptions) :
    Except MergeError Operation :=
  let op : Operation :=
    { sourcePath := source.path
      basePath := (base?.map (·.path)).getD ""
      options }
  match Host.alone.populate source base? target op with
  | .error (.refused e) _ => .error e
  | .ok _ op | .error (.unwound _) op => .ok op

end SceneMerge
