/-
Scripts of calls on a merge operation, as data: the steps, what they
answer, and the scripted observers that run steps of their own when they
are told of an event.
-/
import SceneMerge.Replay.SceneScript
import SceneMerge.Review.Summary
import SceneMerge.Scene.Faults
import SceneMerge.Session.Delivery

namespace SceneMerge

/-- A difference between snapshots, to be computed or written out. -/
inductive DiffSource where
  | between (base other : Snapshot)
  | written (diff : SceneDiff)

/-- An action to be added: a new one, or one that the operation has, as
it is. -/
inductive ActionSource where
  | made (a : Action)
  | copyOf (id : ActionId)

inductive MergeStep where
  /-- A step that cannot be read. -/
  | malformed
  | populate (source : Snapshot) (base? : Option Snapshot) (target : Snapshot)
  /-- Classifies a difference, against another one if there is one. The
  difference itself comes first, then the target, which may be one that
  cannot be read, and last what the difference is held against. -/
  | classify (ours : DiffSource) (theirs? : Option DiffSource)
      (target? : Option Snapshot)
  | addAction (action : ActionSource)
  | addConflict (type : ConflictType) (source : ActionSource)
      (target? : Option ActionSource)
      (sourceEntity? targetEntity? : Option Entity)
  | addMembership (change : MembershipChange)
  | setActive (id : ActionId) (active : Bool)
  | setMembershipActive (index : Nat) (active : Bool)
  | setResolution (id : ActionId) (r : Resolution)
  | resolution (id : ActionId)
  /-- Decides all conflicts alike, until one is refused. -/
  | resolveAll (r : Resolution)
  | setMergeLayers (enabled : Bool)
  | setMergeSelectionGroups (enabled : Bool)
  | apply
  | finish
  | abort
  | action (id : ActionId)
  /-- Looks at a staged node, runs steps, and shows the node that was
  looked at. -/
  | actionNode (path : NodePath) (steps : List MergeStep)
  | summary
  | inspect
  /-- Visits all actions in order, and at each runs the steps listed for
  it. Steps that are no list cannot be run when their turn comes. -/
  | foreach (visits : List (ActionId × Option (List MergeStep)))
  /-- Registers an observer that hears events of one name, or of all. -/
  | subscribe (label : String) (on? : Option String) (limit : Nat)
      (steps : List MergeStep) (fails : Bool)
  | unsubscribe (label : String)
  | setFaults (faults : Faults)
  /-- A step on the live scene itself. -/
  | scene (step : SceneStep)

/-- Why a step has no answer. -/
inductive MergeFault where
  | malformed
  | refused (cause : MergeError)
  | scene (cause : SceneError)
  | ambiguous (cause : AmbiguousIdentity)
  /-- The observer of that label failed. -/
  | observerFailed (label : String)
deriving DecidableEq

inductive MergeReply where
  | nothing
  | id (id : ActionId)
  | count (n : Nat)
  | flag (b : Bool)
  | resolution (r : Resolution)
  | report (r : ApplyReport)
  | action? (a? : Option (ActionId × Action))
  | node? (n? : Option NodeView)
  | nodeAfter (replies : List (Except MergeFault MergeReply))
      (n? : Option NodeView)
  | summary (s : MergeSummary)
  | text (s : String)
  | visited (visits : List (ActionId × ActionType × Bool
      × List (Except MergeFault MergeReply)))
  | scene (r : SceneReply)

/-- What scripted observers leave behind. -/
inductive LogEntry where
  | heard (label : String) (event : Event)
  | did (label : String) (result : Except MergeFault MergeReply)

/-- An observer that runs steps on events. -/
structure ScriptedObserver where
  label : String
  /-- The name of the events to react to; all without one. -/
  on? : Option String
  /-- How many more events it reacts to. -/
  remaining : Nat
  steps : List MergeStep
  /-- It fails after its steps. -/
  fails : Bool

/-- What the scripted observers of a session share. -/
structure Troupe where
  observers : List (SubscriptionId × ScriptedObserver) := []
  /-- Who was registered under each label; of several, the first listed. -/
  labels : List (String × SubscriptionId) := []
  log : List LogEntry := []

namespace Troupe

def observer? (t : Troupe) (id : SubscriptionId) : Option ScriptedObserver :=
  (t.observers.find? (·.1 == id)).map (·.2)

/-- The number registered last under a label. -/
def labelled? (t : Troupe) (label : String) : Option SubscriptionId :=
  (t.labels.find? (·.1 == label)).map (·.2)

def write (t : Troupe) (entry : LogEntry) : Troupe :=
  { t with log := t.log ++ [entry] }

def register (t : Troupe) (id : SubscriptionId) (o : ScriptedObserver) :
    Troupe :=
  { t with
    observers := t.observers ++ [(id, o)]
    labels := (o.label, id) :: t.labels }

/-- Uses up one reaction of an observer. -/
def spend (t : Troupe) (id : SubscriptionId) : Troupe :=
  { t with
    observers := t.observers.map fun (id', o) =>
      (id', if id' = id then { o with remaining := o.remaining - 1 } else o) }

end Troupe

-- ============================================================== patience

mutual

/-- How many reactions a step can lead to through observers that it
registers, and that these register in turn. -/
def MergeStep.weight : MergeStep → Nat
  | .subscribe _ _ limit steps _ => limit * (1 + weightAll steps)
  | .actionNode _ steps => weightAll steps
  | .foreach visits => weightVisits visits
  | _ => 0

def MergeStep.weightAll : List MergeStep → Nat
  | [] => 0
  | step :: rest => step.weight + weightAll rest

def MergeStep.weightVisits : List (ActionId × Option (List MergeStep)) → Nat
  | [] => 0
  | (_, none) :: rest => weightVisits rest
  | (_, some steps) :: rest => weightAll steps + weightVisits rest

end

/-- How many reactions a troupe can come to. -/
def Troupe.weight (t : Troupe) : Nat :=
  t.observers.foldl (fun total (_, o) =>
    total + o.remaining * (1 + MergeStep.weightAll o.steps)) 0

end SceneMerge
