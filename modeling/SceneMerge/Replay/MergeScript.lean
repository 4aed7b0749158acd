/-
Running scripts of calls on a merge operation.

A step is a client program, so observers and visitors run steps just as
the script itself does. Only the script has the live scene; a step that
needs a scene and is run by anyone else gets an empty one that is thrown
away.
-/
import SceneMerge.Replay.MergeStep

namespace SceneMerge

/-- A client of scripted observers that may end in a fault. -/
abbrev Routine (α : Type) : Type 1 := ExceptT MergeFault (Client Troupe) α

namespace Routine

def operation : Routine Operation := ExceptT.lift Client.operation

def world : Routine Troupe := ExceptT.lift Client.world

/-- A public call, whose refusal is a fault. -/
def ask {α : Type} (c : Call α) : Routine α :=
  ExceptT.mk do
    match ← Client.call c with
    | .ok a => return .ok a
    | .error e => return .error (.refused e)

/-- A call on a scene that is thrown away. -/
def askScratch {α : Type}
    (c : LiveScene → Call (Except MergeError α × LiveScene)) : Routine α := do
  match (← ask (c {})).1 with
  | .ok a => return a
  | .error e => throw (.refused e)

end Routine

def DiffSource.diff : DiffSource → Routine SceneDiff
  | .written diff => return diff
  | .between base other =>
      match base.changes other with
      | .ok diff => return diff
      | .error e => throw (.ambiguous e)

/-- An action that is to be copied has to be there. -/
def ActionSource.action : ActionSource → Routine Action
  | .made a => return a
  | .copyOf id => do
      match (← Routine.operation).action? id with
      | some a => return a
      | none => throw .malformed

namespace MergeStep

open Routine

/-- Decides conflicts in turn until one is refused. -/
def decideAll (r : Resolution) : List ActionId → Routine Unit
  | [] => pure ()
  | id :: rest => do
      ask (.setResolution id r)
      decideAll r rest

/-- A step that does not consist of others. -/
def runSimple : MergeStep → Routine MergeReply
  | .populate source base? target => do
      ask (.populate source base? target)
      return .nothing
  | .classify ours none target? => do
      let diff ← ours.diff
      let some target := target? | throw .malformed
      ask (.classifyTwoWay diff target)
      return .nothing
  | .classify ours (some theirs) target? => do
      let ours ← ours.diff
      let some target := target? | throw .malformed
      ask (.classifyThreeWay ours (← theirs.diff) target)
      return .nothing
  | .addAction source => do
      return .id (← ask (.addAction (← source.action)))
  | .addConflict type source target? sourceEntity? targetEntity? => do
      let source ← source.action
      let target? ← match target? with
        | none => pure none
        | some target => some <$> target.action
      return .id (← ask
        (.addConflict type source target? sourceEntity? targetEntity?))
  | .addMembership change => return .count (← ask (.addMembership change))
  | .setActive id active => do
      ask (.setActive id active)
      return .nothing
  | .setMembershipActive index active => do
      ask (.setMembershipActive index active)
      return .nothing
  | .setResolution id r => do
      ask (.setResolution id r)
      return .nothing
  | .resolution id => do
      match (← operation).resolution id with
      | .ok r => return .resolution r
      | .error e => throw (.refused e)
  | .resolveAll r => do
      decideAll r (← operation).conflicts
      return .nothing
  | .setMergeLayers enabled => do
      ask (.setMergeLayers enabled)
      return .flag (← operation).options.mergeLayers
  | .setMergeSelectionGroups enabled => do
      ask (.setMergeSelectionGroups enabled)
      return .flag (← operation).options.mergeSelectionGroups
  | .apply => return .report (← askScratch .apply)
  | .finish => do
      ask .finish
      return .nothing
  | .abort => do
      askScratch .abort
      return .nothing
  | .action id => return .action? (((← operation).action? id).map (id, ·))
  | .summary => return .summary (← operation).summary
  | .inspect =>
      ExceptT.lift (.look fun op observers =>
        .done (.text (op.inspect observers)))
  | .subscribe label on? limit steps fails => do
      let id ← ask .subscribe
      ExceptT.lift
        (Client.modifyWorld (·.register id ⟨label, on?, limit, steps, fails⟩))
      return .nothing
  | .unsubscribe label => do
      match (← world).labelled? label with
      | none => throw .malformed
      | some id =>
          ask (.unsubscribe id)
          return .nothing
  | .setFaults _ => return .nothing
  | .malformed | .scene _ | .actionNode .. | .foreach _ => throw .malformed

/-- What a visitor runs at an action. -/
abbrev Visit : Type 1 :=
  ActionId × Option (Client Troupe (List (Except MergeFault MergeReply)))

/-- Visits actions in order; shown is each as it was when its turn came. -/
def visitAll (visits : List Visit) : List ActionId →
    Routine (List (ActionId × ActionType × Bool
      × List (Except MergeFault MergeReply)))
  | [] => pure []
  | id :: rest => do
      match (← operation).action? id with
      | none => visitAll visits rest
      | some a =>
          let replies ← match visits.find? (·.1 == id) with
            | none => pure []
            | some (_, none) => throw .malformed
            | some (_, some program) => ExceptT.lift program
          return (id, a.type, a.active, replies) :: (← visitAll visits rest)

mutual

/-- What a step answers. -/
def run : MergeStep → Routine MergeReply
  | .actionNode path steps => do
      let node? := (← operation).staged.node? path
      let replies ← ExceptT.lift (all steps)
      let op ← operation
      let view? := node?.map (op.viewNode path.wrapper)
      return if steps.isEmpty then .node? view? else .nodeAfter replies view?
  | .foreach visits => do
      return .visited (← visitAll (allVisits visits) (← operation).order)
  | step => runSimple step

/-- What steps come to, whether or not they are refused. -/
def all : List MergeStep → Client Troupe (List (Except MergeFault MergeReply))
  | [] => pure []
  | step :: rest => do
      let reply ← (run step).run
      let replies ← all rest
      return reply :: replies

def allVisits : List (ActionId × Option (List MergeStep)) → List Visit
  | [] => []
  | (id, none) :: rest => (id, none) :: allVisits rest
  | (id, some steps) :: rest => (id, some (all steps)) :: allVisits rest

end

end MergeStep

-- ============================================================== observers

namespace Troupe

/-- Runs steps and writes down what they come to. -/
def perform (label : String) : List MergeStep → Client Troupe Unit
  | [] => pure ()
  | step :: rest => do
      let reply ← step.run.run
      Client.modifyWorld (·.write (.did label reply))
      perform label rest

def reaction? (id : SubscriptionId) (event : Event) (t : Troupe) :
    Option (Client Troupe Ending) :=
  (t.observer? id).bind fun o =>
    if o.on?.all (· == event.name) && 0 < o.remaining then
      some do
        Client.modifyWorld (·.spend id)
        perform o.label o.steps
        return if o.fails then .fails else .returns
    else none

/-- Scripted observers write down every event they are told of. -/
def audience : Audience Troupe where
  note id event t :=
    match t.observer? id with
    | some o => t.write (.heard o.label event)
    | none => t
  reaction? := reaction?
  patience := weight

end Troupe

-- ================================================================= scripts

/-- Where a script is: the session, the live scene behind its faults, and
the content that was marked. -/
structure Stage where
  session : Session Troupe
  scene : Faulty LiveScene
  mark : Scene

namespace Stage

/-- The stage on which a script on an operation and a scene begins. -/
def start (op : Operation) (l : LiveScene) : Stage where
  session := { operation := op, world := {} }
  scene := { surface := l }
  mark := l.scene

/-- The fault when the observer of that number failed. -/
def failed (t : Troupe) (id : SubscriptionId) : MergeFault :=
  .observerFailed (((t.observer? id).map (·.label)).getD "")

/-- A call that concerns the live scene. -/
def onScene (st : Stage) {α : Type} (reply : α → MergeReply)
    (call : EStateM Halt (Session Troupe × Faulty LiveScene) α) :
    Except MergeFault MergeReply × Stage :=
  match call (st.session, st.scene) with
  | .ok a (session, scene) => (.ok (reply a), { st with session, scene })
  | .error (.refused e) (session, scene) =>
      (.error (.refused e), { st with session, scene })
  | .error (.unwound id) (session, scene) =>
      (.error (failed session.world id), { st with session, scene })

/-- What a step of the script comes to. -/
def step (st : Stage) : MergeStep → Except MergeFault MergeReply × Stage
  | .apply => st.onScene .report Troupe.audience.outside.apply
  | .abort => st.onScene (fun _ => .nothing) Troupe.audience.outside.abort
  | .setFaults faults =>
      (.ok .nothing, { st with scene := { st.scene with faults } })
  | .scene step =>
      let (reply, mark, live) :=
        SceneStep.outcome step.run (st.mark, st.scene.surface)
      let st := { st with mark, scene := { st.scene with surface := live } }
      match reply with
      | .ok r => (.ok (.scene r), st)
      | .error .malformed => (.error .malformed, st)
      | .error (.refused e) => (.error (.scene e), st)
  | step =>
      match Client.run Troupe.audience.outside step.run.run st.session with
      | .ok reply session => (reply, { st with session })
      | .error id session =>
          (.error (failed session.world id), { st with session })

/-- The stage with an empty log. -/
def clearLog (st : Stage) : Stage :=
  { st with
    session := { st.session with world := { st.session.world with log := [] } } }

/-- What each step of a script comes to, with the stage after it. The log
there is of that step alone. -/
def trace : List MergeStep → Stage → List (Except MergeFault MergeReply × Stage)
  | [], _ => []
  | step :: rest, st =>
      let (reply, st) := st.clearLog.step step
      (reply, st) :: trace rest st

end Stage

end SceneMerge
