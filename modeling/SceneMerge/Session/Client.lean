/-
Clients: programs that use a merge operation through its public calls,
and nothing else of it. What an observer does when it is told of an event
is such a program. Clients may also share a world of their own.

Whatever a client does, then, is a sequence of calls, and what every call
keeps every client keeps.
-/
import SceneMerge.Session.Pass
import SceneMerge.Session.Registry

namespace SceneMerge

/-- A public call, by what it answers. -/
inductive Call : Type → Type where
  | addAction (a : Action) : Call ActionId
  | addConflict (type : ConflictType) (source : Action)
      (target? : Option Action) (sourceEntity? targetEntity? : Option Entity) :
      Call ActionId
  | addMembership (change : MembershipChange) : Call Nat
  | setMergeLayers (enabled : Bool) : Call Unit
  | setMergeSelectionGroups (enabled : Bool) : Call Unit
  | populate (source : Snapshot) (base? : Option Snapshot)
      (target : Snapshot) : Call Unit
  | classifyThreeWay (ours theirs : SceneDiff) (target : Snapshot) : Call Unit
  | classifyTwoWay (diff : SceneDiff) (target : Snapshot) : Call Unit
  | setActive (id : ActionId) (active : Bool) : Call Unit
  | setMembershipActive (index : Nat) (active : Bool) : Call Unit
  | setResolution (id : ActionId) (r : Resolution) : Call Unit
  | finish : Call Unit
  /-- Applies to a scene of the client's own, and hands it back. -/
  | apply (scene : LiveScene) :
      Call (Except MergeError ApplyReport × LiveScene)
  /-- Reverts on a scene of the client's own, and hands it back. -/
  | abort (scene : LiveScene) : Call (Except MergeError Unit × LiveScene)
  | subscribe : Call SubscriptionId
  | unsubscribe (id : SubscriptionId) : Call Unit

/-- A program over public calls, with a world `W` on the side. -/
inductive Client (W : Type) (α : Type) : Type 1 where
  | done (a : α)
  /-- Looks at the operation, and at how many observers are registered and
  not checked out. -/
  | look (next : Operation → Nat → Client W α)
  /-- Looks at the world and leaves it changed. -/
  | share {β : Type} (f : W → β × W) (next : β → Client W α)
  /-- Makes a call, and goes on from its answer or its refusal. -/
  | ask {β : Type} (call : Call β) (next : Except MergeError β → Client W α)

namespace Client

variable {W α β : Type}

protected def bind (c : Client W α) (f : α → Client W β) : Client W β :=
  match c with
  | .done a => f a
  | .look next => .look fun op observers => (next op observers).bind f
  | .share g next => .share g fun b => (next b).bind f
  | .ask call next => .ask call fun b => (next b).bind f

instance : Monad (Client W) where
  pure := .done
  bind := Client.bind

/-- A single call. -/
def call (c : Call α) : Client W (Except MergeError α) := .ask c .done

/-- The operation as it is now. -/
def operation : Client W Operation := .look fun op _ => .done op

def world : Client W W := .share (fun w => (w, w)) .done

def modifyWorld (f : W → W) : Client W Unit := .share (fun w => ((), f w)) .done

end Client

-- =============================================================== session

/-- An operation with its observers and the world that clients share. -/
structure Session (W : Type) where
  operation : Operation
  registry : Registry := {}
  world : W

namespace Session

variable {W : Type}

/-- The session as a host of its operation that delivers with `tell`. -/
def host (tell : Event → EStateM SubscriptionId (Session W) Unit) :
    Host (Session W) where
  read s := s.operation
  write op s := { s with operation := op }
  tell := tell

/-- Leaves the event to whoever is delivering. -/
def enqueue (event : Event) : EStateM SubscriptionId (Session W) Unit :=
  modify fun s => { s with registry := s.registry.enqueue event }

/-- The host for whoever calls from inside a notification. -/
def inside : Host (Session W) := host enqueue

/-- Runs a call that concerns a scene, which comes back whether or not
the call is refused. -/
def onScene {α : Type} (call : EStateM Halt (Session W × LiveScene) α)
    (scene : LiveScene) :
    EStateM Halt (Session W) (Except MergeError α × LiveScene) := fun s =>
  match call (s, scene) with
  | .ok a (s, scene) => .ok (.ok a, scene) s
  | .error (.refused e) (s, scene) => .ok (.error e, scene) s
  | .error (.unwound id) (s, _) => .error (.unwound id) s

/-- Answers a public call. -/
def answer (h : Host (Session W)) {α : Type} :
    Call α → EStateM Halt (Session W) α
  | .addAction a => h.addAction a
  | .addConflict type source target? sourceEntity? targetEntity? =>
      h.addConflict type source target? sourceEntity? targetEntity?
  | .addMembership change => h.addMembership change
  | .setMergeLayers enabled => h.setMergeLayers enabled
  | .setMergeSelectionGroups enabled => h.setMergeSelectionGroups enabled
  | .populate source base? target => h.populate source base? target
  | .classifyThreeWay ours theirs target => h.classifyThreeWay ours theirs target
  | .classifyTwoWay diff target => h.classifyTwoWay diff target
  | .setActive id active => h.setActive id active
  | .setMembershipActive index active => h.setMembershipActive index active
  | .setResolution id r => h.setResolution id r
  | .finish => h.finish
  | .apply scene => onScene h.apply scene
  | .abort scene => onScene h.abort scene
  | .subscribe => modifyGet fun s =>
      (s.registry.next, { s with registry := s.registry.subscribe })
  | .unsubscribe id =>
      modify fun s => { s with registry := s.registry.unsubscribe id }

end Session

/-- Runs a client to its end, or until an observer fails. -/
def Client.run {W α : Type} (h : Host (Session W)) :
    Client W α → EStateM SubscriptionId (Session W) α
  | .done a, s => .ok a s
  | .look next, s => (next s.operation s.registry.slots.length).run h s
  | .share f next, s =>
      let (b, world) := f s.world
      (next b).run h { s with world }
  | .ask call next, s =>
      match Session.answer h call s with
      | .ok b s => (next (.ok b)).run h s
      | .error (.refused e) s => (next (.error e)).run h s
      | .error (.unwound id) s => .error id s

end SceneMerge
