/-
Applying a merge operation to a scene, and taking it back.

A pass runs in one transaction of the scene: every pending action in
order, then the pending membership changes. The operation takes in what
the pass did only once the transaction is committed, so a pass that is
refused, or stopped by a failing observer, leaves scene and operation as
they were. While the scene is being changed the operation is in flight
and refuses review.
-/
import SceneMerge.Review.Performance
import SceneMerge.Session.Host

namespace SceneMerge.Host

variable {σ : Type} (h : Host σ) {S : Type} [Surface S]

-- ================================================================ a pass

/-- Runs actions in order and tells of each. What a conflict wraps is
looked up when its turn comes, among the actions that are there by then. -/
def runActions :
    List (ActionId × Action) → Pass → EStateM Halt (σ × S) Pass
  | [], p => pure p
  | (id, a) :: rest, p => do
      let op ← onFirst h.look
      let done ← onSecond ((Performed.ofAction op id a).adaptExcept .refused)
      onFirst (h.emit (.actionApplied id))
      runActions rest (p.add id done)

/-- Makes membership changes in order, passing over those of entities
that are not there. -/
def runMemberships :
    List (Nat × MembershipChange) → Pass → EStateM Halt (σ × S) Pass
  | [], p => pure p
  | (index, change) :: rest, p => do
      let done ← onSecond
        ((Performed.membership change).adaptExcept (.refused ∘ .scene))
      match done with
      | none => runMemberships rest p
      | some reverts => runMemberships rest (p.addMembership index reverts)

/-- Runs everything that was pending when the pass began, as `op` has it.
Membership changes that were added in the meantime belong to the pass,
actions do not. -/
def runPass (op : Operation) : EStateM Halt (σ × S) Pass := do
  let p ← h.runActions op.pending {}
  runMemberships (← onFirst h.look).pendingMemberships p

-- ============================================================= in flight

/-- Runs `body` in a transaction of the scene while the operation is in
flight, which it is no longer however the body ends. -/
def inFlight {α : Type} (label : String) (body : EStateM Halt (σ × S) α) :
    EStateM Halt (σ × S) α := fun p =>
  let fly (flag : Bool) (p : σ × S) : σ × S :=
    (h.write { h.read p.1 with inFlight := flag } p.1, p.2)
  match Surface.within (Halt.refused ∘ .scene) label body (fly true p) with
  | .ok a p => .ok a (fly false p)
  | .error e p => .error e (fly false p)

/-- Applies every active action that was not applied before. -/
def apply : EStateM Halt (σ × S) ApplyReport := do
  let op ← onFirst h.look
  orRefuse op.ensureMutable
  let p ← h.inFlight s!"Merge {op.sourcePath}" (h.runPass op)
  onFirst (h.update (·.absorb p))
  onFirst (h.emit (.applied p.applied.length p.memberships.length))
  return ⟨p.applied, p.memberships.length, op.skipped⟩

/-- Takes back everything applied so far, in one transaction of the
scene; none if there is nothing to take back. -/
def abort : EStateM Halt (σ × S) Unit := do
  let op ← onFirst h.look
  orRefuse op.ensureMutable
  if !op.journal.isEmpty then
    h.inFlight s!"Abort merge {op.sourcePath}"
      (onSecond ((Revert.runAll op.journal).adaptExcept (.refused ∘ .scene)))
  onFirst (h.update Operation.close)
  onFirst (h.emit .aborted)

end SceneMerge.Host
