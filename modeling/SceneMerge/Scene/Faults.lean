/-
A surface that fails on demand. It stands in front of another one and
refuses what its settings tell it to refuse, without the other one
noticing; everything else it passes on.
-/
import SceneMerge.Scene.Surface

namespace SceneMerge

/-- What is refused. -/
structure Faults where
  /-- How many more mutations are passed on; no number is no limit. -/
  budget : Option Nat := none
  start : Bool := false
  commit : Bool := false
  rollback : Bool := false
deriving DecidableEq

structure Faulty (S : Type) where
  surface : S
  faults : Faults := {}

namespace Faulty

variable {S : Type} [Surface S]

/-- Passes a call on to the surface behind. -/
def pass {α : Type} : EStateM SceneError S α → EStateM SceneError (Faulty S) α :=
  focus Faulty.surface fun f surface => { f with surface }

def refuse {α : Type} (what : String) : EStateM SceneError (Faulty S) α :=
  throw (.backend s!"injected {what} fault")

/-- A mutation spends its unit whether or not it is granted. -/
def mutate {α : Type} (m : Mutation α) : EStateM SceneError (Faulty S) α :=
  fun f =>
    match f.faults.budget with
    | none => pass (Surface.mutate m) f
    | some 0 => refuse "mutation" f
    | some (n + 1) =>
        pass (Surface.mutate m)
          { f with faults := { f.faults with budget := some n } }

instance : Surface (Faulty S) where
  scene f := Surface.scene f.surface
  mutate := mutate
  start label := fun f =>
    if f.faults.start then refuse "begin" f else pass (Surface.start label) f
  commit := fun f =>
    if f.faults.commit then refuse "commit" f else pass Surface.commit f
  rollback := fun f =>
    if f.faults.rollback then refuse "rollback" f
    else pass Surface.rollback f

end Faulty

end SceneMerge
