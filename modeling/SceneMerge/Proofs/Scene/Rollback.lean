/-
Rolling back restores the scene exactly and is never refused. What may be
asked of a scene is given as data (`Request`), so that "whatever is asked"
is a list of requests, some granted and some refused. After any of them
the journal of the open transaction still leads back (`Since`), and there
are three ways to go back by it: rolling back, giving the transaction up,
and ending the body of a transaction with an error. All three arrive at
the live scene in which the transaction was begun: `rollback_restores`.
-/
import SceneMerge.Proofs.Scene.Journal

namespace SceneMerge

-- =============================================================== requests

/-- A mutation that can be asked of a scene. -/
inductive Request where
  | insertEntity (entity : Entity)
  | insertEntityAt (index : Nat) (entity : Entity)
  | removeEntity (name : EntityName)
  | setValue (entity : EntityName) (key value : String)
  | removeValue (entity : EntityName) (key : String)
  | insertChild (entity : EntityName) (child : ChildNode)
  | insertChildAt (entity : EntityName) (index : Nat) (child : ChildNode)
  | removeChild (entity : EntityName) (fingerprint : Fingerprint)
  | setMember (membership : Membership) (entity : EntityName) (member : Bool)

namespace Request

variable {S : Type} [Surface S]

/-- Asks for it; what is answered is not looked at. -/
def call : Request → EStateM SceneError S Unit
  | .insertEntity e => Surface.insertEntity e
  | .insertEntityAt index e => Surface.insertEntityAt index e
  | .removeEntity n => do let _ ← Surface.removeEntity n
  | .setValue n key value => do let _ ← Surface.setValue n key value
  | .removeValue n key => do let _ ← Surface.removeValue n key
  | .insertChild n child => Surface.insertChild n child
  | .insertChildAt n index child => Surface.insertChildAt n index child
  | .removeChild n f => do let _ ← Surface.removeChild n f
  | .setMember g n b => do let _ ← Surface.setMember g n b

/-- Asks for one after the other, refused or not. -/
def play : List Request → S → S
  | [], s => s
  | r :: rest, s => play rest (finalState (r.call s))

variable {P : S → Prop}

theorem keeps_call (h : KeptByMutations P) (r : Request) : Keeps P r.call := by
  cases r with
  | insertEntity e => exact h.keeps_insertEntity e
  | insertEntityAt index e => exact h.keeps_insertEntityAt index e
  | removeEntity n => exact .bind (h.keeps_removeEntity n) fun _ => .pure _
  | setValue n key value =>
      exact .bind (h.keeps_setValue n key value) fun _ => .pure _
  | removeValue n key => exact .bind (h.keeps_removeValue n key) fun _ => .pure _
  | insertChild n child => exact h.keeps_insertChild n child
  | insertChildAt n index child => exact h.keeps_insertChildAt n index child
  | removeChild n f => exact .bind (h.keeps_removeChild n f) fun _ => .pure _
  | setMember g n b => exact .bind (h.keeps_setMember g n b) fun _ => .pure _

/-- What every mutation keeps, asking for mutations keeps. -/
theorem play_keeps (h : KeptByMutations P) (requests : List Request) :
    ∀ {s : S}, P s → P (play requests s) := by
  induction requests with
  | nil => exact fun hs => hs
  | cons r rest ih => exact fun hs => ih (keeps_call h r _ hs)

end Request

-- =============================================================== the ways

namespace LiveScene

variable {l₀ l : LiveScene}

/-- A transaction that is given up is rolled back. -/
theorem abandon_of_since (ht : l₀.transaction = none) (hl : Since l₀ l) :
    Surface.abandon l = l₀ := by
  have hback : (Surface.rollback : EStateM SceneError LiveScene Unit) l
      = .ok () l₀ := rollback_of_since ht hl
  unfold Surface.abandon
  rw [hback]

/-- A body that ends with an error is rolled back, and its error is what
comes of the transaction. -/
theorem within_of_error {ε α : Type} {body : EStateM ε LiveScene α}
    {label : String} {e : ε} (ht : l₀.transaction = none)
    (hbody : body (l₀.begun label) = .error e l) (hl : Since l₀ l)
    (refusal : SceneError → ε) :
    Surface.within refusal label body l₀ = .error e l₀ := by
  have hstart : (Surface.start label : EStateM SceneError LiveScene Unit) l₀
      = .ok () (l₀.begun label) := start_eq ht label
  unfold Surface.within
  simp only [hstart, hbody, abandon_of_since ht hl]

end LiveScene

open LiveScene

/-- Whatever was asked of a live scene since a transaction was begun,
rolling it back is granted and leads back to the live scene as it was,
history and all. Giving the transaction up leads to the same live scene,
and so does a body that asks for all that and then ends with an error. -/
theorem rollback_restores {l : LiveScene} (hwf : l.scene.WellFormed)
    (ht : l.transaction = none) (label : String) (requests : List Request) :
    LiveScene.start label l = .ok () (l.begun label)
      ∧ LiveScene.rollback (Request.play requests (l.begun label)) = .ok () l
      ∧ Surface.abandon (Request.play requests (l.begun label)) = l
      ∧ ∀ (ε α : Type) (refusal : SceneError → ε) (body : EStateM ε LiveScene α)
          (e : ε),
          body (l.begun label)
            = .error e (Request.play requests (l.begun label)) →
          Surface.within refusal label body l = .error e l := by
  have hsince : Since l (Request.play requests (l.begun label)) :=
    Request.play_keeps (keptByMutations_since l) requests (since_start hwf label)
  refine ⟨start_eq ht label, rollback_of_since ht hsince,
    abandon_of_since ht hsince, ?_⟩
  intro ε α refusal body e hbody
  exact within_of_error ht hbody hsince refusal

/-- A wall is the only member of a layer. It leaves, a light comes, a second
light of the same name is refused, and rolling back brings the layer back.
So does a body that does all that and then gives up. -/
theorem rollback_restores_wall :
    let wall : Entity := { name := "wall" }
    let light : Entity := { name := "light" }
    let l : LiveScene :=
      { scene := ⟨[wall], ({} : Metadata).put (.layer "ground") "wall" true⟩ }
    let requests : List Request :=
      [.removeEntity "wall", .insertEntity light, .insertEntity light]
    l.scene.WellFormed ∧ l.transaction = none
      ∧ (Request.play requests (l.begun "edit")).scene.names = ["light"]
      ∧ LiveScene.rollback (Request.play requests (l.begun "edit")) = .ok () l
      ∧ Surface.within id "edit" (do
            modify (Request.play requests)
            throw (SceneError.backend "enough") :
            EStateM SceneError LiveScene Unit) l
          = .error (.backend "enough") l := by
  intro wall light l requests
  have hwf : l.scene.WellFormed := by
    have hempty : (⟨[wall], {}⟩ : Scene).WellFormed :=
      ⟨List.nodup_singleton _, Metadata.pruned_empty, by simp⟩
    exact hempty.put (n := "wall") rfl (.layer "ground") true
  obtain ⟨-, hrollback, -, hwithin⟩ := rollback_restores hwf rfl "edit" requests
  refine ⟨hwf, rfl, rfl, hrollback, ?_⟩
  exact hwithin SceneError Unit id _ (.backend "enough") rfl

end SceneMerge
