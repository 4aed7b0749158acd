/-
Failed calls are atomic. Applying and aborting run in one transaction of
the scene, and nobody writes to the operation before the transaction is
committed. So a call that is stopped, by a refusal or by an observer
that fails in the middle of the pass, leaves scene, operation and
registrations as they were: `failed_call_restores`.

# What the body of a transaction keeps

On the side of the scene, that its journal leads back (`Since`); every
step is made of reversible mutations. On the side of the operation, that
it is the operation as it was, in flight: steps do not touch it, and
observers that only review are refused while it is in flight
(`announce_keeps`).
-/
import SceneMerge.Proofs.Session.InFlight
import SceneMerge.Proofs.Session.Refusal

namespace SceneMerge

open LiveScene

variable {W : Type} {A : Audience W} {op : Operation} {r : Registry}
  {l : LiveScene}

-- ============================================================= in flight

/-- What a session comes to when its operation is put in flight. -/
def Session.flying (s : Session W) : Session W :=
  { s with operation := { s.operation with inFlight := true } }

/-- A body that is stopped leaves the live scene and the operation as
they were, the operation no longer in flight. -/
theorem inFlight_restores {α : Type} {label : String}
    {body : EStateM Halt (Session W × LiveScene) α}
    (hbody : Keeps (fun p : Session W × LiveScene =>
      Session.Is { op with inFlight := true } r p.1 ∧ Since l p.2) body)
    (hwf : l.scene.WellFormed) (ht : l.transaction = none)
    (hop : op.inFlight = false) {s : Session W} (hs : Session.Is op r s)
    {halt : Halt} {p : Session W × LiveScene}
    (h : A.outside.inFlight label body (s, l) = .error halt p) :
    Session.Is op r p.1 ∧ p.2 = l := by
  have hfly : Session.Is { op with inFlight := true } r
      (A.outside.fly true s) := by
    refine ⟨?_, hs.2⟩
    show { s.operation with inFlight := true } = _
    rw [hs.1]
  obtain ⟨t, htop, rfl⟩ := Host.inFlight_error hbody hwf ht hfly h
  refine ⟨⟨?_, htop.2⟩, rfl⟩
  show { t.operation with inFlight := false } = op
  rw [htop.1, ← hop]

-- ========================================================== failed calls

/-- The pass that applying would run is stopped somewhere, by a refusal or
by an observer that is told of an action. -/
def Audience.StopsPass (A : Audience W) (s : Session W) (l : LiveScene)
    (halt : Halt) : Prop :=
  ∃ p, A.outside.runPass s.operation
    (s.flying, l.begun s!"Merge {s.operation.sourcePath}") = .error halt p

section calls

variable (hwf : l.scene.WellFormed) (ht : l.transaction = none)
  {s : Session W} (hs : Session.Is op r s) {halt : Halt}
  {p : Session W × LiveScene}

include hwf ht hs

/-- A pass that is stopped leaves everything as it was. -/
theorem apply_error (hA : ∀ id, A.OnlyReviews (.actionApplied id))
    (hr : r.AtRest) (h : A.outside.apply (s, l) = .error halt p)
    (hmid : (∃ cause, halt = .refused cause) ∨ A.StopsPass s l halt) :
    Session.Is op r p.1 ∧ p.2 = l := by
  have hread : A.outside.read s = op := hs.1
  cases hm : op.ensureMutable with
  | error cause =>
      rw [Host.apply_refused A.outside (hread.symm ▸ hm)] at h
      cases h
      exact ⟨hs, rfl⟩
  | ok u =>
      have hop := Operation.not_inFlight_of_ensureMutable hm
      have htell : ∀ id, Keeps (Session.Is { op with inFlight := true } r)
          (A.outside.tell (.actionApplied id)) :=
        fun id => Audience.announce_keeps (hA id) rfl hr
      have hbody := Host.keeps_runPass (h := A.outside)
        (keptByMutations_since l) htell op
      rw [Host.apply_eq A.outside (hread.symm ▸ hm), hread] at h
      cases hfly : A.outside.inFlight s!"Merge {op.sourcePath}"
          (A.outside.runPass op) (s, l) with
      | error e q =>
          rw [bind_error hfly] at h
          cases h
          exact inFlight_restores hbody hwf ht hop hs hfly
      | ok pass q =>
          rcases hmid with ⟨cause, rfl⟩ | ⟨q', hstop⟩
          · -- what follows the pass is never refused
            rw [bind_ok hfly] at h
            have hend := ((A.outside.granted_update (·.absorb pass)).onFirst (S := LiveScene)).bind
              fun _ => ((A.outside.granted_emit (.applied pass.applied.length
                pass.memberships.length)).onFirst).bind fun _ => Host.granted_pure
                  (⟨pass.applied, pass.memberships.length, op.skipped⟩ : ApplyReport)
            exact absurd h (hend q cause p)
          · rw [hs.1] at hstop
            obtain ⟨-, t, l₁, l₂, hok, -⟩ := Host.of_inFlight_begun hfly
            cases hok.symm.trans hstop

/-- A way back that is refused leaves everything as it was. -/
theorem abort_error {cause : MergeError}
    (h : A.outside.abort (s, l) = .error (.refused cause) p) :
    Session.Is op r p.1 ∧ p.2 = l := by
  have hread : A.outside.read s = op := hs.1
  cases hm : op.ensureMutable with
  | error cause =>
      rw [Host.abort_refused A.outside (hread.symm ▸ hm)] at h
      cases h
      exact ⟨hs, rfl⟩
  | ok u =>
      have hop := Operation.not_inFlight_of_ensureMutable hm
      have hbody : Keeps (fun p : Session W × LiveScene =>
          Session.Is { op with inFlight := true } r p.1 ∧ Since l p.2)
          (onSecond ((Revert.runAll op.journal).adaptExcept
            (Halt.refused ∘ MergeError.scene))) :=
        Keeps.onSecond ((KeptByMutations.keeps_runAll
          (keptByMutations_since l) op.journal).adaptExcept _)
      have hend := ((A.outside.granted_update Operation.close).onFirst (S := LiveScene)).bind
        fun _ => (A.outside.granted_emit .aborted).onFirst
      cases hj : op.journal.isEmpty with
      | true =>
          rw [Host.abort_eq_of_nil A.outside (hread.symm ▸ hm)
            (hread.symm ▸ hj)] at h
          exact absurd h (hend _ cause p)
      | false =>
          rw [Host.abort_eq A.outside (hread.symm ▸ hm) (hread.symm ▸ hj),
            hread] at h
          cases hfly : A.outside.inFlight s!"Abort merge {op.sourcePath}"
              (onSecond ((Revert.runAll op.journal).adaptExcept
                (Halt.refused ∘ MergeError.scene))) (s, l) with
          | error e q =>
              rw [bind_error hfly] at h
              cases h
              exact inFlight_restores hbody hwf ht hop hs hfly
          | ok u q =>
              rw [bind_ok hfly] at h
              exact absurd h (hend _ cause p)

end calls

/-- Applying that is refused or stopped in the middle of the pass, and
aborting that is refused, leave the live scene, the operation and the
registrations as they were; all that may have changed is what observers
noted for themselves. -/
theorem failed_call_restores (hA : ∀ id, A.OnlyReviews (.actionApplied id))
    {s : Session W} (hr : s.registry.AtRest) {l : LiveScene}
    (hwf : l.scene.WellFormed) (ht : l.transaction = none) (halt : Halt)
    (s' : Session W) (l' : LiveScene) :
    (A.outside.apply (s, l) = .error halt (s', l') →
      (∃ cause, halt = .refused cause) ∨ A.StopsPass s l halt →
      s' = { s with world := s'.world } ∧ l' = l)
    ∧ (A.outside.abort (s, l) = .error halt (s', l') →
      (∃ cause, halt = .refused cause) →
      s' = { s with world := s'.world } ∧ l' = l) := by
  have hs : Session.Is s.operation s.registry s := ⟨rfl, rfl⟩
  have hsame : Session.Is s.operation s.registry s' →
      s' = { s with world := s'.world } := by
    intro h
    obtain ⟨op, r, w⟩ := s'
    rw [show op = s.operation from h.1, show r = s.registry from h.2]
  constructor
  · intro h hmid
    obtain ⟨hsession, hscene⟩ := apply_error hwf ht hs hA hr h hmid
    exact ⟨hsame hsession, hscene⟩
  · rintro h ⟨cause, rfl⟩
    obtain ⟨hsession, hscene⟩ := abort_error hwf ht hs h
    exact ⟨hsame hsession, hscene⟩

/-- An audience that fails as soon as an action is applied. -/
def Audience.startled : Audience Unit where
  note _ _ w := w
  reaction? _ event _ :=
    match event with
    | .actionApplied _ => some (.done .fails)
    | _ => none
  patience _ := 0 + 1

/-- A pass that had inserted an entity when its observer failed. -/
theorem startled_pass_restores :
    let s : Session Unit :=
      { operation :=
          { sourcePath := "source", basePath := ""
            actions := [.addEntity ⟨"light", ∅, []⟩], order := [0] }
        registry := { next := 1, slots := [0] }
        world := () }
    let l : LiveScene := { scene := ⟨[⟨"wall", ∅, []⟩], {}⟩ }
    ∃ s' l', Audience.startled.outside.apply (s, l)
        = .error (.unwound 0) (s', l') ∧ s' = s ∧ l' = l := by
  intro s l
  have hA : ∀ id, Audience.startled.OnlyReviews (.actionApplied id) := by
    intro id who w c hc
    cases hc
    exact .done _
  have hwf : l.scene.WellFormed :=
    ⟨by decide, Metadata.pruned_empty, by simp [l]⟩
  have hstop : Audience.startled.StopsPass s l (.unwound 0) := ⟨_, rfl⟩
  refine ⟨_, _, rfl, ?_⟩
  exact (failed_call_restores hA (s := s) ⟨rfl, rfl, rfl⟩ hwf rfl _ _ _).1 rfl
    (.inr hstop)

end SceneMerge
