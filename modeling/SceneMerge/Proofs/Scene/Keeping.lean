/-
What calls keep. A call keeps a property of the state if the property
holds after the call whenever it held before, whether or not the call
comes to its end (`Keeps`). Calls made of calls keep what each of them
keeps, so a property of surfaces that every reversible mutation keeps is
kept by everything a merge does to a scene: by running an action
(`keeps_ofAction`), by changing a membership (`keeps_membership`) and by
going back (`keeps_runAll`).
-/
import SceneMerge.Proofs.Scene.Inverse
import SceneMerge.Review.Performance

namespace SceneMerge

variable {ε ε' σ S α β : Type} {P : σ → Prop}

/-- A call that comes to its end is followed by the next one. -/
theorem bind_ok {call : EStateM ε σ α} {next : α → EStateM ε σ β} {s t : σ}
    {a : α} (h : call s = .ok a t) : (call >>= next) s = next a t := by
  show EStateM.bind call next s = _
  unfold EStateM.bind
  rw [h]

/-- Nothing follows a call that is refused. -/
theorem bind_error {call : EStateM ε σ α} {next : α → EStateM ε σ β} {s t : σ}
    {e : ε} (h : call s = .error e t) : (call >>= next) s = .error e t := by
  show EStateM.bind call next s = _
  unfold EStateM.bind
  rw [h]

/-- Of two calls that come to their end one after the other, each does. -/
theorem of_bind_ok {call : EStateM ε σ α} {next : α → EStateM ε σ β} {s u : σ}
    {b : β} (h : (call >>= next) s = .ok b u) :
    ∃ a t, call s = .ok a t ∧ next a t = .ok b u := by
  cases hc : call s with
  | ok a t =>
      rw [bind_ok hc] at h
      exact ⟨a, t, rfl, h⟩
  | error e t => rw [bind_error hc] at h; cases h

/-- Wording a refusal differently does not concern a call that is
granted. -/
theorem adaptExcept_ok {call : EStateM ε σ α} {f : ε → ε'} {s t : σ} {a : α}
    (h : call s = .ok a t) : call.adaptExcept f s = .ok a t := by
  unfold EStateM.adaptExcept
  rw [h]

/-- If a call is granted with its refusals worded differently, it is granted as it is.
-/
theorem of_adaptExcept_ok {call : EStateM ε σ α} {f : ε → ε'} {s t : σ} {a : α}
    (h : call.adaptExcept f s = .ok a t) : call s = .ok a t := by
  unfold EStateM.adaptExcept at h
  cases hc : call s with
  | ok a' t' =>
      rw [hc] at h
      cases h
      rfl
  | error e t' => rw [hc] at h; cases h

/-- What a call does to a part is done to that part only: the state beside it is the one
that was there. -/
theorem of_onFirst_ok {call : EStateM ε σ α} {x : σ} {s : S} {q : σ × S} {a : α}
    (h : onFirst call (x, s) = .ok a q) : ∃ y, call x = .ok a y ∧ q = (y, s) := by
  unfold onFirst focus at h
  cases hc : call x with
  | ok b y => simp only [hc] at h; cases h; exact ⟨y, rfl, rfl⟩
  | error e y => simp only [hc] at h; cases h

/-- What a call does to the second part is done to that part only. -/
theorem of_onSecond_ok {call : EStateM ε S α} {x : σ} {s : S} {q : σ × S} {a : α}
    (h : onSecond call (x, s) = .ok a q) : ∃ t, call s = .ok a t ∧ q = (x, t) := by
  unfold onSecond focus at h
  cases hc : call s with
  | ok b t => simp only [hc] at h; cases h; exact ⟨t, rfl, rfl⟩
  | error e t => simp only [hc] at h; cases h

/-- Reading the state is granted, and what follows is run on it. -/
theorem get_bind_eq {next : σ → EStateM ε σ β} (s : σ) :
    (MonadState.get >>= next) s = next s s :=
  rfl

/-- A child is appended to an entity that is there. -/
theorem Surface.insertChild_eq [Surface S] {s : S} {n : EntityName} {e : Entity}
    (he : (Surface.scene s).entity? n = some e) (child : ChildNode) :
    (Surface.insertChild n child : EStateM SceneError S Unit) s
      = Surface.insertChildAt n e.children.length child s := by
  unfold Surface.insertChild
  rw [get_bind_eq, he]

/-- To an entity that is not there nothing is appended, and the scene says which one it
missed. -/
theorem Surface.insertChild_error [Surface S] {s : S} {n : EntityName}
    (he : (Surface.scene s).entity? n = none) (child : ChildNode) :
    (Surface.insertChild n child : EStateM SceneError S Unit) s
      = .error (.entityNotFound n) s := by
  unfold Surface.insertChild
  rw [get_bind_eq, he]
  rfl

/-- The state that a call leaves behind, refused or not. -/
def finalState : EStateM.Result ε σ α → σ
  | .ok _ s => s
  | .error _ s => s

/-- Working up an answer leaves the state alone. -/
theorem finalState_map {call : EStateM ε σ α} (f : α → β) (s : σ) :
    finalState ((call >>= fun a => pure (f a)) s) = finalState (call s) := by
  cases h : call s with
  | ok a t =>
      rw [bind_ok h]
      rfl
  | error e t =>
      rw [bind_error h]
      rfl

/-- The call leaves a state with the property behind if it finds one. -/
def Keeps (P : σ → Prop) (call : EStateM ε σ α) : Prop :=
  ∀ s, P s → P (finalState (call s))

namespace Keeps

-- ============================================================== composing

/-- What is kept is there after a call that came to its end. With `Keeps.error` this is
how `Keeps` is used; to prove it, calls are taken apart below. -/
theorem ok {call : EStateM ε σ α} (h : Keeps P call) {s t : σ} {a : α}
    (hs : P s) (hc : call s = .ok a t) : P t := by
  have := h s hs
  rwa [hc] at this

/-- What is kept is there after a call that was refused or stopped as well. -/
theorem error {call : EStateM ε σ α} (h : Keeps P call) {s t : σ} {e : ε}
    (hs : P s) (hc : call s = .error e t) : P t := by
  have := h s hs
  rwa [hc] at this

theorem pure (a : α) : Keeps P (Pure.pure a : EStateM ε σ α) :=
  fun _ hs => hs

theorem throw (e : ε) : Keeps P (MonadExcept.throw e : EStateM ε σ α) :=
  fun _ hs => hs

/-- If the first part is stopped then the second does not run, and the property is the
one that the first kept. -/
theorem bind {call : EStateM ε σ α} {next : α → EStateM ε σ β}
    (hc : Keeps P call) (hn : ∀ a, Keeps P (next a)) :
    Keeps P (call >>= next) := by
  intro s hs
  cases h : call s with
  | ok a t =>
      rw [bind_ok h]
      exact hn a t (hc.ok hs h)
  | error e t =>
      rw [bind_error h]
      exact hc.error hs h

/-- Reading the state changes nothing. -/
theorem get_bind {next : σ → EStateM ε σ β} (hn : ∀ s, Keeps P (next s)) :
    Keeps P (MonadState.get >>= next) :=
  fun s hs => hn s s hs

/-- Wording a refusal differently leaves the state alone. -/
theorem adaptExcept {call : EStateM ε σ α} (h : Keeps P call) (f : ε → ε') :
    Keeps P (call.adaptExcept f) := by
  intro s hs
  unfold EStateM.adaptExcept
  cases hc : call s with
  | ok a t => exact h.ok hs hc
  | error e t => exact h.error hs hc

/-- If both branches keep a property, a test between them does. -/
theorem ite {c : Prop} [Decidable c] {call call' : EStateM ε σ α}
    (h : Keeps P call) (h' : Keeps P call') :
    Keeps P (if c then call else call') := by
  split
  · exact h
  · exact h'

-- ============================================================== two states

variable {τ : Type} {Q : τ → Prop}

/-- Of two states side by side each keeps its own property; here the call is about the
first. -/
theorem onFirst {call : EStateM ε σ α} (h : Keeps P call) :
    Keeps (fun p : σ × τ => P p.1 ∧ Q p.2) (SceneMerge.onFirst call) := by
  intro p hp
  unfold SceneMerge.onFirst focus
  cases hc : call p.1 with
  | ok a t => exact ⟨h.ok hp.1 hc, hp.2⟩
  | error e t => exact ⟨h.error hp.1 hc, hp.2⟩

/-- Each of two states keeps its own property if the call is about the second. -/
theorem onSecond {call : EStateM ε τ α} (h : Keeps Q call) :
    Keeps (fun p : σ × τ => P p.1 ∧ Q p.2) (SceneMerge.onSecond call) := by
  intro p hp
  unfold SceneMerge.onSecond focus
  cases hc : call p.2 with
  | ok a t => exact ⟨hp.1, h.ok hp.2 hc⟩
  | error e t => exact ⟨hp.1, h.error hp.2 hc⟩

end Keeps

-- ============================================================== surfaces

/-- Every reversible mutation of the surface keeps the property. -/
def KeptByMutations [Surface S] (P : S → Prop) : Prop :=
  ∀ {α : Type} (m : Mutation α), m.Reversible →
    Keeps P (Surface.mutate m : EStateM SceneError S α)

namespace KeptByMutations

variable [Surface S] {P : S → Prop} (h : KeptByMutations P)

include h

/-- All public mutations are reversible, so what such mutations keep is kept by each of
them, and what follows is put together from these. -/
theorem keeps_insertEntityAt (i : Nat) (e : Entity) :
    Keeps P (Surface.insertEntityAt i e) :=
  h _ (Scene.reversible_insertEntityAt i e)

/-- Appending is inserting at the end, wherever that is by then. -/
theorem keeps_insertEntity (e : Entity) : Keeps P (Surface.insertEntity e) :=
  .get_bind fun _ => h.keeps_insertEntityAt _ e

theorem keeps_removeEntity (n : EntityName) :
    Keeps P (Surface.removeEntity n) :=
  h _ (Scene.reversible_removeEntity n)

theorem keeps_setValue (n : EntityName) (key value : String) :
    Keeps P (Surface.setValue n key value) :=
  h _ (Scene.reversible_setValue n key value)

theorem keeps_removeValue (n : EntityName) (key : String) :
    Keeps P (Surface.removeValue n key) :=
  h _ (Scene.reversible_removeValue n key)

theorem keeps_insertChildAt (n : EntityName) (i : Nat) (child : ChildNode) :
    Keeps P (Surface.insertChildAt n i child) :=
  h _ (Scene.reversible_insertChildAt n i child)

/-- A child is appended to an entity that is there. Otherwise nothing is done, which
keeps everything. -/
theorem keeps_insertChild (n : EntityName) (child : ChildNode) :
    Keeps P (Surface.insertChild n child) := by
  refine .get_bind fun s => ?_
  cases (Surface.scene s).entity? n with
  | none => exact .throw _
  | some e => exact h.keeps_insertChildAt n _ child

theorem keeps_removeChild (n : EntityName) (f : Fingerprint) :
    Keeps P (Surface.removeChild n f) :=
  h _ (Scene.reversible_removeChild n f)

theorem keeps_setMember (g : Membership) (n : EntityName) (b : Bool) :
    Keeps P (Surface.setMember g n b) :=
  h _ (Scene.reversible_setMember g n b)

-- ================================================================ actions

/-- Removing an entity looks up first what it will take to bring it back. -/
theorem keeps_removal (n : EntityName) : Keeps P (Performed.removal n) :=
  .get_bind fun _ => .bind (h.keeps_removeEntity n) fun _ => .pure _

/-- Every kind of action is at most one mutation, and what it reports about it. -/
theorem keeps_plainKind (id : ActionId) (kind : ActionKind) :
    Keeps P (Performed.plainKind id kind) := by
  -- what does nothing to the scene, and then one mutation for each kind
  cases kind with
  | noAction => exact .pure _
  | conflict c => exact .pure _
  | addEntity e => exact .bind (h.keeps_insertEntity e) fun _ => .pure _
  | removeEntity e => exact .bind (h.keeps_removal e.name) fun _ => .pure _
  | addKeyValue edit => exact .bind (h.keeps_setValue _ _ _) fun _ => .pure _
  | changeKeyValue edit => exact .bind (h.keeps_setValue _ _ _) fun _ => .pure _
  | removeKeyValue edit => exact .bind (h.keeps_removeValue _ _) fun _ => .pure _
  | addChildNode n key node =>
      exact .bind (h.keeps_insertChild n node) fun _ => .pure _
  | removeChildNode n key node =>
      exact .bind (h.keeps_removeChild n node.fingerprint) fun _ => .pure _

/-- A plain action may be refused for want of its entity before anything is done. -/
theorem keeps_plain (id : ActionId) (a : Action) :
    Keeps P (Performed.plain id a) := by
  refine .get_bind fun s => ?_
  exact .ite (.bind (.throw _) fun _ => (h.keeps_plainKind id a.kind).adaptExcept _)
    ((h.keeps_plainKind id a.kind).adaptExcept _)

/-- The memberships of an entity are set one after the other. -/
theorem keeps_joinAll (n : EntityName) (gs : List Membership) :
    Keeps P (Performed.joinAll n gs) := by
  induction gs with
  | nil => exact .pure _
  | cons g gs ih =>
      exact .bind (h.keeps_setMember g n true) fun _ => .bind ih fun _ => .pure _

/-- An entity is replaced by taking it out and putting another one in its place, with
the memberships of the former, or by appending it if there is none. -/
theorem keeps_replacement (e : Entity) : Keeps P (Performed.replacement e) := by
  refine .get_bind fun s => .ite ?_ ?_
  · exact .bind (h.keeps_removal e.name) fun removed =>
      .bind (h.keeps_insertEntityAt _ e) fun _ =>
        .bind (h.keeps_joinAll e.name _) fun _ => .pure _
  · exact .bind (h.keeps_insertEntityAt _ e) fun _ => .pure _

/-- An accepted conflict is its source performed, or the insertion of an entity, or its
replacement. -/
theorem keeps_conflict (op : Operation) (id : ActionId) (a : Action)
    (c : Conflict) : Keeps P (Performed.conflict op id a c) := by
  unfold Performed.conflict
  -- a conflict whose source is not in the arena is refused
  split
  · exact .throw _
  · next source _ =>
      split
      · refine .get_bind fun s => .ite (h.keeps_plain c.source source) ?_
        split
        · exact h.keeps_plain c.source source
        · next e _ =>
            exact .bind ((h.keeps_insertEntity e).adaptExcept _) fun _ => .pure _
      · next e _ _ => exact (h.keeps_replacement e).adaptExcept _
      · exact h.keeps_plain c.source source

/-- Every action keeps what reversible mutations keep: those that are not plain are
conflicts, which run a wrapped one. -/
theorem keeps_ofAction (op : Operation) (id : ActionId) (a : Action) :
    Keeps P (Performed.ofAction op id a) := by
  unfold Performed.ofAction
  split
  · next c _ => exact h.keeps_conflict op id a c
  · exact h.keeps_plain id a

/-- A membership is set unless the entity is missing, and then nothing is done. -/
theorem keeps_membership (change : MembershipChange) :
    Keeps P (Performed.membership change) :=
  .get_bind fun _ => .ite
    (.bind (h.keeps_setMember _ _ _) fun _ => .pure _) (.pure _)

-- ============================================================= going back

/-- An entity that is brought back joins again what it was taken from. -/
theorem keeps_rejoin (n : EntityName) (gs : List Membership) :
    Keeps P (Revert.rejoin n gs) := by
  induction gs with
  | nil => exact .pure _
  | cons g gs ih => exact .bind (h.keeps_setMember g n true) fun _ => ih

/-- Each way to go back is at most a few mutations, whatever it finds in the scene by
then. -/
theorem keeps_run (r : Revert) : Keeps P r.run := by
  cases r with
  | removeEntity n => exact .bind (h.keeps_removeEntity n) fun _ => .pure _
  | restoreEntity i e gs =>
      exact .get_bind fun _ => .bind (h.keeps_insertEntityAt _ e) fun _ =>
        h.keeps_rejoin e.name gs
  | restoreValue n key value? =>
      -- either the key had a value before, or it had none and may have none now
      cases value? with
      | some value => exact .bind (h.keeps_setValue n key value) fun _ => .pure _
      | none =>
          refine .get_bind fun s => ?_
          cases ((Surface.scene s).entity? n).bind (·.value? key) with
          | none => exact .pure _
          | some _ => exact .bind (h.keeps_removeValue n key) fun _ => .pure _
  | removeChild n f => exact .bind (h.keeps_removeChild n f) fun _ => .pure _
  | restoreChild n i node =>
      refine .get_bind fun s => ?_
      cases (Surface.scene s).entity? n with
      | none => exact .throw _
      | some e => exact h.keeps_insertChildAt n _ node
  | restoreMember g n b => exact .bind (h.keeps_setMember g n b) fun _ => .pure _

/-- A whole journal, played in order, keeps what reversible mutations keep. -/
theorem keeps_runAll (rs : List Revert) : Keeps P (Revert.runAll rs) := by
  induction rs with
  | nil => exact .pure _
  | cons r rs ih => exact .bind (h.keeps_run r) fun _ => ih

end KeptByMutations

end SceneMerge
