/-
Two hosts, side by side. Two hosts may keep the same operation in different ways
and have different observers told. As long as telling has the same outcome for
both (`Host.Lockstep`), nothing that a pass does tells them apart: every step of
it ends in the same way on both sides (`InStep`), so applying reports the same, or
stops for the same reason, and leaves the same scene and operation behind
(`Host.Lockstep.apply`).

Of what observers are told in the middle of the pass it is enough that it has
the same outcome while the operation is in flight. If telling has the same outcome
at any time (`Host.Mirror`), no call tells the two hosts apart.
-/
import SceneMerge.Proofs.Session.Setup
import SceneMerge.Proofs.Session.Landing

namespace SceneMerge

variable {ε ε' σ τ α β S : Type} {R R' : σ → τ → Prop}

-- ================================================================= in step

/-- Two results are the same, up to states that are related. -/
def SameEnd (R : σ → τ → Prop) : EStateM.Result ε σ α → EStateM.Result ε τ α → Prop
  | .ok a s, .ok b t => a = b ∧ R s t
  | .error e s, .error e' t => e = e' ∧ R s t
  | _, _ => False

/-- Of two results that are the same either both come to their end or neither. -/
theorem SameEnd.cases {x : EStateM.Result ε σ α} {y : EStateM.Result ε τ α}
    (h : SameEnd R x y) :
    (∃ a s t, x = .ok a s ∧ y = .ok a t ∧ R s t)
      ∨ ∃ e s t, x = .error e s ∧ y = .error e t ∧ R s t := by
  cases x with
  | ok a s =>
      cases y with
      | ok b t =>
          obtain ⟨rfl, hr⟩ := h
          exact .inl ⟨a, s, t, rfl, rfl, hr⟩
      | error e t => exact h.elim
  | error e s =>
      cases y with
      | ok b t => exact h.elim
      | error e' t =>
          obtain ⟨rfl, hr⟩ := h
          exact .inr ⟨e, s, t, rfl, rfl, hr⟩

theorem SameEnd.symm {x : EStateM.Result ε σ α} {y : EStateM.Result ε τ α}
    (h : SameEnd R x y) : SameEnd (fun t s => R s t) y x := by
  rcases h.cases with ⟨a, s, t, rfl, rfl, hr⟩ | ⟨e, s, t, rfl, rfl, hr⟩
  · exact ⟨rfl, hr⟩
  · exact ⟨rfl, hr⟩

/-- What comes to its end on one side does on the other. -/
theorem SameEnd.of_ok {x : EStateM.Result ε σ α} {y : EStateM.Result ε τ α}
    (h : SameEnd R x y) {a : α} {s : σ} (hx : x = .ok a s) : ∃ t, y = .ok a t ∧ R s t := by
  rcases h.cases with ⟨_, _, t, rfl, rfl, hr⟩ | ⟨_, _, _, rfl, -, -⟩
  · cases hx
    exact ⟨t, rfl, hr⟩
  · cases hx

/-- What stops on one side stops on the other, for the same reason. -/
theorem SameEnd.of_error {x : EStateM.Result ε σ α} {y : EStateM.Result ε τ α}
    (h : SameEnd R x y) {e : ε} {s : σ} (hx : x = .error e s) :
    ∃ t, y = .error e t ∧ R s t := by
  rcases h.cases with ⟨_, _, _, rfl, -, -⟩ | ⟨_, _, t, rfl, rfl, hr⟩
  · cases hx
  · cases hx
    exact ⟨t, rfl, hr⟩

/-- However the two end, what they leave behind is related. -/
theorem SameEnd.finalState {x : EStateM.Result ε σ α} {y : EStateM.Result ε τ α}
    (h : SameEnd R x y) : R (SceneMerge.finalState x) (SceneMerge.finalState y) := by
  rcases h.cases with ⟨a, s, t, rfl, rfl, hr⟩ | ⟨e, s, t, rfl, rfl, hr⟩
  · exact hr
  · exact hr

/-- Results are the same if their states are as well. -/
theorem SameEnd.eq {P : σ → Prop} {x y : EStateM.Result ε σ α}
    (h : SameEnd (fun s t => s = t ∧ P s) x y) : x = y := by
  rcases h.cases with ⟨a, s, _, rfl, rfl, rfl, -⟩ | ⟨e, s, _, rfl, rfl, rfl, -⟩
  · rfl
  · rfl

/-- From related states the two calls end in the same way. -/
def InStep (R : σ → τ → Prop) (call : EStateM ε σ α) (call' : EStateM ε τ α) : Prop :=
  ∀ s t, R s t → SameEnd R (call s) (call' t)

namespace InStep

variable {call : EStateM ε σ α} {call' : EStateM ε τ α}

/-- Both answer the same at once. -/
theorem pure (a : α) : InStep R (Pure.pure a : EStateM ε σ α) (Pure.pure a) :=
  fun _ _ hr => ⟨rfl, hr⟩

/-- Both stop for the same reason at once. -/
theorem throw (e : ε) : InStep R (MonadExcept.throw e : EStateM ε σ α)
    (MonadExcept.throw e) :=
  fun _ _ hr => ⟨rfl, hr⟩

/-- If the first parts end in the same way, then either both stop, or the second parts
go on from the same answer and related states. -/
theorem bind {next : α → EStateM ε σ β} {next' : α → EStateM ε τ β}
    (hc : InStep R call call') (hn : ∀ a, InStep R (next a) (next' a)) :
    InStep R (call >>= next) (call' >>= next') := by
  intro s t hr
  rcases (hc s t hr).cases with ⟨a, s', t', hs, ht, hr'⟩ | ⟨e, s', t', hs, ht, hr'⟩
  · rw [bind_ok hs, bind_ok ht]
    exact hn a s' t' hr'
  · rw [bind_error hs, bind_error ht]
    exact ⟨rfl, hr'⟩

theorem ite {c : Prop} [Decidable c] {other : EStateM ε σ α} {other' : EStateM ε τ α}
    (hc : InStep R call call') (ho : InStep R other other') :
    InStep R (if c then call else other) (if c then call' else other') := by
  split
  · exact hc
  · exact ho

/-- Calls that are the same as long as something holds that the first of them keeps. -/
theorem of_same {P : σ → Prop} {call call' : EStateM ε σ α} (hk : Keeps P call)
    (hsame : ∀ s, P s → call s = call' s) :
    InStep (fun s t => s = t ∧ P s) call call' := by
  rintro s _ ⟨rfl, hp⟩
  have hkept := hk s hp
  rw [← hsame s hp]
  cases hcall : call s with
  | ok a t =>
      rw [hcall] at hkept
      exact ⟨rfl, rfl, hkept⟩
  | error e t =>
      rw [hcall] at hkept
      exact ⟨rfl, rfl, hkept⟩

/-- What one of them keeps may be assumed and is there afterwards. -/
theorem and_keeps {P : σ → Prop} (hc : InStep R call call') (hk : Keeps P call) :
    InStep (fun s t => R s t ∧ P s) call call' := by
  rintro s t ⟨hr, hp⟩
  have hkept := hk s hp
  rcases (hc s t hr).cases with ⟨a, s', t', hs, ht, hr'⟩ | ⟨e, s', t', hs, ht, hr'⟩
  · rw [hs] at hkept ⊢
    rw [ht]
    exact ⟨rfl, hr', hkept⟩
  · rw [hs] at hkept ⊢
    rw [ht]
    exact ⟨rfl, hr', hkept⟩

/-- What stops both is worded in the same way. -/
theorem adaptExcept (hc : InStep R call call') (f : ε → ε') :
    InStep R (call.adaptExcept f) (call'.adaptExcept f) := by
  intro s t hr
  unfold EStateM.adaptExcept
  rcases (hc s t hr).cases with ⟨a, s', t', hs, ht, hr'⟩ | ⟨e, s', t', hs, ht, hr'⟩
  · rw [hs, ht]
    exact ⟨rfl, hr'⟩
  · rw [hs, ht]
    exact ⟨rfl, hr'⟩

/-- The states are related, and beside them is the same. -/
def Beside (S : Type) (R : σ → τ → Prop) (p : σ × S) (q : τ × S) : Prop :=
  R p.1 q.1 ∧ p.2 = q.2

/-- A call on a part goes in step if what is beside the part is the same on both sides.
-/
theorem onFirst (hc : InStep R call call') :
    InStep (Beside S R) (SceneMerge.onFirst call) (SceneMerge.onFirst call') := by
  rintro ⟨s, x⟩ ⟨t, _⟩ ⟨hr, rfl⟩
  unfold SceneMerge.onFirst focus
  rcases (hc s t hr).cases with ⟨a, s', t', hs, ht, hr'⟩ | ⟨e, s', t', hs, ht, hr'⟩
  · simp only [hs, ht]
    exact ⟨rfl, hr', rfl⟩
  · simp only [hs, ht]
    exact ⟨rfl, hr', rfl⟩

/-- What is beside the states is changed in the same way. -/
theorem onSecond (call : EStateM ε S α) :
    InStep (Beside S R) (SceneMerge.onSecond call) (SceneMerge.onSecond call) := by
  rintro ⟨s, x⟩ ⟨t, _⟩ ⟨hr, rfl⟩
  unfold SceneMerge.onSecond focus
  cases call x with
  | ok a y => exact ⟨rfl, hr, rfl⟩
  | error e y => exact ⟨rfl, hr, rfl⟩

/-- A transaction is of the scene, which is beside the states. -/
theorem within [Surface S] (refusal : SceneError → ε) (label : String)
    {body : EStateM ε (σ × S) α} {body' : EStateM ε (τ × S) α}
    (hbody : InStep (Beside S R) body body') :
    InStep (Beside S R) (Surface.within refusal label body)
      (Surface.within refusal label body') := by
  -- whatever the scene refuses, it refuses on both sides, since it is the same scene
  have habandon : ∀ p q, Beside S R p q →
      Beside S R (Surface.abandon p) (Surface.abandon q) := by
    intro p q hpq
    unfold Surface.abandon
    rcases (InStep.onSecond Surface.rollback p q hpq).cases with
      ⟨_, p', q', hp, hq, hr⟩ | ⟨_, p', q', hp, hq, hr⟩
    · simp only [show Surface.rollback p = _ from hp, show Surface.rollback q = _ from hq]
      exact hr
    · simp only [show Surface.rollback p = _ from hp, show Surface.rollback q = _ from hq]
      exact hr
  intro p q hpq
  unfold Surface.within
  -- opened on both sides or on neither; then the body, which goes in step; then
  -- committed on both sides or on neither
  rcases (InStep.onSecond (Surface.start label) p q hpq).cases with
    ⟨_, p₁, q₁, hp, hq, h₁⟩ | ⟨e, p₁, q₁, hp, hq, h₁⟩
  · simp only [show Surface.start label p = _ from hp, show Surface.start label q = _ from hq]
    rcases (hbody p₁ q₁ h₁).cases with ⟨a, p₂, q₂, hp, hq, h₂⟩ | ⟨e, p₂, q₂, hp, hq, h₂⟩
    · simp only [hp, hq]
      rcases (InStep.onSecond Surface.commit p₂ q₂ h₂).cases with
        ⟨_, p₃, q₃, hp, hq, h₃⟩ | ⟨e, p₃, q₃, hp, hq, h₃⟩
      · simp only [show Surface.commit p₂ = _ from hp, show Surface.commit q₂ = _ from hq]
        exact ⟨rfl, h₃⟩
      · simp only [show Surface.commit p₂ = _ from hp, show Surface.commit q₂ = _ from hq]
        exact ⟨rfl, h₃⟩
    · simp only [hp, hq]
      exact ⟨rfl, habandon p₂ q₂ h₂⟩
  · simp only [show Surface.start label p = _ from hp, show Surface.start label q = _ from hq]
    exact ⟨rfl, h₁⟩

end InStep

-- =================================================================== hosts

namespace Host

open InStep

variable {h : Host σ} {h' : Host τ} [Surface S]

/-- The states are related, and the operation is in flight. -/
def Aloft (h : Host σ) (R : σ → τ → Prop) (s : σ) (t : τ) : Prop :=
  R s t ∧ (h.read s).inFlight = true

/-- Two hosts of the same operation for which telling has the same outcome, of
an action while the operation is in flight, and of a pass at any time. -/
structure Lockstep (h : Host σ) (h' : Host τ) (R : σ → τ → Prop) : Prop where
  read : ∀ {s t}, R s t → h.read s = h'.read t
  write : ∀ {s t} op, R s t → R (h.write op s) (h'.write op t)
  action : ∀ id, InStep (h.Aloft R) (h.tell (.actionApplied id))
    (h'.tell (.actionApplied id))
  pass : ∀ actions memberships, InStep R (h.tell (.applied actions memberships))
    (h'.tell (.applied actions memberships))

/-- A check that was made already comes out as it came out. -/
theorem inStep_orRefuse (r : Except MergeError α) :
    InStep R (orRefuse r : EStateM Halt σ α) (orRefuse r) := by
  cases r with
  | ok a => exact .pure a
  | error e => exact .throw _

/-- Memberships are changed in the scene only, of which there is one. The induction is
on what is still to be done. -/
theorem inStep_runMemberships (todo : List (Nat × MembershipChange)) (p : Pass) :
    InStep (Beside S R) (runMemberships todo p) (runMemberships todo p) := by
  induction todo generalizing p with
  | nil => exact .pure _
  | cons item rest ih =>
      refine .bind (.onSecond _) fun done => ?_
      cases done with
      | none => exact ih _
      | some reverts => exact ih _

namespace Lockstep

variable (hs : Lockstep h h' R)

include hs

/-- Whoever looks sees the same operation. -/
theorem look : InStep R h.look h'.look :=
  fun _ _ hr => ⟨hs.read hr, hr⟩

/-- Whoever looks in the middle of a pass sees the same operation. -/
theorem look_aloft : InStep (h.Aloft R) h.look h'.look :=
  fun _ _ hr => ⟨hs.read hr.1, hr⟩

/-- Before each action the operation is looked at anew, which is the same on both sides,
and so is what the action does to the scene. It is here that telling comes in between.
-/
theorem runActions (todo : List (ActionId × Action)) (p : Pass) :
    InStep (Beside S (h.Aloft R)) (h.runActions todo p) (h'.runActions todo p) := by
  -- on what is still to be done, since what one action reports goes into the pass that
  -- the next one is added to
  induction todo generalizing p with
  | nil => exact .pure _
  | cons item rest ih =>
      exact .bind hs.look_aloft.onFirst fun op => .bind (.onSecond _) fun done =>
        .bind (((hs.action item.1).adaptExcept _).onFirst) fun _ => ih _

/-- Of the memberships nobody is told, so only the actions ask anything of the two
hosts. -/
theorem runPass (op : Operation) :
    InStep (Beside S (h.Aloft R)) (h.runPass op) (h'.runPass op) :=
  .bind (hs.runActions op.pending {}) fun p =>
    .bind hs.look_aloft.onFirst fun _ => inStep_runMemberships _ p

/-- A flag that is written on both sides. -/
theorem fly (flag : Bool) {s : σ} {t : τ} (hr : R s t) :
    R (h.fly flag s) (h'.fly flag t) := by
  unfold Host.fly
  rw [← hs.read hr]
  exact hs.write _ hr

/-- The operation is marked on both sides before the body runs, so the body finds it in
flight, which is when telling of an action is known to come to the same. -/
theorem inFlight (hl : h.Lawful) (label : String) {body : EStateM Halt (σ × S) α}
    {body' : EStateM Halt (τ × S) α} (hbody : InStep (Beside S (h.Aloft R)) body body') :
    InStep (Beside S R) (h.inFlight label body) (h'.inFlight label body') := by
  rintro ⟨s, x⟩ ⟨t, _⟩ ⟨hr, rfl⟩
  have hstart : Beside S (h.Aloft R) (h.fly true s, x) (h'.fly true t, x) := by
    refine ⟨⟨hs.fly true hr, ?_⟩, rfl⟩
    rw [read_fly hl]
  rw [inFlight_eq, inFlight_eq]
  rcases (hbody.within (Halt.refused ∘ .scene) label _ _ hstart).cases with
    ⟨a, p, q, hp, hq, hpq, heq⟩ | ⟨e, p, q, hp, hq, hpq, heq⟩
  · rw [hp, hq]
    exact ⟨rfl, hs.fly false hpq.1, heq⟩
  · rw [hp, hq]
    exact ⟨rfl, hs.fly false hpq.1, heq⟩

/-- A pass lands for both or for neither, and does the same. -/
theorem lands (hl : h.Lawful) {s : σ} {t : τ} (hr : R s t) (x : S) (p : Pass) :
    h.Lands s x p ↔ h'.Lands t x p := by
  unfold Lands
  rw [hs.read hr]
  have hfly (label : String) :=
    hs.inFlight hl label (hs.runPass (h'.read t)) (s, x) (t, x) ⟨hr, rfl⟩
  refine and_congr_right fun _ => ⟨?_, ?_⟩
  · rintro ⟨y, hy⟩
    obtain ⟨z, hz, -⟩ := (hfly _).of_ok hy
    exact ⟨z, hz⟩
  · rintro ⟨z, hz⟩
    obtain ⟨y, hy, -⟩ := (hfly _).symm.of_ok hz
    exact ⟨y, hy⟩

/-- Both operations are changed by the same function. -/
theorem update (f : Operation → Operation) : InStep R (h.update f) (h'.update f) := by
  intro s t hr
  refine ⟨rfl, ?_⟩
  rw [← hs.read hr]
  exact hs.write _ hr

/-- Applying does not tell the two hosts apart. -/
theorem apply (hl : h.Lawful) : InStep (Beside S R) h.apply h'.apply :=
  .bind hs.look.onFirst fun op => .bind (inStep_orRefuse _) fun _ =>
    .bind (hs.inFlight hl _ (hs.runPass op)) fun _ => .bind (hs.update _).onFirst fun _ =>
      .bind (((hs.pass _ _).adaptExcept _).onFirst) fun _ => .pure _

end Lockstep

/-- Two hosts of the same operation for which telling has the same outcome, of
anything and at any time. What is told of an action in flight leaves it in flight. -/
structure Mirror (h : Host σ) (h' : Host τ) (R : σ → τ → Prop) : Prop where
  lawful : h.Lawful
  read : ∀ {s t}, R s t → h.read s = h'.read t
  write : ∀ {s t} op, R s t → R (h.write op s) (h'.write op t)
  tell : ∀ event, InStep R (h.tell event) (h'.tell event)
  aloft : ∀ event, Keeps (fun s => (h.read s).inFlight = true) (h.tell event)

namespace Mirror

variable (hs : Mirror h h' R)

include hs

/-- Telling that comes to the same at any time does so of a pass, and of an action in
flight. -/
theorem lockstep : Lockstep h h' R where
  read := hs.read
  write := hs.write
  action _ := (hs.tell _).and_keeps (hs.aloft _)
  pass _ _ := hs.tell _

/-- What an observer fails with is reported alike. -/
theorem emit (event : Event) : InStep R (h.emit event) (h'.emit event) :=
  (hs.tell event).adaptExcept _

/-- What is written on one side is written on the other. -/
theorem store (op : Operation) : InStep R (h.store op) (h'.store op) :=
  fun _ _ hr => ⟨rfl, hs.write op hr⟩

/-- Every call below looks, checks, stores and tells, and each of these goes in step. -/
theorem addAction (a : Action) : InStep R (h.addAction a) (h'.addAction a) :=
  .bind hs.lockstep.look fun _ => .bind (hs.store _) fun _ => .bind (hs.emit _) fun _ => .pure _

theorem addConflict (type : ConflictType) (source : Action) (target? : Option Action)
    (sourceEntity? targetEntity? : Option Entity) :
    InStep R (h.addConflict type source target? sourceEntity? targetEntity?)
      (h'.addConflict type source target? sourceEntity? targetEntity?) :=
  .bind hs.lockstep.look fun _ => .bind (hs.store _) fun _ => .bind (hs.emit _) fun _ => .pure _

/-- Nobody is told of this one. -/
theorem addMembership (change : MembershipChange) :
    InStep R (h.addMembership change) (h'.addMembership change) :=
  .bind hs.lockstep.look fun _ => .bind (hs.store _) fun _ => .pure _

/-- By induction on the proposals. Others are told in between, which comes to the same
on both sides. -/
theorem proposeAll (ps : List Proposal) : InStep R (h.proposeAll ps) (h'.proposeAll ps) := by
  induction ps with
  | nil => exact .pure _
  | cons p ps ih =>
      refine .bind ?_ fun _ => ih
      cases p with
      | action a => exact .bind (hs.addAction a) fun _ => .pure _
      | conflict => exact .bind (hs.addConflict _ _ _ _ _) fun _ => .pure _

theorem addMemberships (changes : List MembershipChange) :
    InStep R (h.addMemberships changes) (h'.addMemberships changes) := by
  induction changes with
  | nil => exact .pure _
  | cons change changes ih => exact .bind (hs.addMembership change) fun _ => ih

/-- What is added last are the memberships, as the operation's options are by then. -/
theorem classify (ps : List Proposal) (ours theirs : List MembershipChange) :
    InStep R (h.classify ps ours theirs) (h'.classify ps ours theirs) :=
  .bind (hs.proposeAll ps) fun _ => .bind hs.lockstep.look fun _ => hs.addMemberships _

/-- All three checks are made of the same operation and the same snapshots. -/
theorem populate (source : Snapshot) (base? : Option Snapshot) (target : Snapshot) :
    InStep R (h.populate source base? target) (h'.populate source base? target) := by
  intro s t hr
  rw [populate_eq, populate_eq, hs.read hr]
  cases (h'.read t).ensureMutable with
  | error e => exact ⟨rfl, hr⟩
  | ok =>
      cases Proposal.merging source base? target with
      | error e => exact ⟨rfl, hr⟩
      | ok plan =>
          cases (h'.read t).markPopulated with
          | error e => exact ⟨rfl, hr⟩
          | ok op => exact hs.classify _ _ _ _ _ (hs.write op hr)

/-- After the check there is something to be stored on both sides or on neither. -/
theorem setActive (id : ActionId) (active : Bool) :
    InStep R (h.setActive id active) (h'.setActive id active) := by
  refine .bind hs.lockstep.look fun _ => .bind (inStep_orRefuse _) fun op? => ?_
  cases op? with
  | none => exact .pure _
  | some op => exact .bind (hs.store op) fun _ => hs.emit _

theorem setMembershipActive (index : Nat) (active : Bool) :
    InStep R (h.setMembershipActive index active) (h'.setMembershipActive index active) :=
  .bind hs.lockstep.look fun _ => .bind (inStep_orRefuse _) fun _ => hs.store _

theorem setResolution (id : ActionId) (r : Resolution) :
    InStep R (h.setResolution id r) (h'.setResolution id r) :=
  .bind hs.lockstep.look fun _ => .bind (inStep_orRefuse _) fun _ =>
    .bind (hs.store _) fun _ => hs.emit _

theorem finish : InStep R h.finish h'.finish :=
  .bind hs.lockstep.look fun _ => .bind (inStep_orRefuse _) fun _ =>
    .bind (hs.lockstep.update _) fun _ => hs.emit _

/-- A pass is the case of what goes in step anyway. -/
theorem apply : InStep (Beside S R) h.apply h'.apply :=
  hs.lockstep.apply hs.lawful

/-- Taking back does not tell the two hosts apart. -/
theorem abort : InStep (Beside S R) h.abort h'.abort := by
  have hend : InStep (Beside S R)
      (SceneMerge.onFirst (h.update Operation.close) >>= fun _ =>
        SceneMerge.onFirst (h.emit .aborted))
      (SceneMerge.onFirst (h'.update Operation.close) >>= fun _ =>
        SceneMerge.onFirst (h'.emit .aborted)) :=
    .bind (hs.lockstep.update _).onFirst fun _ => (hs.emit _).onFirst
  refine .bind hs.lockstep.look.onFirst fun op => .bind (inStep_orRefuse _) fun _ => ?_
  exact .ite (.bind (hs.lockstep.inFlight hs.lawful _ (.onSecond _)) fun _ => hend) hend

end Mirror

end Host

end SceneMerge
