/-
Refusals. Every check of a call comes before its first change, and whatever
follows is never refused (`Host.Granted`). So a call that is refused is
refused before it changes anything (`Host.RefusedAtOnce`), which holds of all
public calls, whoever hosts the session (`Session.answer_refused`). Passes
answer with their refusal instead, since their scene has to be handed back.

Of all refusals one says that the operation is busy, and that one is only ever
given by an operation in flight (`Session.answer_spares`). The check that comes
first can say so; nothing that comes later does, neither an action nor the
scene (`StopsOnly`). Beside that a call is stopped by telling only
(`Session.answer_stops`), so one that tells nobody who fails is refused or comes
to its end (`Session.answer_returns`).
-/
import SceneMerge.Proofs.Session.InFlight

namespace SceneMerge

-- ==================================================================== calls

namespace Host

variable {σ α β : Type}

/-- The call is never refused. -/
def Granted (call : EStateM Halt σ α) : Prop :=
  ∀ s e s', call s ≠ .error (.refused e) s'

/-- The call is refused before it changes anything, if it is refused. -/
def RefusedAtOnce (call : EStateM Halt σ α) : Prop :=
  ∀ s e s', call s = .error (.refused e) s' → s' = s

/-- A call that is never refused has nothing to show for the case that it is: what is
asked about refusals holds of it for want of any. -/
theorem Granted.atOnce {call : EStateM Halt σ α} (hc : Granted call) :
    RefusedAtOnce call :=
  fun s e s' h => absurd h (hc s e s')

/-- Answering at once is never refused. -/
theorem granted_pure (a : α) : Granted (pure a : EStateM Halt σ α) := by
  intro s e s' h
  cases h

/-- Refusal is the first part's or the second part's, so neither part refuses and the
two in sequence do not either. This is what most calls are put together with below. -/
theorem Granted.bind {call : EStateM Halt σ α} {next : α → EStateM Halt σ β}
    (hc : Granted call) (hn : ∀ a, Granted (next a)) : Granted (call >>= next) := by
  intro s e s' h
  cases hs : call s with
  | ok a t =>
      rw [bind_ok hs] at h
      exact hn a t e s' h
  | error halt t =>
      rw [bind_error hs] at h
      cases h
      exact hc s e s' hs

/-- What is beside the state has no say in it. -/
theorem Granted.onFirst {call : EStateM Halt σ α} (hc : Granted call) {S : Type} :
    Granted (SceneMerge.onFirst (S := S) call) := by
  rintro ⟨s, x⟩ e p h
  unfold SceneMerge.onFirst focus at h
  cases hs : call s with
  | ok a t => simp only [hs] at h; cases h
  | error halt t =>
      simp only [hs] at h
      cases h
      exact hc s e t hs

/-- What comes after a check that changes nothing. -/
theorem RefusedAtOnce.bind {call : EStateM Halt σ α} {next : α → EStateM Halt σ β}
    (hc : ∀ s, finalState (call s) = s) (hn : ∀ a, RefusedAtOnce (next a)) :
    RefusedAtOnce (call >>= next) := by
  intro s e s' h
  have hsame := hc s
  cases hs : call s with
  | ok a t =>
      rw [bind_ok hs] at h
      rw [hs] at hsame
      rw [← show t = s from hsame]
      exact hn a t e s' h
  | error halt t =>
      rw [bind_error hs] at h
      rw [hs] at hsame
      cases h
      exact hsame

/-- Checks look and do not touch: whether they pass or refuse, the state is the one they
found. That is the hypothesis that `RefusedAtOnce.bind` asks of what comes first. -/
theorem orRefuse_same (r : Except MergeError α) (s : σ) :
    finalState ((orRefuse r : EStateM Halt σ α) s) = s := by
  cases r <;> rfl

variable (h : Host σ)

/-- Storing the operation cannot fail. -/
theorem granted_store (op : Operation) : Granted (h.store op) := by
  intro s e s' hs
  cases hs

/-- Reading the operation cannot fail. -/
theorem granted_look : Granted h.look := by
  intro s e s' hs
  cases hs

/-- Telling may be stopped by an observer that fails, which is no refusal: `Host.emit`
turns whatever stops it into `Halt.unwound`. -/
theorem granted_emit (event : Event) : Granted (h.emit event) := by
  intro s e s' hs
  unfold emit EStateM.adaptExcept at hs
  split at hs <;> cases hs

/-- No change that is computed from the operation and stored is refused. -/
theorem granted_update (f : Operation → Operation) : Granted (h.update f) :=
  h.granted_look.bind fun _ => h.granted_store _

/-- Additions are not checked at all. The operation may be closed or in flight: whoever
adds an action gets the identifier of an action that is there. -/
theorem granted_addAction (a : Action) : Granted (h.addAction a) :=
  h.granted_look.bind fun _ => (h.granted_store _).bind fun _ =>
    (h.granted_emit _).bind fun _ => granted_pure _

/-- A conflict is added with what it wraps in one go, and that is not checked either. -/
theorem granted_addConflict (type : ConflictType) (source : Action)
    (target? : Option Action) (sourceEntity? targetEntity? : Option Entity) :
    Granted (h.addConflict type source target? sourceEntity? targetEntity?) :=
  h.granted_look.bind fun _ => (h.granted_store _).bind fun _ =>
    (h.granted_emit _).bind fun _ => granted_pure _

/-- A membership change is not checked when it is added, and nobody is told of it. -/
theorem granted_addMembership (change : MembershipChange) :
    Granted (h.addMembership change) :=
  h.granted_look.bind fun _ => (h.granted_store _).bind fun _ => granted_pure _

/-- What a comparison comes up with is added piece by piece, by induction on the
proposals. -/
theorem granted_proposeAll (ps : List Proposal) : Granted (h.proposeAll ps) := by
  induction ps with
  | nil => exact granted_pure _
  | cons p ps ih =>
      refine .bind ?_ fun _ => ih
      cases p with
      | action a => exact (h.granted_addAction a).bind fun _ => granted_pure _
      | conflict =>
          exact .bind (h.granted_addConflict _ _ _ _ _) fun _ => granted_pure _

/-- No list of membership changes is refused, by induction on it. -/
theorem granted_addMemberships (changes : List MembershipChange) :
    Granted (h.addMemberships changes) := by
  induction changes with
  | nil => exact granted_pure _
  | cons change changes ih => exact (h.granted_addMembership change).bind fun _ => ih

/-- Classifying is proposing, a look at what that led to, and adding memberships: three
parts of which none refuses. -/
theorem granted_classify (ps : List Proposal) (ours theirs : List MembershipChange) :
    Granted (h.classify ps ours theirs) :=
  (h.granted_proposeAll ps).bind fun _ => h.granted_look.bind fun _ =>
    h.granted_addMemberships _

/-- Populating asks three things, whether the operation takes changes, whether the
snapshots can be matched and whether it was populated before, and each of them before it
adds anything. -/
theorem atOnce_populate (source : Snapshot) (base? : Option Snapshot)
    (target : Snapshot) : RefusedAtOnce (h.populate source base? target) := by
  intro s e s' hs
  rw [populate_eq] at hs
  -- the three refusals leave the state alone, and the classification that follows them
  -- is never refused
  split at hs
  · cases hs
    rfl
  · cases hs
    rfl
  · cases hs
    rfl
  · exact absurd hs (h.granted_classify _ _ _ _ _ _)

/-- Toggling computes the operation that comes of it before it stores any, so all that
can be wrong with the request is found out by then. -/
theorem atOnce_setActive (id : ActionId) (active : Bool) :
    RefusedAtOnce (h.setActive id active) := by
  refine .bind (fun _ => rfl) fun op => .bind (orRefuse_same _) fun op? => ?_
  cases op? with
  | none => exact (granted_pure _).atOnce
  | some op => exact ((h.granted_store op).bind fun _ => h.granted_emit _).atOnce

/-- Nobody is told of a membership that is toggled: after the check there is the store
only. -/
theorem atOnce_setMembershipActive (index : Nat) (active : Bool) :
    RefusedAtOnce (h.setMembershipActive index active) :=
  .bind (fun _ => rfl) fun _ => .bind (orRefuse_same _) fun _ =>
    (h.granted_store _).atOnce

/-- Deciding a conflict checks the request like toggling does. -/
theorem atOnce_setResolution (id : ActionId) (r : Resolution) :
    RefusedAtOnce (h.setResolution id r) :=
  .bind (fun _ => rfl) fun _ => .bind (orRefuse_same _) fun _ =>
    ((h.granted_store _).bind fun _ => h.granted_emit _).atOnce

/-- Finishing asks only whether the operation takes changes. -/
theorem atOnce_finish : RefusedAtOnce h.finish :=
  .bind (fun _ => rfl) fun _ => .bind (orRefuse_same _) fun _ =>
    ((h.granted_update _).bind fun _ => h.granted_emit _).atOnce

end Host

-- ================================================================= sessions

namespace Session

variable {W : Type}

/-- A pass on a scene of the client's own hands its refusal back as an answer, together
with the scene, so the call itself is never refused. -/
theorem granted_onScene {α : Type} (call : EStateM Halt (Session W × LiveScene) α)
    (scene : LiveScene) : Host.Granted (onScene call scene) := by
  intro s e s' hs
  unfold onScene at hs
  split at hs <;> cases hs

/-- What a pass answers with is its refusal. -/
theorem refused_of_onScene {α : Type} {call : EStateM Halt (Session W × LiveScene) α}
    {scene scene' : LiveScene} {e : MergeError} {s t : Session W}
    (hrun : onScene call scene s = .ok (.error e, scene') t) :
    call (s, scene) = .error (.refused e) (t, scene') := by
  unfold onScene at hrun
  split at hrun
  · cases hrun
  · next hcall =>
      cases hrun
      exact hcall
  · cases hrun

/-- If a call on a scene is answered, the answer is that of the pass behind it. -/
theorem ok_of_onScene {α : Type} {call : EStateM Halt (Session W × LiveScene) α}
    {scene scene' : LiveScene} {a : α} {s t : Session W}
    (hrun : onScene call scene s = .ok (.ok a, scene') t) :
    call (s, scene) = .ok a (t, scene') := by
  unfold onScene at hrun
  split at hrun
  · next hcall =>
      cases hrun
      exact hcall
  · cases hrun
  · cases hrun

/-- What stops it is what stopped the pass. -/
theorem unwound_of_onScene {α : Type} {call : EStateM Halt (Session W × LiveScene) α}
    {scene : LiveScene} {halt : Halt} {s t : Session W}
    (hrun : onScene call scene s = .error halt t) :
    ∃ id p, halt = .unwound id ∧ call (s, scene) = .error (.unwound id) p := by
  unfold onScene at hrun
  split at hrun
  · cases hrun
  · cases hrun
  · next hcall =>
      cases hrun
      exact ⟨_, _, rfl, hcall⟩

/-- Whoever hosts the session, a call that is refused changes nothing. -/
theorem answer_refused {α : Type} (h : Host (Session W)) (call : Call α) :
    Host.RefusedAtOnce (answer h call) := by
  cases call with
  | addAction a => exact (h.granted_addAction a).atOnce
  | addConflict => exact Host.Granted.atOnce (h.granted_addConflict _ _ _ _ _)
  | addMembership change => exact (h.granted_addMembership change).atOnce
  | setMergeLayers => exact (h.granted_update _).atOnce
  | setMergeSelectionGroups => exact (h.granted_update _).atOnce
  | populate source base? target => exact h.atOnce_populate source base? target
  | classifyThreeWay => exact Host.Granted.atOnce (h.granted_classify _ _ _)
  | classifyTwoWay => exact Host.Granted.atOnce (h.granted_classify _ _ _)
  | setActive id active => exact h.atOnce_setActive id active
  | setMembershipActive index active => exact h.atOnce_setMembershipActive index active
  | setResolution id r => exact h.atOnce_setResolution id r
  | finish => exact h.atOnce_finish
  | apply scene => exact (granted_onScene h.apply scene).atOnce
  | abort scene => exact (granted_onScene h.abort scene).atOnce
  | subscribe => exact fun _ _ _ hs => nomatch hs
  | unsubscribe => exact fun _ _ _ hs => nomatch hs

end Session

-- ================================================================== wording

/-- Whatever stops the call is such. -/
def StopsOnly {ε σ α : Type} (ok : ε → Prop) (call : EStateM ε σ α) : Prop :=
  ∀ s e t, call s = .error e t → ok e

namespace StopsOnly

variable {ε ε' σ S α β : Type} {ok : ε → Prop} {call : EStateM ε σ α}

/-- Whoever answers is not stopped. -/
theorem pure (a : α) : StopsOnly ok (Pure.pure a : EStateM ε σ α) :=
  fun _ _ _ h => nomatch h

/-- Whoever stops says by what. -/
theorem throw {e : ε} (he : ok e) : StopsOnly ok (MonadExcept.throw e : EStateM ε σ α) := by
  intro s e' t h
  cases h
  exact he

/-- One part after the other is stopped by what stops the first or by what stops the
second. -/
theorem bind {next : α → EStateM ε σ β} (hc : StopsOnly ok call)
    (hn : ∀ a, StopsOnly ok (next a)) : StopsOnly ok (call >>= next) := by
  intro s e t h
  cases hs : call s with
  | ok a u =>
      rw [bind_ok hs] at h
      exact hn a u e t h
  | error e' u =>
      rw [bind_error hs] at h
      cases h
      exact hc s e t hs

/-- Looking at the state does not stop anything; what follows may depend on what was
seen. -/
theorem get_bind {next : σ → EStateM ε σ β} (hn : ∀ s, StopsOnly ok (next s)) :
    StopsOnly ok (MonadState.get >>= next) :=
  fun s e t h => hn s s e t h

/-- If both branches are stopped by the right things only, a test between them is. -/
theorem ite {c : Prop} [Decidable c] {call' : EStateM ε σ α} (h : StopsOnly ok call)
    (h' : StopsOnly ok call') : StopsOnly ok (if c then call else call') := by
  split
  · exact h
  · exact h'

/-- Whatever stopped the call is worded like that. -/
theorem adaptExcept {ok' : ε' → Prop} {f : ε → ε'} (hc : StopsOnly ok call)
    (hf : ∀ e, ok e → ok' (f e)) : StopsOnly ok' (call.adaptExcept f) := by
  intro s e t h
  unfold EStateM.adaptExcept at h
  cases hs : call s with
  | ok a u => rw [hs] at h; cases h
  | error e' u =>
      rw [hs] at h
      cases h
      exact hf e' (hc s e' t hs)

/-- Every call is stopped by something or not at all. -/
theorem any : StopsOnly (fun _ => True) call := fun _ _ _ _ => trivial

/-- What is beside the state is neither asked nor told. -/
theorem onFirst (hc : StopsOnly ok call) : StopsOnly ok (SceneMerge.onFirst (S := S) call) := by
  rintro ⟨s, x⟩ e p h
  unfold SceneMerge.onFirst focus at h
  cases hs : call s with
  | ok a t => simp only [hs] at h; cases h
  | error e' t =>
      simp only [hs] at h
      cases h
      exact hc s e t hs

/-- What is beside the state is not asked here either: the two are in the other order,
which is how a pass runs what concerns its scene. -/
theorem onSecond (hc : StopsOnly ok call) : StopsOnly ok (SceneMerge.onSecond (σ := S) call) := by
  rintro ⟨x, s⟩ e p h
  unfold SceneMerge.onSecond focus at h
  cases hs : call s with
  | ok a t => simp only [hs] at h; cases h
  | error e' t =>
      simp only [hs] at h
      cases h
      exact hc s e t hs

/-- A transaction is opened, its body runs, and it is committed. The scene may refuse
the first and the last of these, which `refusal` words; in between it is the body that
stops. -/
theorem within [Surface S] {body : EStateM ε S α} {refusal : SceneError → ε}
    (hrefusal : ∀ e, ok (refusal e)) (label : String) (hbody : StopsOnly ok body) :
    StopsOnly ok (Surface.within refusal label body) := by
  intro s e t h
  unfold Surface.within at h
  -- opened; then the body; then committed, and rolled back otherwise, which changes
  -- nothing about what stopped it
  split at h
  · cases h
    exact hrefusal _
  · split at h
    · next hb =>
        cases h
        exact hbody _ _ _ hb
    · split at h
      · cases h
        exact hrefusal _
      · cases h

end StopsOnly

/-- It does not say that the operation is busy. -/
def MergeError.Spares (e : MergeError) : Prop := e ≠ .concurrentMergeAccess

/-- A call does not stop with the answer that the operation is busy. That an observer
failed is another reason to stop, so it spares as well. -/
def Halt.Spares (halt : Halt) : Prop := halt ≠ .refused .concurrentMergeAccess

/-- A refusal spares as a reason to stop what it spares as an error. -/
theorem MergeError.Spares.refused {e : MergeError} (he : e.Spares) :
    (Halt.refused e).Spares :=
  fun h => he (Halt.refused.inj h)

namespace Performed

variable {S : Type} [Surface S]

/-- A plain action checks for the entity it changes a part of, and asks the scene. The
former is worded as a violation of the order, the latter as a failure to apply. -/
theorem stopsOnly_plain (id : ActionId) (a : Action) :
    StopsOnly MergeError.Spares (plain id a : EStateM MergeError S Performed) := by
  have hkind : StopsOnly MergeError.Spares ((plainKind id a.kind).adaptExcept (failure id a)
      : EStateM MergeError S Performed) := StopsOnly.any.adaptExcept fun _ _ => nofun
  exact .get_bind fun _ => .ite (.bind (.throw nofun) fun _ => hkind) hkind

/-- An action does not say so. A conflict whose source is not in the arena, or not a
plain one, is refused by a wording of its own, and otherwise it is one plain action or a
replacement. -/
theorem stopsOnly_ofAction (op : Operation) (id : ActionId) (a : Action) :
    StopsOnly MergeError.Spares (ofAction op id a : EStateM MergeError S Performed) := by
  have hfailure : ∀ {α : Type} (call : EStateM SceneError S α),
      StopsOnly MergeError.Spares (call.adaptExcept (failure id a)) :=
    fun call => StopsOnly.any.adaptExcept fun _ _ => nofun
  -- one case per way to perform: a conflict that makes its source's change, with the
  -- entity there or not, one that replaces, and a plain action
  unfold ofAction
  split
  · unfold conflict
    split
    · exact .throw nofun
    · next source _ =>
        split
        · refine .get_bind fun s => .ite (stopsOnly_plain _ source) ?_
          split
          · exact stopsOnly_plain _ source
          · exact .bind (hfailure _) fun _ => .pure _
        · exact hfailure _
        · exact stopsOnly_plain _ source
  · exact stopsOnly_plain id a

end Performed

namespace Operation

variable {op : Operation}

/-- An operation that is not in flight does not say so. -/
theorem ensureMutable_spares (hop : op.inFlight = false) {e : MergeError}
    (h : op.ensureMutable = .error e) : e.Spares := by
  unfold Operation.ensureMutable refusal? at h
  rw [hop] at h
  rintro rfl
  cases hc : op.state.isClosed <;> rw [hc] at h <;> cases h

/-- A call that checks first and then asks further is refused by the check, or for a
reason other than being busy. -/
theorem of_checked_error {α : Type} {next : Except MergeError α} {e : MergeError}
    (hn : ∀ e, next = .error e → e.Spares) (h : (op.ensureMutable >>= fun _ => next) = .error e) :
    op.ensureMutable = .error e ∨ e.Spares := by
  cases hm : op.ensureMutable with
  | error e' =>
      rw [hm] at h
      cases h
      exact .inl rfl
  | ok =>
      rw [hm] at h
      exact .inr (hn e h)

/-- Toggling is refused because of the operation's state, or because of the action: it
is not there, or it is a conflict, or the decision of one keeps it. -/
theorem of_setActive_error {id : ActionId} {active : Bool} {e : MergeError}
    (h : op.setActive id active = .error e) : op.ensureMutable = .error e ∨ e.Spares := by
  refine of_checked_error (fun e he => ?_) h
  rintro rfl
  split at he
  · cases he
  · simp only [bind, Except.bind] at he
    split at he
    · cases he
    · split at he <;> cases he

/-- The only other thing wrong with a membership is that there is none of that index. -/
theorem of_setMembershipActive_error {index : Nat} {active : Bool} {e : MergeError}
    (h : op.setMembershipActive index active = .error e) :
    op.ensureMutable = .error e ∨ e.Spares := by
  refine of_checked_error (fun e he => ?_) h
  rintro rfl
  split at he <;> cases he

/-- A decision is refused for want of the action, or because it is no conflict. -/
theorem of_setResolution_error {id : ActionId} {r : Resolution} {e : MergeError}
    (h : op.setResolution id r = .error e) : op.ensureMutable = .error e ∨ e.Spares := by
  refine of_checked_error (fun e he => ?_) h
  rintro rfl
  split at he
  · cases he
  · split at he <;> cases he

/-- A second population is refused by its own wording. -/
theorem markPopulated_spares {e : MergeError} (h : op.markPopulated = .error e) :
    e.Spares := by
  unfold Operation.markPopulated at h
  split at h <;> cases h
  nofun

end Operation

-- =================================================================== stopped

namespace Host

/-- Such are all refusals that come after the check that is made first, and such is
all that telling stops a call with. -/
structure StopsBy {σ : Type} (h : Host σ) (ok : Halt → Prop) : Prop where
  refused : ∀ e : MergeError, e.Spares → ok (.refused e)
  emit : ∀ event, StopsOnly ok (h.emit event)

namespace StopsBy

variable {σ S α β : Type} [Surface S] {h : Host σ} {ok : Halt → Prop} (hh : h.StopsBy ok)

/-- What a check refuses with is all that it stops a call with. -/
theorem orRefuse {r : Except MergeError α} (hr : ∀ e, r = .error e → ok (.refused e)) :
    StopsOnly ok (Host.orRefuse r : EStateM Halt σ α) := by
  cases r with
  | ok a => exact .pure a
  | error e => exact .throw (hr e rfl)

/-- The check that comes first stops the call with such, and so does what follows. -/
theorem checked {r : Operation → Except MergeError α}
    {next : α → EStateM Halt σ β} {s t : σ} {halt : Halt}
    (hr : ∀ e, r (h.read s) = .error e → ok (.refused e)) (hn : ∀ a, StopsOnly ok (next a))
    (hrun : (h.look >>= fun op => Host.orRefuse (r op) >>= next) s = .error halt t) :
    ok halt := by
  rw [bind_ok h.look_eq] at hrun
  exact StopsOnly.bind (orRefuse hr) hn _ _ _ hrun

/-- Storing stops nothing. -/
theorem store (op : Operation) : StopsOnly ok (h.store op) := nofun

/-- Looking at the operation stops nothing. -/
theorem look : StopsOnly ok h.look := nofun

/-- Changing the operation stops nothing, whatever the change. -/
theorem update (f : Operation → Operation) : StopsOnly ok (h.update f) :=
  .bind look fun _ => store _

/-- Nobody is told of a membership, so nothing can stop its addition, whatever `ok` is.
-/
theorem addMembership (change : MembershipChange) : StopsOnly ok (h.addMembership change) :=
  .bind look fun _ => .bind (store _) fun _ => .pure _

/-- Nothing stops the addition of many memberships, by induction on the changes. -/
theorem addMemberships (changes : List MembershipChange) :
    StopsOnly ok (h.addMemberships changes) := by
  induction changes with
  | nil => exact .pure _
  | cons change changes ih => exact .bind (addMembership change) fun _ => ih

include hh

/-- Of an addition others are told, and they are all that may stop it. -/
theorem addAction (a : Action) : StopsOnly ok (h.addAction a) :=
  .bind look fun _ => .bind (store _) fun _ => .bind (hh.emit _) fun _ => .pure _

/-- That a conflict is added they are told once, when what it wraps is there. -/
theorem addConflict (type : ConflictType) (source : Action) (target? : Option Action)
    (sourceEntity? targetEntity? : Option Entity) :
    StopsOnly ok (h.addConflict type source target? sourceEntity? targetEntity?) :=
  .bind look fun _ => .bind (store _) fun _ => .bind (hh.emit _) fun _ => .pure _

/-- One addition after the other, each of which only telling may stop. -/
theorem proposeAll (ps : List Proposal) : StopsOnly ok (h.proposeAll ps) := by
  induction ps with
  | nil => exact .pure _
  | cons p ps ih =>
      refine .bind ?_ fun _ => ih
      cases p with
      | action a => exact .bind (hh.addAction a) fun _ => .pure _
      | conflict => exact .bind (hh.addConflict _ _ _ _ _) fun _ => .pure _

/-- The memberships that are added at the end stop nothing. -/
theorem classify (ps : List Proposal) (ours theirs : List MembershipChange) :
    StopsOnly ok (h.classify ps ours theirs) :=
  .bind (hh.proposeAll ps) fun _ => .bind look fun _ => addMemberships _

-- ------------------------------------------------------------------- passes

/-- A membership change asks the scene, whose refusal belongs to no action and is worded
as the scene's own. The induction is on what is still to be done, with the pass so far
general. -/
theorem runMemberships (todo : List (Nat × MembershipChange)) (p : Pass) :
    StopsOnly ok (Host.runMemberships todo p : EStateM Halt (σ × S) Pass) := by
  induction todo generalizing p with
  | nil => exact .pure _
  | cons item rest ih =>
      refine .bind (.onSecond (StopsOnly.any.adaptExcept fun _ _ => hh.refused _ nofun))
        fun done => ?_
      cases done with
      | none => exact ih _
      | some reverts => exact ih _

/-- An action is stopped for a reason that spares, and so is what the scene says about
it; and others are told after each. The induction is on what is still to be done. -/
theorem runActions (todo : List (ActionId × Action)) (p : Pass) :
    StopsOnly ok (h.runActions todo p : EStateM Halt (σ × S) Pass) := by
  induction todo generalizing p with
  | nil => exact .pure _
  | cons item rest ih =>
      -- the operation is looked at anew for every action, since whoever was told of the
      -- last one may have changed it
      refine .bind look.onFirst fun op => .bind (.onSecond ?_) fun _ => ?_
      · exact (Performed.stopsOnly_ofAction op item.1 item.2).adaptExcept hh.refused
      · exact .bind (hh.emit _).onFirst fun _ => ih _

/-- In flight a call is stopped by its body or by the scene. -/
theorem inFlight {label : String} {body : EStateM Halt (σ × S) α}
    (hbody : StopsOnly ok body) : StopsOnly ok (h.inFlight label body) := by
  rintro ⟨s, x⟩ e p hrun
  rw [inFlight_eq] at hrun
  split at hrun
  · cases hrun
  · next hw =>
      cases hrun
      have hscene : ∀ e, ok ((Halt.refused ∘ .scene) e) :=
        fun e => hh.refused (.scene e) nofun
      exact hbody.within hscene label _ _ _ hw

-- -------------------------------------------------------------------- calls

variable {s : σ} (hfirst : ∀ e, (h.read s).ensureMutable = .error e → ok (.refused e))
  {halt : Halt}

include hfirst

/-- Populating is stopped by one of its three checks or by whoever is told of an
addition. -/
theorem populate {source : Snapshot} {base? : Option Snapshot} {target : Snapshot}
    {t : σ} (hrun : h.populate source base? target s = .error halt t) : ok halt := by
  rw [populate_eq] at hrun
  split at hrun
  · next hm =>
      cases hrun
      exact hfirst _ hm
  · cases hrun
    exact hh.refused _ nofun
  · next hmark =>
      cases hrun
      exact hh.refused _ (Operation.markPopulated_spares hmark)
  · exact hh.classify _ _ _ _ _ _ hrun

/-- After the check come the store and the telling, or nothing at all if the action was
like that already. -/
theorem setActive {id : ActionId} {active : Bool} {t : σ}
    (hrun : h.setActive id active s = .error halt t) : ok halt := by
  refine checked (r := fun op => op.setActive id active)
    (fun e he => (Operation.of_setActive_error he).elim (hfirst e) (hh.refused e))
    (fun op? => ?_) hrun
  cases op? with
  | none => exact .pure _
  | some op => exact .bind (store op) fun _ => hh.emit _

/-- After the check comes the store only, of which nobody hears. -/
theorem setMembershipActive {index : Nat} {active : Bool} {t : σ}
    (hrun : h.setMembershipActive index active s = .error halt t) : ok halt :=
  checked (r := fun op => op.setMembershipActive index active)
    (fun e he => (Operation.of_setMembershipActive_error he).elim (hfirst e) (hh.refused e))
    (fun op => store op) hrun

/-- After the check come the store and the telling. -/
theorem setResolution {id : ActionId} {r : Resolution} {t : σ}
    (hrun : h.setResolution id r s = .error halt t) : ok halt :=
  checked (r := fun op => op.setResolution id r)
    (fun e he => (Operation.of_setResolution_error he).elim (hfirst e) (hh.refused e))
    (fun op => .bind (store op) fun _ => hh.emit _) hrun

/-- Finishing is stopped by the check that comes first or by who hears of the end. -/
theorem finish {t : σ} (hrun : h.finish s = .error halt t) : ok halt :=
  checked (r := Operation.ensureMutable) hfirst
    (fun _ => .bind (update _) fun _ => hh.emit _) hrun

variable {x : S} {p : σ × S}

/-- A pass is stopped by that check, by what it does in flight, or by who hears of its
success. -/
theorem apply (hrun : h.apply (s, x) = .error halt p) : ok halt := by
  cases hm : (h.read s).ensureMutable with
  | error e =>
      rw [h.apply_refused hm] at hrun
      cases hrun
      exact hfirst e hm
  | ok =>
      rw [apply_eq h hm] at hrun
      -- what is done in flight, and what is left when it has landed
      refine StopsOnly.bind (hh.inFlight ?_) (fun p => ?_) _ _ _ hrun
      · exact .bind (hh.runActions _ _) fun p =>
          .bind look.onFirst fun _ => hh.runMemberships _ p
      · exact .bind (update _).onFirst fun _ => .bind (hh.emit _).onFirst fun _ => .pure _

/-- Aborting is stopped by such only as well. With an empty journal there is nothing to
be done in flight. -/
theorem abort (hrun : h.abort (s, x) = .error halt p) : ok halt := by
  have hend : StopsOnly ok (onFirst (S := S) (h.update Operation.close) >>= fun _ =>
      onFirst (h.emit .aborted)) :=
    .bind (update _).onFirst fun _ => (hh.emit _).onFirst
  cases hm : (h.read s).ensureMutable with
  | error e =>
      rw [h.abort_refused hm] at hrun
      cases hrun
      exact hfirst e hm
  | ok =>
      -- either way it ends with the operation closed and others told
      cases hj : (h.read s).journal.isEmpty with
      | true =>
          rw [abort_eq_of_nil h hm hj] at hrun
          exact hend _ _ _ hrun
      | false =>
          rw [abort_eq h hm hj] at hrun
          refine StopsOnly.bind (hh.inFlight ?_) (fun _ => hend) _ _ _ hrun
          exact .onSecond (StopsOnly.any.adaptExcept fun _ _ => hh.refused _ nofun)

end StopsBy

-- ---------------------------------------------------------------------- uses

variable {σ S : Type} [Surface S] (h : Host σ)

/-- No refusal that comes after the first check says that the operation is busy, and
telling does not. -/
theorem stopsBy_spares : h.StopsBy Halt.Spares where
  refused _ he := he.refused
  emit event := by
    rintro s e t hs rfl
    exact h.granted_emit event s _ t hs

section rest

variable {s : σ} {x : S} (hs : (h.read s).inFlight = false) {halt : Halt} {p : σ × S}

include hs

/-- A pass that finds the operation at rest is not answered that it is busy. -/
theorem apply_spares (hrun : h.apply (s, x) = .error halt p) : halt.Spares :=
  h.stopsBy_spares.apply (fun _ he => (Operation.ensureMutable_spares hs he).refused) hrun

/-- Aborting an operation at rest is not answered that it is busy. -/
theorem abort_spares (hrun : h.abort (s, x) = .error halt p) : halt.Spares :=
  h.stopsBy_spares.abort (fun _ he => (Operation.ensureMutable_spares hs he).refused) hrun

end rest

end Host

namespace Session

variable {W α : Type} {h : Host (Session W)} {s : Session W}

/-- Whatever stops a public call is such. -/
theorem answer_stops {ok : Halt → Prop} (hh : h.StopsBy ok)
    (hfirst : ∀ e, (h.read s).ensureMutable = .error e → ok (.refused e)) {call : Call α}
    {halt : Halt} {t : Session W} (hrun : answer h call s = .error halt t) : ok halt := by
  cases call with
  | addAction a => exact hh.addAction a s halt t hrun
  | addConflict => exact hh.addConflict _ _ _ _ _ s halt t hrun
  | addMembership change => exact Host.StopsBy.addMembership change s halt t hrun
  | setMergeLayers => exact Host.StopsBy.update _ s halt t hrun
  | setMergeSelectionGroups => exact Host.StopsBy.update _ s halt t hrun
  | classifyThreeWay => exact hh.classify _ _ _ s halt t hrun
  | classifyTwoWay => exact hh.classify _ _ _ s halt t hrun
  | populate source base? target => exact hh.populate hfirst hrun
  | setActive id active => exact hh.setActive hfirst hrun
  | setMembershipActive index active => exact hh.setMembershipActive hfirst hrun
  | setResolution id r => exact hh.setResolution hfirst hrun
  | finish => exact hh.finish hfirst hrun
  | apply scene =>
      obtain ⟨id, p, rfl, hcall⟩ := unwound_of_onScene hrun
      exact hh.apply hfirst hcall
  | abort scene =>
      obtain ⟨id, p, rfl, hcall⟩ := unwound_of_onScene hrun
      exact hh.abort hfirst hcall
  | subscribe => cases hrun
  | unsubscribe => cases hrun

/-- Whatever is asked of an operation that is not in flight, it does not answer
that it is busy. -/
theorem answer_spares (hs : (h.read s).inFlight = false) (call : Call α) (t : Session W) :
    answer h call s ≠ call.barred .concurrentMergeAccess t := by
  have hfirst : ∀ e, (h.read s).ensureMutable = .error e → (Halt.refused e).Spares :=
    fun e he => (Operation.ensureMutable_spares hs he).refused
  intro heq
  cases call with
  | apply scene => exact h.apply_spares hs (refused_of_onScene heq) rfl
  | abort scene => exact h.abort_spares hs (refused_of_onScene heq) rfl
  | _ => exact answer_stops h.stopsBy_spares hfirst heq rfl

/-- If nobody who is told fails, a call is refused or comes to its end. -/
theorem answer_returns (ht : ∀ event u id v, h.tell event u ≠ .error id v) {call : Call α}
    (id : SubscriptionId) (t : Session W) : answer h call s ≠ .error (.unwound id) t := by
  intro hrun
  have hh : h.StopsBy fun halt => ∃ e, halt = .refused e := by
    refine ⟨fun e _ => ⟨e, rfl⟩, fun event u halt v hu => ?_⟩
    unfold Host.emit EStateM.adaptExcept at hu
    split at hu
    · next heq => exact absurd heq (ht event u _ _)
    · cases hu
  obtain ⟨e, he⟩ := answer_stops hh (fun e _ => ⟨e, rfl⟩) hrun
  cases he

end Session

/-- Leaving events to others does not fail. -/
theorem Session.enqueue_unstopped {W : Type} (event : Event) (s : Session W)
    (id : SubscriptionId) (t : Session W) : Session.inside.tell event s ≠ .error id t := by
  intro h
  cases h

/-- No client is stopped by an observer if telling is stopped by none. -/
theorem Client.run_unstopped {W α : Type} {h : Host (Session W)}
    (ht : ∀ event u id v, h.tell event u ≠ .error id v) (c : Client W α) (s : Session W)
    (id : SubscriptionId) (t : Session W) : c.run h s ≠ .error id t := by
  induction c generalizing s with
  | done a => nofun
  | look next ih => exact ih _ _ s
  | share f next ih => exact ih _ _
  | ask call next ih =>
      unfold Client.run
      split
      · exact ih _ _
      · exact ih _ _
      · next heq => exact absurd heq (Session.answer_returns ht _ _)

end SceneMerge
