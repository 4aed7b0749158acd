/-
What calls keep of the operation, whoever hosts it. Every public call is
made of a few ways to change an operation, and of telling others about it.
How building and reviewing change an operation is said by a relation between
the operation before and after (`Operation.ChangedByReviews`), and whatever
does not mind such changes is kept by every call that does no more than that
(`Session.keeps_changes`). A property that they keep (`Operation.KeptByReviews`)
is the case of the relation that says just that (`Session.keeps_preparation`).
A property that all ways to change an operation keep is upheld
(`Operation.Upheld`), and what is upheld is kept by every call: granted,
refused or stopped half way, by whoever it is made, and on a scene of whatever
kind, for what a pass does to the scene and what the scene answers is of no
concern to it (`Host.keeps_apply`, `Session.keeps_answer`).

Observers make calls of their own while they are told. What these calls
keep is kept by telling (`Audience.Keeper.emit`), however many events come
of one another and whoever fails in between; so what is upheld is kept by
telling an audience (`Audience.keeps_announce`). An observer is shown such
operations only, and what it would do if it were shown another one is not
restricted.
-/
import SceneMerge.Proofs.Review.Additions
import SceneMerge.Proofs.Session.Setup
import SceneMerge.Session.Delivery

namespace SceneMerge

/-- Whatever the call adds is such an action. -/
def Call.Adds (ok : Action → Prop) : {α : Type} → Call α → Prop
  | _, .addAction a => ok a
  | _, .addConflict _ source target? _ _ => ok source ∧ ∀ t ∈ target?, ok t
  | _, _ => True

/-- Nothing at all is required of what is added. -/
theorem Call.adds_any {α : Type} (call : Call α) : call.Adds fun _ => True := by
  cases call <;> simp [Call.Adds]

/-- What is asked of added actions may be weakened. -/
theorem Call.Adds.imp {ok ok' : Action → Prop} (himp : ∀ a, ok a → ok' a)
    {α : Type} {call : Call α} (hc : call.Adds ok) : call.Adds ok' := by
  cases call with
  | addAction a => exact himp a hc
  | addConflict => exact ⟨himp _ hc.1, fun t ht => himp t (hc.2 t ht)⟩
  | _ => trivial

/-- The call neither runs a pass nor ends the operation. -/
def Call.prepares : {α : Type} → Call α → Bool
  | _, .finish | _, .apply _ | _, .abort _ => false
  | _, _ => true

/-- Whether a call takes snapshots. -/
def Call.populates : {α : Type} → Call α → Bool
  | _, .populate .. => true
  | _, _ => false

/-- Whether a call says who listens. -/
def Call.registers : {α : Type} → Call α → Bool
  | _, .subscribe | _, .unsubscribe _ => true
  | _, _ => false

-- ================================================================= upheld

namespace Operation

/-- Building and reviewing an operation keep the property, as long as only
such actions are added. -/
structure KeptByReviews (ok : Action → Prop) (Q : Operation → Prop) : Prop where
  /-- Such are all actions that are proposed by comparing snapshots. -/
  proposed : ∀ a : Action, a.Constructed → ok a
  addAction : ∀ {op a}, ok a → Q op → Q (op.addAction a)
  addConflict : ∀ {op type source target? sourceEntity? targetEntity?},
    ok source → (∀ t ∈ target?, ok t) → Q op →
    Q (op.addConflict type source target? sourceEntity? targetEntity?)
  addMembership : ∀ {op change}, Q op → Q (op.addMembership change)
  options : ∀ {op} (options : MergeOptions), Q op → Q { op with options }
  populated : ∀ {op}, Q op → Q { op with populated := true }
  setActive : ∀ {op op' id active}, Q op →
    op.setActive id active = .ok (some op') → Q op'
  setMembershipActive : ∀ {op op' index active}, Q op →
    op.setMembershipActive index active = .ok op' → Q op'
  setResolution : ∀ {op op' id r}, Q op → op.setResolution id r = .ok op' → Q op'

/-- This is how building and reviewing change an operation, as long as only such
actions are added. -/
structure ChangedByReviews (ok : Action → Prop) (R : Operation → Operation → Prop) :
    Prop where
  proposed : ∀ a : Action, a.Constructed → ok a
  addAction : ∀ {op a}, ok a → R op (op.addAction a)
  addConflict : ∀ {op type source target? sourceEntity? targetEntity?},
    ok source → (∀ t ∈ target?, ok t) →
    R op (op.addConflict type source target? sourceEntity? targetEntity?)
  addMembership : ∀ {op change}, R op (op.addMembership change)
  options : ∀ {op} (options : MergeOptions), R op { op with options }
  setActive : ∀ {op op' id active}, op.setActive id active = .ok (some op') → R op op'
  setMembershipActive : ∀ {op op' index active},
    op.setMembershipActive index active = .ok op' → R op op'
  setResolution : ∀ {op op' id r}, op.setResolution id r = .ok op' → R op op'

/-- The operation after has the property if the one before has. -/
abbrev Keeping (Q : Operation → Prop) (op op' : Operation) : Prop := Q op → Q op'

/-- A property is kept if it is passed on from before to after: this is the relation
under which keeping a property is a case of changing like that. -/
theorem KeptByReviews.changed {ok : Action → Prop} {Q : Operation → Prop}
    (hQ : KeptByReviews ok Q) : ChangedByReviews ok (Keeping Q) where
  proposed := hQ.proposed
  addAction := hQ.addAction
  addConflict := hQ.addConflict
  addMembership := hQ.addMembership
  options := hQ.options
  setActive hop h := hQ.setActive h hop
  setMembershipActive hop h := hQ.setMembershipActive h hop
  setResolution hop h := hQ.setResolution h hop

/-- What does not mind such changes is kept by reviews, if being populated is no
concern. -/
theorem ChangedByReviews.kept {ok : Action → Prop} {R : Operation → Operation → Prop}
    (hR : ChangedByReviews ok R) {Q : Operation → Prop}
    (hQ : ∀ {op op'}, R op op' → Q op → Q op')
    (hpopulated : ∀ {op}, Q op → Q { op with populated := true }) : KeptByReviews ok Q where
  proposed := hR.proposed
  addAction ha := hQ (hR.addAction ha)
  addConflict hs ht := hQ (hR.addConflict hs ht)
  addMembership := hQ hR.addMembership
  options o := hQ (hR.options o)
  populated := hpopulated
  setActive h hop := hQ (hR.setActive hop) h
  setMembershipActive h hop := hQ (hR.setMembershipActive hop) h
  setResolution h hop := hQ (hR.setResolution hop) h

/-- What such changes entail is how they change an operation. -/
theorem ChangedByReviews.imp {ok : Action → Prop} {R R' : Operation → Operation → Prop}
    (hR : ChangedByReviews ok R) (h : ∀ {op op'}, R op op' → R' op op') :
    ChangedByReviews ok R' where
  proposed := hR.proposed
  addAction ha := h (hR.addAction ha)
  addConflict hs ht := h (hR.addConflict hs ht)
  addMembership := h hR.addMembership
  options o := h (hR.options o)
  setActive hop := h (hR.setActive hop)
  setMembershipActive hop := h (hR.setMembershipActive hop)
  setResolution hop := h (hR.setResolution hop)

/-- Setting options writes them only while the operation is open, and otherwise leaves
the operation alone. Both are changes of options, the latter to what they are already.
-/
theorem ChangedByReviews.setOptions {ok : Action → Prop}
    {R : Operation → Operation → Prop} (hR : ChangedByReviews ok R) {op : Operation}
    {f : MergeOptions → MergeOptions} : R op (op.setOptions f) := by
  unfold Operation.setOptions
  split
  · exact hR.options op.options
  · exact hR.options _

/-- Marking succeeds once, and does nothing else. -/
theorem of_markPopulated_ok {op op' : Operation} (hmark : op.markPopulated = .ok op') :
    op.populated = false ∧ op' = { op with populated := true } := by
  unfold Operation.markPopulated at hmark
  split at hmark
  · cases hmark
  · next hfresh =>
      cases hmark
      exact ⟨Bool.not_eq_true _ ▸ hfresh, rfl⟩

/-- Every way to change an operation keeps the property: building and reviewing, passes,
and ending it. -/
structure Upheld (ok : Action → Prop) (Q : Operation → Prop) : Prop
    extends KeptByReviews ok Q where
  fly : ∀ {op} (flag : Bool), Q op → Q { op with inFlight := flag }
  absorb : ∀ {op} (p : Pass), Q op → Q (op.absorb p)
  finish : ∀ {op}, Q op → Q op.finish
  close : ∀ {op}, Q op → Q op.close

/-- Whatever is done to an operation, it stays one. -/
theorem upheld_any : Upheld (fun _ => True) fun _ => True where
  proposed _ _ := trivial
  addAction _ _ := trivial
  addConflict _ _ _ := trivial
  addMembership _ := trivial
  options _ _ := trivial
  populated _ := trivial
  setActive _ _ := trivial
  setMembershipActive _ _ := trivial
  setResolution _ _ := trivial
  fly _ _ := trivial
  absorb _ _ := trivial
  finish _ := trivial
  close _ := trivial

end Operation

/-- All actions that are proposed to merge snapshots are made by constructors. -/
theorem Proposal.constructed_merging {source target : Snapshot} {base? : Option Snapshot}
    {ps : List Proposal} {ours theirs : List MembershipChange}
    (hp : merging source base? target = .ok (ps, ours, theirs)) :
    ∀ p ∈ ps, p.Adds Action.Constructed := by
  rcases of_merging_ok hp with ⟨diff, rfl⟩ | ⟨ours, theirs, rfl⟩
  · exact constructed_twoWay diff
  · exact constructed_threeWay ours theirs

namespace Host

variable {σ : Type} (h : Host σ)

/-- The operation that is hosted has the property. -/
def Has (Q : Operation → Prop) (s : σ) : Prop := Q (h.read s)

/-- What is read is what was written last. -/
def Lawful : Prop := ∀ op s, h.read (h.write op s) = op

/-- Whatever has `P` hosts an operation with `Q`, and any such operation may take
its place. -/
structure Keeper (h : Host σ) (Q : Operation → Prop) (P : σ → Prop) : Prop where
  read : ∀ {s}, P s → Q (h.read s)
  write : ∀ {s op}, Q op → P s → P (h.write op s)

/-- Whatever has `P` still has it when the operation that it hosts changes like
that. -/
def Follows (h : Host σ) (R : Operation → Operation → Prop) (P : σ → Prop) : Prop :=
  ∀ ⦃s op⦄, R (h.read s) op → P s → P (h.write op s)

variable {h}

/-- If any operation with `Q` may take the place of the one that is hosted, then so may
one that got `Q` from it. -/
theorem Keeper.follows {Q : Operation → Prop} {P : σ → Prop} (hk : h.Keeper Q P) :
    h.Follows (Operation.Keeping Q) P :=
  fun _ _ hop hs => hk.write (hop (hk.read hs)) hs

/-- Of a lawful host the operation is all that a property of the operation depends on.
-/
theorem Lawful.keeper (hl : h.Lawful) (Q : Operation → Prop) : h.Keeper Q (h.Has Q) where
  read hs := hs
  write hop _ := by
    rw [Has, hl]
    exact hop

variable {ok : Action → Prop} {P : σ → Prop}

-- ================================================================== steps

section changes

variable {R : Operation → Operation → Prop} (hf : h.Follows R P)

/-- A check changes nothing, whether it refuses or not. -/
theorem keeps_orRefuse {P : σ → Prop} {α : Type} (r : Except MergeError α) :
    Keeps P (orRefuse r : EStateM Halt σ α) := by
  cases r with
  | ok a => exact .pure a
  | error e => exact .throw _

/-- Telling under another name for what stops it keeps what telling keeps. -/
theorem keeps_emit {P : σ → Prop} {event : Event}
    (ht : Keeps P (h.tell event)) : Keeps P (h.emit event) :=
  ht.adaptExcept _

/-- Looking at the operation, what follows may rely on what is known of
it. -/
theorem keeps_look_bind {β : Type} {next : Operation → EStateM Halt σ β}
    (hnext : ∀ s, P s → P (finalState (next (h.read s) s))) :
    Keeps P (h.look >>= next) := by
  intro s hs
  rw [bind_ok h.look_eq]
  exact hnext s hs

include hf

/-- Storing an operation and going on: what is asked of the new operation may depend on
what the state held, unlike in `Keeps.bind`, whose second part has to do with every
state. -/
theorem has_store_bind {β : Type} {op : Operation} {s : σ} (hop : R (h.read s) op)
    {next : Unit → EStateM Halt σ β} (hnext : Keeps P (next ())) (hs : P s) :
    P (finalState ((h.store op >>= next) s)) := by
  have hstore : h.store op s = .ok () (h.write op s) := rfl
  rw [bind_ok hstore]
  exact hnext _ (hf hop hs)

/-- Changing the operation and going on. -/
theorem keeps_change {β : Type} {f : Operation → Operation}
    (hop : ∀ op, R op (f op)) {next : Operation → Unit → EStateM Halt σ β}
    (hnext : ∀ op, Keeps P (next op ())) :
    Keeps P (h.look >>= fun op => h.store (f op) >>= next op) :=
  keeps_look_bind fun _ hs => has_store_bind hf (hop _) (hnext _) hs

/-- Changing the operation and no more. -/
theorem keeps_update {f : Operation → Operation} (hop : ∀ op, R op (f op)) :
    Keeps P (h.update f) :=
  fun _ hs => hf (hop _) hs

/-- Changing the operation as far as that is granted, and going on. -/
theorem keeps_revise {β : Type} {f : Operation → Except MergeError Operation}
    (next : Unit → EStateM Halt σ β) (hop : ∀ op op', f op = .ok op' → R op op')
    (hnext : Keeps P (next ())) :
    Keeps P (h.look >>= fun op =>
      orRefuse (f op) >>= fun op' => h.store op' >>= next) := by
  refine keeps_look_bind fun s hs => ?_
  -- the check is made of the operation as it is when the call looks
  cases hr : f (h.read s) with
  | error e =>
      rw [bind_error (orRefuse_error rfl)]
      exact hs
  | ok op' =>
      rw [bind_ok (orRefuse_ok rfl)]
      exact has_store_bind hf (hop _ _ hr) hnext hs

/-- Switching an action, as far as that is granted and changes anything. -/
theorem keeps_switch {id : ActionId} {active : Bool}
    (hop : ∀ op op', op.setActive id active = .ok (some op') → R op op')
    (ht : Keeps P (h.tell (.actionChanged id))) :
    Keeps P (h.setActive id active) := by
  refine keeps_look_bind fun s hs => ?_
  cases hr : (h.read s).setActive id active with
  | error e =>
      rw [bind_error (orRefuse_error rfl)]
      exact hs
  | ok r? =>
      rw [bind_ok (orRefuse_ok rfl)]
      cases r? with
      | none => exact hs
      | some op' => exact has_store_bind hf (hop _ _ hr) (keeps_emit ht) hs

-- ================================================================== calls

variable (hR : Operation.ChangedByReviews ok R) (ht : ∀ event, Keeps P (h.tell event))

include hR

/-- Nobody is told of a membership, so telling is not asked about here. -/
theorem keeps_addMembership (change : MembershipChange) :
    Keeps P (h.addMembership change) :=
  keeps_change hf (fun _ => hR.addMembership) fun _ => .pure _

/-- By induction on the changes. -/
theorem keeps_addMemberships (changes : List MembershipChange) :
    Keeps P (h.addMemberships changes) := by
  induction changes with
  | nil => exact .pure _
  | cons change changes ih =>
      exact .bind (keeps_addMembership hf hR change) fun _ => ih

/-- Nobody is told that a membership is switched, so here too telling is not asked
about. -/
theorem keeps_setMembershipActive (index : Nat) (active : Bool) :
    Keeps P (h.setMembershipActive index active) :=
  keeps_revise hf pure (fun _ _ => hR.setMembershipActive) (.pure _)

include ht

/-- An action of the right kind is added, and others are told. -/
theorem keeps_addAction {a : Action} (ha : ok a) :
    Keeps P (h.addAction a) :=
  keeps_change hf (fun _ => hR.addAction ha) fun _ =>
    .bind (keeps_emit (ht _)) fun _ => .pure _

/-- A conflict is added with what it wraps, and others are told once. -/
theorem keeps_addConflict {type : ConflictType} {source : Action}
    {target? : Option Action} {sourceEntity? targetEntity? : Option Entity}
    (hsource : ok source) (htarget : ∀ t ∈ target?, ok t) :
    Keeps P
      (h.addConflict type source target? sourceEntity? targetEntity?) :=
  keeps_change hf (fun _ => hR.addConflict hsource htarget) fun _ =>
    .bind (keeps_emit (ht _)) fun _ => .pure _

/-- By induction on the proposals, with others being told between any two of them. -/
theorem keeps_proposeAll {ps : List Proposal} (hps : ∀ p ∈ ps, p.Adds ok) :
    Keeps P (h.proposeAll ps) := by
  induction ps with
  | nil => exact .pure _
  | cons p ps ih =>
      have hp := hps p List.mem_cons_self
      refine .bind ?_ fun _ => ih fun q hq => hps q (List.mem_cons_of_mem _ hq)
      cases p with
      | action a => exact .bind (keeps_addAction hf hR ht hp) fun _ => .pure _
      | conflict =>
          exact .bind (keeps_addConflict hf hR ht hp.1 hp.2) fun _ => .pure _

/-- What a comparison comes up with is made by constructors, which is all that `ok` can
be asked about here. -/
theorem keeps_classify {ps : List Proposal}
    (hps : ∀ p ∈ ps, p.Adds Action.Constructed)
    (ours theirs : List MembershipChange) :
    Keeps P (h.classify ps ours theirs) := by
  refine .bind (keeps_proposeAll hf hR ht fun p hp => (hps p hp).imp hR.proposed)
    fun _ => .get_bind fun _ => keeps_addMemberships hf hR _

/-- In particular what comes of comparing both sides with a base. -/
theorem keeps_classifyThreeWay (ours theirs : SceneDiff) (target : Snapshot) :
    Keeps P (h.classifyThreeWay ours theirs target) :=
  keeps_classify hf hR ht (Proposal.constructed_threeWay ours theirs) _ _

/-- What comes of comparing one side with the other is proposed like any list of
constructed actions. -/
theorem keeps_classifyTwoWay (diff : SceneDiff) (target : Snapshot) :
    Keeps P (h.classifyTwoWay diff target) :=
  keeps_classify hf hR ht (Proposal.constructed_twoWay diff) _ _

/-- Populating changes an operation like classifying, and marks it populated before.
That is a change of its own, since some properties are not kept by it. -/
theorem keeps_populate (hmark : ∀ op, R op { op with populated := true })
    (source : Snapshot) (base? : Option Snapshot) (target : Snapshot) :
    Keeps P (h.populate source base? target) := by
  intro s hs
  rw [populate_eq]
  -- three refusals, and the classification
  split
  · exact hs
  · exact hs
  · exact hs
  · next _ hp hm =>
      obtain ⟨-, rfl⟩ := Operation.of_markPopulated_ok hm
      exact keeps_classify hf hR ht (Proposal.constructed_merging hp) _ _ _
        (hf (hmark _) hs)

/-- An action is switched, and others are told if that changed anything. -/
theorem keeps_setActive (id : ActionId) (active : Bool) :
    Keeps P (h.setActive id active) :=
  keeps_switch hf (fun _ _ => hR.setActive) (ht _)

/-- A conflict is decided, and others are told. -/
theorem keeps_setResolution (id : ActionId) (r : Resolution) :
    Keeps P (h.setResolution id r) :=
  keeps_revise hf _ (fun _ _ => hR.setResolution) (keeps_emit (ht _))

end changes

-- ================================================================= passes

/-- What concerns one side only. -/
theorem keeps_fst {S : Type} {P : σ → Prop} {ε α : Type} {call : EStateM ε σ α}
    (hc : Keeps P call) : Keeps (fun p : σ × S => P p.1) (onFirst call) :=
  fun p hp => (Keeps.onFirst (Q := fun _ : S => True) hc p ⟨hp, trivial⟩).1

/-- What concerns the other side only. -/
theorem keeps_snd {S : Type} {P : σ → Prop} {ε α : Type} (call : EStateM ε S α) :
    Keeps (fun p : σ × S => P p.1) (onSecond call) :=
  fun p hp => (Keeps.onSecond (P := P) (Q := fun _ : S => True) (fun _ _ => trivial) p
    ⟨hp, trivial⟩).1

variable {S : Type} [Surface S]

/-- What telling of actions keeps a pass keeps, whatever it does to the scene. -/
theorem keeps_pass {P : σ → Prop} (ht : ∀ id, Keeps P (h.tell (.actionApplied id)))
    (op : Operation) : Keeps (fun p : σ × S => P p.1) (h.runPass op) :=
  fun p hp => (keeps_runPass (P := fun _ : S => True) (fun _ _ _ _ => trivial) ht op p
    ⟨hp, trivial⟩).1

/-- A transaction of the scene does not concern what is beside it. Opening, committing
and rolling back ask the scene only, so of all that the transaction does the body is
what matters. -/
theorem keeps_within {P : σ → Prop} {ε α : Type} (refusal : SceneError → ε)
    (label : String) {body : EStateM ε (σ × S) α}
    (hbody : Keeps (fun p => P p.1) body) :
    Keeps (fun p => P p.1) (Surface.within refusal label body) := by
  have hbeside : ∀ {α : Type} (call : EStateM SceneError S α) (p : σ × S),
      P p.1 → P (finalState (onSecond call p)).1 :=
    fun call => keeps_snd call
  -- a body that stops is rolled back, and rolling back may fail as well
  have habandon : ∀ p : σ × S, P p.1 → P (Surface.abandon p).1 := by
    intro p hp
    have hrollback := hbeside Surface.rollback p hp
    unfold Surface.abandon
    split
    · next heq =>
        rw [show onSecond Surface.rollback p = _ from heq] at hrollback
        exact hrollback
    · next heq =>
        rw [show onSecond Surface.rollback p = _ from heq] at hrollback
        exact hrollback
  intro p hp
  have hstart := hbeside (Surface.start label) p hp
  unfold Surface.within
  -- not opened, or opened; then stopped in the body, not committed, or committed
  split
  · next heq =>
      rw [show onSecond (Surface.start label) p = _ from heq] at hstart
      exact hstart
  · next q heq =>
      rw [show onSecond (Surface.start label) p = _ from heq] at hstart
      split
      · next hb => exact habandon _ (hbody.error hstart hb)
      · next q' hb =>
          have hcommit := hbeside Surface.commit q' (hbody.ok hstart hb)
          split
          · next heq =>
              rw [show onSecond Surface.commit q' = _ from heq] at hcommit
              exact hcommit
          · next heq =>
              rw [show onSecond Surface.commit q' = _ from heq] at hcommit
              exact hcommit

variable {Q : Operation → Prop} (hk : h.Keeper Q P)
  (ht : ∀ event, Keeps P (h.tell event)) (hU : Operation.Upheld ok Q)

include hk hU

/-- The operation is marked before the body runs and unmarked however it ends. -/
theorem keeps_inFlight {α : Type} {label : String}
    {body : EStateM Halt (σ × S) α}
    (hbody : Keeps (fun p => P p.1) body) :
    Keeps (fun p => P p.1) (h.inFlight label body) := by
  have hfly : ∀ (flag : Bool) (s : σ), P s →
      P (h.write { h.read s with inFlight := flag } s) :=
    fun flag s hs => hk.write (hU.fly flag (hk.read hs)) hs
  rintro ⟨s, x⟩ hs
  have hrun := keeps_within (Halt.refused ∘ .scene) label
    hbody (h.write { h.read s with inFlight := true } s, x) (hfly true s hs)
  unfold inFlight
  simp only
  split
  · next heq =>
      rw [heq] at hrun
      exact hfly false _ hrun
  · next heq =>
      rw [heq] at hrun
      exact hfly false _ hrun

include ht

/-- A pass looks and checks, does its work in flight, stores what it reports and tells
of it. The scene is of no concern to `P`, so neither is what it refuses. -/
theorem keeps_apply : Keeps (fun p : σ × S => P p.1) h.apply := by
  refine .bind (keeps_fst (.get_bind fun _ => .pure _)) fun op => ?_
  refine .bind (keeps_orRefuse _) fun _ => ?_
  refine .bind (keeps_inFlight hk hU (keeps_pass (fun _ => ht _) op)) fun p => ?_
  refine .bind (keeps_fst (keeps_update hk.follows fun _ => hU.absorb p)) fun _ => ?_
  exact .bind (keeps_fst (keeps_emit (ht _))) fun _ => .pure _

/-- Finishing checks, stores the closed operation and tells of the end. -/
theorem keeps_finish : Keeps P h.finish := by
  refine .get_bind fun _ => .bind (keeps_orRefuse _) fun _ => ?_
  exact .bind (keeps_update hk.follows fun _ => hU.finish) fun _ => keeps_emit (ht _)

/-- Going back asks the scene to play the journal, and then ends the operation. If
nothing was journaled, it only ends it. -/
theorem keeps_abort : Keeps (fun p : σ × S => P p.1) h.abort := by
  have hend : Keeps (fun p : σ × S => P p.1)
      (onFirst (h.update Operation.close) >>= fun _ =>
        onFirst (h.emit .aborted)) :=
    .bind (keeps_fst (keeps_update hk.follows fun _ => hU.close)) fun _ =>
      keeps_fst (keeps_emit (ht _))
  refine .bind (keeps_fst (.get_bind fun _ => .pure _)) fun op => ?_
  refine .bind (keeps_orRefuse _) fun _ => ?_
  exact .ite (.bind (keeps_inFlight hk hU (keeps_snd _)) fun _ => hend) hend

end Host

-- =============================================================== sessions

/-- An operation that stands by itself is its own host. -/
theorem Host.lawful_alone : Host.alone.Lawful := fun _ _ => rfl

/-- What reviews keep holds of what merges snapshots, if it holds before
anything is proposed. -/
theorem Operation.KeptByReviews.construct {ok : Action → Prop} {Q : Operation → Prop}
    (hQ : KeptByReviews ok Q) {source target : Snapshot} {base? : Option Snapshot}
    {options : MergeOptions} {op : Operation}
    (hnew : Q { sourcePath := source.path
                basePath := (base?.map (·.path)).getD "", options })
    (hop : Operation.construct source base? target options = .ok op) : Q op := by
  have hpopulate := Host.keeps_populate (Host.lawful_alone.keeper Q).follows hQ.changed
    (fun _ => .pure _) (fun _ => hQ.populated) source base? target _ hnew
  unfold Operation.construct at hop
  simp only at hop
  split at hop
  · cases hop
  · next heq =>
      cases hop
      rw [heq] at hpopulate
      exact hpopulate
  · next heq =>
      cases hop
      rw [heq] at hpopulate
      exact hpopulate

namespace Session

variable {W : Type} {ok : Action → Prop} {Q : Operation → Prop}

/-- The operation of the session has the property. -/
def Has (Q : Operation → Prop) (s : Session W) : Prop := Q s.operation

/-- A session keeps the operation where it is looked for. -/
theorem lawful_host (tell : Event → EStateM SubscriptionId (Session W) Unit) :
    (host tell).Lawful := fun _ _ => rfl

/-- A session looks for a property where the operation is, like every lawful host. -/
theorem keeper_host (tell : Event → EStateM SubscriptionId (Session W) Unit) :
    (host tell).Keeper Q (Has Q) :=
  (lawful_host tell).keeper Q

/-- The scene comes back, and is no part of the session. -/
theorem finalState_onScene {α : Type} (call : EStateM Halt (Session W × LiveScene) α)
    (scene : LiveScene) (s : Session W) :
    finalState (onScene call scene s) = (finalState (call (s, scene))).1 := by
  unfold onScene
  split
  · next heq => rw [heq]; rfl
  · next heq => rw [heq]; rfl
  · next heq => rw [heq]; rfl

/-- A call on a scene keeps of the session what it keeps beside that scene. -/
theorem keeps_onScene {P : Session W → Prop} {α : Type}
    {call : EStateM Halt (Session W × LiveScene) α}
    (hc : Keeps (fun p => P p.1) call) (scene : LiveScene) :
    Keeps P (onScene call scene) := by
  intro s hs
  rw [finalState_onScene]
  exact hc (s, scene) hs

/-- What does not mind the changes that building and reviewing make is kept by every
call that neither runs a pass nor ends the operation nor says who listens, if telling
keeps it. -/
theorem keeps_changes {P : Session W → Prop} {R : Operation → Operation → Prop}
    {tell : Event → EStateM SubscriptionId (Session W) Unit} (hf : (host tell).Follows R P)
    (ht : ∀ event, Keeps P (tell event)) (hR : Operation.ChangedByReviews ok R)
    {α : Type} {call : Call α}
    (hmark : call.populates = true → ∀ op, R op { op with populated := true })
    (hc : call.Adds ok) (hprepares : call.prepares = true) (hregisters : call.registers = false) :
    Keeps P (answer (host tell) call) := by
  cases call with
  | addAction a => exact Host.keeps_addAction hf hR ht hc
  | addConflict => exact Host.keeps_addConflict hf hR ht hc.1 hc.2
  | addMembership change => exact Host.keeps_addMembership hf hR change
  | setMergeLayers enabled => exact Host.keeps_update hf fun _ => hR.setOptions
  | setMergeSelectionGroups enabled =>
      exact Host.keeps_update hf fun _ => hR.setOptions
  | populate source base? target => exact Host.keeps_populate hf hR ht (hmark rfl) _ _ _
  | classifyThreeWay ours theirs target =>
      exact Host.keeps_classifyThreeWay hf hR ht _ _ _
  | classifyTwoWay diff target => exact Host.keeps_classifyTwoWay hf hR ht _ _
  | setActive id active => exact Host.keeps_setActive hf hR ht id active
  | setMembershipActive index active =>
      exact Host.keeps_setMembershipActive hf hR index active
  | setResolution id r => exact Host.keeps_setResolution hf hR ht id r
  | subscribe => cases hregisters
  | unsubscribe id => cases hregisters
  | finish => cases hprepares
  | apply scene => cases hprepares
  | abort scene => cases hprepares

section keeper

variable {P : Session W → Prop} {tell : Event → EStateM SubscriptionId (Session W) Unit}
  (hk : (host tell).Keeper Q P) (ht : ∀ event, Keeps P (tell event))

include hk ht

/-- What building and reviewing keep is kept by every call that neither runs
a pass nor ends the operation nor says who listens, if telling keeps it. -/
theorem keeps_preparation_of (hQ : Operation.KeptByReviews ok Q) {α : Type} {call : Call α}
    (hc : call.Adds ok) (hprepares : call.prepares = true) (hregisters : call.registers = false) :
    Keeps P (answer (host tell) call) :=
  keeps_changes hk.follows ht hQ.changed (fun _ _ => hQ.populated) hc hprepares hregisters

/-- What is upheld is kept by every public call that does not say who
listens, if telling keeps it. -/
theorem keeps_answer_of (hQ : Operation.Upheld ok Q) {α : Type} {call : Call α}
    (hc : call.Adds ok) (hregisters : call.registers = false) :
    Keeps P (answer (host tell) call) := by
  cases hprepares : call.prepares with
  | true => exact keeps_preparation_of hk ht hQ.toKeptByReviews hc hprepares hregisters
  | false =>
      cases call with
      | finish => exact Host.keeps_finish hk ht hQ
      | apply scene => exact keeps_onScene (Host.keeps_apply hk ht hQ) scene
      | abort scene => exact keeps_onScene (Host.keeps_abort hk ht hQ) scene
      | _ => cases hprepares

end keeper

/-- What who listens does not concern is kept by calls that say so. -/
theorem keeps_registers {P : Session W → Prop}
    {tell : Event → EStateM SubscriptionId (Session W) Unit} {α : Type} {call : Call α}
    (hP : ∀ {s} registry, P s → P { s with registry }) (hregisters : call.registers = true) :
    Keeps P (answer (host tell) call) := by
  cases call with
  | subscribe => exact fun _ hs => hP _ hs
  | unsubscribe id => exact fun _ hs => hP _ hs
  | _ => cases hregisters

/-- What building and reviewing keep is kept by every call that neither runs
a pass nor ends the operation, if telling keeps it. -/
theorem keeps_preparation (hQ : Operation.KeptByReviews ok Q)
    {tell : Event → EStateM SubscriptionId (Session W) Unit}
    (ht : ∀ event, Keeps (Has Q) (tell event)) {α : Type} {call : Call α}
    (hc : call.Adds ok) (hprepares : call.prepares = true) :
    Keeps (Has Q) (answer (host tell) call) := by
  cases hregisters : call.registers with
  | true => exact keeps_registers (fun _ hs => hs) hregisters
  | false => exact keeps_preparation_of (keeper_host tell) ht hQ hc hprepares hregisters

/-- What is upheld is kept by every public call, if telling keeps it. -/
theorem keeps_answer (hQ : Operation.Upheld ok Q)
    {tell : Event → EStateM SubscriptionId (Session W) Unit}
    (ht : ∀ event, Keeps (Has Q) (tell event)) {α : Type} {call : Call α}
    (hc : call.Adds ok) : Keeps (Has Q) (answer (host tell) call) := by
  cases hregisters : call.registers with
  | true => exact keeps_registers (fun _ hs => hs) hregisters
  | false => exact keeps_answer_of (keeper_host tell) ht hQ hc hregisters

/-- Leaving an event to others does not concern the operation. -/
theorem keeps_enqueue (event : Event) :
    Keeps (Has Q) (enqueue event : EStateM SubscriptionId (Session W) Unit) :=
  fun _ hs => hs

end Session

-- ================================================================ clients

/-- A client that makes no calls but those of a kind, as long as every
operation that it is shown has the property. It may look, and share its
world, as it likes. -/
inductive Client.MakesOnly {W α : Type} (Q : Operation → Prop)
    (P : ∀ {β : Type}, Call β → Prop) : Client W α → Prop where
  | done (a : α) : MakesOnly Q P (.done a)
  | look {next : Operation → Nat → Client W α} :
      (∀ op observers, Q op → MakesOnly Q P (next op observers)) →
      MakesOnly Q P (.look next)
  | share {β : Type} {f : W → β × W} {next : β → Client W α} :
      (∀ b, MakesOnly Q P (next b)) → MakesOnly Q P (.share f next)
  | ask {β : Type} {call : Call β} {next : Except MergeError β → Client W α} :
      P call → (∀ r, MakesOnly Q P (next r)) → MakesOnly Q P (.ask call next)

/-- Fewer operations to be shown and more calls to be made are both the weaker demand.
-/
theorem Client.MakesOnly.mono {W α : Type} {Q Q' : Operation → Prop}
    {P P' : ∀ {β : Type}, Call β → Prop} (hQ : ∀ op, Q' op → Q op)
    (hP : ∀ {β : Type} (call : Call β), P call → P' call) {c : Client W α}
    (hc : c.MakesOnly Q P) : c.MakesOnly Q' P' := by
  induction hc with
  | done a => exact .done a
  | look _ ih => exact .look fun op observers hop => ih op observers (hQ op hop)
  | share _ ih => exact .share ih
  | ask hcall _ ih => exact .ask (hP _ hcall) ih

/-- Whoever reacts to an event makes no calls but those of a kind, as long
as every operation that it is shown has the property. -/
def Audience.MakesOnly {W : Type} (Q : Operation → Prop)
    (P : ∀ {β : Type}, Call β → Prop) (A : Audience W) : Prop :=
  ∀ id event w c, A.reaction? id event w = some c → c.MakesOnly Q P

section telling

variable {W : Type}

/-- What every call keeps a client keeps. -/
theorem Client.run_has {h : Host (Session W)} {P : ∀ {β : Type}, Call β → Prop}
    {Q : Operation → Prop}
    (hP : ∀ {β : Type} (call : Call β), P call → Keeps (Session.Has Q) (Session.answer h call))
    {α : Type} {c : Client W α} (hc : c.MakesOnly Q P) :
    Keeps (Session.Has Q) (c.run h) := by
  -- on the client, since what it goes on with depends on what it was answered
  induction hc with
  | done a => exact fun _ hs => hs
  | look _ ih => exact fun s hs => ih _ _ hs s hs
  | @share β f next _ ih =>
      exact fun s hs => ih (f s.world).1 { s with world := (f s.world).2 } hs
  | @ask β call next hcall _ ih =>
      intro s hs
      have hstate := hP call hcall s hs
      unfold Client.run
      split
      · next heq =>
          rw [heq] at hstate
          exact ih _ _ hstate
      · next heq =>
          rw [heq] at hstate
          exact ih _ _ hstate
      · next heq =>
          rw [heq] at hstate
          exact hstate

/-- The session in which a delivery begins when somebody tells of an event at rest. -/
def Session.delivering (s : Session W) (event : Event) : Session W :=
  { s with registry := { s.registry.enqueue event with busy := true } }

namespace Audience

/-- In the middle of a delivery telling is no more than a place in the queue. -/
theorem emit_busy (A : Audience W) {tell : Event → EStateM SubscriptionId (Session W) Unit}
    {s : Session W} (hs : s.registry.busy = true) (event : Event) :
    A.emit tell event s = Session.enqueue event s :=
  if_pos hs

/-- From rest it is a delivery, after which the session rests again. -/
theorem emit_rest (A : Audience W) {tell : Event → EStateM SubscriptionId (Session W) Unit}
    {s : Session W} (hs : s.registry.busy = false) (event : Event) :
    A.emit tell event s
      = match A.drain tell (A.patience s.world) (s.delivering event) with
        | .ok _ u => .ok () { u with registry := { u.registry with busy := false } }
        | .error id u =>
            .error id { u with registry := { u.registry with busy := false, queue := [] } } :=
  if_neg (by rw [hs]; exact nofun)

/-- What taking note keeps, and any reaction to the event, whoever is told keeps. -/
theorem keeps_hear {A : Audience W} {tell : Event → EStateM SubscriptionId (Session W) Unit}
    {P : Session W → Prop} {event : Event} {id : SubscriptionId}
    (hnote : ∀ s, P s → P { s with world := A.note id event s.world })
    (hreaction : ∀ w c, A.reaction? id event w = some c → Keeps P (c.run (Session.host tell)))
    (listening : Bool) : Keeps P (A.hear tell listening event id) := by
  intro s hs
  unfold Audience.hear
  simp only
  split
  · exact hnote s hs
  · next c hc =>
      have hkeeps : Keeps P (c.run (Session.host tell)) := by
        split at hc
        · cases hc
        · exact hreaction _ _ hc
      have hrun := hkeeps { s with world := A.note id event s.world } (hnote s hs)
      split
      · next heq => rw [heq] at hrun; exact hrun
      · next heq => rw [heq] at hrun; exact hrun
      · next heq => rw [heq] at hrun; exact hrun

/-- Whoever takes note or reacts keeps `P`, which who listens does not concern. -/
structure Keeper (A : Audience W) (tell : Event → EStateM SubscriptionId (Session W) Unit)
    (P : Session W → Prop) : Prop where
  registry : ∀ {s} registry, P s → P { s with registry }
  note : ∀ {s} id event, P s → P { s with world := A.note id event s.world }
  reaction : ∀ id event w c, A.reaction? id event w = some c →
    Keeps P (c.run (Session.host tell))

namespace Keeper

variable {A : Audience W} {tell : Event → EStateM SubscriptionId (Session W) Unit}
  {P : Session W → Prop} (hA : A.Keeper tell P)

include hA

/-- Whoever is told takes note first, and then reacts or does not. -/
theorem hear (listening : Bool) (event : Event) (id : SubscriptionId) :
    Keeps P (A.hear tell listening event id) :=
  keeps_hear (fun _ => hA.note id event) (hA.reaction id event) listening

/-- One after the other, up to the first that fails. -/
theorem hearAll (listening : Bool) (event : Event) (ids : List SubscriptionId) :
    Keeps P (A.hearAll tell listening event ids) := by
  induction ids with
  | nil => exact .pure _
  | cons id ids ih =>
      exact .bind (hA.hear listening event id) fun _ => .bind ih fun _ => .pure _

/-- Observers are checked out and in again. -/
theorem deliver (listening : Bool) (event : Event) :
    Keeps P (A.deliver tell listening event) := by
  intro s hs
  have hall := hA.hearAll listening event s.registry.slots
    { s with registry := s.registry.checkOut } (hA.registry _ hs)
  unfold Audience.deliver
  simp only
  split
  · next heq => rw [heq] at hall; exact hA.registry _ hall
  · next heq => rw [heq] at hall; exact hA.registry _ hall

/-- Before each delivery the event is taken off the queue, which is a change of the
registry. -/
theorem untilReaction (listening : Bool) {next : EStateM SubscriptionId (Session W) Unit}
    (hnext : Keeps P next) (queue : List Event) :
    Keeps P (untilReaction (A.deliver tell listening) next queue) := by
  induction queue with
  | nil => exact .pure _
  | cons event rest ih =>
      refine .bind (fun _ hs => hA.registry _ hs) fun _ => ?_
      refine .bind (hA.deliver listening event) fun b => ?_
      exact .ite hnext ih

/-- However many rounds it takes: the induction is on the patience that is left. -/
theorem drain (n : Nat) : Keeps P (A.drain tell n) := by
  induction n with
  | zero => exact .get_bind fun s => hA.untilReaction true (.pure _) _
  | succ n ih => exact .get_bind fun s => hA.untilReaction false ih _

/-- Telling of an event keeps what all observers keep. -/
theorem emit (event : Event) : Keeps P (A.emit tell event) := by
  intro s hs
  cases hbusy : s.registry.busy with
  | true =>
      rw [A.emit_busy hbusy]
      exact hA.registry _ hs
  | false =>
      have hdrain := hA.drain (A.patience s.world) (s.delivering event) (hA.registry _ hs)
      rw [A.emit_rest hbusy]
      split
      · next heq => rw [heq] at hdrain; exact hA.registry _ hdrain
      · next heq => rw [heq] at hdrain; exact hA.registry _ hdrain

end Keeper

/-- Telling of an event from outside any notification keeps what the queue and the
observers keep. -/
theorem Keeper.announce {A : Audience W} {P : Session W → Prop}
    (hA : A.Keeper Session.enqueue P) (event : Event) : Keeps P (A.announce event) :=
  hA.emit event

variable {P : ∀ {β : Type}, Call β → Prop} {Q : Operation → Prop}
  (hP : ∀ {β : Type} (call : Call β), P call →
    Keeps (Session.Has Q) (Session.answer (Session.inside (W := W)) call))
  {A : Audience W} (hA : A.MakesOnly Q P)

include hP hA

/-- What all calls of observers keep of the operation, observers keep, for neither their
registration nor what they note is part of it. -/
theorem keeper_has : A.Keeper Session.enqueue (Session.Has Q) where
  registry _ hs := hs
  note _ _ hs := hs
  reaction id event w c hc := Client.run_has hP (hA id event w c hc)

/-- Telling of an event from outside keeps what all calls of observers
keep. -/
theorem announce_has (event : Event) :
    Keeps (Session.Has Q) (A.announce event) :=
  (keeper_has hP hA).announce event

end Audience

end telling

/-- What is upheld is kept by telling, if observers add such actions only. -/
theorem Audience.keeps_announce {W : Type} {A : Audience W}
    {ok : Action → Prop} {Q : Operation → Prop} (hQ : Operation.Upheld ok Q)
    (hA : A.MakesOnly Q (·.Adds ok)) (event : Event) :
    Keeps (Session.Has Q) (A.announce event) :=
  announce_has (fun _ hc => Session.keeps_answer hQ Session.keeps_enqueue hc)
    hA event

end SceneMerge
