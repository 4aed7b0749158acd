/-
What a pass does, from beginning to end. Where running the pending actions
is granted (`Runs`), applying the operation is granted. It makes those of
the pending membership changes whose entities are there, passes the others
over, and lists what it did: `Host.apply_pass`.

Where running them is not granted, there is a first one that is refused
(`runs_or_refused`), and for the reason for which it is refused so is the
whole pass, which leaves everything as it was: `Host.apply_stopped`.
-/
import SceneMerge.Proofs.Review.Execution
import SceneMerge.Proofs.Session.Abort

namespace SceneMerge

open LiveScene

/-- How an action is run is said by the actions that there are. -/
theorem Performed.ofAction_congr {S : Type} [Surface S] {op op' : Operation}
    (h : op'.actions = op.actions) (id : ActionId) (a : Action) :
    (ofAction op' id a : EStateM MergeError S Performed) = ofAction op id a := by
  have hlookup : ∀ other, op'.action? other = op.action? other := by
    intro other
    unfold Operation.action?
    rw [h]
  unfold ofAction conflict
  simp only [hlookup]

/-- An action that is granted is followed by the others. Nobody is told. -/
theorem Host.runActions_alone_ok {op x : Operation} (hx : x.actions = op.actions)
    {id : ActionId} {a : Action} {done : Performed} {l l' : LiveScene}
    (hone : Performed.ofAction op id a l = .ok done l') (rest : List (ActionId × Action))
    (p : Pass) :
    Host.alone.runActions ((id, a) :: rest) p (x, l)
      = Host.alone.runActions rest (p.add id done) (x, l') := by
  have hone' : (onSecond ((Performed.ofAction x id a).adaptExcept .refused) :
      EStateM Halt (Operation × LiveScene) Performed) (x, l) = .ok done (x, l') := by
    rw [Performed.ofAction_congr hx]
    exact onSecond_ok (adaptExcept_ok hone)
  have htell : (onFirst (Host.alone.emit (.actionApplied id)) :
      EStateM Halt (Operation × LiveScene) Unit) (x, l') = .ok () (x, l') := rfl
  rw [Host.runActions_cons]
  exact (bind_ok hone').trans (bind_ok htell)

/-- Running actions lists them, and no memberships. -/
theorem Runs.runActions {op : Operation} {todo : List (ActionId × Action)}
    {l l' : LiveScene} (h : Runs op todo l l') {x : Operation} (hx : x.actions = op.actions) :
    ∀ p, ∃ p', Host.alone.runActions todo p (x, l) = .ok p' (x, l')
      ∧ p'.applied = p.applied ++ todo.map (·.1)
      ∧ p'.memberships = p.memberships := by
  induction h with
  | nil => exact fun p => ⟨p, rfl, (List.append_nil _).symm, rfl⟩
  | @cons id a todo l l₁ l' done hone _ ih =>
      intro p
      obtain ⟨p', hrest, happlied, hmemberships⟩ := ih (p.add id done)
      have hrun : Host.alone.runActions ((id, a) :: todo) p (x, l) = .ok p' (x, l') :=
        (Host.runActions_alone_ok hx hone todo p).trans hrest
      refine ⟨p', hrun, ?_, hmemberships⟩
      rw [happlied, List.map_cons, List.append_cons p.applied id]
      rfl

namespace Host

/-- In an open transaction no membership change is refused: it is made if its entity is
there and passed over if not. -/
theorem runMemberships_ok {σ : Type} (x : σ) (todo : List (Nat × MembershipChange)) :
    ∀ (p : Pass) {l : LiveScene}, l.Open →
      ∃ p' l', runMemberships todo p (x, l) = .ok p' (x, l') ∧ l'.Open
        ∧ l'.scene = l.scene.enroll (todo.map (·.2))
        ∧ p'.applied = p.applied
        ∧ p'.memberships = p.memberships
          ++ (todo.filter fun item => l.scene.contains item.2.entity).map (·.1) := by
  induction todo with
  | nil => exact fun p l hl => ⟨p, l, rfl, hl, rfl, rfl, (List.append_nil _).symm⟩
  | cons item rest ih =>
      intro p l hl
      obtain ⟨index, change⟩ := item
      obtain ⟨done, l₁, hone, hl₁, hscene, hdone⟩ := Performed.membership_ok hl change
      have hone' : (onSecond
          ((Performed.membership change).adaptExcept (.refused ∘ .scene)) :
          EStateM Halt (σ × LiveScene) _) (x, l) = .ok done (x, l₁) :=
        onSecond_ok (adaptExcept_ok hone)
      -- a change touches no entity, so which of the others are made can be said of the
      -- scene before
      have hsame : ∀ n, l₁.scene.contains n = l.scene.contains n := by
        intro n
        rw [hscene]
        rfl
      rw [List.map_cons, Scene.enroll_cons, ← hscene]
      cases done with
      | none =>
          obtain ⟨p', l₂, hrest, hl₂, hscene', happlied, hmade⟩ := ih p hl₁
          refine ⟨p', l₂, (bind_ok hone').trans hrest, hl₂, hscene', happlied, ?_⟩
          rw [hmade, List.filter_cons_of_neg (by simp [← hdone])]
          simp only [hsame]
      | some reverts =>
          obtain ⟨p', l₂, hrest, hl₂, hscene', happlied, hmade⟩ :=
            ih (p.addMembership index reverts) hl₁
          refine ⟨p', l₂, (bind_ok hone').trans hrest, hl₂, hscene', happlied, ?_⟩
          rw [hmade, List.filter_cons_of_pos (by simp [← hdone])]
          simp only [hsame]
          rw [List.map_cons, List.append_cons p.memberships index]
          rfl

/-- Where running what is pending is granted, so is the pass. -/
theorem apply_pass {op : Operation} (hm : op.ensureMutable = .ok ())
    {l l₁ : LiveScene} (ht : l.transaction = none)
    (hruns : Runs op op.pending (l.begun s!"Merge {op.sourcePath}") l₁)
    (hl₁ : l₁.Open) :
    ∃ report p l', (Host.alone.apply :
        EStateM Halt (Operation × LiveScene) ApplyReport) (op, l)
          = .ok report (op.absorb p, l')
      ∧ l'.transaction = none
      ∧ l'.scene = l₁.scene.enroll (op.pendingMemberships.map (·.2))
      ∧ p.applied = op.pending.map (·.1)
      ∧ p.memberships = (op.pendingMemberships.filter fun item =>
          l₁.scene.contains item.2.entity).map (·.1) := by
  let x := Host.alone.fly true op
  obtain ⟨p₁, hactions, happlied₁, hmade₁⟩ := hruns.runActions (x := x) rfl {}
  obtain ⟨p₂, l₂, hmemberships, hl₂, hscene₂, happlied₂, hmade₂⟩ :=
    runMemberships_ok x x.pendingMemberships p₁ hl₁
  have hlook : (onFirst Host.alone.look :
      EStateM Halt (Operation × LiveScene) Operation) (x, l₁)
        = .ok x (x, l₁) := rfl
  have hpass : Host.alone.runPass op (x, l.begun s!"Merge {op.sourcePath}")
      = .ok p₂ (x, l₂) :=
    (bind_ok hactions).trans ((bind_ok hlook).trans hmemberships)
  obtain ⟨l₃, hcommit, hscene₃, hsettled⟩ := hl₂.commit
  have happly := apply_alone hm l
  have hback : Host.alone.fly false x = op := fly_alone (Operation.not_inFlight_of_ensureMutable hm)
  rw [inFlight_ok ht hpass hcommit, hback] at happly
  refine ⟨_, p₂, l₃, happly, hsettled, hscene₃.trans hscene₂, ?_, ?_⟩
  · rw [happlied₂, happlied₁]
    rfl
  · rw [hmade₂, hmade₁]
    rfl

/-- Membership changes do not concern entities. -/
theorem entity?_of_apply {op : Operation} (hm : op.ensureMutable = .ok ())
    {l l₁ : LiveScene} (ht : l.transaction = none)
    (hruns : Runs op op.pending (l.begun s!"Merge {op.sourcePath}") l₁) (hl₁ : l₁.Open)
    {report : ApplyReport} {q : Operation × LiveScene}
    (happly : (Host.alone.apply :
      EStateM Halt (Operation × LiveScene) ApplyReport) (op, l) = .ok report q)
    (n : EntityName) : q.2.scene.entity? n = l₁.scene.entity? n := by
  obtain ⟨report', p, l', happly', -, hscene, -⟩ := apply_pass hm ht hruns hl₁
  rw [happly'] at happly
  cases happly
  rw [hscene]
  rfl

end Host

-- ================================================================ refusal

/-- While the actions are run one after the other it is the turn of one of
them, and the live scene has come to `l'`. -/
def Reaches (op : Operation) (todo : List (ActionId × Action)) (l : LiveScene)
    (id : ActionId) (a : Action) (l' : LiveScene) : Prop :=
  ∃ before after, todo = before ++ (id, a) :: after ∧ Runs op before l l'

variable {op : Operation} {todo : List (ActionId × Action)} {id : ActionId} {a : Action}
  {l₀ l l₁ l₂ : LiveScene} {cause : MergeError}

/-- Either all actions are granted, or there is a first one that is not. -/
theorem runs_or_refused (op : Operation) (todo : List (ActionId × Action)) :
    ∀ l, (∃ l', Runs op todo l l') ∨ ∃ id a l₁ cause l₂, Reaches op todo l id a l₁
      ∧ Performed.ofAction op id a l₁ = .error cause l₂ := by
  induction todo with
  | nil => exact fun l => .inl ⟨l, .nil⟩
  | cons x todo ih =>
      intro l
      obtain ⟨id, a⟩ := x
      cases hone : Performed.ofAction op id a l with
      | error cause l₂ => exact .inr ⟨id, a, l, cause, l₂, ⟨[], todo, rfl, .nil⟩, hone⟩
      | ok done l₁ =>
          rcases ih l₁ with ⟨l', hrest⟩ | ⟨id', a', l', cause, l₂, hreach, herror⟩
          · exact .inl ⟨l', .cons hone hrest⟩
          · obtain ⟨before, after, rfl, hbefore⟩ := hreach
            exact .inr ⟨id', a', l', cause, l₂,
              ⟨(id, a) :: before, after, rfl, .cons hone hbefore⟩, herror⟩

/-- While actions are run the journal leads back. -/
theorem Runs.since (h : Runs op todo l l₁) (hl : Since l₀ l) :
    Since l₀ l₁ := by
  induction h with
  | nil => exact hl
  | cons hone _ ih =>
      exact ih ((KeptByMutations.keeps_ofAction (keptByMutations_since l₀) op _ _).ok hl hone)

/-- A transaction since whose beginning there were no strays is open, and names are
distinct. -/
theorem LiveScene.Since.isOpen (h : Since l₀ l) : l.Open := by
  obtain ⟨j, hj, -⟩ := h.back
  exact ⟨h.wellFormed.distinct, j, hj⟩

/-- An action that is refused ends the run. -/
theorem Reaches.runActions (h : Reaches op todo l id a l₁)
    (herror : Performed.ofAction op id a l₁ = .error cause l₂) {x : Operation}
    (hx : x.actions = op.actions) (p : Pass) :
    Host.alone.runActions todo p (x, l) = .error (.refused cause) (x, l₂) := by
  obtain ⟨before, after, rfl, hbefore⟩ := h
  induction hbefore generalizing p with
  | @nil l₁ =>
      have hone : (onSecond ((Performed.ofAction x id a).adaptExcept .refused) :
          EStateM Halt (Operation × LiveScene) Performed) (x, l₁)
            = .error (.refused cause) (x, l₂) := by
        rw [Performed.ofAction_congr hx]
        unfold onSecond focus EStateM.adaptExcept
        simp only [herror]
      rw [List.nil_append, Host.runActions_cons]
      exact bind_error hone
  | @cons id' a' before l l' l₁ done hone _ ih =>
      exact (Host.runActions_alone_ok hx hone _ p).trans (ih herror (p.add id' done))

namespace Host

/-- Where an action is refused when its turn comes, so is the pass, and it
leaves everything as it was. -/
theorem apply_stopped (hm : op.ensureMutable = .ok ()) (hwf : l.scene.WellFormed)
    (ht : l.transaction = none)
    (h : Reaches op op.pending (l.begun s!"Merge {op.sourcePath}") id a l₁)
    (herror : Performed.ofAction op id a l₁ = .error cause l₂) :
    (Host.alone.apply : EStateM Halt (Operation × LiveScene) ApplyReport) (op, l)
      = .error (.refused cause) (op, l) := by
  have hpass : Host.alone.runPass op (Host.alone.fly true op,
      l.begun s!"Merge {op.sourcePath}") = .error (.refused cause) (Host.alone.fly true op, l₂) :=
    bind_error (h.runActions herror (x := Host.alone.fly true op) rfl {})
  have hbegun : Since l (l.begun s!"Merge {op.sourcePath}") := since_start hwf _
  obtain ⟨before, after, -, hbefore⟩ := h
  have hsince : Since l l₂ := (KeptByMutations.keeps_ofAction
    (keptByMutations_since l) op id a).error (hbefore.since hbegun) herror
  have hback : Host.alone.fly false (Host.alone.fly true op) = op :=
    fly_alone (Operation.not_inFlight_of_ensureMutable hm)
  rw [apply_alone hm, inFlight_stopped ht hpass hsince, hback]

/-- Applying is granted exactly if running what is pending is. -/
theorem apply_granted_iff (hm : op.ensureMutable = .ok ()) (hwf : l.scene.WellFormed)
    (ht : l.transaction = none) :
    (∃ report p, (Host.alone.apply :
        EStateM Halt (Operation × LiveScene) ApplyReport) (op, l) = .ok report p)
      ↔ ∃ l₁, Runs op op.pending (l.begun s!"Merge {op.sourcePath}") l₁ := by
  constructor
  · rintro ⟨report, p, happly⟩
    rcases runs_or_refused op op.pending (l.begun s!"Merge {op.sourcePath}") with
      hruns | ⟨id, a, l₁, cause, l₂, hreach, herror⟩
    · exact hruns
    · rw [apply_stopped hm hwf ht hreach herror] at happly
      cases happly
  · rintro ⟨l₁, hruns⟩
    obtain ⟨report, p, l', happly, -⟩ := apply_pass hm ht hruns
      (hruns.since (since_start hwf _)).isOpen
    exact ⟨report, _, happly⟩

end Host

end SceneMerge
