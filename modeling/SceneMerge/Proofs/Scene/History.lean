/-
The history of a live scene refines one that keeps whole scenes. The
reference (`Copies`) remembers what the scene was, before and after, and
undoing and redoing move one scene over. The live scene remembers edits
only, and what redoing makes are not the edits that were undone but what
was collected on the way back, which may be more of them. That the two go
together, whatever is called in whatever order, is `history_of_copies`.

# The invariant

Every journal of either stack leads from one of the reference's scenes to
the next one (`Trail`), beginning at the scene that was there when the
stacks were last touched: the present one, or the one that was there when
the open transaction was begun (`Copies.settled`). Replaying a journal
moves along the trail by one, and what is collected leads back
(`Trail.replay`), so it belongs on the trail of the other stack.
-/
import SceneMerge.Proofs.Scene.Rollback

namespace SceneMerge

-- =============================================================== requests

/-- A mutation without its answer. -/
def Mutation.forget {α : Type} (m : Mutation α) : Mutation Unit := fun s =>
  (m s).map fun r => { r with result := () }

namespace Request

/-- What a request makes of a scene. -/
def mutation : Request → Mutation Unit
  | .insertEntity e => fun s => s.insertEntityAt s.entities.length e
  | .insertEntityAt index e => Scene.insertEntityAt index e
  | .removeEntity n => (Scene.removeEntity n).forget
  | .setValue n key value => (Scene.setValue n key value).forget
  | .removeValue n key => (Scene.removeValue n key).forget
  | .insertChild n child => fun s =>
      match s.entity? n with
      | none => .error (.entityNotFound n)
      | some e => s.insertChildAt n e.children.length child
  | .insertChildAt n index child => Scene.insertChildAt n index child
  | .removeChild n f => (Scene.removeChild n f).forget
  | .setMember g n b => (Scene.setMember g n b).forget

/-- What a request asks for is one of the mutations that are reversible, for an
insertion without a position is one at the end. -/
theorem reversible_mutation (r : Request) : r.mutation.Reversible := by
  cases r with
  | insertEntity e => exact fun s => Scene.reversible_insertEntityAt _ e s
  | insertEntityAt index e => exact Scene.reversible_insertEntityAt index e
  | removeEntity n => exact .forget (Scene.reversible_removeEntity n)
  | setValue n key value => exact .forget (Scene.reversible_setValue n key value)
  | removeValue n key => exact .forget (Scene.reversible_removeValue n key)
  | insertChild n child =>
      intro s r hs hr
      unfold mutation at hr
      cases he : s.entity? n with
      | none => simp only [he] at hr; cases hr
      | some e =>
          simp only [he] at hr
          exact Scene.reversible_insertChildAt n _ child s r hs hr
  | insertChildAt n index child =>
      exact Scene.reversible_insertChildAt n index child
  | removeChild n f => exact .forget (Scene.reversible_removeChild n f)
  | setMember g n b => exact .forget (Scene.reversible_setMember g n b)

/-- Whatever is granted leaves something to be taken back. -/
theorem inverse_ne_nil (r : Request) {s : Scene} {x : Edited Unit}
    (h : r.mutation s = .ok x) : x.inverse ≠ [] := by
  cases r with
  | insertEntity e =>
      obtain ⟨-, -, rfl⟩ := Scene.insertEntityAt_ok_iff.1 h
      simp
  | insertEntityAt index e =>
      obtain ⟨-, -, rfl⟩ := Scene.insertEntityAt_ok_iff.1 h
      simp
  | removeEntity n =>
      obtain ⟨x', hx, rfl⟩ := of_forget_ok h
      obtain ⟨e, -, rfl⟩ := Scene.removeEntity_ok_iff.1 hx
      simp
  | setValue n key value =>
      obtain ⟨x', hx, rfl⟩ := of_forget_ok h
      obtain ⟨e, -, rfl⟩ := Scene.setValue_ok_iff.1 hx
      simp
  | removeValue n key =>
      obtain ⟨x', hx, rfl⟩ := of_forget_ok h
      obtain ⟨e, old, -, -, rfl⟩ := Scene.removeValue_ok_iff.1 hx
      simp
  | insertChild n child =>
      unfold mutation at h
      cases he : s.entity? n with
      | none => simp only [he] at h; cases h
      | some e =>
          simp only [he] at h
          obtain ⟨e', -, -, rfl⟩ := Scene.insertChildAt_ok_iff.1 h
          simp
  | insertChildAt n index child =>
      obtain ⟨e, -, -, rfl⟩ := Scene.insertChildAt_ok_iff.1 h
      simp
  | removeChild n f =>
      obtain ⟨x', hx, rfl⟩ := of_forget_ok h
      obtain ⟨e, i, x'', -, -, hat, rfl⟩ := Scene.removeChild_ok_iff.1 hx
      -- the child is removed at its position, and it is that mutation which says how to
      -- take it back
      obtain ⟨e', child, -, -, rfl⟩ := Scene.removeChildAt_ok_iff.1 hat
      simp
  | setMember g n b =>
      obtain ⟨x', hx, rfl⟩ := of_forget_ok h
      obtain ⟨-, rfl⟩ := Scene.setMember_ok_iff.1 hx
      simp

/-- Not looking at the answer of a mutation is the same as there being
none. -/
private theorem mutate_forget {α : Type} (m : Mutation α) (l : LiveScene) :
    (do let _ ← (Surface.mutate m : EStateM SceneError LiveScene α) :
        EStateM SceneError LiveScene Unit) l = LiveScene.mutate m.forget l := by
  cases hm : m l.scene with
  | error e =>
      have hrun : (Surface.mutate m : EStateM SceneError LiveScene α) l
          = .error e l := by
        show LiveScene.mutate m l = _
        unfold LiveScene.mutate
        rw [hm]
      unfold LiveScene.mutate Mutation.forget
      rw [bind_error hrun, hm]
      rfl
  | ok r =>
      have hrun : (Surface.mutate m : EStateM SceneError LiveScene α) l
          = .ok r.result
              { l with scene := r.scene, transaction := l.record r.inverse } := by
        show LiveScene.mutate m l = _
        unfold LiveScene.mutate
        rw [hm]
      unfold LiveScene.mutate Mutation.forget
      rw [bind_ok hrun, hm]
      rfl

/-- The call of a request is its mutation, answers forgotten. -/
theorem call_eq (r : Request) (l : LiveScene) :
    (r.call : EStateM SceneError LiveScene Unit) l
      = LiveScene.mutate r.mutation l := by
  cases r with
  | insertEntity e => rfl
  | insertEntityAt index e => rfl
  | removeEntity n => exact mutate_forget _ l
  | setValue n key value => exact mutate_forget _ l
  | removeValue n key => exact mutate_forget _ l
  | insertChild n child =>
      cases he : l.scene.entity? n with
      | none =>
          refine (Surface.insertChild_error he child).trans ?_
          unfold LiveScene.mutate mutation
          simp only [he]
      | some e =>
          refine (Surface.insertChild_eq he child).trans ?_
          show LiveScene.mutate _ l = _
          unfold LiveScene.mutate mutation
          simp only [he]
  | insertChildAt n index child => rfl
  | removeChild n f => exact mutate_forget _ l
  | setMember g n b => exact mutate_forget _ l

end Request

-- ============================================================ the reference

/-- A transaction, with the whole scene as it was when it was begun. -/
structure Draft where
  label : String
  origin : Scene
  /-- A mutation was granted since. -/
  changed : Bool

/-- A scene with a history of whole scenes, the nearest first. -/
structure Copies where
  past : List Scene := []
  present : Scene
  future : List Scene := []
  /-- The transaction that is open. -/
  draft : Option Draft := none

namespace Copies

def ask (r : Request) : EStateM SceneError Copies Unit := fun c =>
  match r.mutation c.present with
  | .error e => .error e c
  | .ok x =>
      .ok () { c with
        present := x.scene
        draft := c.draft.map ({ · with changed := true }) }

def start (label : String) : EStateM SceneError Copies Unit := fun c =>
  match c.draft with
  | some d => .error (.transactionOpen d.label) c
  | none => .ok () { c with draft := some ⟨label, c.present, false⟩ }

/-- The scene as it was before is past, if anything was changed, and then
there is no future any more. -/
def commit : EStateM SceneError Copies Unit := fun c =>
  match c.draft with
  | none => .error .noTransaction c
  | some d =>
      if d.changed then
        .ok () { c with draft := none, past := d.origin :: c.past, future := [] }
      else
        .ok () { c with draft := none }

def rollback : EStateM SceneError Copies Unit := fun c =>
  match c.draft with
  | none => .error .noTransaction c
  | some d => .ok () { c with draft := none, present := d.origin }

def undo : EStateM SceneError Copies Bool := fun c =>
  match c.draft, c.past with
  | some d, _ => .error (.transactionOpen d.label) c
  | none, [] => .ok false c
  | none, s :: past =>
      .ok true { c with past, present := s, future := c.present :: c.future }

def redo : EStateM SceneError Copies Bool := fun c =>
  match c.draft, c.future with
  | some d, _ => .error (.transactionOpen d.label) c
  | none, [] => .ok false c
  | none, s :: future =>
      .ok true { c with past := c.present :: c.past, present := s, future }

/-- The scene that the history is about: with a transaction open, the one
that it was begun in. -/
def settled (c : Copies) : Scene :=
  (c.draft.map (·.origin)).getD c.present

end Copies

-- ================================================================== steps

/-- A call that concerns the scene or its history. -/
inductive HistoryStep where
  | start (label : String)
  | ask (r : Request)
  | commit
  | rollback
  | undo
  | redo

namespace HistoryStep

/-- The call on a live scene; answers what undoing and redoing answer. -/
def live : HistoryStep → EStateM SceneError LiveScene (Option Bool)
  | .start label => do
      LiveScene.start label
      return none
  | .ask r => do
      r.call
      return none
  | .commit => do
      LiveScene.commit
      return none
  | .rollback => do
      LiveScene.rollback
      return none
  | .undo => do return some (← LiveScene.undo)
  | .redo => do return some (← LiveScene.redo)

/-- The same on the reference. -/
def copied : HistoryStep → EStateM SceneError Copies (Option Bool)
  | .start label => do
      Copies.start label
      return none
  | .ask r => do
      Copies.ask r
      return none
  | .commit => do
      Copies.commit
      return none
  | .rollback => do
      Copies.rollback
      return none
  | .undo => do return some (← Copies.undo)
  | .redo => do return some (← Copies.redo)

/-- Makes one call after the other, refused or not. -/
def play : List HistoryStep → LiveScene → LiveScene
  | [], l => l
  | step :: rest, l => play rest (finalState (step.live l))

def copy : List HistoryStep → Copies → Copies
  | [], c => c
  | step :: rest, c => copy rest (finalState (step.copied c))

def isRequest : HistoryStep → Bool
  | .ask _ => true
  | _ => false

/-- Mutations are asked for only while a transaction is open. -/
def Journaled : List HistoryStep → LiveScene → Prop
  | [], _ => True
  | step :: rest, l =>
      (step.isRequest = true → l.transaction.isSome = true)
        ∧ Journaled rest (finalState (step.live l))

end HistoryStep

-- =============================================================== the trail

/-- The journals lead along the scenes, one step each, from `s` on. -/
inductive Trail : List Journal → Scene → List Scene → Prop where
  | nil {s : Scene} : Trail [] s []
  | cons {j : Journal} {js : List Journal} {s t : Scene} {ts : List Scene} :
      Leads j.inverse s t → Trail js t ts → Trail (j :: js) s (t :: ts)

/-- A trail has one scene for each journal. -/
theorem Trail.length_eq {js : List Journal} {s : Scene} {ts : List Scene}
    (h : Trail js s ts) : js.length = ts.length := by
  induction h with
  | nil => rfl
  | cons _ _ ih => rw [List.length_cons, List.length_cons, ih]

/-- Replaying the first journal arrives at the next scene of the trail, and
what is collected leads back. -/
theorem Trail.replay {j : Journal} {js : List Journal} {s : Scene}
    {ts : List Scene} (h : Trail (j :: js) s ts) (hs : s.WellFormed) :
    ∃ t rest back, ts = t :: rest ∧ t.WellFormed ∧ Trail js t rest
      ∧ Leads back t s ∧ s.replay [] j.inverse = ⟨t, back, none⟩ := by
  cases h with
  | cons hlead htrail =>
      obtain ⟨ht, back, hback, hreplay⟩ := hlead.reverse hs
      refine ⟨_, _, back, rfl, ht, htrail, hback, ?_⟩
      rw [hreplay, List.append_nil]

/-- The journal of an open transaction leads to where it was begun. -/
structure Drafted (s : Scene) (j : Journal) (d : Draft) : Prop where
  label : j.label = d.label
  back : Leads j.inverse s d.origin
  changed : d.changed = !j.inverse.isEmpty

/-- The live scene and the reference go together. -/
structure Pictures (c : Copies) (l : LiveScene) : Prop where
  wellFormed : l.scene.WellFormed
  present : l.scene = c.present
  undos : Trail l.undos c.settled c.past
  redos : Trail l.redos c.settled c.future
  draft : Option.Rel (Drafted l.scene) l.transaction c.draft

-- ============================================================ one call each

/-- What a call answers, without the state it leaves behind. -/
def answer {ε σ α : Type} : EStateM.Result ε σ α → Except ε α
  | .ok a _ => .ok a
  | .error e _ => .error e

/-- The two calls answer alike, and leave behind what goes together. -/
def Together {α : Type} (call : EStateM SceneError LiveScene α)
    (copied : EStateM SceneError Copies α) (c : Copies) (l : LiveScene) : Prop :=
  answer (call l) = answer (copied c)
    ∧ Pictures (finalState (copied c)) (finalState (call l))

/-- Answers may be worked up. -/
theorem Together.map {α β : Type} {call : EStateM SceneError LiveScene α}
    {copied : EStateM SceneError Copies α} {c : Copies} {l : LiveScene}
    (h : Together call copied c l) (f : α → β) :
    Together (call >>= fun a => pure (f a)) (copied >>= fun a => pure (f a))
      c l := by
  obtain ⟨hanswer, hpictures⟩ := h
  unfold Together
  cases hcall : call l with
  | ok a l' =>
      cases hcopied : copied c with
      | ok a' c' =>
          rw [hcall, hcopied] at hanswer hpictures
          cases hanswer
          rw [bind_ok hcall, bind_ok hcopied]
          exact ⟨rfl, hpictures⟩
      | error e c' => rw [hcall, hcopied] at hanswer; cases hanswer
  | error e l' =>
      cases hcopied : copied c with
      | ok a' c' => rw [hcall, hcopied] at hanswer; cases hanswer
      | error e' c' =>
          rw [hcall, hcopied] at hanswer hpictures
          cases hanswer
          rw [bind_error hcall, bind_error hcopied]
          exact ⟨rfl, hpictures⟩

namespace Pictures

variable {c : Copies} {l : LiveScene}

/-- Either no transaction is open, or one is, in both. -/
theorem cases_draft (h : Pictures c l) :
    (l.transaction = none ∧ c.draft = none)
      ∨ ∃ j d, l.transaction = some j ∧ c.draft = some d
        ∧ Drafted l.scene j d := by
  have hdraft := h.draft
  cases hj : l.transaction with
  | none =>
      rw [hj] at hdraft
      cases hd : c.draft with
      | none => exact .inl ⟨rfl, rfl⟩
      | some d => rw [hd] at hdraft; cases hdraft
  | some j =>
      rw [hj] at hdraft
      cases hd : c.draft with
      | none => rw [hd] at hdraft; cases hdraft
      | some d =>
          rw [hd] at hdraft
          exact .inr ⟨j, d, rfl, rfl, Option.rel_some_some.1 hdraft⟩

/-- With no draft the present scene is what the stacks go by. -/
theorem settled_eq (hd : c.draft = none) : c.settled = c.present := by
  unfold Copies.settled
  rw [hd]
  rfl

/-- In a draft the stacks go by the scene that it began with. -/
theorem settled_draft {d : Draft} (hd : c.draft = some d) :
    c.settled = d.origin := by
  unfold Copies.settled
  rw [hd]
  rfl

/-- A transaction that is begun drafts from the present scene, with an empty way back.
-/
theorem start (h : Pictures c l) (label : String) :
    Together (LiveScene.start label) (Copies.start label) c l := by
  unfold Together LiveScene.start Copies.start
  rcases h.cases_draft with ⟨hj, hd⟩ | ⟨j, d, hj, hd, hdrafted⟩
  · have hundos := h.undos
    have hredos := h.redos
    rw [settled_eq hd] at hundos hredos
    simp only [hj, hd]
    refine ⟨rfl, h.wellFormed, h.present, hundos, hredos, .some ⟨rfl, ?_, rfl⟩⟩
    show Leads [] l.scene c.present
    rw [h.present]
    exact .nil
  · simp only [hj, hd, hdrafted.label]
    exact ⟨rfl, h⟩

/-- A mutation in a transaction prepends its way back to the journal. -/
theorem ask (h : Pictures c l) (r : Request) (hopen : l.transaction.isSome = true) :
    Together r.call (Copies.ask r) c l := by
  rcases h.cases_draft with ⟨hj, -⟩ | ⟨j, d, hj, hd, hdrafted⟩
  · rw [hj] at hopen
    cases hopen
  · unfold Together
    rw [r.call_eq]
    unfold LiveScene.mutate Copies.ask
    rw [← h.present]
    cases hr : r.mutation l.scene with
    | error e => exact ⟨rfl, h⟩
    | ok x =>
        obtain ⟨hwf, hlead⟩ := r.reversible_mutation.exact h.wellFormed hr
        have hundos := h.undos
        have hredos := h.redos
        rw [settled_draft hd] at hundos hredos
        refine ⟨rfl, hwf, rfl, ?_, ?_, ?_⟩
        · simpa [finalState, Copies.settled, hd] using hundos
        · simpa [finalState, Copies.settled, hd] using hredos
        · simp only [finalState, LiveScene.record, hj, hd, Option.map_some]
          refine .some ⟨hdrafted.label, hlead.append hdrafted.back, ?_⟩
          simp [r.inverse_ne_nil hr]

/-- The journal of a transaction becomes the first step of the trail. -/
theorem commit (h : Pictures c l) :
    Together LiveScene.commit Copies.commit c l := by
  unfold Together LiveScene.commit Copies.commit
  rcases h.cases_draft with ⟨hj, hd⟩ | ⟨j, d, hj, hd, hdrafted⟩
  · simp only [hj, hd]
    exact ⟨rfl, h⟩
  · have hundos := h.undos
    have hredos := h.redos
    rw [settled_draft hd] at hundos hredos
    have hback := hdrafted.back
    cases hempty : j.inverse.isEmpty with
    -- an empty journal leads nowhere, so the present scene is the one that the stacks
    -- go by, and no step is added
    | true =>
        have hchanged : d.changed = false := by rw [hdrafted.changed, hempty]; rfl
        rw [List.isEmpty_iff.1 hempty] at hback
        have hsame : c.present = d.origin := h.present.symm.trans hback.eq_of_nil
        rw [← hsame] at hundos hredos
        simp only [hj, hd, hempty, hchanged]
        exact ⟨rfl, h.wellFormed, h.present, hundos, hredos, .none⟩
    -- the journal leads from the present scene to the draft's, where the trail goes on;
    -- what could be redone is forgotten
    | false =>
        have hchanged : d.changed = true := by rw [hdrafted.changed, hempty]; rfl
        rw [h.present] at hback
        simp only [hj, hd, hempty, hchanged]
        exact ⟨rfl, h.wellFormed, h.present, .cons hback hundos, .nil, .none⟩

/-- Rolling back returns to the scene that the draft began with, and that is where both
trails begin. -/
theorem rollback (h : Pictures c l) :
    Together LiveScene.rollback Copies.rollback c l := by
  unfold Together LiveScene.rollback Copies.rollback
  rcases h.cases_draft with ⟨hj, hd⟩ | ⟨j, d, hj, hd, hdrafted⟩
  · simp only [hj, hd]
    exact ⟨rfl, h⟩
  · have hundos := h.undos
    have hredos := h.redos
    rw [settled_draft hd] at hundos hredos
    obtain ⟨hwf, back, -, hreplay⟩ := hdrafted.back.reverse h.wellFormed
    simp only [hj, hd, hreplay]
    exact ⟨rfl, hwf, rfl, hundos, hredos, .none⟩

/-- Undoing moves back by one, and what it collects leads forth again. -/
theorem undo (h : Pictures c l) : Together LiveScene.undo Copies.undo c l := by
  unfold Together LiveScene.undo Copies.undo
  rcases h.cases_draft with ⟨hj, hd⟩ | ⟨j, d, hj, hd, hdrafted⟩
  · have hundos := h.undos
    have hredos := h.redos
    rw [settled_eq hd, ← h.present] at hundos hredos
    -- the stack is empty just if the trail is
    cases hjs : l.undos with
    | nil =>
        rw [hjs] at hundos
        generalize hts : c.past = ts at hundos
        cases hundos
        simp only [hj, hd]
        exact ⟨rfl, h⟩
    | cons j js =>
        rw [hjs] at hundos
        obtain ⟨t, rest, back, hts, hwf, htrail, hback, hreplay⟩ :=
          hundos.replay h.wellFormed
        simp only [hj, hd, hts, hreplay, ← h.present]
        exact ⟨rfl, hwf, rfl, htrail, .cons hback hredos, .none⟩
  · simp only [hj, hd, hdrafted.label]
    exact ⟨rfl, h⟩

/-- Redoing is undoing, with the stacks exchanged. -/
theorem redo (h : Pictures c l) : Together LiveScene.redo Copies.redo c l := by
  unfold Together LiveScene.redo Copies.redo
  rcases h.cases_draft with ⟨hj, hd⟩ | ⟨j, d, hj, hd, hdrafted⟩
  · have hundos := h.undos
    have hredos := h.redos
    rw [settled_eq hd, ← h.present] at hundos hredos
    -- the stack is empty just if the trail is
    cases hjs : l.redos with
    | nil =>
        rw [hjs] at hredos
        generalize hts : c.future = ts at hredos
        cases hredos
        simp only [hj, hd]
        exact ⟨rfl, h⟩
    | cons j js =>
        rw [hjs] at hredos
        obtain ⟨t, rest, back, hts, hwf, htrail, hback, hreplay⟩ :=
          hredos.replay h.wellFormed
        simp only [hj, hd, hts, hreplay, ← h.present]
        exact ⟨rfl, hwf, rfl, .cons hback hundos, htrail, .none⟩
  · simp only [hj, hd, hdrafted.label]
    exact ⟨rfl, h⟩

-- =================================================================== runs

/-- Whatever is called, scene and reference go on together. -/
theorem step (h : Pictures c l) (step : HistoryStep)
    (hopen : step.isRequest = true → l.transaction.isSome = true) :
    Together step.live step.copied c l := by
  cases step with
  | start label => exact (h.start label).map fun _ => none
  | ask r => exact (h.ask r (hopen rfl)).map fun _ => none
  | commit => exact h.commit.map fun _ => none
  | rollback => exact h.rollback.map fun _ => none
  | undo => exact h.undo.map some
  | redo => exact h.redo.map some

/-- Whatever is called, step by step, the two go together. -/
theorem play (steps : List HistoryStep) :
    ∀ {c : Copies} {l : LiveScene}, Pictures c l → HistoryStep.Journaled steps l →
      Pictures (HistoryStep.copy steps c) (HistoryStep.play steps l) := by
  induction steps with
  | nil => exact fun h _ => h
  | cons step rest ih =>
      intro c l h hjournaled
      exact ih (h.step step hjournaled.1).2 hjournaled.2

end Pictures

-- ================================================================== result

/-- A live scene without a history is played along with a reference that
keeps whole scenes. Whatever is called, the scenes are the same, and so is
how often can be undone and redone. While a transaction is open undoing and
redoing are refused; otherwise they answer whether there is anything to go
to. -/
theorem history_of_copies {l₀ : LiveScene} (hwf : l₀.scene.WellFormed)
    (ht : l₀.transaction = none) (hu : l₀.undos = []) (hr : l₀.redos = [])
    (steps : List HistoryStep) (hj : HistoryStep.Journaled steps l₀) :
    let l := HistoryStep.play steps l₀
    let c := HistoryStep.copy steps { present := l₀.scene }
    l.scene = c.present
      ∧ l.undos.length = c.past.length ∧ l.redos.length = c.future.length
      ∧ (l.transaction.map (·.label) = c.draft.map (·.label))
      ∧ (∀ j, l.transaction = some j →
          answer (LiveScene.undo l) = .error (.transactionOpen j.label)
            ∧ answer (LiveScene.redo l) = .error (.transactionOpen j.label))
      ∧ (l.transaction = none →
          answer (LiveScene.undo l) = .ok (!c.past.isEmpty)
            ∧ answer (LiveScene.redo l) = .ok (!c.future.isEmpty)) := by
  intro l c
  -- without a history there is nothing to picture but the scene
  have hstart : Pictures { present := l₀.scene } l₀ := by
    refine ⟨hwf, rfl, ?_, ?_, ?_⟩
    · rw [hu]; exact .nil
    · rw [hr]; exact .nil
    · rw [ht]; exact .none
  have h : Pictures c l := hstart.play steps hj
  have hundo := h.undo.1
  have hredo := h.redo.1
  refine ⟨h.present, h.undos.length_eq, h.redos.length_eq, ?_, ?_, ?_⟩
  · rcases h.cases_draft with ⟨hj, hd⟩ | ⟨j, d, hj, hd, hdrafted⟩
    · rw [hj, hd]; rfl
    · rw [hj, hd]
      exact congrArg some hdrafted.label
  · intro j hj
    unfold LiveScene.undo LiveScene.redo
    simp only [hj]
    exact ⟨rfl, rfl⟩
  · intro hj
    rcases h.cases_draft with ⟨-, hd⟩ | ⟨j, d, hj', -, -⟩
    · rw [hundo, hredo]
      unfold Copies.undo Copies.redo
      cases hp : c.past <;> cases hf : c.future <;> simp only [hd] <;>
        exact ⟨rfl, rfl⟩
    · rw [hj] at hj'
      cases hj'

/-- A wall that is alone in its layer is removed, which takes two edits to
take back. Undoing brings it back and redoing removes it again. -/
theorem history_of_copies_wall :
    let wall : Entity := { name := "wall" }
    let l₀ : LiveScene :=
      { scene := ⟨[wall], ({} : Metadata).put (.layer "ground") "wall" true⟩ }
    let steps : List HistoryStep :=
      [.start "edit", .ask (.removeEntity "wall"), .commit, .undo]
    let l := HistoryStep.play steps l₀
    l₀.scene.WellFormed ∧ l₀.transaction = none ∧ l₀.undos = [] ∧ l₀.redos = []
      ∧ HistoryStep.Journaled steps l₀
      ∧ l.scene = l₀.scene ∧ l.undos.length = 0 ∧ l.redos.length = 1
      ∧ answer (LiveScene.undo l) = .ok false
      ∧ answer (LiveScene.redo l) = .ok true := by
  intro wall l₀ steps l
  have hwf : l₀.scene.WellFormed := by
    have hempty : (⟨[wall], {}⟩ : Scene).WellFormed :=
      ⟨List.nodup_singleton _, Metadata.pruned_empty, by simp⟩
    exact hempty.put (n := "wall") rfl (.layer "ground") true
  have hjournaled : HistoryStep.Journaled steps l₀ :=
    ⟨nofun, fun _ => rfl, nofun, nofun, trivial⟩
  obtain ⟨hscene, hundos, hredos, -, -, hanswer⟩ :=
    history_of_copies hwf rfl rfl rfl steps hjournaled
  obtain ⟨hundo, hredo⟩ := hanswer rfl
  exact ⟨hwf, rfl, rfl, rfl, hjournaled, hscene, hundos, hredos, hundo, hredo⟩

end SceneMerge
