/-
Where an operation stands: whether it is in flight, and in which state it is.
Building and reviewing get it no further (`Operation.NoFurther`), and an operation
that takes no changes stays where it is, whoever calls and whoever is told
(`Session.keeps_status`). That is so in flight, and it is so for good once the
operation is closed.

So a pass that is refused leaves the state as it was, and a pass that is granted
finds it so when it lands: observers that are told in between get nothing done
(`Host.flown_of_apply_ok`, `Session.of_flown`). What observers keep in flight
beside that is passed on.
-/
import SceneMerge.Proofs.Review.Staging
import SceneMerge.Proofs.Session.Undisturbed

namespace SceneMerge

-- ================================================================= operations

namespace Operation

variable {op op' : Operation}

/-- Nothing is applied, and there is nothing to take back. -/
structure Unapplied (op : Operation) : Prop where
  applied : op.applied = []
  memberships : op.appliedMemberships = []
  journal : op.journal = []
  staged : op.staged = ∅

/-- The operation has got no further than it was. -/
structure NoFurther (op op' : Operation) : Prop where
  inFlight : op'.inFlight = op.inFlight
  state : op'.state = op.state
  populated : op'.populated = op.populated
  applied : op'.applied = op.applied
  memberships : op'.appliedMemberships = op.appliedMemberships
  unapplied : op.Unapplied → op'.Unapplied

/-- One change that gets the operation no further, then another. -/
theorem NoFurther.trans {op'' : Operation} (h : op.NoFurther op') (h' : op'.NoFurther op'') :
    op.NoFurther op'' where
  inFlight := h'.inFlight.trans h.inFlight
  state := h'.state.trans h.state
  populated := h'.populated.trans h.populated
  applied := h'.applied.trans h.applied
  memberships := h'.memberships.trans h.memberships
  unapplied := h'.unapplied ∘ h.unapplied

/-- Where nothing is staged there is nothing to take out. -/
private theorem unstage_empty (id : ActionId) : (∅ : StagedNodes).unstage id = ∅ := by
  refine Std.ExtTreeMap.ext_getElem? fun {q} => ?_
  rw [StagedNodes.getElem?_unstage]
  simp

/-- Staged nodes are brought up to date for what was applied. If nothing was, they stay
empty. -/
theorem noFurther_restage (op : Operation) (id : ActionId) (a : Action) (active : Bool) :
    op.NoFurther (op.restage id a active) := by
  obtain ⟨staged, heq⟩ := restage_eq op id a active
  refine ⟨by rw [heq], by rw [heq], by rw [heq], by rw [heq], by rw [heq], fun h => ?_⟩
  obtain ⟨happlied, hmemberships, hjournal, hstaged⟩ := h
  refine ⟨by rw [heq, happlied], by rw [heq, hmemberships], by rw [heq, hjournal], ?_⟩
  unfold restage
  rw [happlied, hstaged]
  cases active with
  | true => simpa using hstaged
  | false => exact unstage_empty id

/-- Building and reviewing get an operation no further. -/
theorem changedByReviews_noFurther : ChangedByReviews (fun _ => True) NoFurther where
  proposed _ _ := trivial
  addAction _ := ⟨rfl, rfl, rfl, rfl, rfl, fun h => ⟨h.1, h.2, h.3, h.4⟩⟩
  addConflict _ _ := ⟨rfl, rfl, rfl, rfl, rfl, fun h => ⟨h.1, h.2, h.3, h.4⟩⟩
  addMembership := ⟨rfl, rfl, rfl, rfl, rfl, fun h => ⟨h.1, h.2, h.3, h.4⟩⟩
  options _ := ⟨rfl, rfl, rfl, rfl, rfl, fun h => ⟨h.1, h.2, h.3, h.4⟩⟩
  setActive {op op' id active} h := by
    obtain ⟨a, -, -, -, rfl⟩ := of_setActive_ok h
    have hself : op.NoFurther (op.modifyAction id ({ · with active })) :=
      ⟨rfl, rfl, rfl, rfl, rfl, fun h => ⟨h.1, h.2, h.3, h.4⟩⟩
    split
    · exact hself.trans (noFurther_restage _ id a active)
    · exact hself
  setMembershipActive h := by
    obtain rfl := of_setMembershipActive_ok h
    exact ⟨rfl, rfl, rfl, rfl, rfl, fun h => ⟨h.1, h.2, h.3, h.4⟩⟩
  setResolution {op op' id r} h := by
    obtain ⟨a, c, -, -, rfl⟩ := of_setResolution_ok h
    have hself : op.NoFurther (op.decided id c r) :=
      ⟨rfl, rfl, rfl, rfl, rfl, fun h => ⟨h.1, h.2, h.3, h.4⟩⟩
    exact hself.trans (noFurther_restage _ id a _)

/-- Whether the operation is in flight, and its state. -/
def status (op : Operation) : Bool × MergeState := (op.inFlight, op.state)

/-- Whether an operation takes changes, and what it says if it does not, is said by its
status. -/
theorem ensureMutable_congr {op op' : Operation} (h : op'.status = op.status) :
    op'.ensureMutable = op.ensureMutable := by
  obtain ⟨hfly, hstate⟩ := Prod.mk.inj h
  unfold ensureMutable refusal?
  rw [hfly, hstate]

/-- Building and reviewing leave the status of an operation as it is. -/
theorem keptByReviews_status (st : Bool × MergeState) :
    KeptByReviews (fun _ => True) (·.status = st) := by
  refine changedByReviews_noFurther.kept (fun hop h => ?_) id
  rw [← h, status, hop.inFlight, hop.state]
  rfl

end Operation

namespace Session

variable {W α : Type}

/-- Telling gets nothing done of an operation that takes no changes. -/
def Heeds (tell : Event → EStateM SubscriptionId (Session W) Unit) : Prop :=
  ∀ ⦃op₀ : Operation⦄ ⦃e : MergeError⦄, op₀.ensureMutable = .error e → ∀ event,
    Keeps (Has fun op => op.status = op₀.status) (tell event)

/-- No call gets anything done of an operation that takes no changes, if telling does
not. -/
theorem keeps_status {tell : Event → EStateM SubscriptionId (Session W) Unit}
    (hh : Heeds tell) {op₀ : Operation} {e : MergeError}
    (he : op₀.ensureMutable = .error e) (call : Call α) :
    Keeps (Has fun op => op.status = op₀.status) (answer (host tell) call) :=
  keeps_answer_barred (Operation.keptByReviews_status op₀.status)
    (fun _ h => ⟨e, (Operation.ensureMutable_congr h).trans he⟩) (hh he) call.adds_any

/-- Leaving events to others gets nothing done at all. -/
theorem heeds_enqueue : Heeds (enqueue (W := W)) :=
  fun _ _ _ event => keeps_enqueue event

/-- Telling an audience gets nothing done: whatever observers ask for is turned down,
since the operation takes no changes for as long as its status is the same, which is
what every call of theirs keeps. -/
theorem heeds_announce (A : Audience W) : Heeds A.announce :=
  fun _ _ he event => Audience.announce_has (P := fun _ => True)
    (fun call _ => keeps_status heeds_enqueue he call)
    (fun _ _ _ c _ => c.makesOnly_any fun _ => trivial) event

end Session

-- ==================================================================== flights

namespace Host

variable {σ S : Type} [Surface S] {h : Host σ} {P : σ → Prop} {s : σ} {x : S}

/-- What is left of a host that may have flown: it is as it was, or as what is kept in
flight leaves it. -/
def Flown (h : Host σ) (P : σ → Prop) (s t : σ) : Prop :=
  t = s ∨ (P (h.fly true s) → ∃ u, P u ∧ t = h.fly false u)

/-- A call in flight leaves the host as its body left it when it was marked, and
unmarked. -/
theorem flown_inFlight {α : Type} (label : String) {body : EStateM Halt (σ × S) α}
    (hbody : Keeps (fun p => P p.1) body) :
    h.Flown P s (finalState (h.inFlight label body (s, x))).1 :=
  .inr fun hs => finalState_inFlight label hbody hs x

omit [Surface S] in
/-- Whoever told and was not stopped, told. -/
theorem of_emit_ok {event : Event} {t : σ} (hrun : h.emit event s = .ok () t) :
    h.tell event s = .ok () t := by
  unfold emit EStateM.adaptExcept at hrun
  split at hrun
  · cases hrun
  · next htell =>
      cases hrun
      exact htell

/-- The call tells of the event, and comes to its end if telling does. -/
private def Ends (h : Host σ) (event : Event) {β : Type} (rest : EStateM Halt (σ × S) β) : Prop :=
  ∀ s x, (∃ u b, h.tell event s = .ok () u ∧ rest (s, x) = .ok b (u, x))
    ∨ ∃ id u, h.tell event s = .error id u ∧ rest (s, x) = .error (.unwound id) (u, x)

omit [Surface S] in
/-- What such a call leaves of the host is what telling leaves. -/
private theorem Ends.finalState {event : Event} {β : Type} {rest : EStateM Halt (σ × S) β}
    (hrest : h.Ends event rest) (s : σ) (x : S) :
    (SceneMerge.finalState (rest (s, x))).1 = SceneMerge.finalState (h.tell event s) := by
  rcases hrest s x with ⟨u, b, htell, hdone⟩ | ⟨id, u, htell, hfailed⟩
  · rw [htell, hdone]
    rfl
  · rw [htell, hfailed]
    rfl

omit [Surface S] in
/-- Telling by itself is such a call. -/
private theorem ends_emit (event : Event) : h.Ends event (onFirst (S := S) (h.emit event)) := by
  intro s x
  cases htell : h.tell event s with
  | ok _ u => exact .inl ⟨u, (), rfl, h.emit_ok htell⟩
  | error id u => exact .inr ⟨id, u, rfl, h.emit_error htell⟩

omit [Surface S] in
/-- Telling with an answer given afterwards is such a call as well. -/
private theorem ends_report {β : Type} (event : Event) (b : β) :
    h.Ends event (onFirst (S := S) (h.emit event) >>= fun _ => pure b) := by
  intro s x
  rcases ends_emit (h := h) event s x with ⟨u, _, htell, hemit⟩ | ⟨id, u, htell, hemit⟩
  · exact .inl ⟨u, b, htell, bind_ok hemit⟩
  · exact .inr ⟨id, u, htell, bind_error hemit⟩

section ending

variable {β : Type} {event : Event} {rest : EStateM Halt (σ × S) β}
  {f : Operation → Operation} {q : σ × S}

omit [Surface S] in
/-- If such a call comes to its end, then so did telling, of the operation as it was
changed before. -/
private theorem of_ending_ok (hrest : h.Ends event rest) {b : β}
    (hrun : (onFirst (h.update f) >>= fun _ => rest) (s, x) = .ok b q) :
    h.tell event (h.write (f (h.read s)) s) = .ok () q.1 := by
  rw [bind_ok (h.update_onFirst f)] at hrun
  rcases hrest (h.write (f (h.read s)) s) x with ⟨u, b', htell, hdone⟩ | ⟨id, u, -, hfailed⟩
  · rw [hdone] at hrun
    cases hrun
    exact htell
  · rw [hfailed] at hrun
    cases hrun

omit [Surface S] in
/-- What follows a flight is never refused. -/
private theorem of_ending_refused (hrest : h.Ends event rest) {e : MergeError} :
    (onFirst (h.update f) >>= fun _ => rest) (s, x) ≠ .error (.refused e) q := by
  intro hrun
  rw [bind_ok (h.update_onFirst f)] at hrun
  rcases hrest (h.write (f (h.read s)) s) x with ⟨u, b', htell, hdone⟩ | ⟨id, u, -, hfailed⟩
  · rw [hdone] at hrun
    cases hrun
  · rw [hfailed] at hrun
    cases hrun

end ending

section passes

variable {e : MergeError} {q : σ × S}

/-- What a pass leaves of the host, by how far it came: it is refused at once, or does
not land, or lands and is taken in, and others are told of it. -/
theorem apply_cases (ht : ∀ id, Keeps P (h.tell (.actionApplied id))) (s : σ) (x : S) :
    (∃ e, (h.read s).ensureMutable = .error e ∧ h.apply (s, x) = .error (.refused e) (s, x))
      ∨ ((∀ p, ¬ h.Lands s x p)
        ∧ ∃ halt q, h.apply (s, x) = .error halt q ∧ h.Flown P s q.1)
      ∨ ∃ p event t y, h.Lands s x p ∧ h.Flown P s t
        ∧ h.apply (s, x) = (onFirst (h.update (·.absorb p)) >>= fun _ =>
          onFirst (h.emit event) >>= fun _ =>
            pure ⟨p.applied, p.memberships.length, (h.read s).skipped⟩) (t, y) := by
  cases hm : (h.read s).ensureMutable with
  | error e => exact .inl ⟨e, rfl, h.apply_refused hm⟩
  | ok =>
      have hflown := flown_inFlight (h := h) (s := s) (x := x)
        s!"Merge {(h.read s).sourcePath}" (keeps_pass ht (h.read s))
      rw [apply_eq h hm]
      -- the pass did not land, whatever stopped it, or it landed and the rest of the
      -- call is to be run
      cases hfly : h.inFlight s!"Merge {(h.read s).sourcePath}" (h.runPass (h.read s))
          (s, x) with
      | error halt q =>
          rw [hfly] at hflown
          refine .inr (.inl ⟨?_, halt, q, bind_error hfly, hflown⟩)
          rintro p ⟨-, y, hp⟩
          cases hfly.symm.trans hp
      | ok p q =>
          rw [hfly] at hflown
          exact .inr (.inr ⟨p, _, q.1, q.2, ⟨hm, q, hfly⟩, hflown, bind_ok hfly⟩)

/-- A pass that lands is taken in by what it leaves of the host, and told of, however
that ends. -/
theorem flown_of_lands (ht : ∀ id, Keeps P (h.tell (.actionApplied id))) {p : Pass}
    (hp : h.Lands s x p) : ∃ event t, h.Flown P s t
      ∧ (finalState (h.apply (s, x))).1
        = finalState (h.tell event (h.write ((h.read t).absorb p) t)) := by
  rcases apply_cases ht s x with ⟨e, hm, -⟩ | ⟨hnone, -⟩ | ⟨p', event, t, y, hp', hflown, heq⟩
  · cases hm.symm.trans hp.1
  · exact absurd hp (hnone p)
  · obtain rfl : p' = p := Option.some.inj ((lands_iff.1 hp').symm.trans (lands_iff.1 hp))
    refine ⟨event, t, hflown, ?_⟩
    rw [heq, bind_ok (h.update_onFirst _)]
    exact (ends_report event _).finalState _ y

/-- One that does not land leaves no more than that of the host. -/
theorem flown_of_not_lands (ht : ∀ id, Keeps P (h.tell (.actionApplied id)))
    (hp : ∀ p, ¬ h.Lands s x p) : h.Flown P s (finalState (h.apply (s, x))).1 := by
  rcases apply_cases ht s x with ⟨e, -, heq⟩ | ⟨-, halt, q, heq, hflown⟩ | ⟨p, _, _, _, hp', -⟩
  · rw [heq]
    exact .inl rfl
  · rw [heq]
    exact hflown
  · exact absurd hp' (hp p)

/-- Whoever calls is told what a pass applied that landed. -/
theorem lands_of_apply_ok {report : ApplyReport} (hrun : h.apply (s, x) = .ok report q) :
    ∃ p, h.Lands s x p ∧ p.applied = report.applied := by
  rcases apply_cases (P := fun _ => True) (fun _ _ _ => trivial) s x with
    ⟨e, -, heq⟩ | ⟨-, halt, q', heq, -⟩ | ⟨p, event, t, y, hp, -, heq⟩
  · cases heq.symm.trans hrun
  · cases heq.symm.trans hrun
  · refine ⟨p, hp, ?_⟩
    rw [heq, bind_ok (h.update_onFirst _)] at hrun
    obtain ⟨_, _, -, hdone⟩ := of_bind_ok hrun
    cases hdone
    rfl

/-- A pass that is refused did not land. -/
theorem not_lands_of_apply_refused (hrun : h.apply (s, x) = .error (.refused e) q) (p : Pass) :
    ¬ h.Lands s x p := by
  rcases apply_cases (P := fun _ => True) (fun _ _ _ => trivial) s x with
    ⟨e, hm, -⟩ | ⟨hnone, -⟩ | ⟨p', event, t, y, -, -, heq⟩
  · exact fun hp => by cases hm.symm.trans hp.1
  · exact hnone p
  · exact absurd (heq.symm.trans hrun) (of_ending_refused (ends_report event _))

/-- What a refused pass leaves is what came of flying, or nothing at all. -/
theorem flown_of_apply_refused (ht : ∀ id, Keeps P (h.tell (.actionApplied id)))
    (hrun : h.apply (s, x) = .error (.refused e) q) : h.Flown P s q.1 := by
  have hflown := flown_of_not_lands ht (not_lands_of_apply_refused hrun)
  rw [hrun] at hflown
  exact hflown

variable (P)

/-- What taking back leaves of the host, by how far it came. Going back tells of no
action. -/
theorem abort_cases (s : σ) (x : S) :
    (∃ halt q, h.abort (s, x) = .error halt q ∧ h.Flown P s q.1)
      ∨ (h.read s).ensureMutable = .ok () ∧ ∃ t y, h.Flown P s t
        ∧ h.abort (s, x) = (onFirst (h.update Operation.close) >>= fun _ =>
          onFirst (h.emit .aborted)) (t, y) := by
  cases hm : (h.read s).ensureMutable with
  | error e => exact .inl ⟨_, _, h.abort_refused hm, .inl rfl⟩
  | ok =>
      cases hj : (h.read s).journal.isEmpty with
      | true => exact .inr ⟨rfl, s, x, .inl rfl, abort_eq_of_nil h hm hj⟩
      | false =>
          rw [abort_eq h hm hj]
          have hflown : h.Flown P s (finalState (h.inFlight
              s!"Abort merge {(h.read s).sourcePath}"
              (onSecond ((Revert.runAll (h.read s).journal).adaptExcept
                (Halt.refused ∘ MergeError.scene))) (s, x))).1 :=
            flown_inFlight _ (keeps_snd _)
          cases hfly : h.inFlight s!"Abort merge {(h.read s).sourcePath}"
              (onSecond ((Revert.runAll (h.read s).journal).adaptExcept
                (Halt.refused ∘ MergeError.scene))) (s, x) with
          | error halt q =>
              rw [hfly] at hflown
              exact .inl ⟨halt, q, bind_error hfly, hflown⟩
          | ok _ q =>
              rw [hfly] at hflown
              exact .inr ⟨rfl, q.1, q.2, hflown, bind_ok hfly⟩

/-- Taking back leaves a flight behind it, and may have closed the operation then and
told of it. -/
theorem flown_of_abort (s : σ) (x : S) : ∃ t, h.Flown P s t
    ∧ ((finalState (h.abort (s, x))).1 = t ∨ (h.read s).ensureMutable = .ok ()
      ∧ (finalState (h.abort (s, x))).1
        = finalState (h.tell .aborted (h.write (h.read t).close t))) := by
  rcases abort_cases P s x with ⟨halt, q, heq, hflown⟩ | ⟨hm, t, y, hflown, heq⟩
  · exact ⟨q.1, hflown, .inl (by rw [heq]; rfl)⟩
  · refine ⟨t, hflown, .inr ⟨hm, ?_⟩⟩
    rw [heq, bind_ok (h.update_onFirst _)]
    exact (ends_emit .aborted).finalState _ y

/-- Taking back that comes to its end closed the operation, and told of it. -/
theorem flown_of_abort_ok (hrun : h.abort (s, x) = .ok () q) : (h.read s).ensureMutable = .ok ()
      ∧ ∃ t, h.Flown P s t ∧ h.tell .aborted (h.write (h.read t).close t) = .ok () q.1 := by
  rcases abort_cases P s x with ⟨halt, q, heq, -⟩ | ⟨hm, t, y, hflown, heq⟩
  · cases heq.symm.trans hrun
  · exact ⟨hm, t, hflown, of_ending_ok (ends_emit _) (heq.symm.trans hrun)⟩

/-- Taking back that is refused leaves no more than the flight. -/
theorem flown_of_abort_refused (hrun : h.abort (s, x) = .error (.refused e) q) :
    h.Flown P s q.1 := by
  rcases abort_cases P s x with ⟨halt, q, heq, hflown⟩ | ⟨-, t, y, -, heq⟩
  · cases heq.symm.trans hrun
    exact hflown
  · exact absurd (heq.symm.trans hrun) (of_ending_refused (ends_emit _))

end passes

/-- Finishing that is granted is told of, however that ends. -/
theorem finalState_finish {h : Host σ} {s : σ} (hm : (h.read s).ensureMutable = .ok ()) :
    finalState (h.finish s) = finalState (h.tell .finished (h.write (h.read s).finish s)) := by
  unfold finish
  rw [bind_ok h.look_eq, bind_ok (orRefuse_ok hm)]
  show finalState (h.emit .finished (h.write (h.read s).finish s)) = _
  unfold emit EStateM.adaptExcept
  split
  · next htell => rw [htell]; rfl
  · next htell => rw [htell]; rfl

/-- Whoever finishes and is not stopped has closed the operation and told of it. -/
theorem of_finish_ok {h : Host σ} {s t : σ} (hrun : h.finish s = .ok () t) :
    (h.read s).ensureMutable = .ok ()
      ∧ h.tell .finished (h.write (h.read s).finish s) = .ok () t := by
  unfold finish at hrun
  rw [bind_ok h.look_eq] at hrun
  cases hm : (h.read s).ensureMutable with
  | error e =>
      rw [bind_error (orRefuse_error hm)] at hrun
      cases hrun
  | ok =>
      rw [bind_ok (orRefuse_ok hm)] at hrun
      obtain ⟨_, u, hfinish, hemit⟩ := of_bind_ok hrun
      cases hfinish
      exact ⟨rfl, of_emit_ok hemit⟩

end Host

-- ==================================================================== sessions

namespace Session

variable {W : Type} {tell : Event → EStateM SubscriptionId (Session W) Unit}
  {P : Session W → Prop} {s t : Session W}

/-- What is kept in flight, with the state as it was when the flight began. -/
def Aloft (P : Session W → Prop) (s : Session W) (t : Session W) : Prop :=
  P t ∧ t.operation.status = (true, s.operation.state)

/-- In flight the operation takes no changes, so beside what observers keep its status
stays the same. -/
theorem keeps_aloft (hh : Heeds tell) (ht : ∀ event, Keeps P (tell event)) (event : Event) :
    Keeps (Aloft P s) (tell event) := by
  have hbusy : ({ s.operation with inFlight := true }).ensureMutable
      = .error .concurrentMergeAccess := Operation.ensureMutable_inFlight rfl
  exact fun t h => ⟨ht event t h.1, hh hbusy event t h.2⟩

/-- A flight ends in the state in which it began. -/
theorem of_flown (hP : ∀ t flag, P t → P ((host tell).fly flag t)) (hs : P s)
    (ht : (host tell).Flown (Aloft P s) s t) :
    P t ∧ t.operation.state = s.operation.state := by
  rcases ht with rfl | ht
  · exact ⟨hs, rfl⟩
  · obtain ⟨u, ⟨hu, hstatus⟩, rfl⟩ := ht ⟨hP s true hs, rfl⟩
    exact ⟨hP u false hu, (Prod.mk.inj hstatus).2⟩

end Session

end SceneMerge
