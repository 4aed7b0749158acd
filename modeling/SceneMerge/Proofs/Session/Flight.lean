/-
A pass, and what it is wrapped in. While a scene is being changed the
operation is in flight and the scene is in a transaction. What every step
of a pass keeps the pass keeps (`keeps_runPass`), so a body that is
stopped leaves the live scene as it was (`inFlight_error`), and one that
ends well is committed (`inFlight_ok`).

An operation that takes no changes is not even put in flight
(`apply_refused`, `abort_refused`). For one that does, a call is what is
done in flight and what is made of it afterwards (`apply_eq`,
`abort_eq`).
-/
import SceneMerge.Proofs.Scene.Journal
import SceneMerge.Session.Pass

namespace SceneMerge.Host

open LiveScene

-- ============================================================== the body

variable {σ S : Type} [Surface S] {h : Host σ} {Q : σ → Prop} {P : S → Prop}
  (hP : KeptByMutations P) (hQ : ∀ id, Keeps Q (h.tell (.actionApplied id)))

include hP

/-- Membership changes are mutations of the scene, so what those keep is there after all
of them. The host is not asked. -/
theorem keeps_runMemberships (todo : List (Nat × MembershipChange)) (p : Pass) :
    Keeps (fun x : σ × S => Q x.1 ∧ P x.2) (runMemberships todo p) := by
  induction todo generalizing p with
  | nil => exact .pure _
  | cons item rest ih =>
      refine .bind (Keeps.onSecond ((hP.keeps_membership item.2).adaptExcept _))
        fun done => ?_
      cases done with
      | none => exact ih _
      | some reverts => exact ih _

include hQ

/-- Actions are mutations of the scene with others being told in between, so what is
kept by the one and by the other is there after all of them. -/
theorem keeps_runActions (todo : List (ActionId × Action)) (p : Pass) :
    Keeps (fun x : σ × S => Q x.1 ∧ P x.2) (h.runActions todo p) := by
  induction todo generalizing p with
  | nil => exact .pure _
  | cons item rest ih =>
      refine .bind (Keeps.onFirst (.get_bind fun _ => .pure _)) fun op => ?_
      refine .bind
        (Keeps.onSecond ((hP.keeps_ofAction op item.1 item.2).adaptExcept _))
        fun done => .bind (Keeps.onFirst ?_) fun _ => ih _
      exact (hQ item.1).adaptExcept _

/-- A pass is actions and then membership changes, and a look at the operation between
the two. -/
theorem keeps_runPass (op : Operation) :
    Keeps (fun x : σ × S => Q x.1 ∧ P x.2) (h.runPass op) := by
  refine .bind (keeps_runActions hP hQ op.pending {}) fun p => ?_
  refine .bind (Keeps.onFirst (.get_bind fun _ => .pure _)) fun _ => ?_
  exact keeps_runMemberships hP _ p

-- ============================================================= in flight

/-- The host with its operation in flight, or no longer. -/
def fly (h : Host σ) (flag : Bool) (s : σ) : σ :=
  h.write { h.read s with inFlight := flag } s

section flight

variable {α : Type} {label : String} {l : LiveScene} {s : σ}

omit hP hQ

/-- A call in flight is a transaction with the flag set before and cleared after,
whatever comes of it. -/
theorem inFlight_eq {body : EStateM Halt (σ × S) α} {x : S} :
    h.inFlight label body (s, x)
      = match Surface.within (Halt.refused ∘ .scene) label body (h.fly true s, x) with
        | .ok a p => .ok a (h.fly false p.1, p.2)
        | .error e p => .error e (h.fly false p.1, p.2) := by
  unfold inFlight
  simp only
  split
  · next heq => rw [show Surface.within (Halt.refused ∘ .scene) label body
      (h.fly true s, x) = _ from heq]; rfl
  · next heq => rw [show Surface.within (Halt.refused ∘ .scene) label body
      (h.fly true s, x) = _ from heq]; rfl

/-- A call that ends well had a body that ended well and was committed. -/
theorem of_inFlight_ok {body : EStateM Halt (σ × S) α} {x : S} {a : α} {p : σ × S}
    (hrun : h.inFlight label body (s, x) = .ok a p) :
    ∃ x₁ t x₂ y, Surface.start label x = .ok () x₁
      ∧ body (h.fly true s, x₁) = .ok a (t, x₂)
      ∧ Surface.commit x₂ = .ok () y ∧ p = (h.fly false t, y) := by
  rw [inFlight_eq] at hrun
  split at hrun
  · next b q hq =>
      obtain ⟨x₁, t, x₂, y, hstart, hbody, hcommit, rfl⟩ := of_within_ok _ label hq
      cases hrun
      exact ⟨x₁, t, x₂, y, hstart, hbody, hcommit, rfl⟩
  · cases hrun

variable {body : EStateM Halt (σ × LiveScene) α}

/-- A body that is stopped leaves the live scene as it was, and in the host what the
body keeps. The scene is rolled back to where the transaction began, exactly, since it
was well formed there. -/
theorem inFlight_error
    (hbody : Keeps (fun p : σ × LiveScene => Q p.1 ∧ Since l p.2) body)
    (hwf : l.scene.WellFormed) (ht : l.transaction = none)
    (hs : Q (h.fly true s)) {halt : Halt} {p : σ × LiveScene}
    (hrun : h.inFlight label body (s, l) = .error halt p) :
    ∃ t, Q t ∧ p = (h.fly false t, l) := by
  rw [inFlight_eq] at hrun
  split at hrun
  · cases hrun
  · next e q hq =>
      obtain ⟨hback, hscene⟩ := within_error _ label hbody hwf ht hs hq
      cases hrun
      exact ⟨q.1, hback, by rw [hscene]⟩

/-- Where there were strays, some of them may be lost when the transaction is rolled
back. That is all that can be lost. -/
theorem inFlight_trims
    (hbody : Keeps (fun p : σ × LiveScene => Q p.1 ∧ Recorded l p.2) body)
    (htidy : l.scene.Tidy) (ht : l.transaction = none)
    (hs : Q (h.fly true s)) {halt : Halt} {p : σ × LiveScene}
    (hrun : h.inFlight label body (s, l) = .error halt p) :
    ∃ t m, Q t ∧ m.Trims l.scene ∧ p = (h.fly false t, { l with scene := m }) := by
  rw [inFlight_eq] at hrun
  split at hrun
  · cases hrun
  · next e q hq =>
      obtain ⟨hback, m, htrims, hscene⟩ := within_trims _ label hbody htidy ht hs hq
      cases hrun
      exact ⟨q.1, m, hback, htrims, by rw [hscene]⟩

/-- A body that ends well ends the call, with its answer, once what it did is committed.
-/
theorem inFlight_ok (ht : l.transaction = none) {t : σ} {l₁ l₂ : LiveScene}
    {a : α} (hrun : body (h.fly true s, l.begun label) = .ok a (t, l₁))
    (hcommit : LiveScene.commit l₁ = .ok () l₂) :
    h.inFlight label body (s, l) = .ok a (h.fly false t, l₂) := by
  rw [inFlight_eq, within_ok (Halt.refused ∘ .scene) label ht hrun hcommit]

/-- A body that is stopped ends the call with its error, on the scene that it was begun
on. -/
theorem inFlight_stopped (ht : l.transaction = none) {t : σ} {l₁ : LiveScene}
    {halt : Halt} (hrun : body (h.fly true s, l.begun label) = .error halt (t, l₁))
    (hsince : Since l l₁) :
    h.inFlight label body (s, l) = .error halt (h.fly false t, l) := by
  rw [inFlight_eq, within_stopped (Halt.refused ∘ .scene) label ht hrun hsince]

/-- On a live scene the body was run in a transaction of its own. -/
theorem of_inFlight_begun {a : α} {p : σ × LiveScene}
    (hrun : h.inFlight label body (s, l) = .ok a p) :
    l.transaction = none ∧ ∃ t l₁ l₂, body (h.fly true s, l.begun label) = .ok a (t, l₁)
      ∧ LiveScene.commit l₁ = .ok () l₂ ∧ p = (h.fly false t, l₂) := by
  obtain ⟨l₀, t, l₁, l₂, hstart, hbody, hcommit, rfl⟩ := of_inFlight_ok hrun
  cases ht : l.transaction with
  | some j =>
      have hrefused : LiveScene.start label l = .error (.transactionOpen j.label) l := by
        unfold LiveScene.start
        rw [ht]
      cases (show LiveScene.start label l = .ok () l₀ from hstart).symm.trans hrefused
  | none =>
      cases (show LiveScene.start label l = .ok () l₀ from hstart).symm.trans
        (start_eq ht label)
      exact ⟨rfl, t, l₁, l₂, hbody, hcommit, rfl⟩

end flight

-- ============================================================== the calls

section calls

omit hP hQ

variable (h) {α : Type} {s : σ} {x : S}

/-- Looking answers with what is hosted. -/
theorem look_eq : h.look s = .ok (h.read s) s := rfl

/-- A check that passes answers with what was checked. -/
theorem orRefuse_ok {r : Except MergeError α} {a : α} (hr : r = .ok a) :
    (orRefuse r : EStateM Halt σ α) s = .ok a s := by
  rw [hr]
  rfl

/-- A check that fails ends the call there, as a refusal. -/
theorem orRefuse_error {r : Except MergeError α} {e : MergeError}
    (hr : r = .error e) :
    (orRefuse r : EStateM Halt σ α) s = .error (.refused e) s := by
  rw [hr]
  rfl

omit [Surface S] in
/-- A change of the operation stores it, beside whatever scene there is. -/
theorem update_onFirst (f : Operation → Operation) :
    onFirst (h.update f) (s, x) = .ok () (h.write (f (h.read s)) s, x) := rfl

omit [Surface S] in
/-- Telling that comes to its end leaves the scene alone. -/
theorem emit_ok {event : Event} {t : σ} (htell : h.tell event s = .ok () t) :
    onFirst (h.emit event) (s, x) = .ok () (t, x) := by
  unfold onFirst focus emit EStateM.adaptExcept
  simp only [htell]

omit [Surface S] in
/-- Telling that does not ends the call, and says who failed. -/
theorem emit_error {event : Event} {id : SubscriptionId} {t : σ}
    (htell : h.tell event s = .error id t) :
    onFirst (h.emit event) (s, x) = .error (.unwound id) (t, x) := by
  unfold onFirst focus emit EStateM.adaptExcept
  simp only [htell]

omit [Surface S] in
theorem look_onFirst : onFirst h.look (s, x) = .ok (h.read s) (s, x) := rfl

/-- The first of several actions is run as the operation has it by then. -/
theorem runActions_cons (id : ActionId) (a : Action)
    (rest : List (ActionId × Action)) (p : Pass) :
    h.runActions ((id, a) :: rest) p (s, x)
      = (onSecond ((Performed.ofAction (h.read s) id a).adaptExcept .refused) >>=
          fun done => onFirst (h.emit (.actionApplied id)) >>=
            fun _ => h.runActions rest (p.add id done)) (s, x) :=
  bind_ok h.look_onFirst

/-- A pass that is refused at once has not even opened a transaction. -/
theorem apply_refused {e : MergeError} (he : (h.read s).ensureMutable = .error e) :
    h.apply (s, x) = .error (.refused e) (s, x) :=
  (bind_ok h.look_onFirst).trans (bind_error (orRefuse_error he))

/-- Aborting that is refused at once has not opened a transaction either. -/
theorem abort_refused {e : MergeError} (he : (h.read s).ensureMutable = .error e) :
    h.abort (s, x) = .error (.refused e) (s, x) :=
  (bind_ok h.look_onFirst).trans (bind_error (orRefuse_error he))

variable (hm : (h.read s).ensureMutable = .ok ())

include hm

/-- Applying is a pass in flight, and then what came of it is taken in and others are
told. The pass runs what is pending when the call is made, whatever is switched in the
meantime. -/
theorem apply_eq : h.apply (s, x)
    = (h.inFlight s!"Merge {(h.read s).sourcePath}" (h.runPass (h.read s)) >>=
        fun p => do
          onFirst (h.update (·.absorb p))
          onFirst (h.emit (.applied p.applied.length p.memberships.length))
          return ⟨p.applied, p.memberships.length, (h.read s).skipped⟩)
      (s, x) :=
  (bind_ok h.look_onFirst).trans (bind_ok (orRefuse_ok hm))

/-- Where nothing was applied, aborting ends the operation. -/
theorem abort_eq_of_nil (hj : (h.read s).journal.isEmpty = true) :
    h.abort (s, x)
      = (onFirst (h.update Operation.close) >>= fun _ =>
          onFirst (h.emit .aborted)) (s, x) := by
  unfold abort
  rw [bind_ok h.look_onFirst, bind_ok (orRefuse_ok hm)]
  simp only [hj, Bool.not_true, Bool.false_eq_true, if_false]

/-- Where something was applied, aborting takes it back in flight first. -/
theorem abort_eq (hj : (h.read s).journal.isEmpty = false) :
    h.abort (s, x)
      = (h.inFlight s!"Abort merge {(h.read s).sourcePath}"
            (onSecond ((Revert.runAll (h.read s).journal).adaptExcept
              (Halt.refused ∘ MergeError.scene))) >>= fun _ =>
          onFirst (h.update Operation.close) >>= fun _ =>
            onFirst (h.emit .aborted)) (s, x) := by
  unfold abort
  rw [bind_ok h.look_onFirst, bind_ok (orRefuse_ok hm)]
  simp only [hj, Bool.not_false, if_true]

end calls

end SceneMerge.Host
