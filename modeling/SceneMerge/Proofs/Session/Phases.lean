/-
What holds of an operation between passes, and what holds while a pass is run.
Most properties that matter hold in one of the two phases only: an operation is
in flight exactly during a pass, and what was pending when the pass began is
known only as long as it lasts. So two properties are carried at once
(`Operation.Phased`): one that an operation has at rest, and one that it has in
flight, which may speak of the operation that the pass began with.

In flight every call is refused that would end the phase, by whoever it is
made; what is left is adding, and that is kept track of like a review
(`Session.keeps_answer_barred`). Every call leads from rest to rest, however it
ends (`Host.keeps_apply_phased`, `Session.keeps_answer_phased`), so in every
session the first property holds whenever nobody is being told of anything
(`Session.Reachable.phased`).
-/
import SceneMerge.Proofs.Session.Coherence
import SceneMerge.Proofs.Session.InFlight
import SceneMerge.Proofs.Session.Landing

namespace SceneMerge

/-- Two properties that an operation has in turn: `Q` at rest, and `F op₀` in
flight since it was `op₀`. -/
structure Operation.Phased (ok : Action → Prop) (Q : Operation → Prop)
    (F : Operation → Operation → Prop) : Prop where
  atRest : KeptByReviews ok Q
  aloft : ∀ op₀, KeptByReviews ok (F op₀)
  inFlight : ∀ {op₀ op}, F op₀ op → op.inFlight = true
  takeOff : ∀ {op}, Q op → op.ensureMutable = .ok () → F op { op with inFlight := true }
  back : ∀ {op₀ op}, F op₀ op → Q { op with inFlight := false }
  /-- What a pass did is taken in that was committed. -/
  landed : ∀ {σ S : Type} [Surface S] {h : Host σ} {s : σ} {x : S} {op p},
    h.Lands s x p → F (h.read s) op → Q (({ op with inFlight := false }).absorb p)
  finish : ∀ {op}, Q op → Q op.finish
  close : ∀ {op}, Q op → Q op.close

/-- What holds after a call, and is kept by what follows, holds in the end. -/
theorem finalState_bind {ε σ α β : Type} {P : σ → Prop} {call : EStateM ε σ α}
    {next : α → EStateM ε σ β} {s : σ} (hc : P (finalState (call s)))
    (hn : ∀ a, Keeps P (next a)) : P (finalState ((call >>= next) s)) := by
  cases h : call s with
  | ok a t =>
      rw [h] at hc
      rw [bind_ok h]
      exact hn a t hc
  | error e t =>
      rw [h] at hc
      rw [bind_error h]
      exact hc

-- ================================================================== passes

namespace Host

variable {σ S : Type} [Surface S] {h : Host σ} (hl : h.Lawful) {ok : Action → Prop}
  {Q : Operation → Prop} {F : Operation → Operation → Prop}

include hl

omit hl in
/-- What the body keeps in flight holds when the flight ends. -/
theorem finalState_inFlight {P : σ → Prop} {α : Type} (label : String)
    {body : EStateM Halt (σ × S) α} (hbody : Keeps (fun p => P p.1) body)
    {s : σ} (hs : P (h.fly true s)) (x : S) :
    ∃ t, P t ∧ (finalState (h.inFlight label body (s, x))).1 = h.fly false t := by
  have hwithin := keeps_within (Halt.refused ∘ .scene) label hbody (h.fly true s, x) hs
  refine ⟨_, hwithin, ?_⟩
  rw [inFlight_eq]
  split
  · next heq =>
      rw [heq]
      rfl
  · next heq =>
      rw [heq]
      rfl

/-- What the body keeps in flight holds of the operation when the flight ends. -/
theorem read_inFlight {F : Operation → Prop} {α : Type} (label : String)
    {body : EStateM Halt (σ × S) α} (hbody : Keeps (fun p => h.Has F p.1) body)
    {s : σ} (hs : F { h.read s with inFlight := true }) (x : S) :
    ∃ op, F op ∧ h.read (finalState (h.inFlight label body (s, x))).1
      = { op with inFlight := false } := by
  have hstart : h.Has F (h.fly true s) := by
    rw [Has, read_fly hl]
    exact hs
  obtain ⟨t, ht, hend⟩ := finalState_inFlight label hbody hstart x
  exact ⟨h.read t, ht, hend ▸ read_fly hl false t⟩

variable (hQ : Operation.Phased ok Q F) (ht : ∀ event, Keeps (h.Has Q) (h.tell event))

include hQ ht

/-- A pass leads from rest to rest. -/
theorem keeps_apply_phased
    (hf : ∀ op₀ event, Keeps (h.Has (F op₀)) (h.tell event)) :
    Keeps (fun p : σ × S => h.Has Q p.1) h.apply := by
  rintro ⟨s, x⟩ hs
  cases hm : (h.read s).ensureMutable with
  | error e =>
      rw [h.apply_refused hm]
      exact hs
  | ok =>
      -- what the operation is in flight is written back with the flag lowered, however
      -- the pass ends
      obtain ⟨op, hop, hread⟩ := read_inFlight hl s!"Merge {(h.read s).sourcePath}"
        (keeps_pass (fun _ => hf (h.read s) _) (h.read s)) (hQ.takeOff hs hm) x
      rw [apply_eq h hm]
      cases hrun : h.inFlight s!"Merge {(h.read s).sourcePath}" (h.runPass (h.read s))
          (s, x) with
      -- the pass is not taken in
      | error halt y =>
          rw [hrun] at hread
          rw [bind_error hrun]
          show Q (h.read y.1)
          rw [show h.read y.1 = _ from hread]
          exact hQ.back hop
      -- the pass is taken in by the operation that is at rest again, and then others
      -- are told
      | ok p y =>
          rw [hrun] at hread
          have htaken : h.Has Q (h.write ((h.read y.1).absorb p) y.1) := by
            rw [Has, hl, show h.read y.1 = _ from hread]
            exact hQ.landed ⟨hm, y, hrun⟩ hop
          rw [bind_ok hrun, bind_ok (h.update_onFirst _)]
          exact Keeps.bind (keeps_fst (keeps_emit (ht _))) (fun _ => .pure _) _ htaken

/-- Taking everything back leads from rest to rest. -/
theorem keeps_abort_phased : Keeps (fun p : σ × S => h.Has Q p.1) h.abort := by
  have hend : Keeps (fun p : σ × S => h.Has Q p.1)
      (onFirst (h.update Operation.close) >>= fun _ => onFirst (h.emit .aborted)) :=
    .bind (keeps_fst (keeps_update (hl.keeper Q).follows fun _ => hQ.close)) fun _ =>
      keeps_fst (keeps_emit (ht _))
  rintro ⟨s, x⟩ hs
  cases hm : (h.read s).ensureMutable with
  | error e =>
      rw [h.abort_refused hm]
      exact hs
  | ok =>
      -- with nothing to take back the operation does not take off
      cases hj : (h.read s).journal.isEmpty with
      | true =>
          rw [abort_eq_of_nil h hm hj]
          exact hend _ hs
      | false =>
          have hback := keeps_snd (P := h.Has (F (h.read s)))
            ((Revert.runAll (h.read s).journal).adaptExcept
              (Halt.refused ∘ .scene) : EStateM Halt S Unit)
          obtain ⟨op, hop, hread⟩ := read_inFlight hl
            s!"Abort merge {(h.read s).sourcePath}" hback (hQ.takeOff hs hm) x
          rw [abort_eq h hm hj]
          refine finalState_bind ?_ fun _ => hend
          rw [Has, hread]
          exact hQ.back hop

/-- Finishing leads from rest to rest, and never takes off. -/
theorem keeps_finish_phased : Keeps (h.Has Q) h.finish := by
  refine .get_bind fun _ => .bind (keeps_orRefuse _) fun _ => ?_
  exact .bind (keeps_update (hl.keeper Q).follows fun _ => hQ.finish) fun _ => keeps_emit (ht _)

end Host

-- =================================================================== calls

namespace Session

variable {W : Type} {ok : Action → Prop} {Q : Operation → Prop}
  {F : Operation → Operation → Prop}
  {tell : Event → EStateM SubscriptionId (Session W) Unit}

/-- What building keeps is kept by every call to an operation that takes no changes:
those that would do more are refused. -/
theorem keeps_answer_barred {F : Operation → Prop} (hF : Operation.KeptByReviews ok F)
    (hbarred : ∀ op, F op → ∃ e, op.ensureMutable = .error e)
    (ht : ∀ event, Keeps (Has F) (tell event)) {α : Type} {call : Call α}
    (hc : call.Adds ok) : Keeps (Has F) (answer (host tell) call) := by
  intro s hs
  cases hprepares : call.prepares with
  | true => exact keeps_preparation hF ht hc hprepares s hs
  | false =>
      have hreview : call.isReview = true := by
        cases call with
        | finish | apply | abort => rfl
        | _ => cases hprepares
      obtain ⟨e, he⟩ := hbarred _ hs
      rw [answer_barred hreview (h := host tell) he, call.finalState_barred]
      exact hs

/-- Every call leads from rest to rest. -/
theorem keeps_answer_phased (hQ : Operation.Phased ok Q F)
    (ht : ∀ event, Keeps (Has Q) (tell event))
    (hf : ∀ op₀ event, Keeps (Has (F op₀)) (tell event)) {α : Type} {call : Call α}
    (hc : call.Adds ok) : Keeps (Has Q) (answer (host tell) call) := by
  have hl := lawful_host tell
  cases hprepares : call.prepares with
  | true => exact keeps_preparation hQ.atRest ht hc hprepares
  | false =>
      cases call with
      | finish => exact Host.keeps_finish_phased hl hQ ht
      | apply scene => exact keeps_onScene (Host.keeps_apply_phased hl hQ ht hf) scene
      | abort scene => exact keeps_onScene (Host.keeps_abort_phased hl hQ ht) scene
      | _ => cases hprepares

end Session

-- ============================================================== observers

section

variable {W : Type} {A : Audience W} {ok : Action → Prop} {Q : Operation → Prop}
  {F : Operation → Operation → Prop} (hQ : Operation.Phased ok Q F)

include hQ

/-- Telling in flight does not end the flight. -/
theorem Audience.announce_aloft (op₀ : Operation) (hA : A.MakesOnly (F op₀) (·.Adds ok))
    (event : Event) : Keeps (Session.Has (F op₀)) (A.announce event) :=
  announce_has (fun _ hc => Session.keeps_answer_barred (hQ.aloft op₀)
    (fun _ h => ⟨_, Operation.ensureMutable_inFlight (hQ.inFlight h)⟩)
    Session.keeps_enqueue hc) hA event

/-- Telling leads from rest to rest, whatever passes observers run. -/
theorem Audience.announce_phased (hA : A.MakesOnly Q (·.Adds ok)) (event : Event) :
    Keeps (Session.Has Q) (A.announce event) :=
  announce_has (fun _ hc => Session.keeps_answer_phased hQ Session.keeps_enqueue
    (fun _ => Session.keeps_enqueue) hc) hA event

end

end SceneMerge
