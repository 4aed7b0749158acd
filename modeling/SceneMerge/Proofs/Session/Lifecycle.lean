/-
The life of a merge goes one way. An operation is idle until a pass is applied or
the operation is finished or aborted, by whoever it may be, and as long as it is
idle nothing is applied and nothing shown. No call that is refused changes the
state. Once the operation is finished or aborted its state is settled: whatever
comes of the session, every review is turned down for that reason, changes nothing
and is told to nobody (`one_way`).

What was reached by then is in a log of the session (`Session.Recorded`), and every
session that clients lead to has one. What may come of a session is more than what
calls from outside lead to: observers call in the middle of other calls, of an operation
that has changed by then, and all that they are shown is counted in (`Session.Onward`).
-/
import SceneMerge.Proofs.Session.Recording

namespace SceneMerge

namespace Call

variable {α : Type}

/-- The error that a pass handed its scene back with, if it did. -/
def handedBack? : {α : Type} → Call α → α → Option MergeError
  | _, .apply _ => fun (r, _) => match r with | .error e => some e | .ok _ => none
  | _, .abort _ => fun (r, _) => match r with | .error e => some e | .ok _ => none
  | _, _ => fun _ => none

/-- The error that the call was answered with, if it was. -/
def refusal? (call : Call α) : Except MergeError α → Option MergeError
  | .error e => some e
  | .ok a => call.handedBack? a

end Call

namespace Session

variable {W : Type} {A : Audience W} {s t : Session W}

-- ===================================================================== refused

/-- A pass that is refused leaves the state as it was, whatever observers did. -/
theorem state_of_pass_refused {tell : Event → EStateM SubscriptionId (Session W) Unit}
    (hh : Heeds tell) {S : Type} [Surface S] {x : S} {e : MergeError} {q : Session W × S}
    (hrun : (host tell).apply (s, x) = .error (.refused e) q
      ∨ (host tell).abort (s, x) = .error (.refused e) q) :
    q.1.operation.state = s.operation.state := by
  have hkeeps : ∀ event, Keeps (fun _ : Session W => True) (tell event) :=
    fun _ _ _ => trivial
  have hflown : (host tell).Flown (Aloft (fun _ => True) s) s q.1 := by
    rcases hrun with hrun | hrun
    · exact Host.flown_of_apply_refused (fun _ => keeps_aloft hh hkeeps _) hrun
    · exact Host.flown_of_abort_refused _ hrun
  exact (of_flown (fun _ _ _ => trivial) trivial hflown).2

/-- A call that is answered with an error leaves the state of the merge as it was. -/
theorem state_of_refused {tell : Event → EStateM SubscriptionId (Session W) Unit}
    (hh : Heeds tell) {α : Type} {call : Call α} {r : Except MergeError α} {e : MergeError}
    (hrun : (Client.call call).run (host tell) s = .ok r t) (hr : call.refusal? r = some e) :
    t.operation.state = s.operation.state := by
  unfold Client.call Client.run at hrun
  split at hrun
  · next b u heq =>
      cases hrun
      cases call with
      | apply scene =>
          -- a pass is answered with its result and its scene, and may be refused in
          -- flight
          obtain ⟨r, scene'⟩ := b
          cases r with
          | ok report => cases hr
          | error e => exact state_of_pass_refused hh (.inl (refused_of_onScene heq))
      | abort scene =>
          obtain ⟨r, scene'⟩ := b
          cases r with
          | ok report => cases hr
          | error e => exact state_of_pass_refused hh (.inr (refused_of_onScene heq))
      | _ => cases hr
  · next heq =>
      cases hrun
      rw [answer_refused _ _ _ _ _ heq]
  · cases hrun

-- ====================================================================== closed

/-- What may come of a session: anyone calls, from outside or from inside a
notification, on scenes of any kind and however the calls end, and who listens may
change, and what clients share. Whatever observers are shown in the middle of a call
is among it. -/
inductive Onward (A : Audience W) (s : Session W) : Session W → Prop where
  | refl : Onward A s s
  | call {t : Session W} {h : Host (Session W)} {α : Type} (call : Call α) :
      Onward A s t → h ∈ [inside, A.outside] → Onward A s (finalState (answer h call t))
  | apply {t : Session W} {h : Host (Session W)} {S : Type} [Surface S] (scene : S) :
      Onward A s t → h ∈ [inside, A.outside] →
      Onward A s (finalState (h.apply (t, scene))).1
  | abort {t : Session W} {h : Host (Session W)} {S : Type} [Surface S] (scene : S) :
      Onward A s t → h ∈ [inside, A.outside] →
      Onward A s (finalState (h.abort (t, scene))).1
  | shared {t : Session W} (registry : Registry) (world : W) : Onward A s t →
      Onward A s { t with registry, world }

/-- Whoever asks for a review is answered that the operation is closed, and nothing
changes. Since it does not depend on whom calls are told to, nobody is told. -/
structure Shut (s : Session W) : Prop where
  call : ∀ tell {α : Type} (call : Call α), call.isReview = true →
    answer (host tell) call s = call.barred (.operationClosed s.operation.state) s
  apply : ∀ tell {S : Type} [Surface S] (scene : S), (host tell).apply (s, scene)
    = .error (.refused (.operationClosed s.operation.state)) (s, scene)
  abort : ∀ tell {S : Type} [Surface S] (scene : S), (host tell).abort (s, scene)
    = .error (.refused (.operationClosed s.operation.state)) (s, scene)

/-- Whoever tells whom, each call looks first at whether the operation is closed. -/
theorem shut_of_closed
    (hs : s.operation.ensureMutable = .error (.operationClosed s.operation.state)) : Shut s where
  call tell _ _ hc := answer_barred (h := host tell) hc hs
  apply tell _ _ _ := Host.apply_refused (host tell) hs
  abort tell _ _ _ := Host.abort_refused (host tell) hs

/-- A host for whoever calls from inside a notification or from outside. -/
private theorem exists_heeds {h : Host (Session W)} (hh : h ∈ [inside, A.outside]) :
    ∃ tell, h = host tell ∧ Heeds tell := by
  rcases List.mem_cons.1 hh with rfl | hh
  · exact ⟨enqueue, rfl, heeds_enqueue⟩
  · exact ⟨A.announce, List.mem_singleton.1 hh, heeds_announce A⟩

/-- An operation that takes no changes stays where it is, whatever comes of the
session. -/
theorem Onward.status {e : MergeError} (hs : s.operation.ensureMutable = .error e)
    (ht : Onward A s t) : t.operation.status = s.operation.status := by
  induction ht with
  | refl => rfl
  | call call _ hh ih =>
      obtain ⟨tell, rfl, hheeds⟩ := exists_heeds hh
      exact keeps_status hheeds hs call _ ih
  | @apply t h S _ scene _ hh ih =>
      obtain ⟨tell, rfl, -⟩ := exists_heeds hh
      have hbarred : ((host tell).read t).ensureMutable = .error e :=
        (Operation.ensureMutable_congr ih).trans hs
      rw [Host.apply_refused _ hbarred]
      exact ih
  | @abort t h S _ scene _ hh ih =>
      obtain ⟨tell, rfl, -⟩ := exists_heeds hh
      have hbarred : ((host tell).read t).ensureMutable = .error e :=
        (Operation.ensureMutable_congr ih).trans hs
      rw [Host.abort_refused _ hbarred]
      exact ih
  | shared registry world _ ih => exact ih

/-- A closed operation is closed for good. -/
theorem Onward.shut (hfly : s.operation.inFlight = false)
    (hclosed : s.operation.state.isClosed = true) (ht : Onward A s t) :
    t.operation.state = s.operation.state ∧ Shut t := by
  have hs := Operation.ensureMutable_closed hfly hclosed
  have hstatus := ht.status hs
  have hstate : t.operation.state = s.operation.state := (Prod.mk.inj hstatus).2
  refine ⟨hstate, shut_of_closed ?_⟩
  rw [Operation.ensureMutable_congr hstatus, hs, hstate]

end Session

-- ====================================================================== result

/-- The life of a merge goes one way, in every session that clients lead to whose
observers do not fail. There is a log of what was reached on the way, by calls from
outside and by observers, and whatever the way: the operation is idle exactly if no
pass was applied and it was neither finished nor aborted, it is committed exactly if
it was finished, and rolled back exactly if it was aborted. Once it was finished or
aborted its state stays, whatever comes of the session, and every review is answered
with that state and changes neither the operation nor the scene, and nobody is told.

In an operation that is idle nothing is applied, nothing is staged and there is
nothing to take back. Whoever calls whenever, a call that is answered with an error
leaves the state as it was. -/
theorem one_way {W : Type} {A : Audience W} {s : Session W} (hs : Session.Led A s) :
    (∃ log, Session.Recorded A log s)
      ∧ (∀ log, Session.Recorded A log s →
        (s.operation.state = .idle ↔ ∀ m ∈ log, m = .populated)
          ∧ (s.operation.state = .committed ↔ .finished ∈ log)
          ∧ (s.operation.state = .rolledBack ↔ .aborted ∈ log)
          ∧ (.finished ∈ log ∨ .aborted ∈ log → ∀ t, Session.Onward A s t →
            t.operation.state = s.operation.state ∧ t.Shut))
      ∧ (s.operation.state = .idle → s.operation.Unapplied)
      ∧ ∀ h ∈ [Session.inside, A.outside], ∀ (t u : Session W) e,
        (∀ {α : Type} (call : Call α) r, (Client.call call).run h t = .ok r u →
          call.refusal? r = some e → u.operation.state = t.operation.state)
        ∧ ∀ {S : Type} [Surface S] (x y : S),
          (h.apply (t, x) = .error (.refused e) (u, y)
            ∨ h.abort (t, x) = .error (.refused e) (u, y)) →
          u.operation.state = t.operation.state := by
  obtain ⟨log, hlog⟩ := Session.led_iff_recorded.1 hs
  refine ⟨⟨log, hlog⟩, fun log' hlog' => ?_, hlog.tallies.unapplied, fun h hh t u e => ?_⟩
  · have htallied := hlog'.tallies
    refine ⟨htallied.idle, htallied.committed, htallied.rolledBack, fun hended t ht => ?_⟩
    have hclosed : s.operation.state.isClosed = true := by
      rcases hended with hended | hended
      · rw [htallied.committed.2 hended]
        rfl
      · rw [htallied.rolledBack.2 hended]
        rfl
    exact ht.shut hlog.rests hclosed
  · obtain ⟨tell, rfl, hheeds⟩ := Session.exists_heeds hh
    exact ⟨fun _ _ hrun hr => Session.state_of_refused hheeds hrun hr,
      fun _ _ hrun => Session.state_of_pass_refused hheeds hrun⟩

/-- An observer that finishes the operation as soon as an action is added. -/
def Audience.hasty : Audience Unit where
  note _ _ w := w
  reaction? _ event _ :=
    match event with
    | .actionAdded _ => some (.ask .finish fun _ => .done .returns)
    | _ => none
  patience _ := 1

/-- Adding goes on, but there is nothing left to review. -/
theorem one_way_hasty :
    ∃ s : Session Unit, Session.Led .hasty s ∧ s.operation.order = [0, 1]
      ∧ s.operation.state = .committed
      ∧ ∃ log, Session.Recorded .hasty log s ∧ .finished ∈ log
      ∧ ∀ scene : LiveScene, Session.answer Audience.hasty.outside (.apply scene) s
        = .ok (.error (.operationClosed .committed), scene) s := by
  let adding : Client Unit (Except MergeError ActionId) := do
    let _ ← Client.call .subscribe
    let _ ← Client.call (.addAction (.noAction "light"))
    Client.call (.addAction (.noAction "light"))
  let start : Session Unit :=
    { operation := { sourcePath := "source", basePath := "base" }, world := () }
  cases hrun : adding.run Audience.hasty.outside start with
  | error id s =>
      have hends : (match adding.run Audience.hasty.outside start with
        | .ok _ _ => true | .error _ _ => false) = true := by decide +kernel
      rw [hrun] at hends
      cases hends
  | ok a s =>
      have hend : (finalState (adding.run Audience.hasty.outside start)).operation.order = [0, 1]
          ∧ (finalState (adding.run Audience.hasty.outside start)).operation.state
            = .committed := by
        decide +kernel
      rw [hrun] at hend
      obtain ⟨horder, hstate⟩ := hend
      have hs := Session.Led.run (A := .hasty) adding (.new "source" "base" {} ()) hrun
      obtain ⟨⟨log, hlog⟩, hread, -⟩ := one_way hs
      obtain ⟨-, hcommitted, -, hended⟩ := hread log hlog
      have hfinished := hcommitted.1 hstate
      obtain ⟨-, hshut⟩ := hended (.inl hfinished) s .refl
      refine ⟨s, hs, horder, hstate, log, hlog, hfinished, fun scene => ?_⟩
      rw [Audience.outside, hshut.call _ _ rfl, show s.operation.state = _ from hstate]
      rfl

end SceneMerge
