/-
What clients lead to has a log. With clients and observers that write down what their
calls have reached, a session is the one without them and a log beside it: every call is
answered alike, everyone is told the same in the same order, observers fail in the same
places, and operation, registry, world and scene come out the same
(`Session.recording_unnoticed`). So whatever clients lead to, whether they write
anything down or not, has a log, and no log is of anything else
(`Session.led_iff_recorded`).

That is nothing particular to milestones: whatever a scribe writes down, nobody notices
(`Audience.mirrors_scribed`).
-/
import SceneMerge.Proofs.Session.Milestones

namespace SceneMerge

variable {W α : Type}

-- ==================================================================== sessions

namespace Session

variable {A : Audience W}

/-- The sessions that clients from outside lead to, as long as no observer fails.
Clients apply to scenes of any kind, and take back on them. -/
inductive Led (A : Audience W) : Session W → Prop where
  | new (sourcePath basePath : String) (options : MergeOptions) (world : W) :
      Led A { operation := { sourcePath, basePath, options }, world }
  | construct {source target : Snapshot} {base? : Option Snapshot}
      {options : MergeOptions} {op : Operation} (world : W) :
      Operation.construct source base? target options = .ok op →
      Led A { operation := op, world }
  | run {s t : Session W} {α : Type} {a : α} (c : Client W α) :
      Led A s → c.run A.outside s = .ok a t → Led A t
  | applied {s : Session W} {S : Type} [Surface S] {scene : S}
      {report : ApplyReport} {q : Session W × S} : Led A s →
      A.outside.apply (s, scene) = .ok report q → Led A q.1
  | aborted {s : Session W} {S : Type} [Surface S] {scene : S} {q : Session W × S} :
      Led A s → A.outside.abort (s, scene) = .ok () q → Led A q.1
  | refused {s : Session W} {S : Type} [Surface S] {scene : S} {e : MergeError}
      {q : Session W × S} : Led A s →
      A.outside.apply (s, scene) = .error (.refused e) q
        ∨ A.outside.abort (s, scene) = .error (.refused e) q →
      Led A q.1

/-- This may have been reached on a way to the session, and nothing else. -/
def Recorded (A : Audience W) (log : List Milestone) (s : Session W) : Prop :=
  Audited A ⟨s.operation, s.registry, s.world, log⟩

/-- Each of them has a log. -/
theorem Led.audited {s : Session W} (hs : Led A s) : ∃ t, Audited A t ∧ Unlogs s t := by
  have hm := A.mirrors_scribed Milestone.ledger.scribe
  induction hs with
  | new => exact ⟨_, .new _ _ _ _, rfl⟩
  | construct world hop => exact ⟨_, .construct world hop, rfl⟩
  | run c _ hrun ih =>
      obtain ⟨t, ht, hr⟩ := ih
      obtain ⟨t', hrun', hr'⟩ := (Client.inStep_scribed hm c _ t hr).of_ok hrun
      exact ⟨t', .run c ht hrun', hr'⟩
  | @applied _ S _ scene _ _ _ hrun ih =>
      obtain ⟨t, ht, hr⟩ := ih
      obtain ⟨q, hrun', hr', -⟩ := (hm.hosts.apply _ (t, scene) ⟨hr, rfl⟩).of_ok hrun
      exact ⟨_, .applied ht hrun', hr'⟩
  | @aborted _ S _ scene _ _ hrun ih =>
      obtain ⟨t, ht, hr⟩ := ih
      obtain ⟨q, hrun', hr', -⟩ := (hm.hosts.abort _ (t, scene) ⟨hr, rfl⟩).of_ok hrun
      exact ⟨_, .aborted ht hrun', hr'⟩
  | @refused _ S _ scene _ _ _ hrun ih =>
      obtain ⟨t, ht, hr⟩ := ih
      -- refused or not, the calls end alike in both sessions, and the log is beside the
      -- one
      rcases hrun with hrun | hrun
      · obtain ⟨q, hrun', hr', -⟩ :=
          (hm.hosts.apply _ (t, scene) ⟨hr, rfl⟩).of_error hrun
        exact ⟨_, .refused ht (.inl hrun'), hr'⟩
      · obtain ⟨q, hrun', hr', -⟩ :=
          (hm.hosts.abort _ (t, scene) ⟨hr, rfl⟩).of_error hrun
        exact ⟨_, .refused ht (.inr hrun'), hr'⟩

/-- No log is of any other session. -/
theorem Audited.led {t : Session (W × List Milestone)} (ht : Audited A t) :
    Led A t.unlogged := by
  have hm := A.mirrors_scribed Milestone.ledger.scribe
  induction ht with
  | new => exact .new _ _ _ _
  | construct world hop => exact .construct world hop
  | @run t _ _ _ c _ hrun ih =>
      obtain ⟨s, hrun', rfl⟩ := (Client.inStep_scribed hm c _ t rfl).symm.of_ok hrun
      exact .run c ih hrun'
  | @applied t S _ scene _ _ _ hrun ih =>
      obtain ⟨q, hrun', hr, -⟩ :=
        (hm.hosts.apply (t.unlogged, scene) (t, scene) ⟨rfl, rfl⟩).symm.of_ok hrun
      exact (show Unlogs q.1 _ from hr) ▸ .applied ih hrun'
  | @aborted t S _ scene _ _ hrun ih =>
      obtain ⟨q, hrun', hr, -⟩ :=
        (hm.hosts.abort (t.unlogged, scene) (t, scene) ⟨rfl, rfl⟩).symm.of_ok hrun
      exact (show Unlogs q.1 _ from hr) ▸ .aborted ih hrun'
  | @refused t S _ scene _ _ _ hrun ih =>
      rcases hrun with hrun | hrun
      · obtain ⟨q, hrun', hr, -⟩ :=
          (hm.hosts.apply (t.unlogged, scene) (t, scene) ⟨rfl, rfl⟩).symm.of_error hrun
        exact (show Unlogs q.1 _ from hr) ▸ .refused ih (.inl hrun')
      · obtain ⟨q, hrun', hr, -⟩ :=
          (hm.hosts.abort (t.unlogged, scene) (t, scene) ⟨rfl, rfl⟩).symm.of_error hrun
        exact (show Unlogs q.1 _ from hr) ▸ .refused ih (.inr hrun')

end Session

-- ===================================================================== results

/-- Nobody notices that clients and observers write down what their calls reach: every
client from outside comes to the same end, observers that fail included, and so does
applying to a scene of any kind and taking back on it. What is left behind is the same
but for the log. -/
theorem Session.recording_unnoticed (A : Audience W) {s : Session W}
    {t : Session (W × List Milestone)} (hr : t.unlogged = s) :
    (∀ {α : Type} (c : Client W α),
        SameEnd Unlogs (c.run A.outside s) (c.audited.run A.audited.outside t))
      ∧ ∀ {S : Type} [Surface S] (x : S),
        SameEnd (InStep.Beside S Unlogs) (A.outside.apply (s, x))
            (A.audited.outside.apply (t, x))
          ∧ SameEnd (InStep.Beside S Unlogs) (A.outside.abort (s, x))
            (A.audited.outside.abort (t, x)) := by
  have hm := A.mirrors_scribed Milestone.ledger.scribe
  exact ⟨fun c => Client.inStep_scribed hm c s t hr, fun x =>
    ⟨hm.hosts.apply (s, x) (t, x) ⟨hr, rfl⟩, hm.hosts.abort (s, x) (t, x) ⟨hr, rfl⟩⟩⟩

/-- Clients lead to the sessions of which there is a log, and to no others. -/
theorem Session.led_iff_recorded {A : Audience W} {s : Session W} :
    Led A s ↔ ∃ log, Recorded A log s := by
  constructor
  · intro hs
    obtain ⟨t, ht, rfl⟩ := hs.audited
    exact ⟨t.world.2, ht⟩
  · rintro ⟨log, ht⟩
    exact ht.led

end SceneMerge
