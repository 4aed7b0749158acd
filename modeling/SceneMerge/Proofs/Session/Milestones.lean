/-
What there is to remember of a merge: that it took snapshots, that a pass was
applied, that it was finished and that it was aborted. Every client of a session
can be made to write down which of these its calls have reached
(`Client.audited`), and nothing else of what it does changes. The sessions that such
clients lead to have a log of what was reached so far, by calls from outside and by
those of observers (`Session.Audited`), and of an operation at rest the log says in
which state it is and whether it was populated (`Operation.Tallies`,
`Session.Audited.tallied`).

Milestones are a ledger like others, so all that is shown here is what the log says of
an operation, and that every way to get an operation further enters the right thing
(`Operation.accounts_tallies`).
-/
import SceneMerge.Proofs.Session.Ledger

namespace SceneMerge

/-- What is worth remembering of a merge. -/
inductive Milestone where
  | populated
  | applied
  | finished
  | aborted
deriving DecidableEq

/-- What a call has reached that came to its end, if that is worth remembering. -/
def Milestone.ledger : Ledger Milestone where
  populated := [.populated]
  applied _ := [.applied]
  finished := [.finished]
  aborted := [.aborted]

-- ================================================================= operations

namespace Operation

variable {op op' : Operation} {log log' : List Milestone}

/-- What the log says of an operation that is at this point. -/
structure Tallies (log : List Milestone) (op : Operation) : Prop where
  populated : op.populated = true ↔ .populated ∈ log
  idle : op.state = .idle ↔ ∀ m ∈ log, m = .populated
  committed : op.state = .committed ↔ .finished ∈ log
  rolledBack : op.state = .rolledBack ↔ .aborted ∈ log
  unapplied : op.state = .idle → op.Unapplied

/-- Nothing happened yet to a new operation. -/
theorem tallies_new (sourcePath basePath : String) (options : MergeOptions) :
    ({ sourcePath, basePath, options } : Operation).Tallies [] :=
  ⟨iff_of_false nofun nofun, iff_of_true rfl nofun, iff_of_false nofun nofun,
    iff_of_false nofun nofun, fun _ => ⟨rfl, rfl, rfl, rfl⟩⟩

namespace Tallies

/-- In which order things were reached is of no concern. -/
theorem congr (h : op.Tallies log) (hlog : ∀ m, m ∈ log ↔ m ∈ log') : op.Tallies log' where
  populated := h.populated.trans (hlog _)
  idle := h.idle.trans (by simp only [hlog])
  committed := h.committed.trans (hlog _)
  rolledBack := h.rolledBack.trans (hlog _)
  unapplied := h.unapplied

/-- A log goes on to tell of an operation what it told of it before it was reviewed. -/
theorem noFurther (h : op.Tallies log) (hop : op.NoFurther op') : op'.Tallies log where
  populated := by rw [hop.populated, h.populated]
  idle := by rw [hop.state, h.idle]
  committed := by rw [hop.state, h.committed]
  rolledBack := by rw [hop.state, h.rolledBack]
  unapplied hidle := hop.unapplied (h.unapplied (hop.state ▸ hidle))

/-- The flag is not in the log. -/
theorem fly (h : op.Tallies log) (flag : Bool) : ({ op with inFlight := flag }).Tallies log :=
  ⟨h.populated, h.idle, h.committed, h.rolledBack, fun hidle =>
    have ⟨happlied, hmemberships, hjournal, hstaged⟩ := h.unapplied hidle
    ⟨happlied, hmemberships, hjournal, hstaged⟩⟩

/-- Taking snapshots is entered, and does not alter the state. -/
theorem populate (h : op.Tallies log) :
    ({ op with populated := true }).Tallies (log ++ [Milestone.populated]) where
  populated := by simp
  idle := h.idle.trans (by simp [or_imp])
  committed := h.committed.trans (by simp)
  rolledBack := h.rolledBack.trans (by simp)
  unapplied hidle :=
    have ⟨happlied, hmemberships, hjournal, hstaged⟩ := h.unapplied hidle
    ⟨happlied, hmemberships, hjournal, hstaged⟩

section opened

variable (h : op.Tallies log) (hopen : op.state.isClosed = false)

include h hopen

/-- An operation that is not closed was neither finished nor aborted. -/
theorem not_mem_of_open : .finished ∉ log ∧ .aborted ∉ log := by
  rw [← h.committed, ← h.rolledBack]
  constructor
  · intro hstate
    rw [hstate] at hopen
    cases hopen
  · intro hstate
    rw [hstate] at hopen
    cases hopen

/-- A pass that is taken in is entered, and the operation is previewing from then on,
for it was open. -/
theorem absorb (p : Pass) : (op.absorb p).Tallies (log ++ [Milestone.applied]) := by
  obtain ⟨hfinished, haborted⟩ := h.not_mem_of_open hopen
  refine ⟨h.populated.trans (by simp), ?_, ?_, ?_, nofun⟩
  · exact iff_of_false nofun (by simp [or_imp, forall_and])
  · exact iff_of_false nofun (by simpa using hfinished)
  · exact iff_of_false nofun (by simpa using haborted)

/-- Finishing is entered, and commits an operation that was open. -/
theorem finish : op.finish.Tallies (log ++ [Milestone.finished]) := by
  obtain ⟨-, haborted⟩ := h.not_mem_of_open hopen
  refine ⟨h.populated.trans (by simp), ?_, ?_, ?_, nofun⟩
  · exact iff_of_false nofun (by simp [or_imp, forall_and])
  · exact iff_of_true rfl (by simp)
  · exact iff_of_false nofun (by simpa using haborted)

/-- Aborting is entered, and rolls back an operation that was open. -/
theorem close : op.close.Tallies (log ++ [Milestone.aborted]) := by
  obtain ⟨hfinished, -⟩ := h.not_mem_of_open hopen
  refine ⟨h.populated.trans (by simp), ?_, ?_, ?_, nofun⟩
  · exact iff_of_false nofun (by simp [or_imp, forall_and])
  · exact iff_of_false nofun (by simpa using hfinished)
  · exact iff_of_true rfl (by simp)

end opened

end Tallies

/-- Milestones are entered whenever an operation gets further. -/
theorem accounts_tallies : Milestone.ledger.Accounts fun log op => op.Tallies log where
  reorder h hlog := h.congr hlog
  noFurther h hop := h.noFurther hop
  fly flag h := h.fly flag
  populate h := h.populate
  absorb p h hopen := h.absorb hopen p
  finish h hopen := h.finish hopen
  close h hopen := h.close hopen

/-- The log of milestones has that a pass was applied, and nothing of what it did. -/
theorem brief_tallies : Milestone.ledger.Brief fun log op => op.Tallies log :=
  fun _ _ _ h => h

end Operation

-- ==================================================================== clients

/-- The client, writing down behind its world what its calls have reached. -/
abbrev Client.audited {W α : Type} (c : Client W α) : Client (W × List Milestone) α :=
  c.scribed Milestone.ledger.scribe

/-- The audience, all of whose reactions do so. -/
abbrev Audience.audited {W : Type} (A : Audience W) : Audience (W × List Milestone) :=
  A.scribed Milestone.ledger.scribe

namespace Session

variable {W : Type}

/-- The sessions that clients from outside lead to who write down what they reach,
with an audience that does so too, as long as no observer fails. Clients apply to
scenes of any kind, and take back on them. -/
inductive Audited (A : Audience W) : Session (W × List Milestone) → Prop where
  | new (sourcePath basePath : String) (options : MergeOptions) (world : W) :
      Audited A { operation := { sourcePath, basePath, options }, world := (world, []) }
  | construct {source target : Snapshot} {base? : Option Snapshot}
      {options : MergeOptions} {op : Operation} (world : W) :
      Operation.construct source base? target options = .ok op →
      Audited A { operation := op, world := (world, [.populated]) }
  | run {s t : Session (W × List Milestone)} {α : Type} {a : α} (c : Client W α) :
      Audited A s → c.audited.run A.audited.outside s = .ok a t → Audited A t
  | applied {s : Session (W × List Milestone)} {S : Type} [Surface S] {scene : S}
      {report : ApplyReport} {q : Session (W × List Milestone) × S} : Audited A s →
      A.audited.outside.apply (s, scene) = .ok report q → Audited A (q.1.noted [.applied])
  | aborted {s : Session (W × List Milestone)} {S : Type} [Surface S] {scene : S}
      {q : Session (W × List Milestone) × S} : Audited A s →
      A.audited.outside.abort (s, scene) = .ok () q → Audited A (q.1.noted [.aborted])
  | refused {s : Session (W × List Milestone)} {S : Type} [Surface S] {scene : S}
      {e : MergeError} {q : Session (W × List Milestone) × S} : Audited A s →
      A.audited.outside.apply (s, scene) = .error (.refused e) q
        ∨ A.audited.outside.abort (s, scene) = .error (.refused e) q →
      Audited A q.1

variable {A : Audience W} {s : Session (W × List Milestone)}

/-- The log of a session at rest is right. -/
theorem Audited.tallied (hs : Audited A s) : Balanced (fun log op => op.Tallies log) [] s := by
  have hk := Operation.accounts_tallies
  have hbrief := Operation.brief_tallies
  have hn := audits_announce hk hbrief A
  induction hs with
  | new => exact Operation.tallies_new _ _ _
  | construct _ hop => exact hk.construct Operation.tallies_new hop
  | run c _ hrun ih => exact balanced_run hk hn hbrief ih hrun
  | applied _ hrun ih => exact (balanced_apply hk hn hbrief ih hrun).noted hk
  | aborted _ hrun ih => exact (balanced_abort hk hn ih hrun).noted hk
  | refused _ hrun ih =>
      rcases hrun with hrun | hrun
      · exact balanced_apply_refused hk hn ih hrun
      · exact balanced_abort_refused hk ih hrun

/-- What the operation is at rest is said by the log alone. -/
theorem Audited.tallies (hs : Audited A s) : s.operation.Tallies s.world.2 :=
  hs.tallied.congr fun m => by rw [List.append_nil]

/-- At rest no pass is running. -/
theorem Audited.rests (hs : Audited A s) : s.operation.inFlight = false := by
  have hcall := fun {α : Type} (call : Call α) =>
    answer_rests (announce_rests A.audited) (announce_flies A.audited) call
  induction hs with
  | new => rfl
  | construct _ hop => exact (Operation.keptByReviews_inFlight false).construct rfl hop
  | run c _ hrun ih =>
      exact (Client.run_has (P := fun _ => True) (fun call _ => hcall call)
        (c.audited.makesOnly_any fun _ => trivial)).ok ih hrun
  | applied _ hrun ih => exact (apply_rests A.audited).ok (s := (_, _)) ih hrun
  | aborted _ hrun ih => exact (abort_rests A.audited).ok (s := (_, _)) ih hrun
  | refused _ hrun ih =>
      rcases hrun with hrun | hrun
      · exact (apply_rests A.audited).error (s := (_, _)) ih hrun
      · exact (abort_rests A.audited).error (s := (_, _)) ih hrun

end Session

end SceneMerge
