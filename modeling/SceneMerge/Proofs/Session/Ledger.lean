/-
Ledgers: records of what calls got done. A ledger says what is entered when an
operation takes snapshots, takes in a pass, is finished or is aborted (`Ledger`). Its
scribe enters it when the call is answered (`Ledger.scribe`), for calls from outside and
for those of observers alike.

A ledger is worth something if it agrees with the operation. What it means to agree is
up to the ledger; what has to be shown is one thing for each way in which an operation
changes (`Ledger.Accounts`), and then the ledger agrees with the operation whenever
nobody is in the middle of a call.

# What is due

A call changes the operation before whoever made it can enter anything, and tells
others in between, who may enter something of their own. What is missing meanwhile is
due, and telling keeps the ledger right up to what is due (`Session.Balanced`). A call
that comes to its end leaves due what it has got done (`Session.balanced_answer`), and
that is what the client enters (`Session.balanced_run`). So entries may stand in another
order than that in which the operation changed, and no ledger may mind
(`Ledger.Accounts.reorder`).

In flight observers get nothing done, since whatever would count is refused. So a pass
that lands finds the operation in the state in which it began.
-/
import SceneMerge.Proofs.Session.Scribe
import SceneMerge.Proofs.Session.Standstill

namespace SceneMerge

/-- What is entered of a call that got something done. -/
structure Ledger (L : Type) where
  populated : List L
  applied : Pass → List L
  finished : List L
  aborted : List L

namespace Ledger

variable {W L : Type}

/-- What is entered of a call that came to its end. Of a pass whoever runs it knows no
more than what was reported to have been applied. -/
def reached (k : Ledger L) : {α : Type} → Call α → α → List L
  | _, .populate .. => fun _ => k.populated
  | _, .finish => fun _ => k.finished
  | _, .apply _ => fun (r, _) =>
      match r with
      | .ok report => k.applied { applied := report.applied }
      | .error _ => []
  | _, .abort _ => fun (r, _) => match r with | .ok _ => k.aborted | .error _ => []
  | _, _ => fun _ => []

/-- Whoever calls enters what the call got done. -/
def scribe (k : Ledger L) : Scribe L where
  answered call r := match r with | .ok a => k.reached call a | .error _ => []

/-- The property says of an operation what is in the ledger, whatever gets the operation
further, and in whatever order that was entered. -/
structure Accounts (k : Ledger L) (Q : List L → Operation → Prop) : Prop where
  reorder : ∀ {log log' op}, Q log op → (∀ m, m ∈ log ↔ m ∈ log') → Q log' op
  noFurther : ∀ {log op op'}, Q log op → op.NoFurther op' → Q log op'
  fly : ∀ {log op} flag, Q log op → Q log { op with inFlight := flag }
  populate : ∀ {log op}, Q log op → Q (log ++ k.populated) { op with populated := true }
  absorb : ∀ {log op} (p : Pass), Q log op → op.state.isClosed = false →
    Q (log ++ k.applied p) (op.absorb p)
  finish : ∀ {log op}, Q log op → op.state.isClosed = false → Q (log ++ k.finished) op.finish
  close : ∀ {log op}, Q log op → op.state.isClosed = false → Q (log ++ k.aborted) op.close

/-- It does not matter whether a pass is entered as it was or with what was reported. -/
def Brief (k : Ledger L) (Q : List L → Operation → Prop) : Prop :=
  ∀ log op (p : Pass), Q (log ++ k.applied p) op →
    Q (log ++ k.applied { applied := p.applied }) op

/-- What merges snapshots has taken them, and nothing else happened to it. -/
theorem Accounts.construct {k : Ledger L} {Q : List L → Operation → Prop} (hk : k.Accounts Q)
    {source target : Snapshot} {base? : Option Snapshot} {options : MergeOptions}
    {op : Operation}
    (hnew : ∀ sourcePath basePath options, Q [] { sourcePath, basePath, options })
    (hop : Operation.construct source base? target options = .ok op) : Q k.populated op := by
  rw [Operation.construct_eq] at hop
  split at hop
  · cases hop
  · cases hop
    have hblank : ∀ basePath, Q k.populated (Operation.blank source basePath options) :=
      fun basePath => hk.populate (hnew source.path basePath options)
    refine Operation.addMemberships_keeps (fun op _ h => hk.noFurther h ?_) _
      (Operation.proposeAll_keeps (fun op p h => hk.noFurther h ?_) _ (hblank _))
    · exact Operation.changedByReviews_noFurther.addMembership
    · cases p with
      | action a => exact Operation.changedByReviews_noFurther.addAction trivial
      | conflict =>
          exact Operation.changedByReviews_noFurther.addConflict trivial fun _ _ => trivial

end Ledger

-- ==================================================================== sessions

namespace Session

variable {W L α : Type} {k : Ledger L} {Q : List L → Operation → Prop} {due entries : List L}
  {s t : Session (W × List L)}
  {tell : Event → EStateM SubscriptionId (Session (W × List L)) Unit}

/-- The ledger agrees with the operation but for what is due. -/
def Balanced (Q : List L → Operation → Prop) (due : List L) (s : Session (W × List L)) : Prop :=
  Q (s.world.2 ++ due) s.operation

/-- With nothing more due, what was due is due. -/
theorem Balanced.nil (hs : Balanced Q due s) : Balanced Q (due ++ []) s := by
  rwa [List.append_nil]

/-- Telling keeps the ledger right, and heeds refusals. -/
structure Audits (Q : List L → Operation → Prop)
    (tell : Event → EStateM SubscriptionId (Session (W × List L)) Unit) : Prop where
  balanced : ∀ due event, Keeps (Balanced Q due) (tell event)
  heeds : Heeds tell

section balanced

variable (hk : k.Accounts Q)

include hk

/-- What was entered is due no longer. -/
theorem Balanced.noted (hs : Balanced Q (due ++ entries) s) : Balanced Q due (s.noted entries) := by
  refine hk.reorder hs fun m => ?_
  simp only [Session.noted, List.mem_append]
  tauto

/-- What a ledger says of an operation it says of one that has got no further, so
writing back such an operation keeps it right. -/
theorem follows_balanced : (host tell).Follows Operation.NoFurther (Balanced (W := W) Q due) :=
  fun _ _ hop hs => hk.noFurther hs hop

variable (hn : Audits Q tell)

/-- A flight ends in the state in which it began, and the ledger is right. -/
theorem Balanced.flown (hs : Balanced Q due s)
    (ht : (host tell).Flown (Aloft (Balanced Q due) s) s t) :
    Balanced Q due t ∧ t.operation.state = s.operation.state :=
  of_flown (fun _ flag h => hk.fly flag h) hs ht

include hn

-- ---------------------------------------------------------------------- passes

section passes

variable {S : Type} [Surface S] {x : S} {q : Session (W × List L) × S} {p : Pass}

/-- A pass that lands is due, however the call ends that ran it. -/
theorem balanced_lands (hs : Balanced Q due s) (hp : (host tell).Lands s x p) :
    Balanced Q (due ++ k.applied p) (finalState ((host tell).apply (s, x))).1 := by
  obtain ⟨event, t, hflown, hend⟩ := Host.flown_of_lands
    (fun id => keeps_aloft (s := s) hn.heeds (hn.balanced due) (.actionApplied id)) hp
  obtain ⟨ht, hstate⟩ := hs.flown hk hflown
  have hopen : t.operation.state.isClosed = false :=
    hstate ▸ Operation.open_of_ensureMutable hp.1
  rw [hend]
  refine hn.balanced _ event _ ?_
  show Q (t.world.2 ++ (due ++ k.applied p)) (t.operation.absorb p)
  rw [← List.append_assoc]
  exact hk.absorb p ht hopen

/-- A pass that does not land leaves nothing due. -/
theorem balanced_not_lands (hs : Balanced Q due s) (hp : ∀ p, ¬ (host tell).Lands s x p) :
    Balanced Q due (finalState ((host tell).apply (s, x))).1 :=
  (hs.flown hk (Host.flown_of_not_lands
    (fun id => keeps_aloft hn.heeds (hn.balanced due) (.actionApplied id)) hp)).1

/-- What was reported is due. -/
theorem balanced_apply (hbrief : k.Brief Q) (hs : Balanced Q due s) {report : ApplyReport}
    (hrun : (host tell).apply (s, x) = .ok report q) :
    Balanced Q (due ++ k.applied { applied := report.applied }) q.1 := by
  obtain ⟨p, hp, happlied⟩ := Host.lands_of_apply_ok hrun
  have hend := balanced_lands hk hn hs hp
  rw [hrun] at hend
  rw [← happlied]
  unfold Balanced at hend ⊢
  rw [← List.append_assoc] at hend ⊢
  exact hbrief _ _ p hend

/-- Applying that is refused leaves due what was due. -/
theorem balanced_apply_refused (hs : Balanced Q due s) {e : MergeError}
    (hrun : (host tell).apply (s, x) = .error (.refused e) q) : Balanced Q due q.1 :=
  (hs.flown hk (Host.flown_of_apply_refused
    (fun id => keeps_aloft hn.heeds (hn.balanced due) (.actionApplied id)) hrun)).1

/-- Closing is due, however telling of it ends. -/
theorem balanced_close (hs : Balanced Q due s) (hopen : s.operation.state.isClosed = false) :
    Balanced Q (due ++ k.aborted) (finalState ((host tell).tell .aborted
      ((host tell).write ((host tell).read s).close s))) := by
  refine hn.balanced _ _ _ ?_
  show Q (s.world.2 ++ (due ++ k.aborted)) s.operation.close
  rw [← List.append_assoc]
  exact hk.close hs hopen

/-- However taking back ends, it leaves nothing due or that the operation was closed. -/
theorem balanced_abort_ends (hs : Balanced Q due s) (x : S) :
    Balanced Q due (finalState ((host tell).abort (s, x))).1
      ∨ Balanced Q (due ++ k.aborted) (finalState ((host tell).abort (s, x))).1 := by
  obtain ⟨t, hflown, hend | ⟨hm, hend⟩⟩ := Host.flown_of_abort (Aloft (Balanced Q due) s) s x
  · rw [hend]
    exact .inl (hs.flown hk hflown).1
  · rw [hend]
    obtain ⟨ht, hstate⟩ := hs.flown hk hflown
    exact .inr (balanced_close hk hn ht (hstate ▸ Operation.open_of_ensureMutable hm))

/-- Aborting leaves due that it was aborted. -/
theorem balanced_abort (hs : Balanced Q due s)
    (hrun : (host tell).abort (s, x) = .ok () q) : Balanced Q (due ++ k.aborted) q.1 := by
  obtain ⟨hm, t, hflown, htell⟩ := Host.flown_of_abort_ok (Aloft (Balanced Q due) s) hrun
  obtain ⟨ht, hstate⟩ := hs.flown hk hflown
  have hend := balanced_close hk hn ht (hstate ▸ Operation.open_of_ensureMutable hm)
  rw [htell] at hend
  exact hend

omit hn in
/-- Aborting that is refused leaves due what was due. -/
theorem balanced_abort_refused (hs : Balanced Q due s) {e : MergeError}
    (hrun : (host tell).abort (s, x) = .error (.refused e) q) : Balanced Q due q.1 :=
  (hs.flown hk (Host.flown_of_abort_refused _ hrun)).1

end passes

-- ----------------------------------------------------------------------- calls

/-- Finishing is due, however telling of it ends. -/
theorem balanced_finish (hs : Balanced Q due s) (hm : s.operation.ensureMutable = .ok ()) :
    Balanced Q (due ++ k.finished) (finalState ((host tell).tell .finished
      ((host tell).write ((host tell).read s).finish s))) := by
  refine hn.balanced _ _ _ ?_
  show Q (s.world.2 ++ (due ++ k.finished)) s.operation.finish
  rw [← List.append_assoc]
  exact hk.finish hs (Operation.open_of_ensureMutable hm)

/-- Populating leaves due that snapshots were taken. The operation says so before anyone
is told of what is added. -/
theorem balanced_populate {source : Snapshot} {base? : Option Snapshot} {target : Snapshot}
    (hs : Balanced Q due s) (hrun : (host tell).populate source base? target s = .ok () t) :
    Balanced Q (due ++ k.populated) t := by
  rw [Host.populate_eq] at hrun
  split at hrun
  · cases hrun
  · cases hrun
  · cases hrun
  · next _ hp hmark =>
      obtain ⟨-, rfl⟩ := Operation.of_markPopulated_ok hmark
      refine (Host.keeps_classify (follows_balanced hk) Operation.changedByReviews_noFurther
        (hn.balanced _) (Proposal.constructed_merging hp) _ _).ok ?_ hrun
      show Q (s.world.2 ++ (due ++ k.populated)) { s.operation with populated := true }
      rw [← List.append_assoc]
      exact hk.populate hs

/-- A call that comes to its end leaves due what it got done. -/
theorem balanced_answer (hbrief : k.Brief Q) {call : Call α} {a : α} (hs : Balanced Q due s)
    (hrun : answer (host tell) call s = .ok a t) : Balanced Q (due ++ k.reached call a) t := by
  -- calls that prepare a merge reach nothing that a ledger enters, unless they populate
  have hprepared : call.prepares = true → call.populates = false → call.registers = false →
      Balanced Q due t := by
    intro hprepares hpopulates hregisters
    refine (keeps_changes (follows_balanced hk) (hn.balanced due)
      Operation.changedByReviews_noFurther (fun h => ?_) call.adds_any hprepares
      hregisters).ok hs hrun
    cases hpopulates.symm.trans h
  cases call with
  | populate source base? target => exact balanced_populate hk hn hs hrun
  | finish =>
      obtain ⟨hm, htell⟩ := Host.of_finish_ok hrun
      have hend := balanced_finish hk hn hs hm
      rw [htell] at hend
      exact hend
  | apply scene =>
      obtain ⟨r, scene'⟩ := a
      cases r with
      | ok report => exact balanced_apply hk hn hbrief hs (ok_of_onScene hrun)
      | error e => exact (balanced_apply_refused hk hn hs (refused_of_onScene hrun)).nil
  | abort scene =>
      obtain ⟨r, scene'⟩ := a
      cases r with
      | ok report => exact balanced_abort hk hn hs (ok_of_onScene hrun)
      | error e => exact (balanced_abort_refused hk hs (refused_of_onScene hrun)).nil
  | subscribe =>
      cases hrun
      exact hs.nil
  | unsubscribe id =>
      cases hrun
      exact hs.nil
  | _ => exact (hprepared rfl rfl rfl).nil

/-- A client enters what its calls got done, so nothing more is due. -/
theorem balanced_run (hbrief : k.Brief Q) {c : Client W α} {a : α} (hs : Balanced Q due s)
    (hrun : (c.scribed k.scribe).run (host tell) s = .ok a t) : Balanced Q due t := by
  induction c generalizing s with
  | done b =>
      cases hrun
      exact hs
  | look next ih => exact ih _ _ hs hrun
  | share f next ih =>
      exact ih _ (s := ⟨s.operation, s.registry, (f s.world.1).2, s.world.2⟩) hs hrun
  | ask call next ih =>
      unfold Client.scribed Client.run at hrun
      split at hrun
      · next heq => exact ih _ ((balanced_answer hk hn hbrief hs heq).noted hk) hrun
      · next heq =>
          rw [answer_refused _ _ _ _ _ heq] at hrun
          exact ih _ (hs.nil.noted hk) hrun
      · cases hrun

omit hn hk in
/-- Events that only join the queue leave the ledger as it is. -/
theorem audits_enqueue : Audits Q (enqueue (W := W × List L)) where
  balanced _ _ _ hs := hs
  heeds := heeds_enqueue

omit hn in
/-- An audience with a scribe accounts for what it does. Notes of an event change
nothing, and every call of an observer leaves nothing due. -/
theorem audits_announce (hbrief : k.Brief Q) (A : Audience W) :
    Audits Q (A.scribed k.scribe).announce where
  balanced due event := by
    refine Audience.Keeper.announce ⟨fun _ hs => hs, fun _ _ hs => ?_, ?_⟩ event
    · show Q ((_ ++ []) ++ due) _
      rwa [List.append_nil]
    · intro id event w c hc s hs
      obtain ⟨c, -, rfl⟩ := Option.map_eq_some_iff.1 hc
      rw [Client.run_reacting, show k.scribe.acts id = [] from rfl, noted_nil]
      cases hrun : (c.scribed k.scribe).run (host enqueue) s with
      | ok ending t =>
          have ht := balanced_run hk audits_enqueue hbrief hs hrun
          rw [← noted_nil t] at ht
          exact ht
      | error id t => exact absurd hrun (Client.run_unstopped enqueue_unstopped _ _ _ _)
  heeds := heeds_announce (A.scribed k.scribe)

end balanced

end Session

end SceneMerge
