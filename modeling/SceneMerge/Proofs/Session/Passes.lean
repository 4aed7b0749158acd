/-
The log of passes. Calls from outside run passes on scenes of any kind, and so do
observers on scenes of their own; some of the passes land and some do not. What every
pass did that landed is written down by the run itself (`Session.Logged`): for a pass
from outside once the call is over, however it ended, and for one that an observer ran
when it is answered. Of the latter no more is known than what was reported.

Every session that calls lead to has such a log, and every log is of such a session
(`Session.Reachable.logged`, `Session.Logged.reachable`). As long as the operation takes
changes it lists as applied exactly what is in the log (`Session.Run.applied`). That is
so whatever observers do in between, on whatever scenes: in flight they get nothing
done, and what they get done afterwards they enter themselves (`Session.Balanced`).
-/
import SceneMerge.Proofs.Session.Coherence
import SceneMerge.Proofs.Session.Ledger

namespace SceneMerge

/-- What every pass did that landed is entered, and nothing else. -/
def Pass.ledger : Ledger Pass where
  populated := []
  applied p := [p]
  finished := []
  aborted := []

/-- The audience, writing down what passes it ran. -/
abbrev Audience.logged {W : Type} (A : Audience W) : Audience (W × List Pass) :=
  A.scribed Pass.ledger.scribe

-- ================================================================= operations

namespace Operation

variable {ι : Type} {entries : Pass → List ι} {listed : Operation → List ι}

/-- As long as the operation takes changes it lists what the passes of the log did. -/
def Lists (entries : Pass → List ι) (listed : Operation → List ι) (log : List Pass)
    (op : Operation) : Prop :=
  op.state.isClosed = false → ∀ x, x ∈ listed op ↔ x ∈ log.flatMap entries

/-- A new operation lists nothing, and nothing was entered. -/
theorem lists_new (sourcePath basePath : String) (options : MergeOptions)
    (hnew : listed { sourcePath, basePath, options } = []) :
    Lists entries listed [] { sourcePath, basePath, options } := by
  intro _ x
  rw [hnew]
  rfl

/-- What only passes add to is what the log says. -/
theorem accounts_lists
    (hkept : ∀ {op op'}, op.NoFurther op' → listed op' = listed op)
    (hfly : ∀ op flag, listed { op with inFlight := flag } = listed op)
    (hpopulated : ∀ op, listed { op with populated := true } = listed op)
    (habsorb : ∀ op p, listed (op.absorb p) = listed op ++ entries p) :
    Pass.ledger.Accounts (Lists entries listed) where
  reorder h hlog hopen x := by
    rw [h hopen, List.mem_flatMap, List.mem_flatMap]
    simp only [hlog]
  noFurther h hop hopen := by
    rw [hkept hop]
    exact h (hop.state ▸ hopen)
  fly flag h hopen := by
    rw [hfly]
    exact h hopen
  populate h hopen := by
    rw [hpopulated, show Pass.ledger.populated = [] from rfl, List.append_nil]
    exact h hopen
  absorb p h hopen _ x := by
    rw [habsorb, List.mem_append, h hopen, List.flatMap_append, List.mem_append]
    exact or_congr_right (by simp [Pass.ledger])
  -- what is closed takes no changes
  finish _ _ hopen := nomatch hopen
  close _ _ hopen := nomatch hopen

/-- The log of passes accounts for the actions that an operation lists as applied. -/
theorem accounts_applied : Pass.ledger.Accounts (Lists (·.applied) (·.applied)) :=
  accounts_lists (·.applied) (fun _ _ => rfl) (fun _ => rfl) fun _ _ => rfl

/-- The log of passes accounts for the membership changes that an operation lists as
made. -/
theorem accounts_memberships :
    Pass.ledger.Accounts (Lists (·.memberships) (·.appliedMemberships)) :=
  accounts_lists (·.memberships) (fun _ _ => rfl) (fun _ => rfl) fun _ _ => rfl

/-- What a pass applied is reported. -/
theorem brief_applied : Pass.ledger.Brief (Lists (·.applied) (·.applied)) := by
  intro log op p h hopen id
  rw [h hopen, List.flatMap_append, List.flatMap_append]
  rfl

end Operation

-- ======================================================================= runs

namespace Session

variable {W : Type}

/-- The sessions with an audience that calls from outside lead to, with what every pass
did that landed. What is added from outside is `ok`, or proposed by comparing snapshots;
scenes are of any kind. A call leads on however it ends. -/
inductive Logged (A : Audience W) (ok : Action → Prop) : Session (W × List Pass) → Prop where
  | new (sourcePath basePath : String) (options : MergeOptions) (world : W) :
      Logged A ok { operation := { sourcePath, basePath, options }, world := (world, []) }
  | construct {source target : Snapshot} {base? : Option Snapshot}
      {options : MergeOptions} {op : Operation} (world : W) :
      Operation.construct source base? target options = .ok op →
      Logged A ok { operation := op, world := (world, []) }
  | call {s : Session (W × List Pass)} {α : Type} (call : Call α) : Logged A ok s →
      call.prepares = true → call.Adds ok →
      Logged A ok (finalState (answer A.logged.outside call s))
  | landed {s : Session (W × List Pass)} {S : Type} [Surface S] {scene : S} {p : Pass} :
      Logged A ok s → A.logged.outside.Lands s scene p →
      Logged A ok ((finalState (A.logged.outside.apply (s, scene))).1.noted [p])
  | failed {s : Session (W × List Pass)} {S : Type} [Surface S] {scene : S} :
      Logged A ok s → (∀ p, ¬ A.logged.outside.Lands s scene p) →
      Logged A ok (finalState (A.logged.outside.apply (s, scene))).1
  | finish {s : Session (W × List Pass)} : Logged A ok s →
      Logged A ok (finalState (A.logged.outside.finish s))
  | abort {s : Session (W × List Pass)} {S : Type} [Surface S] (scene : S) :
      Logged A ok s → Logged A ok (finalState (A.logged.outside.abort (s, scene))).1

/-- These passes may have landed on a way to the session, and no others. -/
def Run (A : Audience W) (ok : Action → Prop) (log : List Pass) (s : Session W) : Prop :=
  Logged A ok ⟨s.operation, s.registry, s.world, log⟩

variable {A : Audience W} {ok : Action → Prop}

/-- A run begins with a new operation and an empty log. -/
theorem Run.new (sourcePath basePath : String) (options : MergeOptions) (world : W) :
    Run A ok [] { operation := { sourcePath, basePath, options }, world } :=
  Logged.new sourcePath basePath options world

/-- A session that is logged is a run of the session without its log. -/
theorem Logged.run {t : Session (W × List Pass)} (ht : Logged A ok t) {s : Session W}
    {log : List Pass} (hs : Unlogs s t) (hlog : t.world.2 = log) : Run A ok log s := by
  subst hlog
  obtain rfl : t.unlogged = s := hs
  exact ht

-- ------------------------------------------------------------- logs and sessions

/-- Every session that calls lead to has a log. -/
theorem Reachable.logged {s : Session W} (hs : Reachable A s) :
    ∃ t, Logged A Action.Constructed t ∧ Unlogs s t := by
  have hm := A.mirrors_scribed Pass.ledger.scribe
  -- a pass is entered if it lands, with or without the log
  have hpass : ∀ {s : Session W} {S : Type} [Surface S] (scene : S),
      (∃ t, Logged A Action.Constructed t ∧ Unlogs s t) →
      ∃ t, Logged A Action.Constructed t
        ∧ Unlogs (finalState (A.outside.apply (s, scene))).1 t := by
    rintro s S _ scene ⟨t, ht, hr⟩
    have hend := (hm.hosts.apply (s, scene) (t, scene) ⟨hr, rfl⟩).finalState.1
    by_cases hp : ∃ p, A.logged.outside.Lands t scene p
    · obtain ⟨p, hp⟩ := hp
      exact ⟨_, .landed ht hp, hend⟩
    · exact ⟨_, .failed ht (not_exists.1 hp), hend⟩
  have hback : ∀ {s : Session W} {S : Type} [Surface S] (scene : S),
      (∃ t, Logged A Action.Constructed t ∧ Unlogs s t) →
      ∃ t, Logged A Action.Constructed t
        ∧ Unlogs (finalState (A.outside.abort (s, scene))).1 t := by
    rintro s S _ scene ⟨t, ht, hr⟩
    exact ⟨_, .abort scene ht,
      (hm.hosts.abort (s, scene) (t, scene) ⟨hr, rfl⟩).finalState.1⟩
  induction hs with
  | new => exact ⟨_, .new _ _ _ _, rfl⟩
  | construct world hop => exact ⟨_, .construct world hop, rfl⟩
  | @call s α call _ hadds ih =>
      obtain ⟨t, ht, hr⟩ := ih
      have hend := (hm.answer call s t hr).finalState
      -- of the calls that prepare nothing three reach something, and each of them is a
      -- step of its own
      cases hprepares : call.prepares with
      | true => exact ⟨_, .call call ht hprepares hadds, hend⟩
      | false =>
          cases call with
          | finish => exact ⟨_, .finish ht, hend⟩
          | apply scene =>
              rw [show finalState (answer A.outside (.apply scene) s) = _ from
                finalState_onScene _ scene s]
              exact hpass scene ⟨t, ht, hr⟩
          | abort scene =>
              rw [show finalState (answer A.outside (.abort scene) s) = _ from
                finalState_onScene _ scene s]
              exact hback scene ⟨t, ht, hr⟩
          | _ => cases hprepares
  | apply scene _ ih => exact hpass scene ih
  | abort scene _ ih => exact hback scene ih

/-- No log is of any other session. -/
theorem Logged.reachable {t : Session (W × List Pass)} (hok : ∀ a, ok a → a.Constructed)
    (ht : Logged A ok t) : Reachable A t.unlogged := by
  have hm := A.mirrors_scribed Pass.ledger.scribe
  have hpass : ∀ {t : Session (W × List Pass)} {S : Type} [Surface S] (scene : S),
      Reachable A t.unlogged →
      Reachable A (finalState (A.logged.outside.apply (t, scene))).1.unlogged := by
    intro t S _ scene ih
    have hend : Unlogs _ _ :=
      (hm.hosts.apply (t.unlogged, scene) (t, scene) ⟨rfl, rfl⟩).finalState.1
    exact hend ▸ ih.apply scene
  induction ht with
  | new => exact .new _ _ _ _
  | construct world hop => exact .construct world hop
  | @call t α call _ _ hadds ih =>
      have hend : Unlogs _ _ := (hm.answer call t.unlogged t rfl).finalState
      exact hend ▸ ih.call call (hadds.imp hok)
  | @landed t S _ scene p _ _ ih => exact hpass scene ih
  | @failed t S _ scene _ _ ih => exact hpass scene ih
  | @finish t _ ih =>
      have hend : Unlogs _ _ := (hm.answer .finish t.unlogged t rfl).finalState
      exact hend ▸ ih.call .finish trivial
  | @abort t S _ scene _ ih =>
      have hend : Unlogs _ _ :=
        (hm.hosts.abort (t.unlogged, scene) (t, scene) ⟨rfl, rfl⟩).finalState.1
      exact hend ▸ ih.abort scene

-- ------------------------------------------------------------- logs and operations

section balanced

variable {L : List Pass → Operation → Prop} (hk : Pass.ledger.Accounts L)
  {tell : Event → EStateM SubscriptionId (Session (W × List Pass)) Unit}
  {due : List Pass} {s : Session (W × List Pass)}

include hk

/-- Building and reviewing leave nothing due. -/
theorem balanced_prepared (hn : Audits L tell) {α : Type} {call : Call α}
    (hprepares : call.prepares = true) :
    Keeps (Balanced L due) (answer (host tell) call) := by
  cases hregisters : call.registers with
  | true => exact keeps_registers (fun _ hs => hs) hregisters
  | false =>
      have hR : Operation.ChangedByReviews (fun _ => True)
          fun op op' => ∀ log, L log op → L log op' :=
        Operation.changedByReviews_noFurther.imp fun hop _ h => hk.noFurther h hop
      refine keeps_changes (fun s op hop hs => hop _ hs) (hn.balanced due) hR
        (fun _ op log h => ?_) call.adds_any hprepares hregisters
      have hpopulated := hk.populate h
      rwa [show Pass.ledger.populated = [] from rfl, List.append_nil] at hpopulated

/-- Ending the operation leaves nothing due. -/
theorem balanced_ended (hn : Audits L tell) (hs : Balanced L due s) :
    Balanced L due (finalState ((host tell).finish s))
      ∧ ∀ {S : Type} [Surface S] (scene : S),
        Balanced L due (finalState ((host tell).abort (s, scene))).1 := by
  have hnothing : ∀ {t : Session (W × List Pass)},
      Balanced L (due ++ []) t → Balanced L due t := by
    intro t ht
    rwa [List.append_nil] at ht
  refine ⟨?_, fun scene => ?_⟩
  · cases hm : s.operation.ensureMutable with
    | error e =>
        rw [(host tell).finish_barred hm]
        exact hs
    | ok =>
        rw [Host.finalState_finish hm]
        exact hnothing (balanced_finish hk hn hs hm)
  · exact (balanced_abort_ends hk hn hs scene).elim id hnothing

/-- Whatever accounts for passes agrees with the log in every run, if it does while
others are told of something. -/
theorem Logged.balanced (hn : Audits L A.logged.announce)
    (hnew : ∀ sourcePath basePath options, L [] { sourcePath, basePath, options })
    (hs : Logged A ok s) : Balanced L [] s := by
  induction hs with
  | new => exact hnew _ _ _
  | construct _ hop => exact hk.construct hnew hop
  | call call _ hprepares _ ih => exact balanced_prepared hk hn hprepares _ ih
  | landed _ hp ih => exact (balanced_lands hk hn ih hp).noted hk
  | failed _ hp ih => exact balanced_not_lands hk hn ih hp
  | finish _ ih => exact (balanced_ended hk hn ih).1
  | abort scene _ ih => exact (balanced_ended hk hn ih).2 scene

end balanced

/-- As long as the operation takes changes, it lists as applied what passes of the log
applied. -/
theorem Logged.applied {t : Session (W × List Pass)} (ht : Logged A ok t)
    (hopen : t.operation.state.isClosed = false) (id : ActionId) :
    id ∈ t.operation.applied ↔ id ∈ t.world.2.flatMap (·.applied) := by
  have hk := Operation.accounts_applied
  have hlog := Logged.balanced hk (audits_announce hk Operation.brief_applied A)
    (fun _ _ _ => Operation.lists_new _ _ _ rfl) ht hopen id
  rwa [List.append_nil] at hlog

/-- Of a run that is open the log has what the operation lists as applied. -/
theorem Run.applied {log : List Pass} {s : Session W} (hs : Run A ok log s)
    (hopen : s.operation.state.isClosed = false) (id : ActionId) :
    id ∈ s.operation.applied ↔ id ∈ log.flatMap (·.applied) :=
  Logged.applied hs hopen id

end Session

end SceneMerge
