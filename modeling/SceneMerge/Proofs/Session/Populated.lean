/-
Populating at any time. An operation that takes changes is populated unless one of
the snapshots that take part repeats a name, or it was populated before. Which
error is answered (`Operation.verdict`), and about which snapshot and name, is said
by the snapshots in the order in which they are read and by what was reached before;
and if there is one, it is as if nobody had asked (`populate_answered`).

That the call comes to its end takes observers that do not fail. Then telling comes
to its end, whatever they do (`Audience.Returns.announce`), and so does every call.
-/
import SceneMerge.Proofs.Session.Once
import SceneMerge.Proofs.Session.Recording

namespace SceneMerge

variable {W : Type}

-- =================================================================== unstopped

/-- A client that does not fail ends well, if it comes to its end. -/
theorem Client.Returns.of_run_ok {c : Client W Ending} (hc : c.Returns)
    {h : Host (Session W)} {s t : Session W} {ending : Ending}
    (hrun : c.run h s = .ok ending t) : ending = .returns := by
  induction hc generalizing s with
  | done =>
      cases hrun
      rfl
  | look _ ih => exact ih _ _ hrun
  | share _ ih => exact ih _ hrun
  | ask _ ih =>
      unfold Client.run at hrun
      split at hrun
      · exact ih _ hrun
      · exact ih _ hrun
      · cases hrun

namespace Audience

variable {A : Audience W}

/-- No observer fails. -/
def Returns (A : Audience W) : Prop :=
  ∀ id event w c, A.reaction? id event w = some c → c.Returns

namespace Returns

variable (hA : A.Returns)

include hA

/-- An observer ends what it does without failing, and nobody else can fail meanwhile,
for the events that it raises are left to the queue. -/
theorem hear (listening : Bool) (event : Event) (id : SubscriptionId) :
    StopsOnly (fun _ => False) (A.hear Session.enqueue listening event id) := by
  intro s who t hrun
  unfold Audience.hear at hrun
  simp only at hrun
  split at hrun
  · cases hrun
  · next c hc =>
      have hreturns : c.Returns := by
        split at hc
        · cases hc
        · exact hA _ _ _ _ hc
      split at hrun
      · cases hrun
      · next heq => cases hreturns.of_run_ok heq
      · next heq => exact Client.run_unstopped Session.enqueue_unstopped _ _ _ _ heq

/-- If nobody fails then everyone is told. -/
theorem hearAll (listening : Bool) (event : Event) (ids : List SubscriptionId) :
    StopsOnly (fun _ => False) (A.hearAll Session.enqueue listening event ids) := by
  induction ids with
  | nil => exact .pure _
  | cons id ids ih =>
      exact .bind (hA.hear listening event id) fun _ => .bind ih fun _ => .pure _

/-- Checking out and in cannot fail. -/
theorem deliver (listening : Bool) (event : Event) :
    StopsOnly (fun _ => False) (A.deliver Session.enqueue listening event) := by
  intro s who t hrun
  unfold Audience.deliver at hrun
  simp only at hrun
  split at hrun
  · cases hrun
  · next heq => exact hA.hearAll listening event _ _ _ _ heq

/-- The queue is gone through to its end, or up to a reaction. -/
theorem untilReaction (listening : Bool) {next : EStateM SubscriptionId (Session W) Unit}
    (hnext : StopsOnly (fun _ => False) next) (queue : List Event) :
    StopsOnly (fun _ => False)
      (untilReaction (A.deliver Session.enqueue listening) next queue) := by
  induction queue with
  | nil => exact .pure _
  | cons event rest ih =>
      have htake : StopsOnly (fun _ => False) (modify fun s : Session W =>
          { s with registry := { s.registry with queue := rest } }
            : EStateM SubscriptionId (Session W) Unit) := by
        intro s who t h
        cases h
      exact .bind htake fun _ => .bind (hA.deliver listening event) fun _ => .ite hnext ih

/-- However patient the delivery is, nobody stops it. The induction is on that. -/
theorem drain (n : Nat) : StopsOnly (fun _ => False) (A.drain Session.enqueue n) := by
  induction n with
  | zero => exact .get_bind fun _ => hA.untilReaction true (.pure _) _
  | succ n ih => exact .get_bind fun _ => hA.untilReaction false ih _

/-- Telling comes to its end. -/
theorem announce (event : Event) : StopsOnly (fun _ => False) (A.announce event) := by
  intro s who t hrun
  unfold Audience.announce at hrun
  cases hbusy : s.registry.busy with
  | true =>
      rw [A.emit_busy hbusy] at hrun
      cases hrun
  | false =>
      rw [A.emit_rest hbusy] at hrun
      split at hrun
      · cases hrun
      · next heq => exact hA.drain _ _ _ _ heq

end Returns

end Audience

-- ===================================================================== refused

/-- After a call that is refused everything goes as if nobody had called. -/
theorem Client.run_refused {h : Host (Session W)} {α : Type} {call : Call α}
    {e : MergeError} {s t : Session W}
    (hrun : Session.answer h call s = .error (.refused e) t) :
    (Client.call call).run h s = .ok (.error e) s
      ∧ ∀ {β : Type} (next : Client W β),
        (Client.call call >>= fun _ => next).run h s = next.run h s := by
  obtain rfl := Session.answer_refused h call _ _ _ hrun
  constructor
  · show (Client.ask call .done).run h t = _
    rw [Client.run, hrun]
    rfl
  · intro β next
    show (Client.ask call fun _ => next).run h t = _
    rw [Client.run, hrun]

-- ===================================================================== verdict

namespace Operation

variable {op : Operation} {source target : Snapshot} {base? : Option Snapshot}

/-- What populating the operation is answered with, if it takes changes. -/
def verdict (op : Operation) (source : Snapshot) (base? : Option Snapshot)
    (target : Snapshot) : Except MergeError Unit :=
  match Proposal.merging source base? target with
  | .error cause => .error (.setup cause)
  | .ok _ => if op.populated then .error .alreadyPopulated else .ok ()

/-- Populating is answered that the setup is ambiguous just if some snapshot repeats a
name. Whether it was populated before is not asked then. -/
theorem verdict_eq_setup {cause : AmbiguousIdentity} :
    op.verdict source base? target = .error (.setup cause)
      ↔ cause.FirstOf (Snapshot.participants source base? target) := by
  rw [← Proposal.merging_eq_error, verdict]
  cases Proposal.merging source base? target with
  | error e => simp
  | ok plan => cases op.populated <;> simp

/-- It is answered that it was populated just if it was, and all names are distinct. -/
theorem verdict_eq_again : op.verdict source base? target = .error .alreadyPopulated
    ↔ (∀ s ∈ Snapshot.participants source base? target, s.names.Nodup)
      ∧ op.populated = true := by
  rw [← Proposal.exists_merging, verdict]
  cases Proposal.merging source base? target with
  | error e => simp
  | ok plan => cases op.populated <;> simp

/-- It is granted just if it was not populated and all names are distinct. -/
theorem verdict_eq_ok : op.verdict source base? target = .ok ()
    ↔ (∀ s ∈ Snapshot.participants source base? target, s.names.Nodup)
      ∧ op.populated = false := by
  rw [← Proposal.exists_merging, verdict]
  cases Proposal.merging source base? target with
  | error e => simp
  | ok plan => cases op.populated <;> simp

end Operation

namespace Host

variable {σ : Type} {h : Host σ} {s : σ} {source target : Snapshot}
  {base? : Option Snapshot} (hm : (h.read s).ensureMutable = .ok ())

include hm

/-- A verdict that is an error is answered before anything is written. -/
theorem populate_refused {e : MergeError}
    (he : (h.read s).verdict source base? target = .error e) :
    h.populate source base? target s = .error (.refused e) s := by
  rw [populate_eq, hm]
  unfold Operation.verdict at he
  cases hp : Proposal.merging source base? target with
  | error cause =>
      rw [hp] at he
      cases he
      rfl
  | ok plan =>
      rw [hp] at he
      simp only at he
      split at he
      · next hpopulated =>
          cases he
          rw [Operation.markPopulated, if_pos hpopulated]
      · cases he

/-- A verdict that is none leads on to the classification, of an operation that is
marked as populated. -/
theorem populate_granted (hok : (h.read s).verdict source base? target = .ok ()) :
    ∃ ps ours theirs, h.populate source base? target s
      = h.classify ps ours theirs (h.write { h.read s with populated := true } s) := by
  rw [populate_eq, hm]
  unfold Operation.verdict at hok
  cases hp : Proposal.merging source base? target with
  | error cause =>
      rw [hp] at hok
      cases hok
  | ok plan =>
      rw [hp] at hok
      simp only at hok
      split at hok
      · cases hok
      · next hpopulated =>
          rw [Operation.markPopulated, if_neg hpopulated]
          exact ⟨plan.1, plan.2.1, plan.2.2, rfl⟩

end Host

/-- The verdict is answered, and if it is an error it is as if nobody had asked. -/
theorem Session.run_populate {B : Audience W} (hB : B.Returns) {s : Session W}
    (hm : s.operation.ensureMutable = .ok ()) (source : Snapshot) (base? : Option Snapshot)
    (target : Snapshot) :
    ∃ t, (Client.call (.populate source base? target)).run B.outside s
        = .ok (s.operation.verdict source base? target) t
      ∧ ∀ e, s.operation.verdict source base? target = .error e → t = s
        ∧ (∀ tell, answer (host tell) (.populate source base? target) s
          = .error (.refused e) s)
        ∧ ∀ {β : Type} (next : Client W β),
          (Client.call (.populate source base? target) >>= fun _ => next).run B.outside s
            = next.run B.outside s := by
  cases hverdict : s.operation.verdict source base? target with
  | error e =>
      have hanswer : ∀ tell, answer (host tell) (.populate source base? target) s
          = .error (.refused e) s :=
        fun tell => Host.populate_refused (h := host tell) hm hverdict
      obtain ⟨hrun, hnext⟩ := Client.run_refused (hanswer B.announce)
      refine ⟨s, hrun, fun e' he => ?_⟩
      cases he
      exact ⟨rfl, hanswer, hnext⟩
  | ok _ =>
      obtain ⟨ps, ours, theirs, hanswer⟩ := Host.populate_granted (h := B.outside) hm hverdict
      -- the classification is not refused, and it is stopped by nobody
      cases hrun : answer B.outside (.populate source base? target) s with
      | error halt t =>
          cases halt with
          | unwound id =>
              exact absurd hrun (answer_returns
                (fun event u id v h => hB.announce event u id v h) id t)
          | refused e =>
              exact absurd (hanswer.symm.trans hrun) (Host.granted_classify _ _ _ _ _ _ _)
      | ok _ t =>
          refine ⟨t, ?_, fun e he => by cases he⟩
          show (Client.ask (.populate source base? target) .done).run B.outside s = _
          rw [Client.run, hrun]
          rfl

-- ====================================================================== result

/-- Populating an operation that is not closed comes to its end, at any time and
whatever observers do, as long as none of them fails. It is answered that the setup is
ambiguous exactly if one of the snapshots repeats a name, with the path of the first
such snapshot and the first name that it repeats; otherwise that the operation is
populated already, exactly if it was populated on the way here, whatever that was; and
otherwise it is granted.

If it is answered with an error nothing changes and nobody is told, and whatever is
done next goes as if nobody had asked. -/
theorem populate_answered {A B : Audience W} {s : Session W} (hs : Session.Led A s)
    (hB : B.Returns) (hopen : s.operation.state.isClosed = false) (source : Snapshot)
    (base? : Option Snapshot) (target : Snapshot) :
    let snapshots := Snapshot.participants source base? target
    let call := Call.populate source base? target
    ∃ r t, (Client.call call).run B.outside s = .ok r t
      ∧ (∀ cause, r = .error (.setup cause) ↔ cause.FirstOf snapshots)
      ∧ (∃ log, Session.Recorded A log s)
      ∧ (∀ log, Session.Recorded A log s →
        (r = .error .alreadyPopulated ↔
            (∀ x ∈ snapshots, x.names.Nodup) ∧ .populated ∈ log)
          ∧ (r = .ok () ↔ (∀ x ∈ snapshots, x.names.Nodup) ∧ .populated ∉ log))
      ∧ ∀ e, r = .error e → t = s
        ∧ (∀ tell, Session.answer (Session.host tell) call s = .error (.refused e) s)
        ∧ ∀ {β : Type} (next : Client W β),
          (Client.call call >>= fun _ => next).run B.outside s = next.run B.outside s := by
  intro snapshots call
  obtain ⟨log, hlog⟩ := Session.led_iff_recorded.1 hs
  have hm : s.operation.ensureMutable = .ok () :=
    Operation.ensureMutable_open hlog.rests hopen
  obtain ⟨t, hrun, hnothing⟩ := Session.run_populate hB hm source base? target
  refine ⟨_, t, hrun, fun cause => Operation.verdict_eq_setup, ⟨log, hlog⟩,
    fun log' hlog' => ?_, hnothing⟩
  have hpopulated : s.operation.populated = true ↔ .populated ∈ log' :=
    hlog'.tallies.populated
  constructor
  · rw [Operation.verdict_eq_again, hpopulated]
  · rw [Operation.verdict_eq_ok, ← Bool.not_eq_true, hpopulated]

/-- The source has two lights, and snapshots were taken before. Of the two errors the one
about the source comes first. -/
theorem populate_answered_light :
    ∃ s : Session Unit, Session.Led .bystanders s
      ∧ Session.Recorded .bystanders [.populated] s
      ∧ (Client.call (.populate ⟨"source", [⟨"light", ∅, []⟩, ⟨"light", ∅, []⟩], {}⟩ none
          ⟨"target", [], {}⟩)).run Audience.bystanders.outside s
        = .ok (.error (.setup ⟨"source", "light"⟩)) s := by
  let source : Snapshot := ⟨"source", [⟨"light", ∅, []⟩, ⟨"light", ∅, []⟩], {}⟩
  let target : Snapshot := ⟨"target", [], {}⟩
  have hempty : target.names.Nodup := .nil
  obtain ⟨diff, -, hop⟩ := Operation.construct_twoWay hempty hempty {}
  have hs := Session.Led.construct (A := .bystanders) () hop
  have hlog := Session.Audited.construct (A := .bystanders) () hop
  have hidle := hlog.tallies.idle.2 fun m hm => List.mem_singleton.1 hm
  have hreturns : Audience.bystanders.Returns := fun _ _ _ _ hc => nomatch hc
  obtain ⟨r, t, hrun, hsetup, -, -, hnothing⟩ := populate_answered hs hreturns
    (by rw [hidle]; rfl) source none target
  have hr : r = .error (.setup ⟨"source", "light"⟩) := by
    refine (hsetup _).2 ⟨[target], source, [], rfl, ⟨rfl, ["light"], [], rfl, ?_, ?_⟩, ?_⟩
    · exact List.mem_singleton_self _
    · exact List.nodup_singleton _
    · exact List.forall_mem_singleton.2 hempty
  obtain ⟨rfl, -, -⟩ := hnothing _ hr
  exact ⟨_, hs, hlog, hr ▸ hrun⟩

end SceneMerge
