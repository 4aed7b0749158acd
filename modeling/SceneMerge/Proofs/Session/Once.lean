/-
Everything is applied once. In a run of a session actions are added, switched
and decided, and passes are run on scenes of any kind; some of the passes land
and some do not (`Session.Run`). The log of a run has what each pass did that
landed. Whatever is switched on and off in between, no action and no membership
change is in the log twice, and the next pass to land applies exactly what is
active by then and not in the log: `applied_once`.

# Observers that make no calls

All this is of observers that only take note. They change neither the operation nor
the log (`Audience.Silent.keeps_logged`), so what is in the log is what passes from
outside did, membership changes included. The operation lists it as long as it takes
changes (`Session.Run.applied`, `Session.Run.enrolled`), and a pass that lands finds
such an operation. So what it adds to the log was not there before, and the log has no
repetition (`Session.Logged.nodup`).
-/
import SceneMerge.Proofs.Session.Landing
import SceneMerge.Proofs.Session.Passes

namespace SceneMerge

-- =================================================================== audience

/-- Observers make no calls. -/
def Audience.Silent {W : Type} (A : Audience W) : Prop :=
  A.MakesOnly (fun _ => True) fun _ => False

/-- A call from outside reads what it wrote, for it reads and writes the operation of
the session. -/
theorem Audience.lawful_outside {W : Type} (A : Audience W) : A.outside.Lawful :=
  fun _ _ => rfl

/-- Where no calls are made, all that are made are as they may be. -/
theorem Audience.Silent.makesOnly {W : Type} {A : Audience W} (hA : A.Silent)
    (Q : Operation → Prop) (P : ∀ {β : Type}, Call β → Prop) : A.MakesOnly Q P :=
  fun id event w c hc => (hA id event w c hc).mono (fun _ _ => trivial) fun _ h => h.elim

/-- Whoever makes no calls does not change the operation. -/
theorem Audience.Silent.quiet {W : Type} {A : Audience W} (hA : A.Silent) :
    A.outside.Quiet := by
  intro event s
  exact Audience.announce_has (Q := (· = s.operation)) (fun _ h => h.elim)
    (hA.makesOnly _ fun _ => False) event s rfl

/-- Whoever makes no calls has nothing to write down about them. -/
theorem Audience.Silent.scribed {W L : Type} {A : Audience W} (hA : A.Silent) (k : Scribe L) :
    (A.scribed k).Silent := by
  intro id event w c hc
  obtain ⟨d, hd, rfl⟩ := Option.map_eq_some_iff.1 hc
  exact (hA _ _ _ d hd).reacting k id

/-- A silent audience does not change what a log says of the operation: it makes no
calls, and nothing is written down about its notifications. -/
theorem Audience.Silent.keeps_logged {W : Type} {A : Audience W} (hA : A.Silent)
    (F : Operation → List Pass → Prop) (event : Event) :
    Keeps (fun s : Session (W × List Pass) => F s.operation s.world.2)
      (A.logged.announce event) := by
  refine Audience.Keeper.announce ⟨fun _ hs => hs, fun _ _ hs => ?_, ?_⟩
    event
  · rwa [show (A.logged.note _ _ _).2 = _ from List.append_nil _]
  · intro id event w c hc s hs
    obtain ⟨d, hd, rfl⟩ := Option.map_eq_some_iff.1 hc
    rw [Client.run_reacting, show Pass.ledger.scribe.acts id = [] from rfl, Session.noted_nil]
    -- a client that makes no call has nothing answered that could be entered
    have hrun : ∀ {c : Client W Ending}, c.MakesOnly (fun _ => True) (fun _ => False) →
        Keeps (fun s : Session (W × List Pass) => F s.operation s.world.2)
          ((c.scribed Pass.ledger.scribe).run (Session.host Session.enqueue)) := by
      intro c hc
      induction hc with
      | done a => exact fun _ hs => hs
      | look _ ih => exact fun s hs => ih _ _ trivial s hs
      | share _ ih => exact fun s hs => ih _ ⟨s.operation, s.registry, _, s.world.2⟩ hs
      | ask hcall => exact hcall.elim
    have hkept := hrun (hA _ _ _ d hd) s hs
    cases hend : (d.scribed Pass.ledger.scribe).run (Session.host Session.enqueue) s with
    | ok ending t =>
        rw [hend] at hkept
        rwa [← Session.noted_nil t] at hkept
    | error who t =>
        rw [hend] at hkept
        exact hkept

-- ================================================================= operations

/-- The order stays in order whatever is added, and reviews do not write to it. -/
theorem Operation.keptByReviews_ordered : KeptByReviews (fun _ => True) Ordered where
  proposed _ _ := trivial
  addAction _ h := ordered_addAction h _
  addConflict _ _ h := ordered_addConflict h ..
  addMembership h := h.congr rfl rfl
  options _ h := h.congr rfl rfl
  populated h := h.congr rfl rfl
  setActive h hop := h.kin (revised_setActive hop).kin
  setMembershipActive h hop := h.kin (revised_setMembershipActive hop).kin
  setResolution h hop := h.kin (revised_setResolution hop).kin

/-- Nothing that happens to an operation in a session puts its actions out of order;
passes and endings do not touch the order at all. -/
theorem Operation.upheld_ordered : Upheld (fun _ => True) Ordered where
  toKeptByReviews := keptByReviews_ordered
  fly _ h := h.congr rfl rfl
  absorb p h := h.kin (.absorb _ p)
  finish h := h.congr rfl rfl
  close h := h.congr rfl rfl

-- ======================================================================= runs

namespace Session

variable {W : Type} {A : Audience W} {ok : Action → Prop}

/-- What every way to change an operation keeps holds in every run. -/
theorem Logged.has {Q : Operation → Prop} (hQ : Operation.Upheld (fun _ => True) Q)
    (hnew : ∀ sourcePath basePath options, Q { sourcePath, basePath, options })
    {s : Session (W × List Pass)} (hs : Logged A ok s) : Q s.operation := by
  have ht := Audience.keeps_announce hQ (A := A.logged)
    fun _ _ _ c _ => c.makesOnly_any fun call => call.adds_any
  have hl := keeper_host (Q := Q) A.logged.announce
  induction hs with
  | new => exact hnew _ _ _
  | construct _ hop => exact hQ.toKeptByReviews.construct (hnew _ _ _) hop
  | call call _ _ _ ih => exact keeps_answer hQ ht call.adds_any _ ih
  | @landed s S _ scene _ _ _ ih => exact Host.keeps_apply hl ht hQ (_, scene) ih
  | @failed s S _ scene _ _ ih => exact Host.keeps_apply hl ht hQ (_, scene) ih
  | finish _ ih => exact Host.keeps_finish hl ht hQ _ ih
  | abort scene _ ih => exact Host.keeps_abort hl ht hQ (_, scene) ih

/-- The operation of a run that is logged is in order, as it was when it was blank. -/
theorem Logged.ordered {t : Session (W × List Pass)} (ht : Logged A ok t) :
    t.operation.Ordered :=
  ht.has Operation.upheld_ordered fun _ _ _ => ⟨.nil, fun _ hid => nomatch hid⟩

variable {log : List Pass} {s : Session W} {S : Type} [Surface S] {scene : S} {p : Pass}

/-- How many actions a pass passes over. -/
theorem Run.skipped (hs : Run A ok log s) (hopen : s.operation.state.isClosed = false) :
    s.operation.skipped = (s.operation.order.filter fun id =>
      s.operation.active? id = some false ∧ id ∉ log.flatMap (·.applied)).length := by
  rw [Operation.skipped_eq]
  simp only [hs.applied hopen]

/-- What a pass that lands applies. -/
theorem Run.applies (hs : Run A ok log s) (hp : A.outside.Lands s scene p) :
    p.applied = s.operation.order.filter fun id =>
      s.operation.active? id = some true ∧ id ∉ log.flatMap (·.applied) :=
  hp.applies (hs.applied (Operation.open_of_ensureMutable hp.1))

/-- Among what a pass applies there is no conflict that is not decided for the
source, exactly if there is none that is active and not applied yet. -/
theorem Run.conflicts_iff (hs : Run A ok log s) (hp : A.outside.Lands s scene p) :
    (∀ id ∈ p.applied, ∀ c, s.operation.conflict? id = some c →
        c.resolution = .applySource)
      ↔ ∀ id ∈ s.operation.order, id ∉ log.flatMap (·.applied) →
        s.operation.active? id = some true → ∀ c, s.operation.conflict? id = some c →
          c.resolution = .applySource := by
  rw [hs.applies hp]
  constructor
  · intro hall id hid hfresh hactive
    exact hall id (List.mem_filter.2 ⟨hid, decide_eq_true ⟨hactive, hfresh⟩⟩)
  · intro hall id hid
    obtain ⟨hid, hkept⟩ := List.mem_filter.1 hid
    obtain ⟨hactive, hfresh⟩ := of_decide_eq_true hkept
    exact hall id hid hfresh hactive

section silent

variable (hA : A.Silent)

include hA

/-- A pass that does not land leaves the operation of the session as it was. -/
theorem operation_of_failed (hp : ∀ p, ¬ A.outside.Lands s scene p) :
    (finalState (A.outside.apply (s, scene))).1.operation = s.operation := by
  obtain ⟨halt, t, y, herror, hread⟩ :=
    Host.apply_of_not_lands A.lawful_outside hA.quiet hp
  rw [herror]
  exact hread

/-- If all that was added was made by constructors, there is no such conflict. -/
theorem Run.conflicts (hok : ∀ a, ok a → a.Constructed) (hs : Run A ok log s)
    (hp : A.outside.Lands s scene p) :
    ∀ id ∈ p.applied, ∀ c, s.operation.conflict? id = some c →
      c.resolution = .applySource := by
  have hcoherent : s.operation.Coherent :=
    (Logged.reachable hok hs).coherent (hA.makesOnly _ _)
  refine (hs.conflicts_iff hp).2 fun id _ _ hactive c hc => ?_
  obtain ⟨hself, -⟩ := hcoherent.active? hc
  exact Resolution.appliesSource_iff.1 (Option.some.inj (hactive.symm.trans hself)).symm

/-- As long as the operation takes changes, it lists the membership changes that passes
of the log made. -/
theorem Logged.enrolled {t : Session (W × List Pass)} (ht : Logged A ok t)
    (hopen : t.operation.state.isClosed = false) (i : Nat) :
    i ∈ t.operation.appliedMemberships ↔ i ∈ t.world.2.flatMap (·.memberships) := by
  have haudits : Audits (Operation.Lists (·.memberships) (·.appliedMemberships))
      A.logged.announce :=
    ⟨fun due event => hA.keeps_logged (fun op log => Operation.Lists _ _ (log ++ due) op) event,
      heeds_announce A.logged⟩
  have hlog := Logged.balanced Operation.accounts_memberships haudits
    (fun _ _ _ => Operation.lists_new _ _ _ rfl) ht hopen i
  rwa [List.append_nil] at hlog

/-- What a pass that lands does is not in the log yet, and is done once. -/
theorem Logged.fresh {t : Session (W × List Pass)} (ht : Logged A ok t)
    (hp : A.logged.outside.Lands t scene p) :
    (p.applied.Nodup ∧ ∀ id ∈ p.applied, id ∉ t.world.2.flatMap (·.applied))
      ∧ p.memberships.Nodup ∧ ∀ i ∈ p.memberships, i ∉ t.world.2.flatMap (·.memberships) := by
  have hopen := Operation.open_of_ensureMutable hp.1
  have happlied := hp.applies (ht.applied hopen)
  have hquiet := (hA.scribed Pass.ledger.scribe).quiet
  obtain ⟨hnodup, hnew⟩ := hp.memberships A.logged.lawful_outside hquiet
  refine ⟨⟨?_, fun id hid => ?_⟩, hnodup, fun i hi => ?_⟩
  · have horder : t.operation.order.Nodup :=
      ht.ordered.increasing.imp fun hlt => Nat.ne_of_lt hlt
    rw [happlied]
    exact horder.sublist List.filter_sublist
  · rw [happlied] at hid
    exact (of_decide_eq_true (List.mem_filter.1 hid).2).2
  · obtain ⟨m, -, -, hfresh⟩ := hnew i hi
    exact mt (ht.enrolled hA hopen i).2 hfresh

/-- A pass that lands makes no membership change that a pass of the log made. -/
theorem Run.memberships (hs : Run A ok log s) (hp : A.outside.Lands s scene p) :
    ∀ i ∈ p.memberships, i ∉ log.flatMap (·.memberships) := by
  intro i hi
  obtain ⟨m, -, -, hfresh⟩ := (hp.memberships A.lawful_outside hA.quiet).2 i hi
  exact mt (Logged.enrolled hA hs (Operation.open_of_ensureMutable hp.1) i).2 hfresh

/-- No call touches the log before it is over. -/
theorem log_of_answer {α : Type} (call : Call α) (t : Session (W × List Pass)) :
    (finalState (answer A.logged.outside call t)).world.2 = t.world.2 := by
  cases hregisters : call.registers with
  | true =>
      exact keeps_registers (P := fun u : Session (W × List Pass) => u.world.2 = t.world.2)
        (fun _ h => h) hregisters t rfl
  | false =>
      refine keeps_answer_of (Q := fun _ => True)
        (P := fun u : Session (W × List Pass) => u.world.2 = t.world.2)
        ⟨fun _ => trivial, fun _ h => h⟩ (hA.keeps_logged fun _ entries => entries = t.world.2)
        Operation.upheld_any call.adds_any hregisters t rfl

/-- Applying enters nothing of its own accord. What it comes to is entered by the run,
once it is known whether the pass has landed. -/
theorem log_of_apply (t : Session (W × List Pass)) (scene : S) :
    (finalState (A.logged.outside.apply (t, scene))).1.world.2 = t.world.2 :=
  Host.keeps_apply (Q := fun _ => True)
    (P := fun u : Session (W × List Pass) => u.world.2 = t.world.2)
    ⟨fun _ => trivial, fun _ h => h⟩ (hA.keeps_logged fun _ entries => entries = t.world.2)
    Operation.upheld_any (t, scene) rfl

/-- Aborting enters nothing either. -/
theorem log_of_abort (t : Session (W × List Pass)) (scene : S) :
    (finalState (A.logged.outside.abort (t, scene))).1.world.2 = t.world.2 :=
  Host.keeps_abort (Q := fun _ => True)
    (P := fun u : Session (W × List Pass) => u.world.2 = t.world.2)
    ⟨fun _ => trivial, fun _ h => h⟩ (hA.keeps_logged fun _ entries => entries = t.world.2)
    Operation.upheld_any (t, scene) rfl

/-- Nothing is in the log twice. -/
theorem Logged.nodup {t : Session (W × List Pass)} (ht : Logged A ok t) :
    (t.world.2.flatMap (·.applied)).Nodup ∧ (t.world.2.flatMap (·.memberships)).Nodup := by
  induction ht with
  | new => exact ⟨.nil, .nil⟩
  | construct => exact ⟨.nil, .nil⟩
  | @call t α call _ _ _ ih =>
      rw [log_of_answer hA]
      exact ih
  | @failed t S _ scene _ _ ih =>
      rw [log_of_apply hA]
      exact ih
  | @finish t _ ih =>
      rw [show (finalState (A.logged.outside.finish t)).world.2 = _ from
        log_of_answer hA .finish t]
      exact ih
  | @abort t S _ scene _ ih =>
      rw [log_of_abort hA]
      exact ih
  -- the only step that adds to the log, and what it adds was not there before
  | @landed t S _ scene p ht hp ih =>
      obtain ⟨⟨hactions, hnew⟩, hmemberships, hnew'⟩ := ht.fresh hA hp
      show ((_ ++ [p]).flatMap _).Nodup ∧ ((_ ++ [p]).flatMap _).Nodup
      rw [log_of_apply hA, List.flatMap_append, List.flatMap_append, List.flatMap_singleton,
        List.flatMap_singleton]
      refine ⟨List.nodup_append.2 ⟨ih.1, hactions, ?_⟩,
        List.nodup_append.2 ⟨ih.2, hmemberships, ?_⟩⟩
      · rintro id hid _ hid' rfl
        exact hnew id hid' hid
      · rintro i hi _ hi' rfl
        exact hnew' i hi' hi

/-- A run goes on with a call that has nothing to do with passes. -/
theorem Run.call (hs : Run A ok log s) {α : Type} (call : Call α)
    (hprepares : call.prepares = true) (hadds : call.Adds ok) :
    Run A ok log (finalState (answer A.outside call s)) :=
  (Logged.call call hs hprepares hadds).run
    ((A.mirrors_scribed Pass.ledger.scribe).answer call s ⟨_, _, s.world, log⟩ rfl).finalState
    (log_of_answer hA call _)

/-- It goes on with a pass that lands, which its log has from then on. -/
theorem Run.landed (hs : Run A ok log s) (hp : A.outside.Lands s scene p) :
    Run A ok (log ++ [p]) (finalState (A.outside.apply (s, scene))).1 := by
  have hm := (A.mirrors_scribed Pass.ledger.scribe).hosts
  have hr : Unlogs s ⟨s.operation, s.registry, s.world, log⟩ := rfl
  exact (Logged.landed hs ((hm.lockstep.lands hm.lawful hr scene p).1 hp)).run
    (hm.apply (s, scene) (_, scene) ⟨hr, rfl⟩).finalState.1
    (congrArg (· ++ [p]) (log_of_apply hA _ scene))

end silent

end Session

-- ===================================================================== result

/-- In a run with observers that make no calls, nothing is in the log twice. One
more pass on any scene lands or does not. If it lands, it applies what is active
and not in the log, in order, makes none of the membership changes in the log
again, and reports this and how many it passed over, unless an observer fails
when it is told so. It applies no conflict that is not decided for the source,
unless one is active; and none is, if all that was added was made by
constructors. If it does not land, it ends in an error and contributes nothing.
On a live scene on which a pass has just been reported another one does nothing
at all. -/
theorem applied_once {W : Type} {A : Audience W} (hA : A.Silent)
    {ok : Action → Prop} {log : List Pass} {s : Session W} (hs : Session.Run A ok log s) :
    (log.flatMap (·.applied)).Nodup ∧ (log.flatMap (·.memberships)).Nodup
      ∧ (∀ (S : Type) [Surface S] (scene : S),
          (∃ p y, A.outside.Lands s scene p
              ∧ (p.applied = s.operation.order.filter fun id =>
                  s.operation.active? id = some true ∧ id ∉ log.flatMap (·.applied))
              ∧ (∀ i ∈ p.memberships, i ∉ log.flatMap (·.memberships))
              ∧ ((∀ id ∈ p.applied, ∀ c, s.operation.conflict? id = some c →
                    c.resolution = .applySource)
                ↔ ∀ id ∈ s.operation.order, id ∉ log.flatMap (·.applied) →
                    s.operation.active? id = some true →
                    ∀ c, s.operation.conflict? id = some c → c.resolution = .applySource)
              ∧ ((∀ a, ok a → a.Constructed) → ∀ id ∈ p.applied, ∀ c,
                  s.operation.conflict? id = some c → c.resolution = .applySource)
              ∧ (A.outside.apply (s, scene)
                  = .ok ⟨p.applied, p.memberships.length,
                      (s.operation.order.filter fun id =>
                        s.operation.active? id = some false
                          ∧ id ∉ log.flatMap (·.applied)).length⟩ y
                ∨ ∃ id, A.outside.apply (s, scene) = .error (.unwound id) y))
            ∨ (∀ p, ¬ A.outside.Lands s scene p)
              ∧ ∃ halt y, A.outside.apply (s, scene) = .error halt y
                ∧ y.1.operation = s.operation)
      ∧ ∀ (l m : LiveScene) (t : Session W) (report : ApplyReport),
          A.outside.apply (s, l) = .ok report (t, m) →
          ∃ u, A.outside.apply (t, m) = .ok ⟨[], 0, t.operation.skipped⟩ (u, m)
            ∨ ∃ id, A.outside.apply (t, m) = .error (.unwound id) (u, m) := by
  obtain ⟨hactions, hmemberships⟩ := Session.Logged.nodup hA hs
  refine ⟨hactions, hmemberships, fun S _ scene => ?_, fun l m t report hrun => ?_⟩
  · by_cases hp : ∃ p, A.outside.Lands s scene p
    · obtain ⟨p, hp⟩ := hp
      have hopen := Operation.open_of_ensureMutable hp.1
      obtain ⟨t, x, -, hresult⟩ := Host.apply_of_lands A.lawful_outside hA.quiet hp
      rw [show (A.outside.read s).skipped = _ from hs.skipped hopen] at hresult
      exact .inl ⟨p, (t, x), hp, hs.applies hp, hs.memberships hA hp,
        hs.conflicts_iff hp, fun hok => hs.conflicts hA hok hp, hresult⟩
    · obtain ⟨halt, t, x, herror, hsame⟩ :=
        Host.apply_of_not_lands A.lawful_outside hA.quiet (not_exists.1 hp)
      exact .inr ⟨not_exists.1 hp, halt, (t, x), herror, hsame⟩
  · exact Host.apply_again A.lawful_outside hA.quiet hrun

/-- An audience that does nothing. -/
def Audience.bystanders : Audience Unit where
  note _ _ w := w
  reaction? _ _ _ := none
  patience _ := 0

/-- Bystanders have no reaction that could make a call. -/
theorem Audience.silent_bystanders : Audience.bystanders.Silent :=
  fun _ _ _ _ hc => nomatch hc

section light

/-- A change of nothing, wrapped by the conflict at `owner`. -/
def lightWrapped (owner : ActionId) (active : Bool) : Action where
  kind := .noAction
  node := .entity "light"
  active := active
  owner? := some owner

/-- A conflict about the change at `source`. -/
def lightConflict (source : ActionId) (r : Resolution) (active : Bool) : Action where
  kind := .conflict
    { type := .settingKeyToDifferentValue, source, target? := none
      sourceEntity? := none, targetEntity? := none, resolution := r }
  node := .entity "light"
  active := active

def lightSession (actions : List Action) (order : List ActionId) : Session Unit where
  operation := { sourcePath := "source", basePath := "base", actions, order }
  world := ()

def lightCall (a : Action) : Call ActionId :=
  .addConflict .settingKeyToDifferentValue a none none none

/-- An action is wrapped by a conflict in a session without observers, the step that the
run below begins with. -/
theorem run_light (ok : Action → Prop) (hok : ok (.noAction "light")) :
    Session.Run .bystanders ok []
      (lightSession [lightWrapped 1 false, lightConflict 0 .unresolved false] [1]) :=
  Session.Run.call Audience.silent_bystanders (.new "source" "base" {} ())
    (lightCall (.noAction "light")) rfl ⟨hok, fun _ ht => nomatch ht⟩

/-- A conflict that was applied and decided again is active, but not to be
applied again. -/
theorem applied_once_light :
    ∃ (log : List Pass) (s : Session Unit),
      Session.Run .bystanders Action.Constructed log s
        ∧ log.map (·.applied) = [[1]] ∧ (log.flatMap (·.applied)).Nodup
        ∧ s.operation.active? 1 = some true
        ∧ Audience.bystanders.outside.Lands s ({} : LiveScene) {} := by
  have hA := Audience.silent_bystanders
  let actions := [lightWrapped 1 true, lightConflict 0 .applySource true]
  let empty : LiveScene := {}
  have hs : Session.Run .bystanders Action.Constructed [] (lightSession actions [1]) :=
    (run_light _ (.noAction "light")).call hA (.setResolution 1 .applySource) rfl trivial
  have hlands : Audience.bystanders.outside.Lands (lightSession actions [1]) empty
      { applied := [1] } := by decide +kernel
  have hs := (hs.landed hA hlands).call hA (.setResolution 1 .applySource) rfl trivial
  exact ⟨_, _, hs, rfl, (applied_once hA hs).1,
    by decide +kernel, by decide +kernel⟩

/-- What is added need not have been made by a constructor. A conflict that is
wrapped by another one is switched with it, and a copy of it stands on its own,
undecided and active. -/
theorem undecided_conflict_applied :
    ∃ (s : Session Unit) (p : Pass) (c : Conflict),
      Session.Run .bystanders (fun _ => True) [] s
        ∧ Audience.bystanders.outside.Lands s ({} : LiveScene) p
        ∧ p.applied = [3, 4]
        ∧ s.operation.conflict? 4 = some c ∧ c.resolution = .unresolved := by
  have hA := Audience.silent_bystanders
  let copy : Action := { lightConflict 0 .unresolved true with owner? := some 3 }
  have hs : Session.Run .bystanders (fun _ => True) [] (lightSession
      [lightWrapped 1 false, lightConflict 0 .unresolved false,
        { copy with active := false }, lightConflict 2 .unresolved false] [1, 3]) :=
    (run_light _ trivial).call hA (lightCall (lightConflict 0 .unresolved false)) rfl
      (Call.adds_any _)
  have hs : Session.Run .bystanders (fun _ => True) [] (lightSession
      [lightWrapped 1 false, lightConflict 0 .unresolved false,
        copy, lightConflict 2 .applySource true] [1, 3]) :=
    hs.call hA (.setResolution 3 .applySource) rfl (Call.adds_any _)
  have hs : Session.Run .bystanders (fun _ => True) [] (lightSession
      [lightWrapped 1 false, lightConflict 0 .unresolved false,
        copy, lightConflict 2 .applySource true, copy] [1, 3, 4]) :=
    hs.call hA (.addAction copy) rfl (Call.adds_any _)
  exact ⟨_, { applied := [3, 4] }, _, hs, by decide +kernel, rfl, rfl, rfl⟩

end light

end SceneMerge
