/-
Passes that land. A pass lands if its transaction is committed, and then the
operation takes in what the pass lists, even if an observer fails when it is
told so (`Host.apply_of_lands`). A pass that does not land leaves the
operation as it was (`Host.apply_of_not_lands`).

What a pass lists is settled before it begins, as far as actions are
concerned: what is active and was not applied yet (`Host.Lands.applied`). Of
the membership changes that are pending it lists those that it made
(`Host.Lands.memberships`). So there is nothing left to do for another pass
that follows at once (`Host.apply_again`).

All this is of hosts that do not let the operation be changed by whoever is
told of something (`Host.Quiet`).
-/
import SceneMerge.Proofs.Review.Linkage
import SceneMerge.Proofs.Session.Course
import SceneMerge.Proofs.Session.Upkeep

namespace SceneMerge

open LiveScene

-- ============================================================== memberships

/-- A membership change does not concern entities, and is made if its entity is
there. -/
theorem Performed.of_membership_ok {change : MembershipChange} {l l' : LiveScene}
    {reverts? : Option (List Revert)}
    (hrun : Performed.membership change l = .ok reverts? l') :
    l'.scene.entities = l.scene.entities
      ∧ reverts?.isSome = l.scene.contains change.entity := by
  unfold Performed.membership at hrun
  rw [get_bind_eq] at hrun
  split at hrun
  · next hthere =>
      obtain ⟨previous, l₁, hset, hrest⟩ := of_bind_ok hrun
      cases hrest
      change LiveScene.mutate (Scene.setMember change.membership change.entity
        change.member) l = .ok previous l' at hset
      unfold LiveScene.mutate at hset
      cases hr : Scene.setMember change.membership change.entity change.member l.scene with
      | error e =>
          rw [hr] at hset
          cases hset
      | ok r =>
          rw [hr] at hset
          cases hset
          obtain ⟨-, rfl⟩ := Scene.setMember_ok_iff.1 hr
          exact ⟨rfl, hthere.symm⟩
  · next haway =>
      cases hrun
      exact ⟨rfl, (Bool.not_eq_true _ ▸ haway).symm⟩

/-- A membership change of an entity that is not there is passed over. -/
theorem Performed.membership_absent {change : MembershipChange} {l : LiveScene}
    (haway : l.scene.contains change.entity = false) :
    Performed.membership change l = .ok none l := by
  unfold Performed.membership
  rw [get_bind_eq, if_neg (by rw [show Surface.scene l = l.scene from rfl, haway]; simp)]
  rfl

namespace Operation

-- ================================================================ absorbing

variable (op : Operation) (p : Pass)

/-- Whether an action is active can be read off its switch, which is all that passes
leave alone for certain. -/
theorem active?_eq (id : ActionId) :
    op.active? id = ((op.actions.map Action.switch)[id]?).map Prod.fst := by
  rw [active?, List.getElem?_map, Option.map_map]
  rfl

/-- Taking in a pass switches nothing on or off. -/
theorem active?_absorb (id : ActionId) : (op.absorb p).active? id = op.active? id := by
  rw [active?_eq, active?_eq, switches_absorb]

/-- What is chosen, said by ids alone: the ids in the order of the actions, less those
that are not active. -/
theorem chosen_eq : op.chosen = op.order.filter fun id => op.active? id = some true := by
  refine List.filter_congr fun id _ => ?_
  unfold active?
  cases op.action? id with
  | none => rfl
  | some a => cases ha : a.active <;> simp [ha]

/-- Each position is pending once. -/
theorem nodup_pendingMemberships : (op.pendingMemberships.map (·.1)).Nodup := by
  have hposition : ∀ item : MembershipAction × Nat, ∀ x : Nat × MembershipChange,
      (if item.1.active && item.2 ∉ op.appliedMemberships then
        some (item.2, item.1.change) else none) = some x → x.1 = item.2 := by
    intro item x hx
    split at hx
    · cases hx
      rfl
    · cases hx
  have hdistinct : (op.memberships.zipIdx.map (·.2)).Nodup := by
    rw [List.zipIdx_map_snd]
    exact List.nodup_range'
  rw [List.Nodup, List.pairwise_map, pendingMemberships, List.pairwise_filterMap]
  rw [List.Nodup, List.pairwise_map] at hdistinct
  refine hdistinct.imp fun {a b} hne x hx y hy => ?_
  rw [hposition a x hx, hposition b y hy]
  exact hne

/-- A pass that is taken in changes what was applied, not what is chosen. -/
theorem chosen_absorb : (op.absorb p).chosen = op.chosen := by
  rw [chosen_eq, chosen_eq]
  exact List.filter_congr fun id _ => by rw [active?_absorb]

/-- What is passed over is what is not active and was not applied yet. -/
theorem skipped_eq : op.skipped
    = (op.order.filter fun id => op.active? id = some false ∧ id ∉ op.applied).length := by
  rw [skipped, List.countP_filter, List.countP_eq_length_filter]
  congr 1
  refine List.filter_congr fun id _ => ?_
  unfold active?
  cases op.action? id with
  | none => simp
  | some a => cases ha : a.active <;> simp [ha]

end Operation

namespace Host

variable {σ S : Type} [Surface S] {h : Host σ} {op : Operation}

-- ============================================================ what is listed

/-- Telling others does not change the operation. -/
def Quiet (h : Host σ) : Prop :=
  ∀ event s, h.read (finalState (h.tell event s)) = h.read s

/-- What holds of the operation holds after others were told of something, whether or
not one of them failed. -/
theorem Quiet.keeps (hq : h.Quiet) (Q : Operation → Prop) (event : Event) :
    Keeps (h.Has Q) (h.tell event) := by
  intro s hs
  rw [Has, hq]
  exact hs

/-- Running actions to the end lists all of them, in their order, and no membership
change. What each of them did to the scene is not looked at. -/
theorem of_runActions_ok (todo : List (ActionId × Action)) :
    ∀ {p p' : Pass} {x y : σ × S}, h.runActions todo p x = .ok p' y →
      p'.applied = p.applied ++ todo.map (·.1) ∧ p'.memberships = p.memberships := by
  induction todo with
  | nil =>
      intro p p' x y hrun
      cases hrun
      exact ⟨(List.append_nil _).symm, rfl⟩
  | cons item rest ih =>
      rintro p p' ⟨s, x⟩ y hrun
      rw [runActions_cons] at hrun
      obtain ⟨done, x₁, -, hrest⟩ := of_bind_ok hrun
      obtain ⟨-, x₂, -, hrest⟩ := of_bind_ok hrest
      obtain ⟨happlied, hmemberships⟩ := ih hrest
      refine ⟨?_, hmemberships⟩
      rw [happlied, List.map_cons, List.append_cons p.applied item.1]
      rfl

/-- Running membership changes to the end lists no action, and of the changes those that
found their entity, in their order. -/
theorem of_runMemberships_ok (todo : List (Nat × MembershipChange)) :
    ∀ {p p' : Pass} {x y : σ × S}, runMemberships todo p x = .ok p' y →
      p'.applied = p.applied ∧ ∃ made, made.Sublist (todo.map (·.1))
        ∧ p'.memberships = p.memberships ++ made := by
  induction todo with
  | nil =>
      intro p p' x y hrun
      cases hrun
      exact ⟨rfl, [], .slnil, (List.append_nil _).symm⟩
  | cons item rest ih =>
      intro p p' x y hrun
      obtain ⟨done?, x₁, -, hrest⟩ := of_bind_ok hrun
      -- a change without its entity answers nothing and is not listed
      cases done? with
      | none =>
          obtain ⟨happlied, made, hmade, heq⟩ := ih hrest
          exact ⟨happlied, made, hmade.cons item.1, heq⟩
      | some reverts =>
          obtain ⟨happlied, made, hmade, heq⟩ := ih hrest
          refine ⟨happlied, item.1 :: made, hmade.cons_cons item.1, ?_⟩
          rw [heq, List.append_cons p.memberships item.1]
          rfl

/-- On a live scene every change is made whose entity is there in the end. -/
theorem runMemberships_exhausts (todo : List (Nat × MembershipChange)) :
    ∀ {p p' : Pass} {x y : σ} {l l' : LiveScene},
      runMemberships todo p (x, l) = .ok p' (y, l') →
      l'.scene.entities = l.scene.entities
        ∧ p.memberships ⊆ p'.memberships
        ∧ ∀ item ∈ todo, l.scene.contains item.2.entity = true →
            item.1 ∈ p'.memberships := by
  induction todo with
  | nil =>
      intro p p' x y l l' hrun
      cases hrun
      exact ⟨rfl, List.Subset.refl _, fun item hitem => nomatch hitem⟩
  | cons item rest ih =>
      intro p p' x y l l' hrun
      obtain ⟨done?, q, hone, hrest⟩ := of_bind_ok hrun
      obtain ⟨l₁, hone', rfl⟩ := of_onSecond_ok hone
      obtain ⟨hsame, hdone⟩ := Performed.of_membership_ok (of_adaptExcept_ok hone')
      have hcontains : ∀ n, l₁.scene.contains n = l.scene.contains n :=
        Scene.contains_congr (congrArg (List.map _) hsame)
      -- neither case touches entities, so what is there for the first change is there
      -- for the rest
      cases done? with
      | none =>
          obtain ⟨hsame', hsub, hmade⟩ := ih hrest
          refine ⟨hsame'.trans hsame, hsub, fun item' hitem hthere => ?_⟩
          rcases List.mem_cons.1 hitem with rfl | hitem
          · cases hdone.trans hthere
          · exact hmade item' hitem ((hcontains _).trans hthere)
      | some reverts =>
          obtain ⟨hsame', hsub, hmade⟩ := ih hrest
          refine ⟨hsame'.trans hsame,
            List.Subset.trans (List.subset_append_left _ _) hsub,
            fun item' hitem hthere => ?_⟩
          rcases List.mem_cons.1 hitem with rfl | hitem
          · exact hsub (List.mem_append_right _ (List.mem_singleton_self _))
          · exact hmade item' hitem ((hcontains _).trans hthere)

/-- Changes whose entities are all gone are passed over one after the other, and the
pass is what it was. -/
theorem runMemberships_absent (x : σ) {l : LiveScene} (p : Pass)
    {todo : List (Nat × MembershipChange)}
    (haway : ∀ item ∈ todo, l.scene.contains item.2.entity = false) :
    runMemberships todo p (x, l) = .ok p (x, l) := by
  induction todo with
  | nil => rfl
  | cons item rest ih =>
      -- the live scene that the rest begins from is the same, so its entities are gone
      -- there too
      have hone : (onSecond ((Performed.membership item.2).adaptExcept
          (Halt.refused ∘ .scene)) : EStateM Halt (σ × LiveScene) _) (x, l)
            = .ok none (x, l) :=
        onSecond_ok (adaptExcept_ok
          (Performed.membership_absent (haway item List.mem_cons_self)))
      exact (bind_ok hone).trans
        (ih fun item' hitem => haway item' (List.mem_cons_of_mem _ hitem))

-- ================================================================== landing

/-- The pass that applying runs is committed, and `p` is what it did. -/
def Lands (h : Host σ) (s : σ) (x : S) (p : Pass) : Prop :=
  (h.read s).ensureMutable = .ok ()
    ∧ ∃ y, h.inFlight s!"Merge {(h.read s).sourcePath}" (h.runPass (h.read s)) (s, x)
      = .ok p y

/-- What the pass did, if it lands. -/
def landing? (h : Host σ) (s : σ) (x : S) : Option Pass :=
  match (h.read s).ensureMutable,
    h.inFlight s!"Merge {(h.read s).sourcePath}" (h.runPass (h.read s)) (s, x) with
  | .ok _, .ok p _ => some p
  | _, _ => none

variable {s : σ} {x : S} {p : Pass} (hl : h.Lawful) (hq : h.Quiet)

/-- The pass that lands is the one that `landing?` computes. So there is at most one,
and it can be decided whether there is one. -/
theorem lands_iff : h.Lands s x p ↔ h.landing? s x = some p := by
  unfold Lands landing?
  cases (h.read s).ensureMutable with
  | error e => simp
  | ok =>
      cases h.inFlight s!"Merge {(h.read s).sourcePath}" (h.runPass (h.read s)) (s, x)
        <;> simp

instance : Decidable (h.Lands s x p) := decidable_of_iff _ lands_iff.symm

include hq in
/-- Running actions asks others to look on, and that is the only way in which the
operation could change. -/
theorem runActions_read (op' : Operation) (todo : List (ActionId × Action)) (p : Pass) :
    Keeps (fun y : σ × S => h.read y.1 = op') (h.runActions todo p) := by
  intro y hy
  exact (keeps_runActions (Q := fun s => h.read s = op') (P := fun _ : S => True)
    (fun _ _ _ _ => trivial) (fun id => hq.keeps (· = op') (.actionApplied id)) todo p y
    ⟨hy, trivial⟩).1

include hq in
/-- A pass leaves the operation in flight as it is. -/
theorem runPass_read (op op' : Operation) :
    Keeps (fun y : σ × S => h.read y.1 = op') (h.runPass op) := by
  intro y hy
  exact (keeps_runPass (Q := fun s => h.read s = op') (P := fun _ : S => True)
    (fun _ _ _ _ => trivial) (fun id => hq.keeps (· = op') (.actionApplied id)) op y
    ⟨hy, trivial⟩).1

include hl

/-- Raising and lowering the flag is all that happens to the operation. -/
theorem read_fly (flag : Bool) (s : σ) :
    h.read (h.fly flag s) = { h.read s with inFlight := flag } :=
  hl _ _

include hq

/-- Whether or not the pass comes to its end, the operation is what it was. -/
theorem inFlight_read (hm : (h.read s).ensureMutable = .ok ()) (label : String) (x : S) :
    h.read (finalState (h.inFlight label (h.runPass (h.read s)) (s, x))).1
      = h.read s := by
  have hback : ∀ t : σ, h.read t = { h.read s with inFlight := true } →
      h.read (h.fly false t) = h.read s := by
    intro t ht
    rw [read_fly hl, ht]
    show { h.read s with inFlight := false } = h.read s
    rw [← Operation.not_inFlight_of_ensureMutable hm]
  have hwithin := keeps_within (Halt.refused ∘ .scene) label
    (P := fun t => h.read t = { h.read s with inFlight := true })
    (runPass_read hq (h.read s) _) (h.fly true s, x) (read_fly hl true s)
  rw [inFlight_eq]
  split
  · next heq =>
      rw [heq] at hwithin
      exact hback _ hwithin
  · next heq =>
      rw [heq] at hwithin
      exact hback _ hwithin

omit hl hq in
/-- What landed ran all actions that were pending. -/
theorem Lands.ran (hp : h.Lands s x p) : p.applied = (h.read s).pending.map (·.1) := by
  obtain ⟨-, y, hrun⟩ := hp
  obtain ⟨x₁, t, x₂, z, -, hbody, -, -⟩ := of_inFlight_ok hrun
  obtain ⟨p₁, y₁, hactions, hrest⟩ := of_bind_ok hbody
  obtain ⟨op', y₂, -, hrest⟩ := of_bind_ok hrest
  exact (of_runMemberships_ok _ hrest).1.trans (of_runActions_ok _ hactions).1

omit hl hq in
/-- These are the actions that are active and were not applied yet. -/
theorem Lands.applied (hp : h.Lands s x p) :
    p.applied = (h.read s).chosen.filter (· ∉ (h.read s).applied) :=
  hp.ran.trans (h.read s).pending_ids

omit hl hq in
/-- That is what is active and in none of the passes that have landed. -/
theorem Lands.applies (hp : h.Lands s x p) {log : List Pass}
    (hlog : ∀ id, id ∈ (h.read s).applied ↔ id ∈ log.flatMap (·.applied)) :
    p.applied = (h.read s).order.filter fun id =>
      (h.read s).active? id = some true ∧ id ∉ log.flatMap (·.applied) := by
  rw [hp.applied, Operation.chosen_eq, List.filter_filter]
  refine List.filter_congr fun id _ => ?_
  rw [Bool.decide_and, Bool.and_comm]
  simp only [hlog]

/-- What landed made some of the membership changes that were pending. -/
theorem Lands.made (hp : h.Lands s x p) :
    p.memberships.Sublist ((h.read s).pendingMemberships.map (·.1)) := by
  obtain ⟨-, y, hrun⟩ := hp
  obtain ⟨x₁, t, x₂, z, -, hbody, -, -⟩ := of_inFlight_ok hrun
  obtain ⟨p₁, y₁, hactions, hrest⟩ := of_bind_ok hbody
  obtain ⟨op', y₂, hlook, hrest⟩ := of_bind_ok hrest
  cases hlook
  obtain ⟨-, hnone⟩ := of_runActions_ok _ hactions
  obtain ⟨-, made, hmade, hmemberships⟩ := of_runMemberships_ok _ hrest
  have hread : h.read y₁.1 = { h.read s with inFlight := true } :=
    (runActions_read hq _ _ _).ok (read_fly hl true s) hactions
  rw [hmemberships, hnone]
  rw [hread] at hmade
  exact hmade

/-- Each membership change at most once, if it is pending. -/
theorem Lands.memberships (hp : h.Lands s x p) :
    p.memberships.Nodup ∧ ∀ i ∈ p.memberships, ∃ m, (h.read s).memberships[i]? = some m
      ∧ m.active = true ∧ i ∉ (h.read s).appliedMemberships := by
  have hsub := hp.made hl hq
  refine ⟨(h.read s).nodup_pendingMemberships.sublist hsub, fun i hi => ?_⟩
  obtain ⟨⟨j, c⟩, hitem, rfl⟩ := List.mem_map.1 (hsub.subset hi)
  obtain ⟨m, hm, hactive, hj, -⟩ := Operation.mem_pendingMemberships.1 hitem
  exact ⟨m, hm, hactive, hj⟩

/-- What becomes of a pass that was committed. Whether it is reported is up to
the observers that are told. -/
theorem apply_of_committed (hm : (h.read s).ensureMutable = .ok ()) {u : σ} {y : S}
    (hrun : h.inFlight s!"Merge {(h.read s).sourcePath}" (h.runPass (h.read s)) (s, x)
      = .ok p (u, y)) :
    ∃ t, h.read t = (h.read s).absorb p
      ∧ (h.apply (s, x)
            = .ok ⟨p.applied, p.memberships.length, (h.read s).skipped⟩ (t, y)
        ∨ ∃ id, h.apply (s, x) = .error (.unwound id) (t, y)) := by
  have hread := inFlight_read hl hq hm s!"Merge {(h.read s).sourcePath}" x
  rw [hrun] at hread
  have htaken : h.read (h.write ((h.read u).absorb p) u) = (h.read s).absorb p := by
    rw [hl, show h.read u = h.read s from hread]
  rw [apply_eq h hm, bind_ok hrun, bind_ok (h.update_onFirst _)]
  -- the operation has taken the pass in before anyone is told, so a failure from here
  -- on cannot take it back
  generalize h.write ((h.read u).absorb p) u = t at htaken
  have hquiet := hq (.applied p.applied.length p.memberships.length) t
  cases htell : h.tell (.applied p.applied.length p.memberships.length) t with
  | ok _ t' =>
      rw [htell] at hquiet
      rw [bind_ok (h.emit_ok htell)]
      exact ⟨t', hquiet.trans htaken, .inl rfl⟩
  | error id t' =>
      rw [htell] at hquiet
      rw [bind_error (h.emit_error htell)]
      exact ⟨t', hquiet.trans htaken, .inr ⟨id, rfl⟩⟩

/-- The operation takes in a pass that lands. Applying reports it, unless an
observer fails when it is told so. -/
theorem apply_of_lands (hp : h.Lands s x p) :
    ∃ t y, h.read t = (h.read s).absorb p
      ∧ (h.apply (s, x)
            = .ok ⟨p.applied, p.memberships.length, (h.read s).skipped⟩ (t, y)
        ∨ ∃ id, h.apply (s, x) = .error (.unwound id) (t, y)) := by
  obtain ⟨hm, ⟨u, y⟩, hrun⟩ := hp
  obtain ⟨t, hresult⟩ := apply_of_committed hl hq hm hrun
  exact ⟨t, y, hresult⟩

/-- A pass that does not land ends in an error and contributes nothing. -/
theorem apply_of_not_lands (hp : ∀ p, ¬ h.Lands s x p) :
    ∃ halt t y, h.apply (s, x) = .error halt (t, y) ∧ h.read t = h.read s := by
  cases hm : (h.read s).ensureMutable with
  | error e => exact ⟨_, s, x, apply_refused h hm, rfl⟩
  | ok =>
      have hread := inFlight_read hl hq hm s!"Merge {(h.read s).sourcePath}" x
      cases hrun : h.inFlight s!"Merge {(h.read s).sourcePath}"
          (h.runPass (h.read s)) (s, x) with
      | ok p y => exact absurd ⟨hm, y, hrun⟩ (hp p)
      | error halt y =>
          rw [hrun] at hread
          exact ⟨halt, y.1, y.2, (apply_eq h hm).trans (bind_error hrun), hread⟩

/-- Applying that ends well had a pass that landed, and reports it. -/
theorem of_apply_ok {report : ApplyReport} {y : σ × S}
    (hrun : h.apply (s, x) = .ok report y) :
    ∃ p, h.Lands s x p ∧ h.read y.1 = (h.read s).absorb p
      ∧ report = ⟨p.applied, p.memberships.length, (h.read s).skipped⟩ := by
  by_cases hp : ∃ p, h.Lands s x p
  · obtain ⟨p, hp⟩ := hp
    obtain ⟨t, z, hread, hok | ⟨id, herror⟩⟩ := apply_of_lands hl hq hp
    · cases hrun.symm.trans hok
      exact ⟨p, hp, hread, rfl⟩
    · cases hrun.symm.trans herror
  · obtain ⟨halt, t, z, herror, -⟩ := apply_of_not_lands hl hq (not_exists.1 hp)
    cases hrun.symm.trans herror

-- =================================================================== again

omit [Surface S] hl hq

/-- Nothing that is pending can be done on the scene. -/
def Exhausted (op : Operation) (scene : Scene) : Prop :=
  op.pending = [] ∧ ∀ item ∈ op.pendingMemberships,
    scene.contains item.2.entity = false

/-- There is nothing to do on a scene on which a pass has just landed: all
actions that were pending are applied, and so are the membership changes whose
entities are there. -/
theorem exhausted_of_committed (hl : h.Lawful) (hq : h.Quiet) {l m : LiveScene} {u : σ}
    (hm : (h.read s).ensureMutable = .ok ())
    (hrun : h.inFlight s!"Merge {(h.read s).sourcePath}" (h.runPass (h.read s)) (s, l)
      = .ok p (u, m)) :
    m.transaction = none ∧ Exhausted ((h.read s).absorb p) m.scene := by
  have hlands : h.Lands s l p := ⟨hm, _, hrun⟩
  obtain ⟨-, t, l₁, l₂, hbody, hcommit, hend⟩ := of_inFlight_begun hrun
  cases hend
  obtain ⟨p₁, ⟨y, l₀⟩, hactions, hrest⟩ := of_bind_ok hbody
  obtain ⟨op', q, hlook, hrest⟩ := of_bind_ok hrest
  cases hlook
  have hread : h.read y = { h.read s with inFlight := true } :=
    (runActions_read hq _ _ _).ok (read_fly hl true s) hactions
  obtain ⟨hsame, -, hmade⟩ := runMemberships_exhausts _ hrest
  have hscene := LiveScene.of_commit_ok hcommit
  refine ⟨hscene.2, ?_, fun item hitem => ?_⟩
  · -- every chosen action was applied before, or is listed by the pass
    have hids : ((h.read s).absorb p).pending.map (·.1) = [] := by
      rw [Operation.pending_ids, Operation.chosen_absorb, List.filter_eq_nil_iff]
      intro id hid
      show ¬ decide (id ∉ (h.read s).applied ++ p.applied) = true
      rw [hlands.applied, decide_eq_true_eq, not_not, Operation.mem_applied]
      exact .inr hid
    exact List.map_eq_nil_iff.1 hids
  · -- a change still pending was pending in the pass too, which would have listed it if
    -- its entity were there
    obtain ⟨i, c⟩ := item
    obtain ⟨k, hk, hactive, hi, hc⟩ := Operation.mem_pendingMemberships.1 hitem
    have hnew : i ∉ (h.read s).appliedMemberships ∧ i ∉ p.memberships :=
      not_or.1 (mt List.mem_append.2 hi)
    have hpending : (i, c) ∈ (h.read y).pendingMemberships := by
      rw [hread]
      exact Operation.mem_pendingMemberships.2 ⟨k, hk, hactive, hnew.1, hc⟩
    rw [hscene.1, Scene.contains_congr (congrArg (List.map _) hsame), ← Bool.not_eq_true]
    exact fun hthere => hnew.2 (hmade (i, c) hpending hthere)

/-- A pass with nothing to do lands, lists nothing and leaves the live scene
as it is, history and all. -/
theorem inFlight_exhausted (hl : h.Lawful) {l : LiveScene} (ht : l.transaction = none)
    (hnothing : Exhausted (h.read s) l.scene) (label : String) :
    h.inFlight label (h.runPass (h.read s)) (s, l)
      = .ok {} (h.fly false (h.fly true s), l) := by
  have hactions : h.runActions (h.read s).pending {}
      (h.fly true s, l.begun label) = .ok {} (h.fly true s, l.begun label) := by
    rw [hnothing.1]
    rfl
  have hlook : (onFirst h.look : EStateM Halt (σ × LiveScene) Operation)
      (h.fly true s, l.begun label)
        = .ok { h.read s with inFlight := true } (h.fly true s, l.begun label) := by
    rw [← read_fly hl true s]
    rfl
  have haway : ∀ item ∈ ({ h.read s with inFlight := true } : Operation).pendingMemberships,
      (l.begun label).scene.contains item.2.entity = false := hnothing.2
  have hmemberships := runMemberships_absent (h.fly true s) {} haway
  have hbody : h.runPass (h.read s) (h.fly true s, l.begun label)
      = .ok {} (h.fly true s, l.begun label) :=
    (bind_ok hactions).trans ((bind_ok hlook).trans hmemberships)
  -- an empty journal leaves no step behind, so committing gives back the live scene
  have hcommit : LiveScene.commit (l.begun label) = .ok () l := by
    obtain ⟨scene, transaction, undos, redos⟩ := l
    simp only at ht
    rw [ht]
    rfl
  exact inFlight_ok ht hbody hcommit

/-- Applying again at once does nothing. -/
theorem apply_again (hl : h.Lawful) (hq : h.Quiet) {t : σ} {l m : LiveScene}
    {report : ApplyReport} (hrun : h.apply (s, l) = .ok report (t, m)) :
    ∃ u, h.apply (t, m) = .ok ⟨[], 0, (h.read t).skipped⟩ (u, m)
      ∨ ∃ id, h.apply (t, m) = .error (.unwound id) (u, m) := by
  obtain ⟨p, ⟨hm, ⟨v, m'⟩, hfly⟩, -⟩ := of_apply_ok hl hq hrun
  obtain ⟨t', hread, hresult⟩ := apply_of_committed hl hq hm hfly
  -- the end of the first call is the end of its committed pass, for the other way it
  -- ends is an error
  have hend : t' = t ∧ m' = m := by
    rcases hresult with hok | ⟨id, herror⟩
    · cases hrun.symm.trans hok
      exact ⟨rfl, rfl⟩
    · cases hrun.symm.trans herror
  obtain ⟨rfl, rfl⟩ := hend
  obtain ⟨ht, hnothing⟩ := exhausted_of_committed hl hq hm hfly
  rw [← hread] at hnothing
  have hm' : (h.read t').ensureMutable = .ok () := by
    rw [hread]
    exact Operation.ensureMutable_absorb hm p
  obtain ⟨u, -, hagain⟩ := apply_of_committed hl hq hm'
    (inFlight_exhausted hl ht hnothing _)
  exact ⟨u, hagain⟩

end Host

end SceneMerge
