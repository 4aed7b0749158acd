/-
Running an action does its deed. Which deed that is is read off the action
and, for a conflict, off the change of the source that it wraps
(`Operation.deed?`); the decision does not enter into it. An action whose
deed is possible on the entity that is there is granted, and puts what comes
of the deed (`puts_ofAction`).

Only a removal touches metadata: whoever is removed leaves what it belonged
to, and an entity that takes the place of another one is listed where that
was (`lists_ofAction`). `Lists` says it of calls that are granted; that they
are is for `Puts` to say.
-/
import SceneMerge.Proofs.Review.Deed

namespace SceneMerge

-- ================================================================== deeds

/-- What is to be put makes its place if there is one. -/
def Deed.inPlace : Deed → Deed
  | insert e => replace e
  | d => d

/-- What a kind of action does, conflicts and no actions apart. -/
def ActionKind.deed? : ActionKind → Option Deed
  | .noAction | .conflict _ => none
  | .addEntity e => some (.insert e)
  | .removeEntity e => some (.remove e.name)
  | .addKeyValue edit | .changeKeyValue edit =>
      some (.setKey edit.entity edit.key (some (edit.value?.getD "")))
  | .removeKeyValue edit => some (.setKey edit.entity edit.key none)
  | .addChildNode n _ node => some (.addChild n node)
  | .removeChildNode n _ node => some (.removeChild n node.fingerprint)

/-- What an action does that is not a conflict. It is about the entity at
its place. -/
def Action.deed? (a : Action) : Option Deed :=
  a.kind.deed?.filter (·.name == a.entity)

/-- What a conflict does if it is decided for the source. -/
def Deed.ofConflict? (type : ConflictType) (source : Action)
    (sourceEntity? : Option Entity) : Option Deed :=
  match type with
  | .modificationOfRemovedEntity =>
      (sourceEntity?.filter (·.name == source.entity)).map .insert
  | .settingKeyToDifferentValue => source.deed?.map inPlace
  | _ => source.deed?

/-- What the action does when it is run. -/
def Operation.deed? (op : Operation) (id : ActionId) : Option Deed :=
  (op.action? id).bind fun a =>
    match a.conflict? with
    | none => a.deed?
    | some c => (op.action? c.source).bind fun source =>
        Deed.ofConflict? c.type source c.sourceEntity?

/-- An action has the deed of its kind, as long as that is about the entity at its
place. -/
theorem Action.deed?_eq_some {a : Action} {d : Deed} :
    a.deed? = some d ↔ a.kind.deed? = some d ∧ d.name = a.entity := by
  rw [deed?, Option.filter_eq_some_iff, beq_iff_eq]

-- ============================================================== execution

namespace Performed

variable {l : LiveScene} {op : Operation} {id : ActionId} {a : Action} {d : Deed}
  {e? : Option Entity}

/-- A plain kind of action is one call on the scene, and that call puts what comes of
the deed. -/
theorem puts_plainKind {kind : ActionKind} (hd : kind.deed? = some d) (hl : l.Open)
    (hmake : d.make (l.scene.entity? d.name) = some e?) :
    Puts (plainKind id kind) l d.name e? := by
  -- for each kind: what makes its deed possible is what the scene checks
  cases kind with
  | noAction | conflict => cases hd
  | addEntity e =>
      cases hd
      obtain ⟨hnone, rfl⟩ := Deed.make_insert.1 hmake
      exact (puts_insertEntity hl hnone).map _
  | removeEntity e =>
      cases hd
      obtain ⟨e', he, rfl⟩ := Option.map_eq_some_iff.1 hmake
      exact (puts_removal hl he).map _
  | addKeyValue edit =>
      cases hd
      obtain ⟨e, he, rfl⟩ := Option.map_eq_some_iff.1 hmake
      exact (puts_setValue hl he _ _).map _
  | changeKeyValue edit =>
      cases hd
      obtain ⟨e, he, rfl⟩ := Option.map_eq_some_iff.1 hmake
      exact (puts_setValue hl he _ _).map _
  | removeKeyValue edit =>
      cases hd
      obtain ⟨e, he, rfl⟩ := Option.map_eq_some_iff.1 hmake
      obtain ⟨he, hv⟩ := Option.filter_eq_some_iff.1 he
      exact (puts_removeValue hl he (Option.isSome_iff_ne_none.1 hv)).map _
  | addChildNode n key node =>
      cases hd
      obtain ⟨e, he, rfl⟩ := Option.map_eq_some_iff.1 hmake
      exact (puts_insertChild hl he node).map _
  | removeChildNode n key node =>
      cases hd
      obtain ⟨e, he, hlast⟩ := Option.bind_eq_some_iff.1 hmake
      obtain ⟨i, hi, rfl⟩ := Option.map_eq_some_iff.1 hlast
      exact (puts_removeChildLast hl he hi).map _

/-- An action on a part finds its entity if its deed is possible. -/
theorem puts_plain_deed (hd : a.deed? = some d) (hl : l.Open)
    (hmake : d.make (l.scene.entity? d.name) = some e?) :
    Puts (plain id a) l d.name e? := by
  obtain ⟨hkind, hname⟩ := Action.deed?_eq_some.1 hd
  refine puts_plain (fun hpart => ?_) (puts_plainKind hkind hl hmake)
  rw [← hname]
  have hpart' : d.isPart = true := by
    unfold Action.type at hpart
    cases hk : a.kind <;> rw [hk] at hkind hpart <;> cases hkind <;>
      first | rfl | cases hpart
  exact d.exists_of_make hpart' hmake

/-- How a conflict runs whose deed is possible: it inserts the source's
entity, or puts it in place, or does what the source's change does. -/
inductive ConflictRuns (op : Operation) (id : ActionId) (a : Action)
    (c : Conflict) (w : Action) (l : LiveScene) : Deed → Prop where
  | insert {e : Entity} :
      conflict op id a c l = ((Surface.insertEntity e).adaptExcept (failure id a)
        >>= fun _ => pure { reverts := [.removeEntity e.name] }) l →
      ConflictRuns op id a c w l (.insert e)
  | replace {e : Entity} :
      conflict op id a c l = (replacement e).adaptExcept (failure id a) l →
      ConflictRuns op id a c w l (.replace e)
  | plain {d : Deed} : w.deed? = some d →
      conflict op id a c l = plain c.source w l → ConflictRuns op id a c w l d

/-- How a conflict runs is decided by its type, and for two entities added with
different content by the kind of its source as well. If its deed is possible then the
entity is absent or present as that takes. -/
theorem conflictRuns (id : ActionId) (a : Action) {c : Conflict} {w : Action}
    (hw : op.action? c.source = some w)
    (hd : Deed.ofConflict? c.type w c.sourceEntity? = some d)
    (hmake : d.make (l.scene.entity? d.name) = some e?) :
    ConflictRuns op id a c w l d := by
  have hplain : w.deed? = some d → c.type ≠ .modificationOfRemovedEntity →
      (c.type = .settingKeyToDifferentValue → ∀ e, w.kind ≠ .addEntity e) →
      ConflictRuns op id a c w l d := by
    intro hwd htype hkind
    exact .plain hwd (by rw [conflict_plain hw htype hkind])
  -- the two types with a rule of their own, and all the others, which do what the
  -- source's change does
  cases htype : c.type with
  | modificationOfRemovedEntity =>
      rw [htype] at hd
      obtain ⟨e, he, rfl⟩ := Option.map_eq_some_iff.1 hd
      obtain ⟨hs, hname⟩ := Option.filter_eq_some_iff.1 he
      refine .insert (conflict_insert hw htype hs ?_)
      rw [← eq_of_beq hname, Scene.contains]
      show (l.scene.entity? (Deed.insert e).name).isSome = false
      rw [(Deed.make_insert.1 hmake).1]
      rfl
  | settingKeyToDifferentValue =>
      rw [htype] at hd
      obtain ⟨d₀, hd₀, rfl⟩ := Option.map_eq_some_iff.1 hd
      have hkind := (Action.deed?_eq_some.1 hd₀).1
      -- only an entity that was added is put in place
      cases d₀ with
      | insert e =>
          have hadd : w.kind = .addEntity e := by
            cases hwk : w.kind <;> rw [hwk] at hkind <;> cases hkind
            rfl
          exact .replace (by rw [conflict_replacement hw htype hadd])
      | _ =>
          refine hplain hd₀ (by simp [htype]) fun _ e hwk => ?_
          rw [hwk] at hkind
          cases hkind
  | _ =>
      rw [htype] at hd
      exact hplain hd (by simp [htype]) (by simp [htype])

/-- However it runs, a conflict puts what comes of its deed. -/
theorem puts_conflict {c : Conflict} {w : Action} (hw : op.action? c.source = some w)
    (hd : Deed.ofConflict? c.type w c.sourceEntity? = some d) (hl : l.Open)
    (hmake : d.make (l.scene.entity? d.name) = some e?) :
    Puts (conflict op id a c) l d.name e? := by
  cases conflictRuns id a hw hd hmake with
  | @insert e hrun =>
      obtain ⟨hnone, rfl⟩ := Deed.make_insert.1 hmake
      exact Puts.congr hrun (((puts_insertEntity hl hnone).adaptExcept _).map _)
  | @replace e hrun =>
      cases hmake
      exact Puts.congr hrun ((puts_replacement hl e).adaptExcept _)
  | plain hwd hrun => exact Puts.congr hrun (puts_plain_deed hwd hl hmake)

/-- Whatever is run puts what comes of its deed. -/
theorem puts_ofAction (ha : op.action? id = some a) (hd : op.deed? id = some d)
    (hl : l.Open) (hmake : d.make (l.scene.entity? d.name) = some e?) :
    Puts (ofAction op id a) l d.name e? := by
  rw [Operation.deed?, ha, Option.bind_some] at hd
  unfold ofAction
  cases hc : a.conflict? with
  | none =>
      rw [hc] at hd
      exact puts_plain_deed hd hl hmake
  | some c =>
      rw [hc] at hd
      obtain ⟨w, hw, hd⟩ := Option.bind_eq_some_iff.1 hd
      exact puts_conflict hw hd hl hmake

end Performed

-- =============================================================== metadata

/-- If the call is granted, it leaves the metadata `m`. -/
def Lists {ε α : Type} (call : EStateM ε LiveScene α) (l : LiveScene)
    (m : Metadata) : Prop :=
  ∀ a l', call l = .ok a l' → l'.scene.metadata = m

/-- The metadata after a deed. -/
def Deed.unlist (d : Deed) (m : Metadata) : Metadata :=
  match d with
  | remove n => (m.membershipsOf n).foldl (·.put · n false) m
  | _ => m

/-- Whatever a deed leaves to be listed, no membership is left without anyone in it. -/
theorem Deed.pruned_unlist (d : Deed) {m : Metadata} (h : m.Pruned) :
    (d.unlist m).Pruned := by
  cases d with
  | remove n => exact Metadata.pruned_foldl_put n false _ h
  | _ => exact h

/-- Whoever is removed belongs to nothing, and the others stay. -/
theorem Deed.isMember_unlist (d : Deed) (m : Metadata) (g : Membership)
    (n : EntityName) :
    (d.unlist m).isMember g n = if d = remove n then false else m.isMember g n := by
  cases d with
  | remove n' =>
      simp only [unlist, Metadata.isMember_strip, remove.injEq, eq_comm]
  | _ => simp [unlist]

namespace Lists

variable {ε ε' α β : Type} {l : LiveScene} {m m' : Metadata}

/-- What changes nothing leaves the metadata as they are. -/
theorem pure (a : α) :
    Lists (Pure.pure a : EStateM ε LiveScene α) l l.scene.metadata := by
  intro a' l' h
  cases h
  rfl

/-- Of two calls that are granted the second starts from the metadata that the first
left. -/
theorem bind {call : EStateM ε LiveScene α} {next : α → EStateM ε LiveScene β}
    (hc : Lists call l m)
    (hn : ∀ a l', call l = .ok a l' → l'.scene.metadata = m → Lists (next a) l' m') :
    Lists (call >>= next) l m' := by
  intro b l₂ h
  obtain ⟨a, l₁, hcall, hnext⟩ := of_bind_ok h
  exact hn a l₁ hcall (hc a l₁ hcall) b l₂ hnext

theorem map {call : EStateM ε LiveScene α} (h : Lists call l m) (f : α → β) :
    Lists (call >>= fun a => Pure.pure (f a)) l m := by
  refine h.bind fun a l' _ hm => ?_
  rw [← hm]
  exact .pure _

/-- What runs alike leaves alike. -/
theorem congr {call call' : EStateM ε LiveScene α} (heq : call l = call' l)
    (h : Lists call' l m) : Lists call l m :=
  fun a l' hrun => h a l' (heq.symm.trans hrun)

/-- The wording of refusals is no matter here, where only granted calls count. -/
theorem adaptExcept {call : EStateM ε LiveScene α} (h : Lists call l m)
    (f : ε → ε') : Lists (call.adaptExcept f) l m :=
  fun a l' hrun => h a l' (of_adaptExcept_ok hrun)

/-- A test is run as its branch, each under its own assumption. -/
theorem ite {c : Prop} [Decidable c] {call call' : EStateM ε LiveScene α}
    (h : c → Lists call l m) (h' : ¬ c → Lists call' l m) :
    Lists (if c then call else call') l m := by
  split
  · next hc => exact h hc
  · next hc => exact h' hc

/-- A mutation that is granted leaves the metadata of its result. -/
theorem mutate {μ : Mutation α} (h : ∀ r, μ l.scene = .ok r → r.scene.metadata = m) :
    Lists (Surface.mutate μ : EStateM SceneError LiveScene α) l m := by
  intro a l' hrun
  obtain ⟨r, hr, -, hscene⟩ := LiveScene.of_mutate_ok hrun
  rw [← hscene]
  exact h r hr

end Lists

section mutations

variable {l : LiveScene} {n : EntityName}

/-- An entity that comes in belongs to nothing yet. -/
theorem lists_insertEntityAt (i : Nat) (e : Entity) :
    Lists (Surface.insertEntityAt i e) l l.scene.metadata :=
  .mutate fun r hr => by obtain ⟨-, -, rfl⟩ := Scene.insertEntityAt_ok_iff.1 hr; rfl

/-- Setting a value does not touch metadata. -/
theorem lists_setValue (key value : String) :
    Lists (Surface.setValue n key value) l l.scene.metadata :=
  .mutate fun r hr => by obtain ⟨e, -, rfl⟩ := Scene.setValue_ok_iff.1 hr; rfl

/-- Removing one does not either. -/
theorem lists_removeValue (key : String) :
    Lists (Surface.removeValue n key) l l.scene.metadata :=
  .mutate fun r hr => by
    obtain ⟨e, old, -, -, rfl⟩ := Scene.removeValue_ok_iff.1 hr
    rfl

/-- Inserting a child leaves the metadata alone, whether its entity is there or not. -/
theorem lists_insertChild (node : ChildNode) :
    Lists (Surface.insertChild n node) l l.scene.metadata := by
  cases he : l.scene.entity? n with
  | none =>
      intro a l' hrun
      rw [Surface.insertChild_error he] at hrun
      cases hrun
  | some e =>
      intro a l' hrun
      rw [Surface.insertChild_eq he] at hrun
      refine Lists.mutate (fun r hr => ?_) a l' hrun
      obtain ⟨e, -, -, rfl⟩ := Scene.insertChildAt_ok_iff.1 hr
      rfl

/-- Removing a child leaves the metadata alone. -/
theorem lists_removeChild (f : Fingerprint) :
    Lists (Surface.removeChild n f) l l.scene.metadata :=
  .mutate fun r hr => by
    obtain ⟨e, i, r', -, -, hat, rfl⟩ := Scene.removeChild_ok_iff.1 hr
    obtain ⟨e, child, -, -, rfl⟩ := Scene.removeChildAt_ok_iff.1 hat
    rfl

end mutations

namespace Performed

variable {l : LiveScene} {op : Operation} {id : ActionId} {a : Action} {d : Deed}
  {e? : Option Entity}

/-- Whoever is removed leaves all that it belonged to. -/
theorem lists_removal (n : EntityName) :
    Lists (removal n) l ((Deed.remove n).unlist l.scene.metadata) := by
  intro x l' h
  obtain ⟨e, -, -, hscene⟩ := removal_ok h
  rw [hscene]
  rfl

/-- What takes the place of something is listed where that was. -/
theorem lists_replacement (hm : l.scene.metadata.Pruned) (e : Entity) :
    Lists (replacement e) l l.scene.metadata := by
  refine Lists.ite (fun hc => ?_) fun _ => (lists_insertEntityAt _ e).map _
  -- taken out of everything, put in, and entered again in all that was left
  refine (lists_removal e.name).bind fun x l₁ _ hleft => ?_
  refine (lists_insertEntityAt _ e).bind fun _ l₂ hinsert hm₂ => ?_
  have hin : l₂.scene.contains e.name = true := by
    obtain ⟨r, hr, -, hscene⟩ := LiveScene.of_mutate_ok hinsert
    obtain ⟨hnone, hi, rfl⟩ := Scene.insertEntityAt_ok_iff.1 hr
    rw [← hscene, Scene.contains, Scene.entity?_insertIdx hnone hi, if_pos rfl]
    rfl
  refine Lists.map ?_ _
  intro reverts l₃ hjoin
  obtain ⟨l₃', hjoin', hscene⟩ := joinAll_ok
    (l.scene.metadata.membershipsOf e.name) l₂ hin
  cases hjoin.symm.trans hjoin'
  rw [hscene, hm₂, hleft]
  exact Metadata.rejoin_strip hm e.name fun _ => Iff.rfl

/-- Among plain kinds it is the removal that touches metadata, and no other. -/
theorem lists_plainKind {kind : ActionKind} (hd : kind.deed? = some d) :
    Lists (plainKind id kind) l (d.unlist l.scene.metadata) := by
  cases kind with
  | noAction | conflict => cases hd
  | addEntity e => cases hd; exact (lists_insertEntityAt _ e).map _
  | removeEntity e => cases hd; exact (lists_removal e.name).map _
  | addKeyValue edit => cases hd; exact (lists_setValue _ _).map _
  | changeKeyValue edit => cases hd; exact (lists_setValue _ _).map _
  | removeKeyValue edit => cases hd; exact (lists_removeValue _).map _
  | addChildNode n key node => cases hd; exact (lists_insertChild node).map _
  | removeChildNode n key node => cases hd; exact (lists_removeChild _).map _

/-- Whether the entity is there is asked before, and changes nothing. -/
theorem lists_plain (hd : a.deed? = some d) :
    Lists (plain id a) l (d.unlist l.scene.metadata) := by
  refine Lists.ite (fun _ => ?_) fun _ =>
    (lists_plainKind (Action.deed?_eq_some.1 hd).1).adaptExcept _
  intro x l' h
  cases h

/-- A conflict leaves the metadata like the call that it comes down to. Where it
replaces an entity the memberships are taken away and given back. -/
theorem lists_conflict {c : Conflict} {w : Action} (hw : op.action? c.source = some w)
    (hd : Deed.ofConflict? c.type w c.sourceEntity? = some d)
    (hm : l.scene.metadata.Pruned)
    (hmake : d.make (l.scene.entity? d.name) = some e?) :
    Lists (conflict op id a c) l (d.unlist l.scene.metadata) := by
  cases conflictRuns id a hw hd hmake with
  | @insert e hrun =>
      exact Lists.congr hrun (((lists_insertEntityAt _ e).adaptExcept _).map _)
  | @replace e hrun =>
      exact Lists.congr hrun ((lists_replacement hm e).adaptExcept _)
  | plain hwd hrun => exact Lists.congr hrun (lists_plain hwd)

/-- Of the actions only a removal touches metadata. -/
theorem lists_ofAction (ha : op.action? id = some a) (hd : op.deed? id = some d)
    (hm : l.scene.metadata.Pruned)
    (hmake : d.make (l.scene.entity? d.name) = some e?) :
    Lists (ofAction op id a) l (d.unlist l.scene.metadata) := by
  rw [Operation.deed?, ha, Option.bind_some] at hd
  unfold ofAction
  cases hc : a.conflict? with
  | none =>
      rw [hc] at hd
      exact lists_plain hd
  | some c =>
      rw [hc] at hd
      obtain ⟨w, hw, hd⟩ := Option.bind_eq_some_iff.1 hd
      exact lists_conflict hw hd hm hmake

end Performed

-- ============================================================ memberships

/-- The scene once the changes are made whose entities are there. -/
def Scene.enroll (s : Scene) (changes : List MembershipChange) : Scene :=
  { s with
    metadata := (changes.filter fun c => s.contains c.entity).foldl
      (fun m c => m.put c.membership c.entity c.member) s.metadata }

/-- Changes of memberships are made one after the other. Whose entities are there does
not change in between. -/
theorem Scene.enroll_cons (s : Scene) (c : MembershipChange)
    (cs : List MembershipChange) : s.enroll (c :: cs) = (s.enroll [c]).enroll cs := by
  unfold enroll
  rw [List.filter_cons, List.filter_cons]
  cases hc : s.contains c.entity <;> rfl

/-- A membership change is made if its entity is there. -/
theorem Performed.membership_ok {l : LiveScene} (hl : l.Open)
    (change : MembershipChange) :
    ∃ done l', Performed.membership change l = .ok done l' ∧ l'.Open
      ∧ l'.scene = l.scene.enroll [change]
      ∧ done.isSome = l.scene.contains change.entity := by
  obtain ⟨done, l', hrun, hl', -⟩ := puts_membership hl change change.entity
  refine ⟨done, l', hrun, hl', ?_⟩
  -- made, or left out for want of the entity
  cases hc : l.scene.contains change.entity with
  | true =>
      obtain ⟨l₁, hset, hscene⟩ := Revert.setMember_ok hc change.membership change.member
      unfold Performed.membership at hrun
      rw [get_bind_eq, show (Surface.scene l).contains change.entity = true from hc,
        if_pos rfl, bind_ok hset] at hrun
      cases hrun
      refine ⟨?_, rfl⟩
      rw [hscene]
      simp [Scene.enroll, hc]
  | false =>
      unfold Performed.membership at hrun
      rw [get_bind_eq, show (Surface.scene l).contains change.entity = false from hc,
        if_neg Bool.false_ne_true] at hrun
      cases hrun
      exact ⟨by simp [Scene.enroll, hc], rfl⟩

end SceneMerge
