/-
How an operation is laid out. Adding proposals appends to the arena of
actions and to the order, one top-level action for each proposal, and
nothing that is there already moves. So the order goes with the list of
proposals, entry by entry: an action stands for itself, a conflict for
the change of the source that it wraps (`Represents`, `LaidOut`).

Deciding a conflict writes to the conflict and to the change that it
wraps. Wrapped actions are never in the order, so no other entry notices
(`laidOut_decided`), and an operation is laid out in the same way whatever
was decided.
-/
import Mathlib.Data.List.Forall2
import SceneMerge.Proofs.Difference.Scene
import SceneMerge.Proofs.Session.Setup

namespace SceneMerge

-- ============================================================= proposals

/-- A proposed action is switched on, and neither wrapped nor a
conflict. -/
def Proposal.Plain : Proposal → Prop
  | .action a => a.active = true ∧ a.owner? = none ∧ a.conflict? = none
  | .conflict .. => True

namespace Operation

/-- The operation after one more proposal. -/
def propose (op : Operation) : Proposal → Operation
  | .action a => op.addAction a
  | .conflict type source target? sourceEntity? targetEntity? =>
      op.addConflict type source target? sourceEntity? targetEntity?

def proposeAll (op : Operation) (ps : List Proposal) : Operation :=
  ps.foldl propose op

def addMemberships (op : Operation) (changes : List MembershipChange) :
    Operation :=
  changes.foldl addMembership op

-- ================================================================== layout

/-- The action at `j` is `a`, wrapped by the conflict at `id`. -/
def Wraps (op : Operation) (id j : ActionId) (a : Action) : Prop :=
  ∃ w, op.action? j = some w ∧ w.kind = a.kind ∧ w.node = a.node
    ∧ w.owner? = some id

/-- What stands for a proposal. The decision on a conflict may be any, and
the conflict is switched as it says. -/
def Represents (op : Operation) (id : ActionId) : Proposal → Prop
  | .action a => op.action? id = some a ∧ (Proposal.action a).Plain
  | .conflict type source target? sourceEntity? targetEntity? =>
      ∃ c,
        op.action? id = some
            { kind := .conflict c, node := conflictNode type source
              active := c.resolution.appliesSource }
          ∧ c.type = type ∧ c.sourceEntity? = sourceEntity?
          ∧ c.targetEntity? = targetEntity?
          ∧ op.Wraps id c.source source
          ∧ Option.Rel (op.Wraps id) c.target? target?

/-- The order goes with the proposals, and has all that is not wrapped. -/
structure LaidOut (op : Operation) (ps : List Proposal) : Prop where
  distinct : op.order.Nodup
  represents : List.Forall₂ op.Represents op.order ps
  top : ∀ id a, op.action? id = some a → a.owner? = none → id ∈ op.order

variable {op op' : Operation} {ps : List Proposal} {p : Proposal}
  {id : ActionId}

/-- Whatever stands for a proposal is not wrapped. -/
theorem Represents.owner (h : op.Represents id p) :
    ∃ a, op.action? id = some a ∧ a.owner? = none := by
  cases p with
  | action a => exact ⟨a, h.1, h.2.2.1⟩
  | conflict type source target? sourceEntity? targetEntity? =>
      obtain ⟨c, ha, -⟩ := h
      exact ⟨_, ha, rfl⟩

/-- Two optional things that go together still do if less is asked of them. -/
theorem rel_imp {α β : Type} {R R' : α → β → Prop} {a : Option α}
    {b : Option β} (himp : ∀ x y, R x y → R' x y) (h : Option.Rel R a b) :
    Option.Rel R' a b := by
  cases h with
  | some h => exact .some (himp _ _ h)
  | none => exact .none

/-- A wrapped action stays wrapped as long as nothing is taken out of the arena. -/
theorem Wraps.mono (hle : ∀ id a, op.action? id = some a →
    op'.action? id = some a) {j : ActionId} {a : Action}
    (h : op.Wraps id j a) : op'.Wraps id j a := by
  obtain ⟨w, hw, hrest⟩ := h
  exact ⟨w, hle _ _ hw, hrest⟩

/-- Everything that is there stays. -/
theorem Represents.mono (hle : ∀ id a, op.action? id = some a →
    op'.action? id = some a) (h : op.Represents id p) :
    op'.Represents id p := by
  cases p with
  | action a => exact ⟨hle _ _ h.1, h.2⟩
  | conflict type source target? sourceEntity? targetEntity? =>
      obtain ⟨c, ha, ht, hs, he, hw, hw'⟩ := h
      exact ⟨c, hle _ _ ha, ht, hs, he, hw.mono hle,
        rel_imp (fun _ _ h => h.mono hle) hw'⟩

/-- The order and the proposals go together position by position. -/
theorem LaidOut.getElem (h : op.LaidOut ps) {i : Nat}
    (hi : i < op.order.length) (hi' : i < ps.length) :
    op.Represents op.order[i] ps[i] :=
  (List.forall₂_iff_get.1 h.represents).2 i hi hi'

/-- What stands for a proposal is in the order, and the other way round. -/
theorem LaidOut.exists_proposal (h : op.LaidOut ps) (hid : id ∈ op.order) :
    ∃ p ∈ ps, op.Represents id p := by
  obtain ⟨i, hi, rfl⟩ := List.getElem_of_mem hid
  have hi' : i < ps.length := h.represents.length_eq ▸ hi
  exact ⟨ps[i], List.getElem_mem hi', h.getElem hi hi'⟩

/-- Every proposal is stood for in the order. -/
theorem LaidOut.exists_id (h : op.LaidOut ps) (hp : p ∈ ps) :
    ∃ id ∈ op.order, op.Represents id p := by
  obtain ⟨i, hi, rfl⟩ := List.getElem_of_mem hp
  have hi' : i < op.order.length := h.represents.length_eq ▸ hi
  exact ⟨op.order[i], List.getElem_mem hi', h.getElem hi' hi⟩

/-- The layout is one of the arena and the order. -/
theorem LaidOut.congr (h : op.LaidOut ps) (ha : op'.actions = op.actions)
    (ho : op'.order = op.order) : op'.LaidOut ps := by
  have hsame : ∀ id, op'.action? id = op.action? id := by
    intro id
    rw [action?, ha]
    rfl
  refine ⟨ho ▸ h.distinct, ?_, fun id a hid => ?_⟩
  · rw [ho]
    exact h.represents.imp fun _ _ hr =>
      hr.mono fun id a hid => (hsame id).trans hid
  · rw [ho]
    exact h.top id a ((hsame id).symm.trans hid)

/-- The order lists positions of the arena. -/
theorem LaidOut.lt_length (h : op.LaidOut ps) (hid : id ∈ op.order) :
    id < op.actions.length := by
  obtain ⟨p, -, hrep⟩ := h.exists_proposal hid
  obtain ⟨a, ha, -⟩ := hrep.owner
  exact (List.getElem?_eq_some_iff.1 ha).1

/-- Appending to the arena moves nothing: identifiers are positions, so they go on
naming what they named. -/
theorem action?_append (actions : List Action) {a : Action}
    (h : op.action? id = some a) :
    ({ op with actions := op.actions ++ actions } : Operation).action? id
      = some a := by
  have hlt := (List.getElem?_eq_some_iff.1 h).1
  show (op.actions ++ actions)[id]? = some a
  rw [List.getElem?_append_left hlt]
  exact h

/-- One more entry at the end of the arena and of the order. -/
private theorem LaidOut.snoc (h : op.LaidOut ps) {actions : List Action}
    {id : ActionId}
    (hops : op'.actions = op.actions ++ actions ∧ op'.order = op.order ++ [id])
    (hfresh : op.actions.length ≤ id) (hrep : op'.Represents id p)
    (htop : ∀ i a, op.actions.length ≤ i → op'.action? i = some a →
      a.owner? = none → i = id) :
    op'.LaidOut (ps ++ [p]) := by
  have hle : ∀ i a, op.action? i = some a → op'.action? i = some a := by
    intro i a ha
    have := action?_append actions ha
    unfold action? at this ⊢
    rw [hops.1]
    exact this
  refine ⟨?_, ?_, ?_⟩
  · rw [hops.2, List.nodup_append]
    refine ⟨h.distinct, List.nodup_singleton _, ?_⟩
    intro i hi j hj hij
    rw [List.mem_singleton.1 hj] at hij
    exact absurd (h.lt_length hi) (Nat.not_lt.2 (hij ▸ hfresh))
  · rw [hops.2]
    exact List.rel_append (h.represents.imp fun _ _ hr => hr.mono hle)
      (.cons hrep .nil)
  · intro i a ha ho
    rw [hops.2, List.mem_append, List.mem_singleton]
    -- of what stands on its own only the new entry is new, since whatever else was
    -- appended is wrapped
    by_cases hi : op.actions.length ≤ i
    · exact .inr (htop i a hi ha ho)
    · left
      refine h.top i a ?_ ho
      unfold action? at ha ⊢
      rw [hops.1, List.getElem?_append_left (by omega)] at ha
      exact ha

/-- An entry of the arena that was just appended. -/
theorem action?_add {actions : List Action}
    (h : op'.actions = op.actions ++ actions) (k : Nat) :
    op'.action? (op.actions.length + k) = actions[k]? := by
  unfold action?
  rw [h, List.getElem?_append_right (Nat.le_add_right _ _),
    Nat.add_sub_cancel_left]

/-- An action that is added stands for the proposal to add it, at the first free
position. -/
theorem laidOut_addAction (h : op.LaidOut ps) {a : Action}
    (ha : (Proposal.action a).Plain) :
    (op.addAction a).LaidOut (ps ++ [.action a]) := by
  have hops : (op.addAction a).actions = op.actions ++ [a] := rfl
  refine h.snoc ⟨hops, rfl⟩ (Nat.le_refl _) ⟨action?_add hops 0, ha⟩ ?_
  intro i b hi hb _
  obtain ⟨k, rfl⟩ := Nat.exists_eq_add_of_le hi
  rw [action?_add hops] at hb
  cases k with
  | zero => rfl
  | succ k => cases hb

section addConflict

variable (op) (type : ConflictType) (source : Action) (target? : Option Action)
  (sourceEntity? targetEntity? : Option Entity)

/-- The action that wraps another one's copy. -/
def wrap (id : ActionId) (a : Action) : Action :=
  { a with active := false, owner? := some id }

/-- The conflict that is added. -/
def added : Conflict :=
  { type, source := op.actions.length
    target? := target?.map fun _ => op.actions.length + 1
    sourceEntity?, targetEntity? }

/-- A conflict is appended after what it wraps, the source's action first and then the
target's, if there is one. All three are switched off. -/
theorem actions_addConflict :
    (op.addConflict type source target? sourceEntity? targetEntity?).actions
      = op.actions ++ (wrap (op.nextConflict target?) source
          :: target?.toList.map (wrap (op.nextConflict target?))
        ++ [{ kind := .conflict
                (added op type target? sourceEntity? targetEntity?)
              node := conflictNode type source, active := false }]) :=
  List.append_assoc ..

/-- The conflict gets an identifier that was free. -/
theorem length_le_nextConflict :
    op.actions.length ≤ op.nextConflict target? := by
  unfold nextConflict
  omega

/-- Under that identifier it is found, switched off and undecided. -/
theorem action?_addConflict :
    (op.addConflict type source target? sourceEntity? targetEntity?).action?
        (op.nextConflict target?)
      = some { kind := .conflict
                 (added op type target? sourceEntity? targetEntity?)
               node := conflictNode type source, active := false } := by
  have hid : op.nextConflict target?
      = op.actions.length + (1 + target?.toList.length) :=
    Nat.add_assoc ..
  rw [hid, action?_add (actions_addConflict ..)]
  cases target? <;> rfl

variable {op}

/-- A conflict that is added stands for the proposal to add it. What it wraps is
appended to the arena as well, and not to the order. -/
theorem laidOut_addConflict (h : op.LaidOut ps) :
    (op.addConflict type source target? sourceEntity? targetEntity?).LaidOut
      (ps ++ [.conflict type source target? sourceEntity? targetEntity?]) := by
  have hops := actions_addConflict op type source target? sourceEntity?
    targetEntity?
  refine h.snoc ⟨hops, rfl⟩ (length_le_nextConflict op target?)
    ⟨_, action?_addConflict .., rfl, rfl, rfl,
      ⟨_, action?_add hops 0, rfl, rfl, rfl⟩, ?_⟩ ?_
  · cases target? with
    | none => exact .none
    | some target =>
        exact .some ⟨_, action?_add hops 1, rfl, rfl, rfl⟩
  -- what is appended before the conflict is wrapped
  intro i b hi hb ho
  obtain ⟨k, rfl⟩ := Nat.exists_eq_add_of_le hi
  rw [action?_add hops] at hb
  cases target? with
  | none =>
      match k, hb with
      | 0, hb => cases hb; cases ho
      | 1, _ => rfl
      | k + 2, hb => cases hb
  | some target =>
      match k, hb with
      | 0, hb => cases hb; cases ho
      | 1, hb => cases hb; cases ho
      | 2, _ => rfl
      | k + 3, hb => cases hb

end addConflict

/-- A proposal adds one entry to the order, be it an action or a conflict. -/
theorem laidOut_propose (h : op.LaidOut ps) (hp : p.Plain) :
    (op.propose p).LaidOut (ps ++ [p]) := by
  cases p with
  | action a => exact laidOut_addAction h hp
  | conflict => exact laidOut_addConflict _ _ _ _ _ h

/-- No conflict of the order is decided. -/
def Undecided (op : Operation) : Prop :=
  ∀ id ∈ op.order, ∀ c, op.conflict? id = some c → c.resolution = .unresolved

/-- What is added is undecided if it is a conflict, and what was there is as it was. -/
theorem undecided_propose (h : op.LaidOut ps) (hu : op.Undecided)
    (hp : p.Plain) : (op.propose p).Undecided := by
  have hold : ∀ (actions : List Action), ∀ id ∈ op.order,
      (op.actions ++ actions)[id]? = op.action? id :=
    fun actions id hid => List.getElem?_append_left (h.lt_length hid)
  cases p with
  | action a =>
      intro id hid c hc
      -- an entry that was there is looked up in the old part of the arena, and the new
      -- one is the action
      rcases List.mem_append.1 hid with hid | hid
      · refine hu id hid c ?_
        rw [conflict?, ← hold [a] id hid]
        exact hc
      · rw [List.mem_singleton.1 hid] at hc
        have hops : (op.addAction a).actions = op.actions ++ [a] := rfl
        have ha : (op.addAction a).action? op.actions.length = some a :=
          action?_add hops 0
        rw [conflict?, show op.propose (.action a) = op.addAction a from rfl,
          ha, Option.bind_some, hp.2.2] at hc
        cases hc
  | conflict type source target? sourceEntity? targetEntity? =>
      intro id hid c hc
      -- likewise, with a conflict that was just made
      rcases List.mem_append.1 hid with hid | hid
      · refine hu id hid c ?_
        rw [conflict?, ← hold _ id hid, ← actions_addConflict op type source
          target? sourceEntity? targetEntity?]
        exact hc
      · rw [List.mem_singleton.1 hid] at hc
        rw [conflict?, propose, action?_addConflict] at hc
        cases hc
        rfl

/-- Proposal by proposal, the order goes with what is proposed. -/
theorem laidOut_proposeAll (hps : ∀ p ∈ ps, p.Plain) :
    ∀ {done : List Proposal} {op : Operation}, op.LaidOut done →
      op.Undecided →
      (op.proposeAll ps).LaidOut (done ++ ps) ∧ (op.proposeAll ps).Undecided := by
  induction ps with
  | nil =>
      intro done op h hu
      rw [List.append_nil]
      exact ⟨h, hu⟩
  | cons p ps ih =>
      intro done op h hu
      have hp := hps p List.mem_cons_self
      have := ih (fun q hq => hps q (List.mem_cons_of_mem _ hq))
        (laidOut_propose h hp) (undecided_propose h hu hp)
      rwa [List.append_assoc] at this

-- =============================================================== deciding

/-- Changing one action in place changes what is found under its identifier only. -/
theorem action?_modifyAction (op : Operation) (id j : ActionId)
    (f : Action → Action) :
    (op.modifyAction id f).action? j
      = if id = j then (op.action? j).map f else op.action? j := by
  show (op.actions.modify id f)[j]? = _
  rw [List.getElem?_modify]
  split
  · rfl
  · exact Option.map_id'

/-- Staging is kept apart from actions and their order. -/
theorem restage_eq (op : Operation) (id : ActionId) (a : Action)
    (active : Bool) : ∃ staged, op.restage id a active = { op with staged } := by
  unfold restage
  split
  · split
    · exact ⟨_, rfl⟩
    · exact ⟨op.staged, rfl⟩
  · exact ⟨_, rfl⟩

/-- A conflict of the order together with the change that it wraps. -/
structure Contested (op : Operation) (id : ActionId) (c : Conflict) : Prop where
  top : ∃ a, op.action? id = some a ∧ a.conflict? = some c ∧ a.owner? = none
  wrapped : ∃ w, op.action? c.source = some w ∧ w.owner? = some id

/-- What deciding a conflict writes. -/
def decided (op : Operation) (id : ActionId) (c : Conflict) (r : Resolution) :
    Operation :=
  (op.modifyAction id fun a =>
    { a with kind := a.kind.withResolution r, active := r.appliesSource
      }).modifyAction c.source ({ · with active := r.appliesSource })

/-- A review is not granted unless the operation takes changes. -/
theorem takes_of_setActive {id : ActionId} {active : Bool} {r? : Option Operation}
    (h : op.setActive id active = .ok r?) : op.ensureMutable = .ok () := by
  unfold Operation.setActive at h
  cases hm : op.ensureMutable with
  | ok => rfl
  | error e => rw [hm] at h; cases h

/-- A decision is not granted unless the operation takes changes. -/
theorem takes_of_setResolution {id : ActionId} {r : Resolution}
    (h : op.setResolution id r = .ok op') : op.ensureMutable = .ok () := by
  unfold Operation.setResolution at h
  cases hm : op.ensureMutable with
  | ok => rfl
  | error e => rw [hm] at h; cases h

/-- An action that is switched is neither a conflict nor wrapped. -/
theorem of_setActive_ok {active : Bool} (h : op.setActive id active = .ok (some op')) :
    ∃ a, op.action? id = some a ∧ a.conflict? = none ∧ a.owner? = none
      ∧ op' = if id ∈ op.applied
          then (op.modifyAction id ({ · with active })).restage id a active
          else op.modifyAction id ({ · with active }) := by
  unfold setActive at h
  cases hm : op.ensureMutable with
  | error e => simp only [hm, bind, Except.bind] at h; cases h
  | ok =>
      simp only [hm, bind, Except.bind] at h
      cases ha : op.action? id with
      | none => simp only [ha] at h; cases h
      | some a =>
          simp only [ha] at h
          split at h
          · cases h
          · next hplain =>
              split at h
              · cases h
              · cases h
                rw [Bool.not_eq_true, Bool.or_eq_false_iff,
                  Option.isSome_eq_false_iff, Option.isNone_iff_eq_none,
                  Action.isWrapped, Option.isSome_eq_false_iff,
                  Option.isNone_iff_eq_none] at hplain
                exact ⟨a, rfl, hplain.1, hplain.2, rfl⟩

/-- Of the actions, switching concerns one. -/
theorem action?_setActive {active : Bool} (h : op.setActive id active = .ok (some op'))
    (j : ActionId) :
    op'.action? j = (op.modifyAction id ({ · with active })).action? j := by
  obtain ⟨a, -, -, -, rfl⟩ := of_setActive_ok h
  split
  · obtain ⟨staged, hstaged⟩ := restage_eq (op.modifyAction id ({ · with active })) id a active
    rw [hstaged]
    rfl
  · rfl

/-- A membership change is switched at its position. -/
theorem of_setMembershipActive_ok {index : Nat} {active : Bool}
    (h : op.setMembershipActive index active = .ok op') :
    op' = { op with memberships := op.memberships.modify index ({ · with active }) } := by
  unfold setMembershipActive at h
  cases hm : op.ensureMutable with
  | error e => simp only [hm, bind, Except.bind] at h; cases h
  | ok =>
      simp only [hm, bind, Except.bind] at h
      split at h
      · cases h
        rfl
      · cases h

/-- What a conflict comes to that is decided. -/
theorem of_setResolution_ok {r : Resolution} (h : op.setResolution id r = .ok op') :
    ∃ a c, op.action? id = some a ∧ a.conflict? = some c
      ∧ op' = (op.decided id c r).restage id a r.appliesSource := by
  unfold setResolution at h
  cases hm : op.ensureMutable with
  | error e => simp only [hm, bind, Except.bind] at h; cases h
  | ok =>
      simp only [hm, bind, Except.bind] at h
      cases ha : op.action? id with
      | none => simp only [ha] at h; cases h
      | some a =>
          simp only [ha] at h
          cases hc : a.conflict? with
          | none => simp only [hc] at h; cases h
          | some c =>
              simp only [hc] at h
              cases h
              exact ⟨a, c, rfl, hc, rfl⟩

variable {c : Conflict} {r : Resolution}

/-- A conflict that is there is decided, whatever the decision, as long as the operation
takes changes. -/
theorem setResolution_eq (hm : op.ensureMutable = .ok ())
    (hc : op.Contested id c) :
    ∃ a, op.setResolution id r
      = .ok ((op.decided id c r).restage id a r.appliesSource) := by
  obtain ⟨⟨a, ha, hconflict, -⟩, -⟩ := hc
  refine ⟨a, ?_⟩
  unfold setResolution
  simp only [hm, bind, Except.bind, ha, hconflict]
  rfl

/-- A conflict does not wrap itself: what it wraps has an owner, and the conflict has
none. -/
theorem Contested.source_ne (hc : op.Contested id c) : c.source ≠ id := by
  obtain ⟨⟨a, ha, -, ho⟩, w, hw, hwo⟩ := hc
  intro h
  rw [h, ha] at hw
  cases hw
  rw [ho] at hwo
  cases hwo

/-- The change that is wrapped keeps all but its switch. -/
theorem action?_decided_source (hc : op.Contested id c) {w : Action}
    (hw : op.action? c.source = some w) :
    (op.decided id c r).action? c.source
      = some { w with active := r.appliesSource } := by
  unfold decided
  rw [action?_modifyAction, if_pos rfl, action?_modifyAction,
    if_neg (Ne.symm hc.source_ne), hw]
  rfl

/-- The conflict gets its decision, and is switched as that says. -/
theorem action?_decided_self (hc : op.Contested id c) {a : Action}
    (ha : op.action? id = some a) :
    (op.decided id c r).action? id
      = some { a with kind := a.kind.withResolution r
                      active := r.appliesSource } := by
  unfold decided
  rw [action?_modifyAction, if_neg hc.source_ne, action?_modifyAction,
    if_pos rfl, ha]
  rfl

/-- Nothing else is written. -/
theorem action?_decided_other {j : ActionId} (hj : j ≠ id)
    (hs : j ≠ c.source) :
    (op.decided id c r).action? j = op.action? j := by
  unfold decided
  rw [action?_modifyAction, if_neg (Ne.symm hs), action?_modifyAction,
    if_neg (Ne.symm hj)]

/-- A wrapped change stays what it is, as far as it matters. -/
theorem Wraps.decided (hc : op.Contested id c) {j k : ActionId} {a : Action}
    (h : op.Wraps j k a) : (op.decided id c r).Wraps j k a := by
  obtain ⟨w, hw, hkind, hnode, hwo⟩ := h
  -- either it is the very action that the decision switches, whose kind and place stay,
  -- or the decision does not touch it: the conflict itself stands on its own
  by_cases hs : k = c.source
  · subst hs
    exact ⟨_, action?_decided_source hc hw, hkind, hnode, hwo⟩
  · have hk : k ≠ id := by
      obtain ⟨⟨b, hb, -, ho⟩, -⟩ := hc
      rintro rfl
      rw [hb] at hw
      cases hw
      rw [ho] at hwo
      cases hwo
    exact ⟨w, (action?_decided_other hk hs).trans hw, hkind, hnode, hwo⟩

/-- Whoever stands on its own is not the change that a conflict wraps. -/
private theorem ne_source (hc : op.Contested id c) {j : ActionId} {a : Action}
    (ha : op.action? j = some a) (ho : a.owner? = none) : j ≠ c.source := by
  obtain ⟨-, w, hw, hwo⟩ := hc
  rintro rfl
  rw [hw] at ha
  cases ha
  rw [ho] at hwo
  cases hwo

/-- Whatever stood for a proposal does after the decision. -/
theorem represents_decided (hc : op.Contested id c) {j : ActionId}
    (h : op.Represents j p) : (op.decided id c r).Represents j p := by
  cases p with
  | action b =>
      obtain ⟨hb, hplain⟩ := h
      -- a plain action is neither the conflict nor what the conflict wraps
      have hj : j ≠ id := by
        obtain ⟨⟨a, ha, hconflict, -⟩, -⟩ := hc
        rintro rfl
        rw [ha] at hb
        cases hb
        rw [hplain.2.2] at hconflict
        cases hconflict
      have hs := ne_source hc hb hplain.2.1
      exact ⟨(action?_decided_other hj hs).trans hb, hplain⟩
  | conflict type source target? sourceEntity? targetEntity? =>
      obtain ⟨c', ha, ht, hse, hte, hw, hw'⟩ := h
      have htarget := rel_imp (fun _ _ h => Wraps.decided (r := r) hc h) hw'
      -- the conflict that was decided stands for the same proposal, of which the
      -- resolution is no part, and every other conflict is as it was
      by_cases hj : j = id
      · subst hj
        exact ⟨{ c' with resolution := r }, action?_decided_self hc ha,
          ht, hse, hte, hw.decided hc, htarget⟩
      · have hs := ne_source hc ha rfl
        exact ⟨c', (action?_decided_other hj hs).trans ha, ht, hse, hte,
          hw.decided hc, htarget⟩

/-- Decisions leave the layout as it is. -/
theorem laidOut_decided (h : op.LaidOut ps) (hc : op.Contested id c) :
    (op.decided id c r).LaidOut ps where
  distinct := h.distinct
  represents := h.represents.imp fun _ _ hr => represents_decided hc hr
  top := by
    intro j a ha ho
    show j ∈ op.order
    by_cases hs : j = c.source
    · subst hs
      obtain ⟨w, hw, hwo⟩ := hc.wrapped
      rw [action?_decided_source hc hw] at ha
      cases ha
      rw [hwo] at ho
      cases ho
    · by_cases hj : j = id
      · subst hj
        obtain ⟨b, hb, -, hbo⟩ := hc.top
        exact h.top _ b hb hbo
      · rw [action?_decided_other hj hs] at ha
        exact h.top j a ha ho

/-- A conflict of the order wraps a change of its own. -/
theorem LaidOut.contested (h : op.LaidOut ps) (hid : id ∈ op.order)
    (hc : op.conflict? id = some c) : op.Contested id c := by
  obtain ⟨p, -, hrep⟩ := h.exists_proposal hid
  obtain ⟨a, ha, hac⟩ := Option.bind_eq_some_iff.1 hc
  cases p with
  | action b =>
      obtain ⟨hb, hplain⟩ := hrep
      rw [ha] at hb
      cases hb
      rw [hplain.2.2] at hac
      cases hac
  | conflict type source target? sourceEntity? targetEntity? =>
      obtain ⟨c', hc', -, -, -, ⟨w, hw, -, -, hwo⟩, -⟩ := hrep
      rw [ha] at hc'
      cases hc'
      cases hac
      exact ⟨⟨_, ha, rfl, rfl⟩, w, hw, hwo⟩

/-- What a series of decisions leaves as it is. -/
structure Reviewed (ps : List Proposal) (op op' : Operation) : Prop where
  laidOut : op'.LaidOut ps
  open' : op'.ensureMutable = .ok ()
  order : op'.order = op.order
  applied : op'.applied = op.applied

/-- Looked up afterwards, the conflict says how it was decided, and all others what they
said before. -/
theorem conflict?_decided (hc : op.Contested id c) (j : ActionId) :
    (op.decided id c r).conflict? j
      = if j = id then some { c with resolution := r } else op.conflict? j := by
  unfold conflict?
  by_cases hj : j = id
  · subst hj
    obtain ⟨a, ha, hac, -⟩ := hc.top
    rw [action?_decided_self hc ha, if_pos rfl]
    obtain ⟨kind, node, active, owner?⟩ := a
    cases kind <;> cases hac
    rfl
  · rw [if_neg hj]
    by_cases hs : j = c.source
    · subst hs
      obtain ⟨w, hw, -⟩ := hc.wrapped
      rw [action?_decided_source hc hw, hw]
      rfl
    · rw [action?_decided_other hj hs]

/-- Deciding a conflict is granted, and decides it. -/
theorem setResolution_spec (h : op.LaidOut ps) (hm : op.ensureMutable = .ok ())
    (hid : id ∈ op.order) (hc : op.conflict? id = some c) (r : Resolution) :
    ∃ op', op.setResolution id r = .ok op' ∧ Reviewed ps op op'
      ∧ ∀ j, op'.conflict? j
        = if j = id then some { c with resolution := r }
          else op.conflict? j := by
  have hcontested := h.contested hid hc
  obtain ⟨a, hset⟩ := setResolution_eq (r := r) hm hcontested
  obtain ⟨staged, hstaged⟩ :=
    restage_eq (op.decided id c r) id a r.appliesSource
  rw [hstaged] at hset
  exact ⟨_, hset,
    ⟨(laidOut_decided h hcontested).congr rfl rfl, hm, rfl, rfl⟩,
    fun j => conflict?_decided hcontested j⟩

/-- Decides one conflict after the other. -/
def decideAll (ρ : ActionId → Resolution) :
    List ActionId → Operation → Except MergeError Operation
  | [], op => .ok op
  | id :: rest, op => (op.setResolution id (ρ id)).bind (decideAll ρ rest)

/-- A series of decisions on conflicts of the order is granted, and decides these and no
others. The induction is on the series: each decision leaves the layout as it is, so the
next one is granted as well. -/
theorem decideAll_spec (ρ : ActionId → Resolution) (ids : List ActionId) :
    ∀ {op : Operation}, op.LaidOut ps → op.ensureMutable = .ok () →
      (∀ id ∈ ids, id ∈ op.order ∧ ∃ c, op.conflict? id = some c) →
      ∃ op', decideAll ρ ids op = .ok op' ∧ Reviewed ps op op'
        ∧ ∀ j, op'.conflict? j = (op.conflict? j).map fun c =>
          if j ∈ ids then { c with resolution := ρ j } else c := by
  induction ids with
  | nil =>
      intro op h hm _
      exact ⟨op, rfl, ⟨h, hm, rfl, rfl⟩, fun j => by simp⟩
  | cons id ids ih =>
      intro op h hm hids
      obtain ⟨hid, c, hc⟩ := hids id List.mem_cons_self
      obtain ⟨op₁, hset, hrev, hconflicts⟩ := setResolution_spec h hm hid hc (ρ id)
      have hrest : ∀ j ∈ ids, j ∈ op₁.order ∧ ∃ c, op₁.conflict? j = some c := by
        intro j hj
        obtain ⟨hjo, cj, hcj⟩ := hids j (List.mem_cons_of_mem _ hj)
        rw [hrev.order, hconflicts]
        refine ⟨hjo, ?_⟩
        split
        · exact ⟨_, rfl⟩
        · exact ⟨cj, hcj⟩
      obtain ⟨op₂, hall, hrev', hconflicts'⟩ := ih hrev.laidOut hrev.open' hrest
      refine ⟨op₂, ?_, ⟨hrev'.laidOut, hrev'.open', hrev'.order.trans hrev.order,
        hrev'.applied.trans hrev.applied⟩, fun j => ?_⟩
      · rw [decideAll, hset]
        exact hall
      · rw [hconflicts', hconflicts]
        by_cases hj : j = id
        · subst hj
          simp [hc]
        · simp [hj]

end Operation

-- ============================================================ populating

namespace Host

/-- Of a host that tells nobody, proposing is the fold of what one proposal does. -/
theorem proposeAll_alone (ps : List Proposal) :
    ∀ op : Operation, Host.alone.proposeAll ps op = .ok () (op.proposeAll ps) := by
  induction ps with
  | nil => exact fun op => rfl
  | cons p ps ih =>
      intro op
      have hone : Host.alone.propose p op = .ok () (op.propose p) := by
        cases p <;> rfl
      exact (bind_ok hone).trans (ih _)

/-- Where nobody is told, adding memberships is what it is on the operation by itself.
-/
theorem addMemberships_alone (changes : List MembershipChange) :
    ∀ op : Operation,
      Host.alone.addMemberships changes op = .ok () (op.addMemberships changes) := by
  induction changes with
  | nil => exact fun op => rfl
  | cons change changes ih =>
      intro op
      have hone : Host.alone.addMembership change op
          = .ok op.memberships.length (op.addMembership change) := rfl
      exact (bind_ok hone).trans (ih _)

end Host

namespace Operation

/-- What adding proposals keeps, if adding one does. -/
theorem proposeAll_keeps {P : Operation → Prop}
    (hP : ∀ op p, P op → P (op.propose p)) (ps : List Proposal) :
    ∀ {op : Operation}, P op → P (op.proposeAll ps) := by
  induction ps with
  | nil => exact fun h => h
  | cons p ps ih => exact fun h => ih (hP _ _ h)

/-- Membership changes are kept apart from actions. -/
theorem addMemberships_keeps {P : Operation → Prop}
    (hP : ∀ op change, P op → P (op.addMembership change))
    (changes : List MembershipChange) :
    ∀ {op : Operation}, P op → P (op.addMemberships changes) := by
  induction changes with
  | nil => exact fun h => h
  | cons change changes ih => exact fun h => ih (hP _ _ h)

/-- The layout is about actions, so it does not notice membership changes. -/
theorem laidOut_addMemberships {op : Operation} {ps : List Proposal}
    (changes : List MembershipChange) (h : op.LaidOut ps) :
    (op.addMemberships changes).LaidOut ps :=
  addMemberships_keeps (P := fun op => op.LaidOut ps)
    (fun _ _ h => h.congr rfl rfl) changes h

/-- Proposals do not concern options, which is why memberships are filtered by the ones
that the operation was made with. -/
theorem options_proposeAll (op : Operation) (ps : List Proposal) :
    (op.proposeAll ps).options = op.options :=
  proposeAll_keeps (P := fun op' => op'.options = op.options)
    (fun op p h => by cases p <;> exact h) ps rfl

/-- A new operation that merges `source` into something. -/
def blank (source : Snapshot) (basePath : String) (options : MergeOptions) :
    Operation :=
  { sourcePath := source.path, basePath, options, populated := true }

/-- Before anything is proposed there is nothing in the order, and nothing that could be
missing from it. -/
theorem laidOut_blank (source : Snapshot) (basePath : String)
    (options : MergeOptions) : (blank source basePath options).LaidOut [] where
  distinct := .nil
  represents := .nil
  top := by
    intro id a ha
    cases ha

end Operation

namespace Host

variable {source target : Snapshot}

/-- Actions are proposed first, and membership changes after them. -/
theorem classify_alone (ps : List Proposal) (ours theirs : List MembershipChange)
    (op : Operation) :
    Host.alone.classify ps ours theirs op
      = .ok () ((op.proposeAll ps).addMemberships
          (Proposal.memberships op.options ours theirs)) := by
  refine (bind_ok (proposeAll_alone _ _)).trans ?_
  refine (bind_ok Host.alone.look_eq).trans ?_
  show Host.alone.addMemberships (Proposal.memberships
    (op.proposeAll _).options _ _) _ = _
  rw [op.options_proposeAll]
  exact addMemberships_alone _ _

/-- What can be compared is proposed. -/
theorem populate_alone {base? : Option Snapshot} {op marked : Operation} {ps : List Proposal}
    {ours theirs : List MembershipChange} (hm : op.ensureMutable = .ok ())
    (hmarked : op.markPopulated = .ok marked)
    (hp : Proposal.merging source base? target = .ok (ps, ours, theirs)) :
    Host.alone.populate source base? target op
      = .ok () ((marked.proposeAll ps).addMemberships
          (Proposal.memberships marked.options ours theirs)) := by
  rw [populate_eq, show (Host.alone.read op).ensureMutable = _ from hm, hp,
    show (Host.alone.read op).markPopulated = _ from hmarked]
  exact classify_alone _ _ _ _

end Host

namespace Operation

variable {base source target : Snapshot}

/-- A new operation holds what there is to propose. -/
theorem construct_eq (source : Snapshot) (base? : Option Snapshot) (target : Snapshot)
    (options : MergeOptions) : Operation.construct source base? target options
      = match Proposal.merging source base? target with
        | .error e => .error (.setup e)
        | .ok (ps, ours, theirs) =>
            .ok (((blank source ((base?.map (·.path)).getD "") options).proposeAll
              ps).addMemberships (Proposal.memberships options ours theirs)) := by
  let op : Operation :=
    { sourcePath := source.path, basePath := (base?.map (·.path)).getD "", options }
  have hm : op.ensureMutable = .ok () := rfl
  have hmarked : op.markPopulated
      = .ok (blank source ((base?.map (·.path)).getD "") options) := rfl
  unfold construct
  simp only
  cases hp : Proposal.merging source base? target with
  | error e =>
      rw [show Host.alone.populate source base? target op = .error (.refused (.setup e)) op by
        rw [Host.populate_eq, hp, show (Host.alone.read op).ensureMutable = _ from hm]]
  | ok plan =>
      obtain ⟨ps, ours, theirs⟩ := plan
      rw [Host.populate_alone hm hmarked hp]
      rfl

/-- Merging snapshots whose names are distinct is granted, and proposes
what there is to propose. -/
theorem construct_threeWay (hb : base.names.Nodup) (hs : source.names.Nodup)
    (ht : target.names.Nodup) (options : MergeOptions) :
    ∃ ours theirs, base.changes source = .ok ours
      ∧ base.changes target = .ok theirs
      ∧ Operation.construct source (some base) target options
        = .ok (((blank source base.path options).proposeAll
            (Proposal.threeWay ours theirs target)).addMemberships
              (Proposal.memberships options ours.memberships
                theirs.memberships)) := by
  obtain ⟨ours, hours, -⟩ := Snapshot.changes_eq_ok hb hs
  obtain ⟨theirs, htheirs, -⟩ := Snapshot.changes_eq_ok hb ht
  refine ⟨ours, theirs, hours, htheirs, ?_⟩
  rw [construct_eq, Proposal.merging, hours, htheirs]
  rfl

/-- Without a base, likewise: what is proposed leads from the target to the source, and
no memberships were changed by the other side. -/
theorem construct_twoWay (hs : source.names.Nodup) (ht : target.names.Nodup)
    (options : MergeOptions) :
    ∃ diff, target.changes source = .ok diff
      ∧ Operation.construct source none target options
        = .ok (((blank source "" options).proposeAll
            (Proposal.twoWay diff target)).addMemberships
              (Proposal.memberships options diff.memberships [])) := by
  obtain ⟨diff, hdiff, -⟩ := Snapshot.changes_eq_ok ht hs
  refine ⟨diff, hdiff, ?_⟩
  rw [construct_eq, Proposal.merging, hdiff]
  rfl

end Operation

end SceneMerge
