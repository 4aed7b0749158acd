/-
How actions hang together. The order only grows at its end, by an action that
was just added (`Operation.Ordered`). An action stands on its own, and then it
is in the order, or it is wrapped by a conflict, and then the conflict stands
on its own and comes later. Who wraps whom is written down on both sides, as
the owner of the one and as source and target of the other, and the two
agree (`Operation.Linked`). It is a matter of links alone (`Action.link`),
and links are written once, when something is added: neither reviews nor
passes touch them (`Linked.kin`).

Whether an action is active is written down three times for a conflict: as
its decision, on the conflict, and on the change of the source that it
wraps. All three agree, and the target's change is never active
(`Operation.Switched`). Only deciding writes to any of them, to all at once
(`switched_decided`); switching is for actions that are neither conflicts
nor wrapped (`switched_setActive`).
-/
import SceneMerge.Proofs.Review.Additions
import SceneMerge.Proofs.Review.Revision

namespace SceneMerge

/-- The actions that a conflict wraps: the source's, and the target's if
there is one. -/
def Conflict.wrapped (c : Conflict) : List ActionId :=
  c.source :: c.target?.toList

/-- What an action has to do with others. -/
structure Link where
  /-- The conflict that wraps it. -/
  owner? : Option ActionId
  /-- What it wraps, if it is a conflict. -/
  wrapped? : Option (List ActionId)

namespace Action

def link (a : Action) : Link := ⟨a.owner?, a.conflict?.map Conflict.wrapped⟩

/-- A link is part of the core of an action, so whatever keeps the core keeps the link.
-/
theorem link_core (a : Action) : a.core.link = a.link := by
  rw [link, link, a.conflict?_core, Option.map_map]
  rfl

/-- What is constructed has nothing to do with others. -/
theorem Constructed.alone {a : Action} (h : a.Constructed) :
    a.owner? = none ∧ a.conflict? = none := by
  cases h <;> exact ⟨rfl, rfl⟩

/-- It is a conflict, or wrapped by one. -/
def Bound (a : Action) : Prop := a.conflict? ≠ none ∨ a.owner? ≠ none

/-- Whether it is active, and the conflict that it stands for. -/
def switch (a : Action) : Bool × Option Conflict := (a.active, a.conflict?)

/-- Filling in an earlier value turns no switch: conflicts do not have any to fill in.
-/
theorem switch_withUnchanged (a : Action) (value? : Option String) :
    switch { a with kind := a.kind.withUnchanged value? } = a.switch := by
  obtain ⟨kind, node, active, owner?⟩ := a
  cases kind <;> rfl

end Action

namespace Operation

variable {op op' : Operation}

-- ================================================================== order

/-- The order increases, and lists positions of the arena. -/
structure Ordered (op : Operation) : Prop where
  increasing : op.order.Pairwise (· < ·)
  bounded : ∀ id ∈ op.order, id < op.actions.length

/-- Of the arena only the length counts. -/
theorem Ordered.congr (h : op.Ordered) (horder : op'.order = op.order)
    (hlength : op'.actions.length = op.actions.length) : op'.Ordered := by
  refine ⟨?_, ?_⟩
  · rw [horder]
    exact h.increasing
  · rw [horder, hlength]
    exact h.bounded

/-- No action is added or lost between operations that are kin. -/
theorem Kin.length_actions (h : op.Kin op') : op'.actions.length = op.actions.length := by
  have hcores := congrArg List.length h.cores
  rwa [List.length_map, List.length_map] at hcores

theorem Ordered.kin (h : op.Ordered) (hk : op.Kin op') : op'.Ordered :=
  h.congr hk.order hk.length_actions

/-- One of the actions that were appended goes to the end. -/
theorem Ordered.append (h : op.Ordered) {id : ActionId}
    (horder : op'.order = op.order ++ [id]) (hid : op.actions.length ≤ id)
    (hlt : id < op'.actions.length) : op'.Ordered := by
  refine ⟨?_, fun j hj => ?_⟩
  · rw [horder, List.pairwise_append]
    refine ⟨h.increasing, List.pairwise_singleton _ _, fun i hi j hj => ?_⟩
    rw [List.mem_singleton.1 hj]
    exact Nat.lt_of_lt_of_le (h.bounded i hi) hid
  · rw [horder, List.mem_append, List.mem_singleton] at hj
    rcases hj with hj | rfl
    · exact Nat.lt_trans (Nat.lt_of_lt_of_le (h.bounded j hj) hid) hlt
    · exact hlt

/-- An action that is added goes to the first free position and to the end of the order.
-/
theorem ordered_addAction (h : op.Ordered) (a : Action) : (op.addAction a).Ordered := by
  refine h.append rfl (Nat.le_refl _) ?_
  show _ < (op.actions ++ [a]).length
  rw [List.length_append]
  exact Nat.lt_succ_self _

/-- A conflict comes after what it wraps, so its position is free as well, and it alone
goes to the end of the order. -/
theorem ordered_addConflict (h : op.Ordered) (type : ConflictType) (source : Action)
    (target? : Option Action) (sourceEntity? targetEntity? : Option Entity) :
    (op.addConflict type source target? sourceEntity? targetEntity?).Ordered := by
  refine h.append rfl (length_le_nextConflict op target?) ?_
  exact (List.getElem?_eq_some_iff.1
    (action?_addConflict op type source target? sourceEntity? targetEntity?)).1

-- ================================================================== links

def links (op : Operation) : List Link := op.actions.map Action.link

/-- Both sides of each link agree, and the order has what no conflict
wraps. -/
structure Linked (op : Operation) : Prop where
  top : ∀ id, id ∈ op.order ↔ ∃ k, op.links[id]? = some k ∧ k.owner? = none
  /-- What is wrapped is no conflict, and comes before the one that wraps
  it. -/
  owned : ∀ (id cid : ActionId) (k : Link), op.links[id]? = some k →
    k.owner? = some cid → k.wrapped? = none ∧ id < cid
      ∧ ∃ k' ids, op.links[cid]? = some k' ∧ k'.wrapped? = some ids ∧ id ∈ ids
  wraps : ∀ (cid : ActionId) (k : Link) (ids : List ActionId),
    op.links[cid]? = some k → k.wrapped? = some ids → ids.Nodup
      ∧ ∀ id ∈ ids, ∃ k', op.links[id]? = some k' ∧ k'.owner? = some cid

/-- Links are found where their actions are. -/
theorem links_eq (id : ActionId) : op.links[id]? = (op.action? id).map Action.link :=
  List.getElem?_map ..

/-- What the cores are made of includes the links, so operations that are kin agree in
them. -/
theorem Kin.links (h : op.Kin op') : op'.links = op.links := by
  have hlinks : ∀ op : Operation,
      op.links = (op.actions.map Action.core).map Action.link := by
    intro op
    rw [List.map_map]
    exact List.map_congr_left fun a _ => a.link_core.symm
  rw [hlinks, hlinks, h.cores]

/-- Links and order are all that counts. -/
theorem Linked.congr (h : op.Linked) (hlinks : op'.links = op.links)
    (horder : op'.order = op.order) : op'.Linked := by
  refine ⟨?_, ?_, ?_⟩
  · rw [horder, hlinks]
    exact h.top
  · rw [hlinks]
    exact h.owned
  · rw [hlinks]
    exact h.wraps

/-- Hence neither reviews nor passes touch who wraps whom. -/
theorem Linked.kin (h : op.Linked) (hk : op.Kin op') : op'.Linked :=
  h.congr hk.links hk.order

/-- Links are appended: some that one action wraps, and then that action,
which stands on its own. -/
structure Enlarges (op op' : Operation) (k : Nat) (wrapped? : Option (List ActionId)) :
    Prop where
  links : op'.links = op.links
    ++ (List.replicate k ⟨some (op.links.length + k), none⟩ ++ [⟨none, wrapped?⟩])
  order : op'.order = op.order ++ [op.links.length + k]
  wrapped : k = 0 ∧ wrapped? = none
    ∨ wrapped? = some (List.range' op.links.length k)

namespace Enlarges

variable {k : Nat} {wrapped? : Option (List ActionId)} (he : op.Enlarges op' k wrapped?)

include he

theorem lookup (i : Nat) : op'.links[i]? =
    if i < op.links.length then op.links[i]?
    else if i < op.links.length + k then some ⟨some (op.links.length + k), none⟩
    else if i = op.links.length + k then some ⟨none, wrapped?⟩ else none := by
  rw [he.links, List.getElem?_append]
  split
  · rfl
  · rw [List.getElem?_append, List.length_replicate, List.getElem?_replicate]
    split
    · next hi => rw [if_pos (by omega)]
    · next hi =>
        rw [if_neg (by omega)]
        split
        · next heq => rw [show i - op.links.length - k = 0 by omega]; rfl
        · next hne => exact List.getElem?_eq_none (by simp; omega)

/-- What was there is linked as it was. -/
theorem kept {i : Nat} {l : Link} (hl : op.links[i]? = some l) :
    op'.links[i]? = some l := by
  rw [he.lookup, if_pos (List.getElem?_eq_some_iff.1 hl).1]
  exact hl

/-- The action that comes last stands on its own. -/
theorem last : op'.links[op.links.length + k]? = some ⟨none, wrapped?⟩ := by
  rw [he.lookup, if_neg (by omega), if_neg (by omega), if_pos rfl]

/-- A link that was appended is wrapped by what comes last, or comes last. -/
theorem new {i : Nat} {l : Link} (hl : op'.links[i]? = some l) :
    op.links[i]? = some l
      ∨ i ∈ List.range' op.links.length k ∧ l = ⟨some (op.links.length + k), none⟩
      ∨ i = op.links.length + k ∧ l = ⟨none, wrapped?⟩ := by
  rw [he.lookup] at hl
  split at hl
  · exact .inl hl
  · next hge =>
      split at hl
      · next hlt =>
          exact .inr (.inl ⟨List.mem_range'_1.2 ⟨Nat.le_of_not_lt hge, hlt⟩,
            (Option.some.inj hl).symm⟩)
      · split at hl
        · next heq => exact .inr (.inr ⟨heq, (Option.some.inj hl).symm⟩)
        · cases hl

/-- What comes in between is wrapped by the one that comes last, and wraps nothing. -/
theorem middle {i : Nat} (hi : i ∈ List.range' op.links.length k) :
    op'.links[i]? = some ⟨some (op.links.length + k), none⟩ := by
  obtain ⟨hge, hlt⟩ := List.mem_range'_1.1 hi
  rw [he.lookup, if_neg (by omega), if_pos hlt]

/-- If that one wraps anything, then it wraps all that was appended before it. -/
theorem wrapped_eq {ids : List ActionId} (hw : wrapped? = some ids) :
    ids = List.range' op.links.length k := by
  subst hw
  rcases he.wrapped with ⟨-, hnone⟩ | hsome
  · cases hnone
  · exact Option.some.inj hsome

end Enlarges

/-- Both sides of each link still agree, whichever of the three kinds the link is of:
old, wrapped, or last. This is the one place where the three clauses of `Linked` are
proved, for additions of every kind. -/
theorem Linked.enlarged {k : Nat} {wrapped? : Option (List ActionId)} (h : op.Linked)
    (he : op.Enlarges op' k wrapped?) : op'.Linked := by
  refine ⟨fun id => ?_, fun id cid l hl ho => ?_, fun cid l ids hl hw => ?_⟩
  · -- who is in the order
    rw [he.order, List.mem_append, List.mem_singleton, h.top]
    constructor
    · rintro (⟨l, hl, ho⟩ | rfl)
      · exact ⟨l, he.kept hl, ho⟩
      · exact ⟨_, he.last, rfl⟩
    · rintro ⟨l, hl, ho⟩
      obtain hl | ⟨-, rfl⟩ | ⟨rfl, -⟩ := he.new hl
      · exact .inl ⟨l, hl, ho⟩
      · cases ho
      · exact .inr rfl
  · -- who has an owner; only what was appended in between is new in this respect
    obtain hl | ⟨hid, rfl⟩ | ⟨-, rfl⟩ := he.new hl
    · obtain ⟨hnone, hlt, l', ids, hl', hids⟩ := h.owned id cid l hl ho
      exact ⟨hnone, hlt, l', ids, he.kept hl', hids⟩
    · cases ho
      have hsome := he.wrapped.resolve_left fun hnone => by
        rw [hnone.1] at hid
        cases hid
      exact ⟨rfl, (List.mem_range'_1.1 hid).2, _, _, he.last, hsome, hid⟩
    · cases ho
  · -- who wraps others; only what was appended last is
    obtain hl | ⟨-, rfl⟩ | ⟨rfl, rfl⟩ := he.new hl
    · obtain ⟨hnodup, hids⟩ := h.wraps cid l ids hl hw
      refine ⟨hnodup, fun id hid => ?_⟩
      obtain ⟨l', hl', ho⟩ := hids id hid
      exact ⟨l', he.kept hl', ho⟩
    · cases hw
    · rw [he.wrapped_eq hw]
      exact ⟨List.nodup_range', fun id hid => ⟨_, he.middle hid, rfl⟩⟩

/-- An action that is added wraps nothing, and nothing wraps it. -/
theorem linked_addAction (h : op.Linked) {a : Action} (ha : a.Constructed) :
    (op.addAction a).Linked := by
  have hlength : op.links.length = op.actions.length := List.length_map _
  obtain ⟨howner, hconflict⟩ := ha.alone
  have hlink : a.link = ⟨none, none⟩ := by
    rw [Action.link, howner, hconflict]
    rfl
  refine h.enlarged (k := 0) ⟨?_, ?_, .inl ⟨rfl, rfl⟩⟩
  · show (op.actions ++ [a]).map Action.link = _
    rw [List.map_append, List.map_singleton, hlink]
    rfl
  · rw [hlength]
    rfl

/-- A conflict that is added wraps one action or two, according to whether the target
has a change of its own to show, and these have nothing to do with anybody else. -/
theorem linked_addConflict (h : op.Linked) {type : ConflictType}
    {source : Action} {target? : Option Action}
    {sourceEntity? targetEntity? : Option Entity}
    (hsource : source.Constructed) (htarget : ∀ t ∈ target?, t.Constructed) :
    (op.addConflict type source target? sourceEntity? targetEntity?).Linked := by
  have hlength : op.links.length = op.actions.length := List.length_map _
  have hwrap : ∀ {a : Action}, a.Constructed → ∀ cid,
      Action.link { a with active := false, owner? := some cid } = ⟨some cid, none⟩ := by
    intro a ha cid
    show Link.mk (some cid) (a.conflict?.map Conflict.wrapped) = _
    rw [ha.alone.2]
    rfl
  have hsource' := hwrap hsource
  -- the links are computed from what the conflict appends to the arena
  cases target? with
  | none =>
      refine h.enlarged (k := 1) ⟨?_, ?_, .inr rfl⟩
      · show ((op.actions ++ [_]) ++ [_]).map Action.link = _
        rw [List.map_append, List.map_append, List.map_singleton,
          List.map_singleton, hsource', List.append_assoc, hlength]
        rfl
      · rw [hlength]
        rfl
  | some target =>
      have htarget' := hwrap (htarget target rfl)
      refine h.enlarged (k := 2) ⟨?_, ?_, .inr rfl⟩
      · show ((op.actions ++ [_, _]) ++ [_]).map Action.link = _
        rw [List.map_append, List.map_append, List.map_cons, List.map_singleton,
          List.map_singleton, hsource', htarget', List.append_assoc, hlength]
        rfl
      · rw [hlength]
        rfl

-- =============================================================== switches

/-- The conflict that `a` stands for is active if it is decided for the
source, and so is the source's change that it wraps; the target's never
is. -/
structure Follows (op : Operation) (a : Action) (c : Conflict) : Prop where
  self : a.active = c.resolution.appliesSource
  source : ∀ w, op.action? c.source = some w → w.active = c.resolution.appliesSource
  target : ∀ t ∈ c.target?, ∀ w, op.action? t = some w → w.active = false

/-- Switches follow the decisions. -/
def Switched (op : Operation) : Prop :=
  ∀ cid a c, op.action? cid = some a → Action.conflict? a = some c → op.Follows a c

variable {id cid : ActionId} {a : Action} {c : Conflict}

/-- The link of an action that is there. -/
theorem links_of_action? (ha : op.action? id = some a) : op.links[id]? = some a.link := by
  rw [links_eq, ha]
  rfl

/-- What a conflict wraps is no conflict, and comes before the conflict. -/
theorem Linked.of_owner (h : op.Linked) (ha : op.action? id = some a)
    (ho : a.owner? = some cid) :
    a.conflict? = none ∧ id < cid
      ∧ ∃ b c, op.action? cid = some b ∧ b.conflict? = some c ∧ id ∈ c.wrapped := by
  obtain ⟨hnone, hlt, k, ids, hk, hids, hid⟩ :=
    h.owned id cid a.link (links_of_action? ha) ho
  rw [links_eq] at hk
  obtain ⟨b, hb, rfl⟩ := Option.map_eq_some_iff.1 hk
  obtain ⟨c, hc, rfl⟩ := Option.map_eq_some_iff.1 hids
  exact ⟨Option.map_eq_none_iff.1 hnone, hlt, b, c, hb, hc, hid⟩

/-- What a conflict wraps is its own. -/
theorem Linked.of_wrapped (h : op.Linked) (ha : op.action? cid = some a)
    (hc : a.conflict? = some c) (hid : id ∈ c.wrapped) :
    ∃ w, op.action? id = some w ∧ w.owner? = some cid := by
  have hwrapped : a.link.wrapped? = some c.wrapped := by rw [Action.link, hc]; rfl
  obtain ⟨-, hall⟩ := h.wraps cid a.link c.wrapped (links_of_action? ha) hwrapped
  obtain ⟨k, hk, ho⟩ := hall id hid
  rw [links_eq] at hk
  obtain ⟨w, hw, rfl⟩ := Option.map_eq_some_iff.1 hk
  exact ⟨w, hw, ho⟩

/-- No conflict is wrapped. -/
theorem Linked.unowned (h : op.Linked) (ha : op.action? cid = some a)
    (hc : a.conflict? = some c) : a.owner? = none := by
  cases ho : a.owner? with
  | none => rfl
  | some cid' =>
      obtain ⟨hnone, -⟩ := h.of_owner ha ho
      rw [hc] at hnone
      cases hnone

/-- So a conflict can always be decided: it stands on its own, and its source is wrapped
by it. -/
theorem Linked.contested (h : op.Linked) (ha : op.action? cid = some a)
    (hc : a.conflict? = some c) : op.Contested cid c :=
  ⟨⟨a, ha, hc, h.unowned ha hc⟩, h.of_wrapped ha hc List.mem_cons_self⟩

/-- What a conflict has from the target it wraps. -/
theorem mem_wrapped_of_target {t : ActionId} (ht : t ∈ c.target?) : t ∈ c.wrapped :=
  List.mem_cons_of_mem _ (Option.mem_toList.2 ht)

/-- The change of the target is another one than that of the source. -/
theorem Linked.target_ne (h : op.Linked) (ha : op.action? cid = some a)
    (hc : a.conflict? = some c) {t : ActionId} (ht : t ∈ c.target?) :
    t ≠ c.source := by
  have hwrapped : a.link.wrapped? = some c.wrapped := by rw [Action.link, hc]; rfl
  obtain ⟨hnodup, -⟩ := h.wraps cid a.link c.wrapped (links_of_action? ha) hwrapped
  rw [Conflict.wrapped, show c.target? = some t from ht] at hnodup
  rintro rfl
  exact (List.nodup_cons.1 hnodup).1 (List.mem_singleton_self _)

/-- Switches, and what actions are conflicts about, are all that counts. -/
theorem Switched.congr (h : op.Switched)
    (hsame : op'.actions.map Action.switch = op.actions.map Action.switch) :
    op'.Switched := by
  -- every action of the one is one of the other, switched alike and a conflict about
  -- the same things
  have hback : ∀ (id : ActionId) w', op'.action? id = some w' →
      ∃ w, op.action? id = some w ∧ w.active = w'.active
        ∧ w.conflict? = w'.conflict? := by
    intro id w' hw'
    have hat := congrArg (·[id]?) hsame
    simp only [List.getElem?_map] at hat
    rw [show op'.actions[id]? = some w' from hw', Option.map_some] at hat
    obtain ⟨w, hw, hswitch⟩ := Option.map_eq_some_iff.1 hat.symm
    exact ⟨w, hw, congrArg Prod.fst hswitch, congrArg Prod.snd hswitch⟩
  intro cid a' c ha' hc
  obtain ⟨a, ha, hactive, hconflict⟩ := hback cid a' ha'
  have hf := h cid a c ha (hconflict.trans hc)
  refine ⟨hactive ▸ hf.self, fun w' hw' => ?_, fun t ht w' hw' => ?_⟩
  · obtain ⟨w, hw, hactive, -⟩ := hback _ w' hw'
    exact hactive ▸ hf.source w hw
  · obtain ⟨w, hw, hactive, -⟩ := hback _ w' hw'
    exact hactive ▸ hf.target t ht w hw

/-- Taking in a pass turns no switch. -/
theorem switches_absorb (op : Operation) (p : Pass) :
    (op.absorb p).actions.map Action.switch = op.actions.map Action.switch := by
  unfold absorb
  simp only
  generalize op.actions = actions
  induction p.unchanged generalizing actions with
  | nil => rfl
  | cons item rest ih =>
      rw [List.foldl_cons, ih]
      exact map_modify_of_eq (fun a => a.switch_withUnchanged item.2) _ _

/-- Hence a pass does not make switches disagree with decisions. -/
theorem switched_absorb (h : op.Switched) (p : Pass) : (op.absorb p).Switched :=
  h.congr (op.switches_absorb p)

/-- What is appended does not concern the conflicts that are there. -/
theorem Switched.append (h : op.Switched) (hl : op.Linked) (new : List Action)
    (hops : op'.actions = op.actions ++ new)
    (hnew : ∀ a ∈ new, ∀ c, a.conflict? = some c → op'.Follows a c) :
    op'.Switched := by
  have hold : ∀ {id w}, op.action? id = some w → op'.action? id = some w := by
    intro id w hw
    have hlt := (List.getElem?_eq_some_iff.1 hw).1
    unfold action?
    rw [hops, List.getElem?_append_left hlt]
    exact hw
  intro cid a c ha hc
  unfold action? at ha
  rw [hops, List.getElem?_append] at ha
  -- a conflict that was there wraps what was there, and one that was appended is asked
  -- for
  split at ha
  · have hf := h cid a c ha hc
    refine ⟨hf.self, fun w hw => ?_, fun t ht w hw => ?_⟩
    · obtain ⟨w', hw', -⟩ := hl.of_wrapped ha hc
        (show c.source ∈ c.wrapped from List.mem_cons_self)
      cases (hold hw').symm.trans hw
      exact hf.source w hw'
    · obtain ⟨w', hw', -⟩ := hl.of_wrapped ha hc (mem_wrapped_of_target ht)
      cases (hold hw').symm.trans hw
      exact hf.target t ht w hw'
  · exact hnew a (List.mem_of_getElem? ha) c hc

/-- An action that is added is no conflict, so it has nothing to follow. -/
theorem switched_addAction (h : op.Switched) (hl : op.Linked)
    (ha : a.Constructed) : (op.addAction a).Switched := by
  refine h.append hl [a] rfl fun b hb c hc => ?_
  rw [List.mem_singleton.1 hb, ha.alone.2] at hc
  cases hc

/-- Nothing of a conflict that is added is active. -/
theorem switched_addConflict (h : op.Switched) (hl : op.Linked)
    {type : ConflictType} {source : Action} {target? : Option Action}
    {sourceEntity? targetEntity? : Option Entity}
    (hsource : source.Constructed) (htarget : ∀ t ∈ target?, t.Constructed) :
    (op.addConflict type source target? sourceEntity? targetEntity?).Switched := by
  have hops := actions_addConflict op type source target? sourceEntity? targetEntity?
  -- nothing that is appended is active
  have hoff : ∀ k w, (op.addConflict type source target? sourceEntity?
      targetEntity?).action? (op.actions.length + k) = some w → w.active = false := by
    intro k w hw
    rw [action?_add hops] at hw
    have hmem := List.mem_of_getElem? hw
    simp only [List.mem_append, List.mem_cons, List.mem_map, List.not_mem_nil,
      or_false] at hmem
    rcases hmem with (rfl | ⟨t, -, rfl⟩) | rfl <;> rfl
  refine h.append hl _ hops fun b hb c hc => ?_
  simp only [List.mem_append, List.mem_cons, List.mem_map, List.not_mem_nil,
    or_false] at hb
  rcases hb with (rfl | ⟨t, ht, rfl⟩) | rfl
  · cases (show source.conflict? = some c from hc).symm.trans hsource.alone.2
  · have htc := (htarget t (Option.mem_toList.1 ht)).alone.2
    cases (show t.conflict? = some c from hc).symm.trans htc
  · cases hc
    refine ⟨rfl, fun w hw => hoff 0 w hw, fun t ht w hw => ?_⟩
    obtain ⟨-, -, rfl⟩ := Option.map_eq_some_iff.1 ht
    exact hoff 1 w hw

/-- Switching leaves conflicts and what they wrap alone. -/
theorem bound_setActive {active : Bool} (hop : op.setActive id active = .ok (some op'))
    {j : ActionId} {w : Action} (hw : w.Bound) :
    op'.action? j = some w ↔ op.action? j = some w := by
  obtain ⟨a, ha, hnone, howner, -⟩ := of_setActive_ok hop
  have hfree : ∀ active, ¬ Action.Bound { a with active } := by
    rintro active (hc | ho)
    · exact hc hnone
    · exact ho howner
  rw [action?_setActive hop, action?_modifyAction]
  split
  · next hj =>
      subst hj
      rw [ha]
      constructor
      · intro h
        cases h
        exact absurd hw (hfree active)
      · intro h
        cases h
        exact absurd hw (hfree w.active)
  · exact Iff.rfl

/-- What is switched by hand is neither a conflict nor wrapped, so every conflict finds
all that it is about as it was. -/
theorem switched_setActive {active : Bool} (h : op.Switched) (hl : op.Linked)
    (hop : op.setActive id active = .ok (some op')) : op'.Switched := by
  intro cid a c ha hc
  have hsome : a.conflict? ≠ none := by rw [hc]; exact Option.some_ne_none c
  have ha' := (bound_setActive hop (.inl hsome)).1 ha
  have hf := h cid a c ha' hc
  have hback : ∀ j ∈ c.wrapped, ∀ w, op'.action? j = some w → op.action? j = some w := by
    intro j hj w hw
    obtain ⟨w', hw', ho⟩ := hl.of_wrapped ha' hc hj
    have hsome : w'.owner? ≠ none := by rw [ho]; exact Option.some_ne_none cid
    cases ((bound_setActive hop (.inr hsome)).2 hw').symm.trans hw
    exact hw'
  exact ⟨hf.self, fun w hw => hf.source w (hback _ List.mem_cons_self w hw),
    fun t ht w hw => hf.target t ht w (hback t (mem_wrapped_of_target ht) w hw)⟩

/-- What one conflict wraps is neither another conflict nor wrapped by it. -/
theorem Linked.apart (h : op.Linked) (ha : op.action? cid = some a)
    (hc : a.conflict? = some c) {b : Action} {d : Conflict}
    (hb : op.action? id = some b) (hd : b.conflict? = some d) (hne : cid ≠ id)
    {j : ActionId} (hj : j ∈ c.wrapped) : j ≠ id ∧ j ∉ d.wrapped := by
  obtain ⟨w, hw, ho⟩ := h.of_wrapped ha hc hj
  refine ⟨?_, fun hjd => ?_⟩
  · rintro rfl
    cases hw.symm.trans hb
    rw [h.unowned hb hd] at ho
    cases ho
  · obtain ⟨w', hw', ho'⟩ := h.of_wrapped hb hd hjd
    cases hw.symm.trans hw'
    exact hne (Option.some.inj (ho.symm.trans ho'))

/-- Deciding a conflict switches it and the change of its source, and those
of no other conflict. -/
theorem switched_decided (h : op.Switched) (hl : op.Linked)
    (ha : op.action? id = some a) (hc : a.conflict? = some c) (r : Resolution) :
    (op.decided id c r).Switched := by
  have hcontested := hl.contested ha hc
  intro cid a' c' ha' hc'
  -- the conflict that is decided, and all others
  by_cases hcid : cid = id
  · subst hcid
    rw [action?_decided_self hcontested ha] at ha'
    cases ha'
    have hc'' : c' = { c with resolution := r } := by
      obtain ⟨kind, node, active, owner?⟩ := a
      cases kind <;> cases hc
      exact (Option.some.inj hc').symm
    rw [hc'']
    refine ⟨rfl, fun w hw => ?_, fun t ht w hw => ?_⟩
    · obtain ⟨w', hw', -⟩ := hcontested.wrapped
      rw [action?_decided_source hcontested hw'] at hw
      cases hw
      rfl
    · obtain ⟨w', hw', ho⟩ := hl.of_wrapped ha hc (mem_wrapped_of_target ht)
      have hself : t ≠ cid := by
        rintro rfl
        cases hw'.symm.trans ha
        rw [hl.unowned ha hc] at ho
        cases ho
      rw [action?_decided_other hself (hl.target_ne ha hc ht)] at hw
      exact (h cid a c ha hc).target t ht w hw
  · -- another conflict is not what this one wraps, since no conflict is wrapped, and
    -- the two share nothing that they wrap
    have hsource : cid ≠ c.source := by
      rintro rfl
      obtain ⟨w, hw, ho⟩ := hcontested.wrapped
      rw [action?_decided_source hcontested hw] at ha'
      cases ha'
      cases (hl.of_owner hw ho).1.symm.trans hc'
    rw [action?_decided_other hcid hsource] at ha'
    have hf := h cid a' c' ha' hc'
    have hother : ∀ j ∈ c'.wrapped, (op.decided id c r).action? j = op.action? j := by
      intro j hj
      obtain ⟨hself, hwrapped⟩ := hl.apart ha' hc' ha hc hcid hj
      exact action?_decided_other hself
        fun hs => hwrapped (hs ▸ List.mem_cons_self)
    refine ⟨hf.self, fun w hw => hf.source w ?_, fun t ht w hw => hf.target t ht w ?_⟩
    · rw [← hother c'.source List.mem_cons_self]
      exact hw
    · rw [← hother t (mem_wrapped_of_target ht)]
      exact hw

/-- Deciding is the same with the staged nodes brought up to date, which say nothing
about switches. -/
theorem switched_setResolution {r : Resolution} (h : op.Switched) (hl : op.Linked)
    (hop : op.setResolution id r = .ok op') : op'.Switched := by
  obtain ⟨a, c, ha, hc, rfl⟩ := of_setResolution_ok hop
  obtain ⟨staged, hstaged⟩ := restage_eq (op.decided id c r) id a r.appliesSource
  rw [hstaged]
  exact (switched_decided h hl ha hc r).congr rfl

-- ============================================================== coherence

/-- The order lists what stands on its own, links agree, and switches follow
the decisions. -/
structure Coherent (op : Operation) : Prop where
  ordered : op.Ordered
  linked : op.Linked
  switched : op.Switched

/-- Actions and their order are all that counts. -/
theorem Coherent.congr (h : op.Coherent) (hactions : op'.actions = op.actions)
    (horder : op'.order = op.order) : op'.Coherent :=
  ⟨h.ordered.congr horder (by rw [hactions]),
    h.linked.congr (by rw [links, links, hactions]) horder,
    h.switched.congr (by rw [hactions])⟩

/-- A review or a pass has to do with switches only. -/
theorem Coherent.kin (h : op.Coherent) (hk : op.Kin op') (hs : op'.Switched) :
    op'.Coherent :=
  ⟨h.ordered.kin hk, h.linked.kin hk, hs⟩

/-- An operation without actions is coherent, for want of anything that could disagree.
-/
theorem Coherent.blank (hactions : op.actions = []) (horder : op.order = []) :
    op.Coherent := by
  have hnone : ∀ id : ActionId, op.links[id]? = none := by
    intro id
    rw [links, hactions]
    rfl
  refine ⟨⟨?_, fun id hid => ?_⟩, ⟨fun id => ?_, fun id cid k hk => ?_,
    fun cid k ids hk => ?_⟩, fun cid a c ha => ?_⟩
  · rw [horder]
    exact .nil
  · rw [horder] at hid
    cases hid
  · rw [horder, hnone]
    simp
  · rw [hnone] at hk
    cases hk
  · rw [hnone] at hk
    cases hk
  · unfold action? at ha
    rw [hactions] at ha
    cases ha

/-- The conflict at `cid` wraps the action at `id`. -/
def WrappedBy (op : Operation) (id cid : ActionId) : Prop :=
  ∃ c, op.conflict? cid = some c ∧ id ∈ c.wrapped

/-- Whether there is such an action, and it is active. -/
def active? (op : Operation) (id : ActionId) : Option Bool :=
  (op.action? id).map (·.active)

/-- What stands on its own is in the order, and nothing else is. -/
theorem Linked.mem_order (h : op.Linked) (ha : op.action? id = some a) :
    id ∈ op.order ↔ a.owner? = none := by
  rw [h.top id, links_of_action? ha]
  constructor
  · rintro ⟨k, hk, ho⟩
    cases hk
    exact ho
  · exact fun ho => ⟨a.link, rfl, ho⟩

/-- An action is wrapped by its owner, and by no other conflict. -/
theorem Linked.wrappedBy_iff (h : op.Linked) (ha : op.action? id = some a) :
    op.WrappedBy id cid ↔ a.owner? = some cid := by
  constructor
  · rintro ⟨c, hc, hid⟩
    obtain ⟨b, hb, hbc⟩ := Option.bind_eq_some_iff.1 hc
    obtain ⟨w, hw, ho⟩ := h.of_wrapped hb hbc hid
    cases ha.symm.trans hw
    exact ho
  · intro ho
    obtain ⟨-, -, b, c, hb, hbc, hid⟩ := h.of_owner ha ho
    exact ⟨c, Option.bind_eq_some_iff.2 ⟨b, hb, hbc⟩, hid⟩

/-- A conflict stands on its own, after all that it wraps. -/
theorem Linked.of_wrappedBy (h : op.Linked) (hw : op.WrappedBy id cid) :
    cid ∈ op.order ∧ id < cid := by
  obtain ⟨c, hc, hid⟩ := hw
  obtain ⟨b, hb, hbc⟩ := Option.bind_eq_some_iff.1 hc
  obtain ⟨w, hw, ho⟩ := h.of_wrapped hb hbc hid
  exact ⟨(h.mem_order hb).2 (h.unowned hb hbc), (h.of_owner hw ho).2.1⟩

/-- An action stands on its own, or one conflict of the order wraps it. -/
theorem Linked.stands_or_wrapped (h : op.Linked) (ha : op.action? id = some a) :
    (id ∈ op.order ∧ a.owner? = none ∧ ∀ cid, ¬ op.WrappedBy id cid)
      ∨ (id ∉ op.order ∧ ∃ cid ∈ op.order, id < cid ∧ a.owner? = some cid
          ∧ ∀ cid', op.WrappedBy id cid' ↔ cid' = cid) := by
  cases ho : a.owner? with
  | none =>
      refine .inl ⟨(h.mem_order ha).2 ho, rfl, fun cid hw => ?_⟩
      rw [h.wrappedBy_iff ha, ho] at hw
      cases hw
  | some cid =>
      have hw := (h.wrappedBy_iff ha).2 ho
      obtain ⟨hcid, hlt⟩ := h.of_wrappedBy hw
      refine .inr ⟨fun hid => ?_, cid, hcid, hlt, rfl, fun cid' => ?_⟩
      · rw [h.mem_order ha, ho] at hid
        cases hid
      · rw [h.wrappedBy_iff ha, ho, Option.some.injEq]
        exact eq_comm

/-- The three switches of a conflict. -/
theorem Coherent.active? (h : op.Coherent) (hc : op.conflict? cid = some c) :
    op.active? cid = some c.resolution.appliesSource
      ∧ op.active? c.source = some c.resolution.appliesSource
      ∧ ∀ t ∈ c.target?, op.active? t = some false := by
  obtain ⟨a, ha, hac⟩ := Option.bind_eq_some_iff.1 hc
  have hf := h.switched cid a c ha hac
  have hall : ∀ id ∈ c.wrapped, ∃ w, op.action? id = some w := fun id hid =>
    (h.linked.of_wrapped ha hac hid).imp fun _ hw => hw.1
  refine ⟨?_, ?_, fun t ht => ?_⟩
  · rw [Operation.active?, ha, Option.map_some, hf.self]
  · obtain ⟨w, hw⟩ := hall c.source List.mem_cons_self
    rw [Operation.active?, hw, Option.map_some, hf.source w hw]
  · obtain ⟨w, hw⟩ := hall t (mem_wrapped_of_target ht)
    rw [Operation.active?, hw, Option.map_some, hf.target t ht w hw]

end Operation

end SceneMerge
