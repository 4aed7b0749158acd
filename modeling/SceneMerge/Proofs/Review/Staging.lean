/-
What staged nodes list. A node is there only as long as it lists something, and
lists nothing twice (`StagedNodes.Sound`); what it lists is what was staged at
its place and not taken away since (`StagedNodes.lists_stage`,
`StagedNodes.lists_unstage`). So staged nodes are known by what they list.

# The invariant of a review

As long as an operation takes changes its staged nodes list exactly the actions
that are applied and active, each at the node of its place
(`Operation.Mirrored`). Four ways to change the operation write to the staged
nodes, each on its own: a pass that is taken in, switching, deciding, and
ending. The ones in between go by what the first one stages
(`Mirrored.absorb`): they touch one action (`Mirrored.switched`), which is
listed afterwards if it is active and was applied. What is added was not
applied (`Mirrored.append`).
-/
import SceneMerge.Proofs.Session.Landing

namespace SceneMerge

-- ================================================================ the nodes

namespace StagedNodes

variable {s : StagedNodes} {path q : NodePath} {id j : ActionId} {type : ActionType}

/-- The node at the place lists the action. -/
def Lists (s : StagedNodes) (path : NodePath) (id : ActionId) : Prop :=
  ∃ n, s[path]? = some n ∧ id ∈ n.ids

/-- Nodes list something, and nothing twice. -/
def Sound (s : StagedNodes) : Prop :=
  ∀ (path : NodePath) (n : StagedNode), s[path]? = some n → n.ids ≠ [] ∧ n.ids.Nodup

/-- The node that an action is staged at, after it is. -/
def staged (n? : Option StagedNode) (id : ActionId) (type : ActionType) : StagedNode :=
  match n? with
  | none => ⟨type, [id]⟩
  | some n => if id ∈ n.ids then n else { n with ids := n.ids ++ [id] }

/-- The node lists what it listed and the action, whether or not it was there and
whether or not it listed the action already. -/
theorem mem_staged {n? : Option StagedNode} :
    j ∈ (staged n? id type).ids ↔ (∃ n, n? = some n ∧ j ∈ n.ids) ∨ j = id := by
  unfold staged
  cases n? with
  | none => simp
  | some n =>
      simp only [Option.some.injEq, exists_eq_left']
      split
      · next hid =>
          constructor
          · exact .inl
          · rintro (hj | rfl)
            · exact hj
            · exact hid
      · simp

/-- Staging writes to one node, that of the place which stands for what the action
concerns. -/
theorem getElem?_stage : (s.stage path id type)[q]?
    = if q = path.wrapper then some (staged s[q]? id type) else s[q]? := by
  unfold stage
  simp only [Std.ExtTreeMap.getElem?_alter, Std.LawfulEqCmp.compare_eq_iff_eq]
  by_cases hq : path.wrapper = q
  · subst hq
    rw [if_pos rfl, if_pos rfl]
    cases s[path.wrapper]? with
    | none => rfl
    | some n => rfl
  · rw [if_neg hq, if_neg (Ne.symm hq)]

/-- Unstaging looks at every node. One that listed the action alone is gone. -/
theorem getElem?_unstage : (s.unstage id)[q]? = s[q]?.bind fun n =>
    if (n.ids.filter (· ≠ id)).isEmpty then none
    else some { n with ids := n.ids.filter (· ≠ id) } :=
  Std.ExtTreeMap.getElem?_filterMap'

/-- Staging adds one action at one place. -/
theorem lists_stage : (s.stage path id type).Lists q j
    ↔ s.Lists q j ∨ (j = id ∧ q = path.wrapper) := by
  unfold Lists
  rw [getElem?_stage]
  by_cases hq : q = path.wrapper
  · rw [if_pos hq]
    simp only [Option.some.injEq, exists_eq_left', mem_staged, hq, and_true]
  · rw [if_neg hq]
    simp only [hq, and_false, or_false]

/-- Unstaging takes one action away, from everywhere. -/
theorem lists_unstage : (s.unstage id).Lists q j ↔ s.Lists q j ∧ j ≠ id := by
  unfold Lists
  rw [getElem?_unstage]
  cases s[q]? with
  | none => simp
  | some n =>
      simp only [Option.bind_some]
      by_cases hempty : (n.ids.filter (· ≠ id)).isEmpty
      · rw [if_pos hempty]
        rw [List.isEmpty_iff, List.filter_eq_nil_iff] at hempty
        simpa using hempty j
      · rw [if_neg hempty]
        simp

/-- A node that is staged anew lists the one action. One that was there lists the action
behind the others, unless it did before. -/
theorem Sound.stage (h : s.Sound) : (s.stage path id type).Sound := by
  intro q n hn
  rw [getElem?_stage] at hn
  split at hn
  · cases hn
    unfold staged
    cases hs : s[q]? with
    | none => exact ⟨List.cons_ne_nil _ _, List.nodup_singleton _⟩
    | some n =>
        obtain ⟨hne, hnodup⟩ := h q n hs
        simp only
        split
        · exact ⟨hne, hnodup⟩
        · next hid =>
            refine ⟨List.append_ne_nil_of_left_ne_nil hne _, ?_⟩
            exact List.nodup_append.2 ⟨hnodup, List.nodup_singleton _, fun i hi j hj hij =>
              hid (List.mem_singleton.1 hj ▸ hij ▸ hi)⟩
  · exact h q n hn

/-- What lists nothing any more is taken away, and what is left was not there twice. -/
theorem Sound.unstage (h : s.Sound) : (s.unstage id).Sound := by
  intro q n hn
  rw [getElem?_unstage] at hn
  obtain ⟨n', hn', hsome⟩ := Option.bind_eq_some_iff.1 hn
  split at hsome
  · cases hsome
  · next hne =>
      cases hsome
      rw [List.isEmpty_iff] at hne
      exact ⟨hne, (h q n' hn').2.filter _⟩

end StagedNodes

-- ============================================================== the mirror

namespace Operation

open StagedNodes

variable {op op' : Operation} {id j : ActionId} {path q : NodePath}

/-- The node at which what concerns the action is staged. -/
def wrapper? (op : Operation) (id : ActionId) : Option NodePath :=
  (op.action? id).map (·.node.wrapper)

/-- Neither reviews nor passes move an action. -/
theorem Kin.wrapper? (h : op.Kin op') (id : ActionId) :
    op'.wrapper? id = op.wrapper? id := by
  have hcore : ∀ op : Operation,
      op.wrapper? id = ((op.actions.map Action.core)[id]?).map (·.node.wrapper) := by
    intro op
    rw [Operation.wrapper?, List.getElem?_map, Option.map_map]
    rfl
  rw [hcore, hcore, h.cores]

/-- The action is to be listed at this node: it is applied and active, and the
place that it concerns is staged there. -/
def Shown (op : Operation) (path : NodePath) (id : ActionId) : Prop :=
  id ∈ op.applied ∧ op.active? id = some true ∧ op.wrapper? id = some path

/-- Staged nodes list what they are to list. -/
structure Mirrored (op : Operation) : Prop where
  sound : op.staged.Sound
  lists : ∀ path id, op.staged.Lists path id ↔ op.Shown path id
  /-- What was applied stands on its own. -/
  standing : ∀ id ∈ op.applied, id ∈ op.order

/-- What is appended was not applied. -/
theorem Mirrored.append (h : op.Mirrored) (ho : op.Ordered) {new : List Action}
    {ids : List ActionId} (hactions : op'.actions = op.actions ++ new)
    (horder : op'.order = op.order ++ ids) (happlied : op'.applied = op.applied)
    (hstaged : op'.staged = op.staged) : op'.Mirrored := by
  refine ⟨hstaged ▸ h.sound, fun path id => ?_, fun id hid => ?_⟩
  · rw [hstaged, h.lists, Shown, Shown, happlied]
    refine and_congr_right fun hid => ?_
    have hsame : op'.action? id = op.action? id := by
      unfold action?
      rw [hactions, List.getElem?_append_left (ho.bounded id (h.standing id hid))]
    rw [active?, active?, wrapper?, wrapper?, hsame]
  · rw [horder]
    exact List.mem_append_left _ (h.standing id (happlied ▸ hid))

/-- A review of one action, which is then listed if it is active and was
applied. -/
theorem Mirrored.switched (h : op.Mirrored) (hr : op.Revised op') (id : ActionId)
    (active : Bool) (hself : op'.active? id = some active)
    (hother : ∀ j ∈ op.applied, j ≠ id → op'.active? j = op.active? j)
    (hsound : op'.staged.Sound)
    (hlists : ∀ q j, op'.staged.Lists q j ↔ (op.staged.Lists q j ∧ j ≠ id)
      ∨ (j = id ∧ id ∈ op.applied ∧ active = true ∧ op.wrapper? id = some q)) :
    op'.Mirrored := by
  refine ⟨hsound, fun q j => ?_, ?_⟩
  · rw [hlists, h.lists, Shown, Shown, hr.applied, hr.kin.wrapper?]
    by_cases hj : j = id
    · subst hj
      simp [hself]
    · simp only [ne_eq, hj, not_false_eq_true, and_true, false_and, or_false]
      exact and_congr_right fun happlied => by rw [hother j happlied hj]
  · rw [hr.applied, hr.kin.order]
    exact h.standing

/-- What staging or unstaging one action comes to. -/
theorem lists_restage (h : op.Mirrored) (op₁ : Operation)
    (happlied : op₁.applied = op.applied) (hstaged : op₁.staged = op.staged) {a : Action}
    (ha : op.action? id = some a) (active : Bool) (q : NodePath) (j : ActionId) :
    (op₁.restage id a active).staged.Lists q j ↔ (op.staged.Lists q j ∧ j ≠ id)
      ∨ (j = id ∧ id ∈ op.applied ∧ active = true ∧ op.wrapper? id = some q) := by
  have hwrapper : op.wrapper? id = some a.node.wrapper := by rw [wrapper?, ha]; rfl
  -- where the action was listed before, it was listed at its own place
  have hat : op.staged.Lists q id → id ∈ op.applied ∧ q = a.node.wrapper := by
    intro hl
    obtain ⟨hid, -, hq⟩ := (h.lists q id).1 hl
    exact ⟨hid, Option.some.inj (hq.symm.trans hwrapper)⟩
  rw [hwrapper, Option.some.injEq, eq_comm (a := a.node.wrapper)]
  unfold restage
  cases active with
  | true =>
      rw [if_pos rfl, happlied]
      split
      · next hid =>
          show (op₁.staged.stage a.node id a.type).Lists q j ↔ _
          rw [lists_stage, hstaged]
          by_cases hj : j = id
          · subst hj
            simp only [true_and, hid, ne_eq, not_true_eq_false, and_false, false_or]
            exact ⟨fun hor => hor.elim (fun hl => (hat hl).2) id, .inr⟩
          · simp [hj]
      · next hid =>
          rw [hstaged]
          by_cases hj : j = id
          · subst hj
            simp only [hid, ne_eq, not_true_eq_false, and_false, false_and, or_false,
              iff_false]
            exact fun hl => hid (hat hl).1
          · simp [hj]
  | false =>
      rw [if_neg Bool.false_ne_true]
      show (op₁.staged.unstage id).Lists q j ↔ _
      rw [lists_unstage, hstaged]
      simp

/-- Restaging stages, unstages or does neither, and stays sound. -/
theorem sound_restage (op : Operation) (h : op.staged.Sound) (id : ActionId) (a : Action)
    (active : Bool) : (op.restage id a active).staged.Sound := by
  unfold restage
  split
  · split
    · exact h.stage
    · exact h
  · exact h.unstage

/-- Switching concerns one action. It is restaged where that shows, which is where it
was applied. -/
theorem Mirrored.setActive (h : op.Mirrored) {active : Bool}
    (hop : op.setActive id active = .ok (some op')) : op'.Mirrored := by
  have hr := revised_setActive hop
  -- of the switches one is set, if there is an action that has it
  have hswitch : ∀ j, op'.active? j
      = if id = j then (op.action? j).map fun _ => active else op.active? j := by
    intro j
    rw [active?, action?_setActive hop, action?_modifyAction]
    split
    · rw [Option.map_map]
      rfl
    · rfl
  obtain ⟨a, ha, -, -, hop'⟩ := of_setActive_ok hop
  refine h.switched hr id active ?_ (fun j _ hj => ?_) ?_ fun q j => ?_
  · rw [hswitch, if_pos rfl, ha]
    rfl
  · rw [hswitch, if_neg (Ne.symm hj)]
  · rw [hop']
    split
    · exact sound_restage (op.modifyAction id ({ · with active })) h.sound id a active
    · exact h.sound
  · rw [hop']
    split
    · exact lists_restage h (op.modifyAction id ({ · with active })) rfl rfl ha active q j
    · next hid =>
        -- nothing is staged of an action that was not applied
        show op.staged.Lists q j ↔ _
        have hnot : j = id → ¬ op.staged.Lists q j := by
          rintro rfl hl
          exact hid ((h.lists q j).1 hl).1
        by_cases hj : j = id
        · simp [hj, hid, hj ▸ hnot hj]
        · simp [hj]

/-- Deciding concerns the conflict, and what it wraps was not applied. -/
theorem Mirrored.setResolution (h : op.Mirrored) (hl : op.Linked) {r : Resolution}
    (hop : op.setResolution id r = .ok op') : op'.Mirrored := by
  have hr := revised_setResolution hop
  obtain ⟨a, c, ha, hc, rfl⟩ := of_setResolution_ok hop
  have hcontested := hl.contested ha hc
  have hactions : ∀ j, (((op.decided id c r).restage id a r.appliesSource).action? j)
      = (op.decided id c r).action? j := by
    intro j
    obtain ⟨staged, hstaged⟩ := restage_eq (op.decided id c r) id a r.appliesSource
    rw [hstaged]
    rfl
  refine h.switched hr id r.appliesSource ?_ (fun j hj hne => ?_)
    (sound_restage (op.decided id c r) h.sound _ _ _)
    fun q j => lists_restage h (op.decided id c r) rfl rfl ha _ q j
  · rw [active?, hactions, action?_decided_self hcontested ha]
    rfl
  · -- the wrapped source is switched with the conflict, but it is in no order, so it
    -- was not applied
    have hsource : j ≠ c.source := by
      rintro rfl
      obtain ⟨w, hw, ho⟩ := hl.of_wrapped ha hc List.mem_cons_self
      rw [(hl.mem_order hw).1 (h.standing _ hj)] at ho
      cases ho
    rw [active?, hactions, action?_decided_other hne hsource]
    rfl

/-- What a pass applied is staged, action by action. -/
theorem lists_stageAll (op : Operation) (ids : List ActionId) (q : NodePath) (j : ActionId) :
    (op.stageAll ids).Lists q j
      ↔ op.staged.Lists q j ∨ (j ∈ ids ∧ op.wrapper? j = some q) := by
  unfold stageAll
  generalize op.staged = s
  induction ids generalizing s with
  | nil => simp
  | cons id ids ih =>
      rw [List.foldl_cons, ih]
      -- an id of no action is passed over, and has no place either
      cases ha : op.action? id with
      | none =>
          have hnone : op.wrapper? id = none := by rw [wrapper?, ha]; rfl
          simp only [List.mem_cons]
          by_cases hj : j = id
          · subst hj
            simp [hnone]
          · simp [hj]
      | some a =>
          have hsome : op.wrapper? id = some a.node.wrapper := by rw [wrapper?, ha]; rfl
          simp only [lists_stage, List.mem_cons]
          by_cases hj : j = id
          · subst hj
            rw [hsome, Option.some.injEq, eq_comm (a := q)]
            simp only [true_and, true_or]
            tauto
          · simp [hj]

/-- Staging one action after the other stays sound. The induction is on those still to
be staged. -/
theorem sound_stageAll (h : op.staged.Sound) (ids : List ActionId) :
    (op.stageAll ids).Sound := by
  unfold stageAll
  generalize op.staged = s at h
  induction ids generalizing s with
  | nil => exact h
  | cons id ids ih =>
      rw [List.foldl_cons]
      refine ih _ ?_
      split
      · exact h
      · exact h.stage

/-- A pass is taken in that applied what is in the order and active. -/
theorem Mirrored.absorb (h : op.Mirrored) {p : Pass}
    (hp : ∀ id ∈ p.applied, id ∈ op.order ∧ op.active? id = some true) :
    (op.absorb p).Mirrored := by
  have hkin := Kin.absorb op p
  refine ⟨sound_stageAll h.sound _, fun q j => ?_, fun id hid => ?_⟩
  · show (op.stageAll p.applied).Lists q j ↔ (j ∈ op.applied ++ p.applied
      ∧ (op.absorb p).active? j = some true ∧ (op.absorb p).wrapper? j = some q)
    rw [lists_stageAll, h.lists, active?_absorb, hkin.wrapper?, List.mem_append]
    constructor
    · -- what is listed was listed before or was applied by the pass, and is active
      -- either way
      rintro (⟨hj, hactive, hq⟩ | ⟨hj, hq⟩)
      · exact ⟨.inl hj, hactive, hq⟩
      · exact ⟨.inr hj, (hp j hj).2, hq⟩
    · rintro ⟨hj | hj, hactive, hq⟩
      · exact .inl ⟨hj, hactive, hq⟩
      · exact .inr ⟨hj, hq⟩
  · rw [hkin.order]
    rcases List.mem_append.1 hid with hid | hid
    · exact h.standing id hid
    · exact (hp id hid).1

end Operation

end SceneMerge
