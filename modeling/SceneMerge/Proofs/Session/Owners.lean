/-
Parts wait for their entities. An action on a key/value or a child is run
only where its entity is in the scene when its turn comes, whatever was
inserted and removed before it in the pass; if it is not there, the pass is
refused with the name of that very action, and leaves everything as it was
(`Attended`). So what an operation adds along with an entity is applied
with it or not at all (`Assembled`): `parts_attended`.
-/
import SceneMerge.Proofs.Session.Course

namespace SceneMerge

open LiveScene

-- =========================================================== specification

/-- In applying the operation it is the turn of the action: everything that is
pending before it was run, and the live scene has come to `l'`. -/
def Operation.TurnOf (op : Operation) (l : LiveScene) (id : ActionId) (a : Action)
    (l' : LiveScene) : Prop :=
  Reaches op op.pending (l.begun s!"Merge {op.sourcePath}") id a l'

/-- Nothing is done to a part of an entity that is not there. -/
structure Attended (op : Operation) (l : LiveScene) : Prop where
  /-- An action on a part is run only where its entity is. -/
  run : ∀ {id a l₁ done l₂}, op.TurnOf l id a l₁ → a.type.targetsEntityPart = true →
    Performed.ofAction op id a l₁ = .ok done l₂ → l₁.scene.contains a.entity = true
  /-- A pass that is granted ran all of them so. -/
  granted : ∀ {report p}, (Host.alone.apply :
      EStateM Halt (Operation × LiveScene) ApplyReport) (op, l) = .ok report p →
    ∀ x ∈ op.pending, x.2.type.targetsEntityPart = true →
      ∃ l₁, op.TurnOf l x.1 x.2 l₁ ∧ l₁.scene.contains x.2.entity = true
  /-- A pass is refused for it exactly if it comes to an action on a part whose
  entity is not there, and it leaves everything as it was. -/
  refused : ∀ {id type n p}, (Host.alone.apply :
      EStateM Halt (Operation × LiveScene) ApplyReport) (op, l)
        = .error (.refused (.orderingViolation id type n)) p
    ↔ p = (op, l) ∧ ∃ a l₁, op.TurnOf l id a l₁ ∧ a.type.targetsEntityPart = true
      ∧ l₁.scene.contains a.entity = false ∧ a.type = type ∧ a.entity = n

/-- A part that is added to an entity. -/
inductive EntityPart where
  | keyValue (key value : String) (old? : Option String)
  | child (key : ChildKey) (node : ChildNode)

namespace EntityPart

def action (n : EntityName) : EntityPart → Action
  | keyValue key value old? => .addKeyValue n key value old?
  | child key node => .addChild n key node

/-- The value that it gives to a key. -/
def value? (key : String) : EntityPart → Option String
  | keyValue key' value _ => if key' = key then some value else none
  | child .. => none

def node? : EntityPart → Option ChildNode
  | keyValue .. => none
  | child _ node => some node

end EntityPart

/-- `e'` is `e` with the parts, added one after the other, and nothing else. -/
structure Entity.With (e : Entity) (parts : List EntityPart) (e' : Entity) : Prop where
  name : e'.name = e.name
  children : e'.children = e.children ++ parts.filterMap EntityPart.node?
  values : ∀ key, e'.value? key
    = (parts.filterMap (EntityPart.value? key)).getLast?.or (e.value? key)

namespace Operation

/-- The action is switched on. -/
def isOn (op : Operation) (id : ActionId) : Bool := (op.action? id).any (·.active)

/-- Those of the parts that are switched on, at the positions from 1 on. -/
def partsOn (op : Operation) (parts : List EntityPart) : List (EntityPart × ActionId) :=
  (parts.zipIdx 1).filter fun x => op.isOn x.2

end Operation

/-- The parts of an entity come with the entity: applying is granted exactly if
the entity is switched on or none of the parts is, and then the entity is there
with the parts that are switched on. -/
structure Assembled (l : LiveScene) (e : Entity) (parts : List EntityPart)
    (p : Operation × LiveScene) : Prop where
  scene : p.2 = l
  granted : (∃ report q, (Host.alone.apply :
      EStateM Halt (Operation × LiveScene) ApplyReport) p = .ok report q)
    ↔ p.1.isOn 0 = true ∨ p.1.partsOn parts = []
  /-- The first part that is switched on is the one to blame. -/
  refused : p.1.isOn 0 = false → ∀ {part id}, (p.1.partsOn parts).head? = some (part, id) →
    (Host.alone.apply : EStateM Halt (Operation × LiveScene) ApplyReport) p
      = .error (.refused (.orderingViolation id (part.action e.name).type e.name)) p
  present : ∀ {report q}, (Host.alone.apply :
      EStateM Halt (Operation × LiveScene) ApplyReport) p = .ok report q →
    (p.1.isOn 0 = true → ∃ e', q.2.scene.entity? e.name = some e'
      ∧ e.With ((p.1.partsOn parts).map (·.1)) e')
    ∧ (p.1.isOn 0 = false → q.2.scene.entity? e.name = none)
    ∧ ∀ n, n ≠ e.name → q.2.scene.entity? n = l.scene.entity? n

-- =========================================================== plain actions

namespace Performed

variable {id : ActionId} {a : Action} {l : LiveScene}

/-- Only an action on a part is refused so, and only without its entity. -/
theorem of_plain_violation {id' : ActionId} {type : ActionType} {n : EntityName}
    {l' : LiveScene} (h : plain id a l = .error (.orderingViolation id' type n) l') :
    a.type.targetsEntityPart = true ∧ l.scene.contains a.entity = false
      ∧ id = id' ∧ a.type = type ∧ a.entity = n := by
  cases hguard : a.type.targetsEntityPart && !(Surface.scene l).contains a.entity with
  | true =>
      rw [Bool.and_eq_true, Bool.not_eq_true'] at hguard
      rw [plain_violation id hguard.1 hguard.2] at h
      cases h
      exact ⟨hguard.1, hguard.2, rfl, rfl, rfl⟩
  | false =>
      unfold plain at h
      rw [get_bind_eq, hguard] at h
      have h : (plainKind id a.kind).adaptExcept (failure id a) l = _ := h
      unfold EStateM.adaptExcept at h
      split at h
      · cases h
      · cases h

end Performed

-- =============================================================== attended

section attended

variable {op : Operation} {l l₁ : LiveScene} {id : ActionId} {a : Action}

/-- What has its turn was pending when the pass began. -/
theorem Operation.TurnOf.mem (h : op.TurnOf l id a l₁) : (id, a) ∈ op.pending := by
  obtain ⟨before, after, heq, -⟩ := h
  rw [heq]
  exact List.mem_append_right _ List.mem_cons_self

/-- What is run in turn was run up to any of it. -/
theorem Runs.of_append {todo todo' : List (ActionId × Action)} {l' : LiveScene}
    (h : Runs op (todo ++ todo') l l') :
    ∃ l₁, Runs op todo l l₁ ∧ Runs op todo' l₁ l' := by
  induction todo generalizing l with
  | nil => exact ⟨l, .nil, h⟩
  | cons x todo ih =>
      cases h with
      | cons hone hrest =>
          obtain ⟨l₁, hbefore, hafter⟩ := ih hrest
          exact ⟨l₁, .cons hone hbefore, hafter⟩

/-- An operation whose pending actions are plain attends to entities. -/
theorem attended (hwf : l.scene.WellFormed) (ht : l.transaction = none)
    (hm : op.ensureMutable = .ok ()) (hplain : ∀ x ∈ op.pending, x.2.conflict? = none) :
    Attended op l := by
  have hrun : ∀ {id a l₁ done l₂}, op.TurnOf l id a l₁ → a.type.targetsEntityPart = true →
      Performed.ofAction op id a l₁ = .ok done l₂ → l₁.scene.contains a.entity = true := by
    intro id a l₁ done l₂ hturn htype hrun
    rw [Performed.ofAction_plain (hplain _ hturn.mem)] at hrun
    cases hc : l₁.scene.contains a.entity with
    | true => rfl
    | false =>
        rw [Performed.plain_violation _ htype hc] at hrun
        cases hrun
  refine ⟨hrun, ?granted, ?refused⟩
  -- the pass ran to its end, so every turn came and none was a violation
  case granted =>
    intro report p happly x hx htype
    obtain ⟨l', hruns⟩ := (Host.apply_granted_iff hm hwf ht).1 ⟨report, p, happly⟩
    obtain ⟨before, after, heq⟩ := List.append_of_mem hx
    rw [heq] at hruns
    obtain ⟨l₁, hbefore, hafter⟩ := hruns.of_append
    have hturn : op.TurnOf l x.1 x.2 l₁ := ⟨before, after, heq, hbefore⟩
    cases hafter with
    | cons hone _ => exact ⟨l₁, hturn, hrun hturn htype hone⟩
  -- the pass stops at the first turn that is refused, and a plain action names itself
  -- in the violation
  case refused =>
    intro id type n p
    constructor
    · intro happly
      rcases runs_or_refused op op.pending (l.begun s!"Merge {op.sourcePath}") with
        hruns | ⟨id', a, l₁, cause, l₂, hturn, herror⟩
      · obtain ⟨report, q, hgranted⟩ := (Host.apply_granted_iff hm hwf ht).2 hruns
        rw [hgranted] at happly
        cases happly
      · rw [Host.apply_stopped hm hwf ht hturn herror] at happly
        cases happly
        rw [Performed.ofAction_plain (hplain _ (Operation.TurnOf.mem hturn))] at herror
        obtain ⟨htype, hc, rfl, ha, hn⟩ := Performed.of_plain_violation herror
        exact ⟨rfl, a, l₁, hturn, htype, hc, ha, hn⟩
    · rintro ⟨rfl, a, l₁, hturn, htype, hc, rfl, rfl⟩
      have herror := Performed.plain_violation id htype hc
      rw [← Performed.ofAction_plain (hplain _ hturn.mem)] at herror
      exact Host.apply_stopped hm hwf ht hturn herror

end attended

-- ============================================================== assembling

/-- Deeds under one name that are possible are run one after the other. -/
theorem runs_of_makeAll {op : Operation} {n : EntityName}
    (todo : List (ActionId × Action)) (htodo : ∀ x ∈ todo, op.action? x.1 = some x.2)
    (hdeeds : ∀ x ∈ todo, ∃ d, op.deed? x.1 = some d ∧ d.name = n) {e? : Option Entity} :
    ∀ {l : LiveScene}, l.Open →
      Deed.makeAll (op.deedsOf (todo.map (·.1))) (l.scene.entity? n) = some e? →
      ∃ l', Runs op todo l l' ∧ l'.Open
        ∧ ∀ x, l'.scene.entity? x = if x = n then e? else l.scene.entity? x := by
  induction todo with
  | nil =>
      intro l hl hmake
      cases hmake
      refine ⟨l, .nil, hl, fun x => ?_⟩
      split
      · next hx => rw [hx]
      · rfl
  | cons y todo ih =>
      obtain ⟨id, a⟩ := y
      intro l hl hmake
      obtain ⟨d, hd, rfl⟩ := hdeeds (id, a) List.mem_cons_self
      rw [List.map_cons, Operation.deedsOf, List.filterMap_cons_some hd, Deed.makeAll] at hmake
      obtain ⟨e?', hone, hrest⟩ := Option.bind_eq_some_iff.1 hmake
      obtain ⟨done, l₁, hrun, hl₁, hentity⟩ := Performed.puts_ofAction
        (htodo (id, a) List.mem_cons_self) hd hl hone
      have hfirst : l₁.scene.entity? d.name = e?' := by rw [hentity, if_pos rfl]
      obtain ⟨l', hruns, hl', hentity'⟩ := ih
        (fun x hx => htodo x (List.mem_cons_of_mem _ hx))
        (fun x hx => hdeeds x (List.mem_cons_of_mem _ hx)) hl₁ (by rw [hfirst]; exact hrest)
      refine ⟨l', .cons hrun hruns, hl', fun x => ?_⟩
      rw [hentity', hentity]
      split <;> rfl

namespace EntityPart

/-- What adding the part does. -/
def deed (n : EntityName) : EntityPart → Deed
  | keyValue key value _ => .setKey n key (some value)
  | child _ node => .addChild n node

/-- Each part is one deed, that of the action which adds it. -/
theorem deed?_action (n : EntityName) (part : EntityPart) :
    (part.action n).deed? = some (part.deed n) := by
  refine Action.deed?_eq_some.2 ?_
  cases part <;> exact ⟨rfl, rfl⟩

/-- Parts are added by plain actions. -/
theorem conflict?_action (n : EntityName) (part : EntityPart) :
    (part.action n).conflict? = none := by
  cases part <;> rfl

/-- The deed of a part is on the entity that it is a part of. -/
theorem name_deed (n : EntityName) (part : EntityPart) : (part.deed n).name = n := by
  cases part <;> rfl

end EntityPart

/-- Parts that come one after the other are all there in the end: children behind each
other, and of the values of a key the last one. -/
theorem Entity.With.append {e e' e'' : Entity} {parts parts' : List EntityPart}
    (h : e.With parts e') (h' : e'.With parts' e'') : e.With (parts ++ parts') e'' where
  name := h'.name.trans h.name
  children := by
    rw [h'.children, h.children, List.filterMap_append, List.append_assoc]
  values key := by
    rw [h'.values, h.values, List.filterMap_append, List.getLast?_append, Option.or_assoc]

/-- One part is added. -/
theorem Entity.exists_with (e : Entity) (n : EntityName) (part : EntityPart) :
    ∃ e', (part.deed n).make (some e) = some (some e') ∧ e.With [part] e' := by
  cases part with
  | keyValue key value old? =>
      refine ⟨e.withKeyValue key value, rfl, rfl, by simp [EntityPart.node?, withKeyValue],
        fun key' => ?_⟩
      rw [value?_withKeyValue]
      by_cases hkey : key = key'
      · simp [EntityPart.value?, hkey]
      · simp [EntityPart.value?, hkey, Ne.symm hkey]
  | child key node =>
      exact ⟨e.withChild node, rfl, rfl, by simp [EntityPart.node?, withChild],
        fun key' => by simp [EntityPart.value?, withChild, value?]⟩

/-- All parts are added, one after the other. -/
theorem Entity.exists_with_all (n : EntityName) (parts : List EntityPart) :
    ∀ e : Entity, ∃ e', Deed.makeAll (parts.map (·.deed n)) (some e) = some (some e')
      ∧ e.With parts e' := by
  induction parts with
  | nil => exact fun e => ⟨e, rfl, rfl, by simp, by simp⟩
  | cons part parts ih =>
      intro e
      obtain ⟨e₁, hone, hwith⟩ := e.exists_with n part
      obtain ⟨e', hall, hrest⟩ := ih e₁
      refine ⟨e', ?_, hwith.append hrest⟩
      rw [List.map_cons, Deed.makeAll, hone]
      exact hall

-- ================================================================ building

namespace Move

/-- Moves that are joined are made one after the other. -/
theorem play_append (moves moves' : List Move) :
    ∀ p, play (moves ++ moves') p = play moves' (play moves p) := by
  induction moves with
  | nil => exact fun _ => rfl
  | cons m moves ih => exact fun p => ih _

/-- Adding actions move by move is adding them, since no addition is refused to an
operation alone. -/
theorem play_addAction (as : List Action) (l : LiveScene) :
    ∀ op, play (as.map .addAction) (op, l) = (as.foldl Operation.addAction op, l) := by
  induction as with
  | nil => exact fun _ => rfl
  | cons a as ih => exact fun op => ih (op.addAction a)

end Move

/-- Actions get the next positions. -/
theorem Operation.foldl_addAction (as : List Action) :
    ∀ op : Operation, as.foldl addAction op = { op with
      actions := op.actions ++ as
      order := op.order ++ List.range' op.actions.length as.length } := by
  induction as with
  | nil => intro op; simp
  | cons a as ih =>
      intro op
      rw [List.foldl_cons, ih]
      simp [addAction, List.range'_succ]

/-- What neither review nor passes change of an action. -/
theorem Action.of_core_eq {a b : Action} (h : a.core = b.core) :
    a.type = b.type ∧ a.entity = b.entity
      ∧ (b.conflict? = none → a.conflict? = none) := by
  have htype : ∀ a : Action, a.core.type = a.type := by
    rintro ⟨kind, node, active, owner?⟩
    cases kind <;> rfl
  refine ⟨by rw [← htype, h, htype], congrArg (·.node.owner) h, fun hb => ?_⟩
  have hconflict := congrArg Action.conflict? h
  rw [a.conflict?_core, b.conflict?_core, hb] at hconflict
  exact Option.map_eq_none_iff.1 hconflict

section built

variable {e : Entity} {parts : List EntityPart} {sourcePath basePath : String}
  {options : MergeOptions}

/-- An entity is added, and then its parts. -/
def Entity.additions (e : Entity) (parts : List EntityPart) : List Action :=
  .addEntity e :: parts.map (·.action e.name)

/-- The operation that adds them and nothing else. -/
def Operation.adding (sourcePath basePath : String) (options : MergeOptions) (e : Entity)
    (parts : List EntityPart) : Operation :=
  { sourcePath, basePath, options
    actions := e.additions parts
    order := List.range' 0 (parts.length + 1) }

/-- The additions of an entity and its parts make of a blank operation the one that the
lemmas of this section are about. -/
private theorem play_additions (l : LiveScene) :
    Move.play ((e.additions parts).map .addAction) ({ sourcePath, basePath, options }, l)
      = (.adding sourcePath basePath options e parts, l) := by
  rw [Move.play_addAction, Operation.foldl_addAction]
  simp [Operation.adding, Entity.additions]

/-- A part stands at its position. -/
private theorem additions_part {part : EntityPart} {id : ActionId}
    (h : (part, id) ∈ parts.zipIdx 1) :
    (e.additions parts)[id]? = some (part.action e.name) := by
  obtain ⟨hle, hat⟩ := List.mk_mem_zipIdx_iff_le_and_getElem?_sub.1 h
  obtain ⟨i, rfl⟩ := Nat.exists_eq_add_of_le' hle
  have hat : parts[i]? = some part := by simpa using hat
  simp [Entity.additions, hat]

variable {op : Operation} {l : LiveScene}
  (hrev : (Operation.adding sourcePath basePath options e parts).Revised op)

include hrev

/-- A review of the operation keeps what its actions are about. -/
private theorem core_of_revised {id : ActionId} {a b : Action} (ha : op.action? id = some a)
    (hb : (e.additions parts)[id]? = some b) : a.core = b.core := by
  have hcores := congrArg (·[id]?) hrev.kin.cores
  simp only [List.getElem?_map] at hcores
  rw [show op.actions[id]? = some a from ha,
    show (Operation.adding sourcePath basePath options e parts).actions[id]? = some b from hb]
    at hcores
  exact Option.some.inj hcores

/-- Pending are the entity, if it is switched on, and the parts that are. -/
private theorem pending_of_revised : op.pending.map (·.1)
    = (if op.isOn 0 then [0] else []) ++ (op.partsOn parts).map (·.2) := by
  have happlied : op.applied = [] := hrev.applied
  have horder : op.order = 0 :: (parts.zipIdx 1).map (·.2) := by
    rw [hrev.kin.order, List.zipIdx_map_snd]
    rfl
  rw [op.pending_ids, happlied]
  have hall : op.chosen.filter (· ∉ ([] : List ActionId)) = op.chosen := by simp
  rw [hall]
  show op.order.filter op.isOn = _
  rw [horder, List.filter_cons, List.filter_map]
  cases op.isOn 0 <;> rfl

/-- The first action inserts the entity. -/
private theorem deed?_zero : op.deed? 0 = some (.insert e) := by
  rw [hrev.kin.deed?]
  simp [Operation.deed?, Operation.adding, Entity.additions, Operation.action?,
    Action.conflict?, ActionKind.conflict?, Action.addEntity, Action.deed?, ActionKind.deed?,
    Deed.name, Action.entity, NodePath.owner]

/-- Each action after the first adds the part that it was made for. -/
private theorem deed?_part {part : EntityPart} {id : ActionId}
    (h : (part, id) ∈ parts.zipIdx 1) : op.deed? id = some (part.deed e.name) := by
  have hat : (Operation.adding sourcePath basePath options e parts).action? id
      = some (part.action e.name) := additions_part h
  rw [hrev.kin.deed?, Operation.deed?, hat, Option.bind_some, part.conflict?_action]
  exact part.deed?_action e.name

/-- The parts that are switched on have the deeds that they had when they were added,
for reviews do not alter what actions do. -/
private theorem deedsOf_partsOn : op.deedsOf ((op.partsOn parts).map (·.2))
    = ((op.partsOn parts).map (·.1)).map (·.deed e.name) := by
  rw [Operation.deedsOf, List.filterMap_map, List.map_map, ← List.filterMap_eq_map]
  exact List.filterMap_congr fun x hx => deed?_part hrev (List.mem_of_mem_filter hx)

/-- If the entity is switched on, everything is run. -/
private theorem runs_of_isOn (hon : op.isOn 0 = true) (hl : l.Open)
    (hnone : l.scene.entity? e.name = none) :
    ∃ l' e', Runs op op.pending l l' ∧ e.With ((op.partsOn parts).map (·.1)) e'
      ∧ ∀ n, l'.scene.entity? n = if n = e.name then some e' else l.scene.entity? n := by
  -- what is pending is the insertion and the parts that are on, in that order
  have hids := pending_of_revised hrev
  rw [if_pos hon, List.singleton_append] at hids
  have hdeeds : ∀ x ∈ op.pending, ∃ d, op.deed? x.1 = some d ∧ d.name = e.name := by
    intro x hx
    have hid : x.1 ∈ 0 :: (op.partsOn parts).map (·.2) := hids ▸ List.mem_map_of_mem hx
    rcases List.mem_cons.1 hid with hid | hid
    · exact ⟨.insert e, hid ▸ deed?_zero hrev, rfl⟩
    · obtain ⟨y, hy, hid⟩ := List.mem_map.1 hid
      exact ⟨_, hid ▸ deed?_part hrev (List.mem_of_mem_filter hy), y.1.name_deed e.name⟩
  obtain ⟨e', hall, hwith⟩ :=
    Entity.exists_with_all e.name ((op.partsOn parts).map (·.1)) e
  have hmake : Deed.makeAll (op.deedsOf (op.pending.map (·.1))) (l.scene.entity? e.name)
      = some (some e') := by
    rw [hids, hnone, Operation.deedsOf, List.filterMap_cons_some (deed?_zero hrev),
      Deed.makeAll, Deed.make_insert.2 ⟨rfl, rfl⟩, Option.bind_some, ← hall,
      ← deedsOf_partsOn hrev]
    rfl
  obtain ⟨l', hruns, -, hentity⟩ := runs_of_makeAll op.pending
    (fun x hx => Operation.of_mem_pending hx) hdeeds hl hmake
  exact ⟨l', e', hruns, hwith, hentity⟩

/-- If it is not, it is the turn of the first part that is. -/
private theorem turnOf_part (hoff : op.isOn 0 = false) {part : EntityPart} {id : ActionId}
    (hhead : (op.partsOn parts).head? = some (part, id)) :
    ∃ a, op.TurnOf l id a (l.begun s!"Merge {op.sourcePath}")
      ∧ a.core = (part.action e.name).core := by
  have hids := pending_of_revised hrev
  rw [hoff, if_neg Bool.false_ne_true, List.nil_append] at hids
  obtain ⟨rest, hparts⟩ := List.head?_eq_some_iff.1 hhead
  rw [hparts, List.map_cons] at hids
  obtain ⟨⟨id', a⟩, after, hpending, rfl, -⟩ := List.map_eq_cons_iff.1 hids
  have hat : (part, id') ∈ parts.zipIdx 1 :=
    List.mem_of_mem_filter (p := fun x => op.isOn x.2)
      (by rw [show (parts.zipIdx 1).filter (fun x => op.isOn x.2) = _ from hparts]
          exact List.mem_cons_self)
  have ha : op.action? id' = some a :=
    Operation.of_mem_pending (hpending ▸ List.mem_cons_self)
  exact ⟨a, ⟨[], after, hpending, .nil⟩, core_of_revised hrev ha (additions_part hat)⟩

/-- Parts come with their entity. -/
private theorem assembled (hwf : l.scene.WellFormed) (ht : l.transaction = none)
    (hnew : l.scene.contains e.name = false) : Assembled l e parts (op, l) := by
  have hm : op.ensureMutable = .ok () := hrev.mutable
  have hnone : l.scene.entity? e.name = none := by
    rw [Scene.contains, Option.isSome_eq_false_iff, Option.isNone_iff_eq_none] at hnew
    exact hnew
  have hbegun : (l.begun s!"Merge {op.sourcePath}").Open := (since_start hwf _).isOpen
  have hrefused : op.isOn 0 = false → ∀ {part id},
      (op.partsOn parts).head? = some (part, id) →
      (Host.alone.apply : EStateM Halt (Operation × LiveScene) ApplyReport) (op, l)
        = .error (.refused (.orderingViolation id (part.action e.name).type e.name)) (op, l) := by
    intro hoff part id hhead
    obtain ⟨a, hturn, hcore⟩ := turnOf_part hrev hoff hhead (l := l)
    obtain ⟨htype, hentity, hconflict⟩ := Action.of_core_eq hcore
    have hpart : a.type.targetsEntityPart = true := by
      rw [htype]
      cases part <;> rfl
    have howner : a.entity = e.name := by
      rw [hentity]
      cases part <;> rfl
    have herror := Performed.plain_violation id (a := a) hpart
      (l := l.begun s!"Merge {op.sourcePath}") (by rw [howner]; exact hnew)
    rw [← Performed.ofAction_plain (hconflict (part.conflict?_action e.name))] at herror
    rw [Host.apply_stopped hm hwf ht hturn herror, htype, howner]
  -- without the entity and its parts nothing is pending
  have hidle : op.isOn 0 = false → op.partsOn parts = [] → op.pending = [] := by
    intro hoff hnoparts
    have hids := pending_of_revised hrev
    rw [hoff, hnoparts] at hids
    exact List.map_eq_nil_iff.1 hids
  -- and if only the entity is missing, nothing is granted
  have hnoparts : ∀ {report q}, (Host.alone.apply :
      EStateM Halt (Operation × LiveScene) ApplyReport) (op, l) = .ok report q →
      op.isOn 0 = false → op.partsOn parts = [] := by
    intro report q happly hoff
    cases hhead : (op.partsOn parts).head? with
    | none => exact List.head?_eq_none_iff.1 hhead
    | some x =>
        rw [hrefused hoff hhead] at happly
        cases happly
  refine ⟨rfl, ⟨?only, ?granted⟩, hrefused, ?present⟩
  case only =>
    rintro ⟨report, q, happly⟩
    cases hon : op.isOn 0 with
    | true => exact .inl rfl
    | false => exact .inr (hnoparts happly hon)
  case granted =>
    intro hcase
    rw [Host.apply_granted_iff hm hwf ht]
    cases hon : op.isOn 0 with
    | true =>
        obtain ⟨l₁, -, hruns, -⟩ := runs_of_isOn hrev hon hbegun hnone
        exact ⟨l₁, hruns⟩
    | false =>
        rw [hidle hon (hcase.resolve_left (by simp [hon]))]
        exact ⟨_, .nil⟩
  case present =>
    intro report q happly
    cases hon : op.isOn 0 with
    | true =>
        obtain ⟨l₁, e', hruns, hwith, hentity⟩ := runs_of_isOn hrev hon hbegun hnone
        have hq := Host.entity?_of_apply hm ht hruns
          (hruns.since (since_start hwf _)).isOpen happly
        refine ⟨fun _ => ⟨e', by rw [hq, hentity, if_pos rfl], hwith⟩,
          fun h => Bool.noConfusion h, fun n hn => ?_⟩
        rw [hq, hentity, if_neg hn]
        rfl
    | false =>
        have hruns : Runs op op.pending (l.begun s!"Merge {op.sourcePath}")
            (l.begun s!"Merge {op.sourcePath}") := by
          rw [hidle hon (hnoparts happly hon)]
          exact .nil
        have hq := Host.entity?_of_apply hm ht hruns hbegun happly
        exact ⟨fun h => Bool.noConfusion h, fun _ => (hq e.name).trans hnone, fun n _ => hq n⟩

end built

-- ================================================================== result

/-- Whatever is pending, as long as it is plain actions, parts are attended to
only with their entities. And whatever parts are added along with an entity
that is not there yet, and however they are switched, the parts that are
switched on come with the entity or the pass is refused. -/
theorem parts_attended {l : LiveScene} (hwf : l.scene.WellFormed)
    (ht : l.transaction = none) :
    (∀ op : Operation, op.ensureMutable = .ok () →
      (∀ x ∈ op.pending, x.2.conflict? = none) → Attended op l)
    ∧ ∀ (sourcePath basePath : String) (options : MergeOptions) (e : Entity)
        (parts : List EntityPart) (switches : List (ActionId × Bool)),
      l.scene.contains e.name = false →
      Assembled l e parts (Move.play
        (.addAction (.addEntity e) :: parts.map (fun part => .addAction (part.action e.name))
          ++ switches.map fun (id, active) => .setActive id active)
        ({ sourcePath, basePath, options }, l)) := by
  refine ⟨fun op hm hplain => attended hwf ht hm hplain,
    fun sourcePath basePath options e parts switches hnew => ?_⟩
  have hadd : .addAction (.addEntity e)
      :: parts.map (fun part => Move.addAction (part.action e.name))
        = (e.additions parts).map .addAction := by
    simp [Entity.additions]
  have hreviews : ∀ m ∈ switches.map (fun (id, active) => Move.setActive id active),
      m.isReview = true := by
    intro m hm
    obtain ⟨x, -, rfl⟩ := List.mem_map.1 hm
    rfl
  obtain ⟨hrev, hl⟩ := Move.revised_play _ hreviews
    (.adding sourcePath basePath options e parts, l)
  rw [hadd, Move.play_append, play_additions]
  generalize Move.play _ (Operation.adding sourcePath basePath options e parts, l) = p at hrev hl
  obtain ⟨op, l'⟩ := p
  cases hl
  exact assembled hrev hwf ht hnew

/-- A wall is removed and then painted, and a light that is switched off was to
be painted. Both are refused. -/
theorem parts_attended_light :
    let wall : Entity := { name := "wall" }
    let light : Entity := { name := "light" }
    let l : LiveScene := { scene := ⟨[wall], {}⟩ }
    let op : Operation :=
      { sourcePath := "source", basePath := ""
        actions := [.removeEntity wall, .addKeyValue "wall" "color" "red" none]
        order := [0, 1] }
    let p := Move.play
      [.addAction (.addEntity light), .addAction (.addKeyValue "light" "color" "red" none),
        .setActive 0 false] ({ sourcePath := "source", basePath := "" }, l)
    l.scene.WellFormed ∧ l.transaction = none
      ∧ op.ensureMutable = .ok () ∧ (∀ x ∈ op.pending, x.2.conflict? = none)
      ∧ l.scene.contains "light" = false
      ∧ (Host.alone.apply : EStateM Halt (Operation × LiveScene) ApplyReport) (op, l)
        = .error (.refused (.orderingViolation 1 .addKeyValue "wall")) (op, l)
      ∧ (Host.alone.apply : EStateM Halt (Operation × LiveScene) ApplyReport) p
        = .error (.refused (.orderingViolation 1 .addKeyValue "light")) p := by
  intro wall light l op p
  have hwf : l.scene.WellFormed :=
    ⟨by decide, Metadata.pruned_empty, by simp [l]⟩
  have hplain : ∀ x ∈ op.pending, x.2.conflict? = none := by decide
  obtain ⟨hattended, hassembled⟩ := parts_attended hwf rfl
  refine ⟨hwf, rfl, rfl, hplain, rfl, ?wall, ?light⟩
  case wall =>
    refine (hattended op rfl hplain).refused.2 ⟨rfl, _, _, ⟨[_], [], rfl, .cons rfl .nil⟩,
      rfl, rfl, rfl, rfl⟩
  case light =>
    exact (hassembled "source" "" {} light [.keyValue "color" "red" none] [(0, false)] rfl).refused
      rfl rfl

end SceneMerge
