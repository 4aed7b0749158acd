/-
Staged nodes in every session. Passes are run on scenes of any kind, land or do
not, and observers add, review and run passes of their own while they are told
of anything. Whatever happened, an operation that still takes changes shows
exactly the actions that were applied by a pass and are active now, each once
and at its place; and one that was ended shows nothing
(`staged_of_reachable`).

# The invariant

Which actions were applied by a pass is said twice. The operation lists them, and the
log of the session has the passes that landed, with what was reported of each
(`Session.Run`). That the two agree is shown where the log is kept
(`Session.Run.applied`). So what is left to show here is about the operation alone: it
shows what it lists as applied and has active (`Operation.Displays`).

While a pass is run the operation can only grow (`Operation.Grown`), so what the
pass applied is still in the order and active when it is taken in (`Grown.pending`,
`Displays.landed`).
-/
import SceneMerge.Proofs.Review.Staging
import SceneMerge.Proofs.Session.Passes
import SceneMerge.Proofs.Session.Phases
import SceneMerge.Review.Summary

namespace SceneMerge

namespace Operation

-- ================================================================== growth

/-- Nothing but additions leads from the one to the other. -/
structure Grown (op op' : Operation) : Prop where
  state : op'.state = op.state
  applied : op'.applied = op.applied
  actions : op.actions <+: op'.actions
  order : op.order <+: op'.order

variable {op op' : Operation}

/-- What is looked at has not changed since, so the operation has grown as before. -/
theorem Grown.congr {op₀ : Operation} (h : op₀.Grown op) (hstate : op'.state = op.state)
    (happlied : op'.applied = op.applied) (hactions : op'.actions = op.actions)
    (horder : op'.order = op.order) : op₀.Grown op' :=
  ⟨hstate.trans h.state, happlied.trans h.applied, hactions ▸ h.actions, horder ▸ h.order⟩

/-- What is added goes to the end, so the operation has grown on. -/
theorem Grown.append {op₀ : Operation} (h : op₀.Grown op) {new : List Action}
    {ids : List ActionId} (hstate : op'.state = op.state)
    (happlied : op'.applied = op.applied) (hactions : op'.actions = op.actions ++ new)
    (horder : op'.order = op.order ++ ids) : op₀.Grown op' :=
  ⟨hstate.trans h.state, happlied.trans h.applied,
    hactions ▸ h.actions.trans (List.prefix_append _ _),
    horder ▸ h.order.trans (List.prefix_append _ _)⟩

/-- What was pending before is in the order and active still. -/
theorem Grown.pending (h : op.Grown op') {id : ActionId}
    (hid : id ∈ op.pending.map (·.1)) : id ∈ op'.order ∧ op'.active? id = some true := by
  rw [op.pending_ids, op.chosen_eq] at hid
  obtain ⟨hchosen, -⟩ := List.mem_filter.1 hid
  obtain ⟨hmem, hactive⟩ := List.mem_filter.1 hchosen
  refine ⟨h.order.subset hmem, ?_⟩
  have hsome := of_decide_eq_true hactive
  obtain ⟨a, ha, hon⟩ := Option.map_eq_some_iff.1 hsome
  obtain ⟨new, hnew⟩ := h.actions
  have ha' : op'.action? id = some a := by
    rw [← action?_append new ha, hnew]
    rfl
  rw [active?, ha', Option.map_some, hon]

-- =============================================================== invariant

/-- What an operation shows goes with what it lists as applied as long as it takes
changes, and is nothing once it takes none. -/
structure Displays (op : Operation) : Prop where
  coherent : op.Coherent
  mirrored : op.state.isClosed = false → op.Mirrored
  bare : op.state.isClosed = true → op.staged = ∅

namespace Displays

/-- What is added is not shown, since no pass applied it yet. -/
theorem append (h : op.Displays) (hc : op'.Coherent) (new : List Action)
    (ids : List ActionId) (hactions : op'.actions = op.actions ++ new)
    (horder : op'.order = op.order ++ ids) (happlied : op'.applied = op.applied)
    (hstaged : op'.staged = op.staged) (hstate : op'.state = op.state) : op'.Displays where
  coherent := hc
  mirrored hopen :=
    (h.mirrored (hstate ▸ hopen)).append h.coherent.ordered hactions horder happlied hstaged
  bare hclosed := hstaged.trans (h.bare (hstate ▸ hclosed))

/-- What concerns neither actions nor passes is not shown either. -/
theorem congr (h : op.Displays) (hactions : op'.actions = op.actions)
    (horder : op'.order = op.order) (happlied : op'.applied = op.applied)
    (hstaged : op'.staged = op.staged) (hstate : op'.state = op.state) : op'.Displays :=
  h.append (h.coherent.congr hactions horder) [] []
    (hactions.trans (List.append_nil _).symm) (horder.trans (List.append_nil _).symm)
    happlied hstaged hstate

/-- A review that is granted keeps the operation open, so all that matters is that it
moves what is shown along with what is active. -/
theorem revised (h : op.Displays) (hm : op.ensureMutable = .ok ())
    (hr : op.Revised op') (hc : op'.Coherent) (hmirror : op.Mirrored → op'.Mirrored) :
    op'.Displays where
  coherent := hc
  mirrored _ := hmirror (h.mirrored (open_of_ensureMutable hm))
  bare hclosed := by
    rw [open_of_ensureMutable (hr.mutable.trans hm)] at hclosed
    cases hclosed

/-- A pass is taken in by what became of the operation that it began with. -/
theorem landed {σ S : Type} [Surface S] {host : Host σ} {s : σ} {x : S} {p : Pass}
    (h : op.Displays) (hp : host.Lands s x p) (hg : (host.read s).Grown op) :
    (op.absorb p).Displays := by
  have hopen : op.state.isClosed = false := by
    rw [hg.state]
    exact open_of_ensureMutable hp.1
  refine ⟨upheld_coherent.absorb p h.coherent, fun _ => ?_, nofun⟩
  -- what the pass ran was pending when it began, and is in the order and active still
  refine (h.mirrored hopen).absorb fun id hid => hg.pending ?_
  rw [← hp.ran]
  exact hid

/-- Nothing is shown by an operation that was ended. -/
theorem ended (hc : op.Coherent) (hclosed : op.state.isClosed = true)
    (hstaged : op.staged = ∅) : op.Displays where
  coherent := hc
  mirrored hopen := by rw [hclosed] at hopen; cases hopen
  bare _ := hstaged

end Displays

/-- The operation is in flight, and only grew since it was `op₀`. -/
def Aloft (op₀ op : Operation) : Prop := op.inFlight = true ∧ op₀.Grown op

end Operation

namespace Operation

-- ============================================================ what is shown

variable {op : Operation}

/-- The nodes that are viewed are those that are staged. -/
theorem mem_nodeViews {v : NodeView} : v ∈ op.nodeViews
    ↔ ∃ path n, op.staged[path]? = some n ∧ op.viewNode path n = v := by
  unfold nodeViews
  rw [List.mem_map]
  constructor
  · rintro ⟨⟨path, n⟩, hmem, rfl⟩
    exact ⟨path, n, Std.ExtTreeMap.mem_toList_iff_getElem?_eq_some.1 hmem, rfl⟩
  · rintro ⟨path, n, hn, rfl⟩
    exact ⟨(path, n), Std.ExtTreeMap.mem_toList_iff_getElem?_eq_some.2 hn, rfl⟩

/-- A view lists what its node lists, at the place of the node. -/
theorem lists_nodeViews {path : NodePath} {id : ActionId} :
    (∃ v ∈ op.nodeViews, v.node = path ∧ id ∈ v.ids) ↔ op.staged.Lists path id := by
  constructor
  · rintro ⟨v, hv, rfl, hid⟩
    obtain ⟨path, n, hn, rfl⟩ := mem_nodeViews.1 hv
    exact ⟨n, hn, hid⟩
  · rintro ⟨n, hn, hid⟩
    exact ⟨op.viewNode path n, mem_nodeViews.2 ⟨path, n, hn, rfl⟩, rfl, hid⟩

/-- Nodes are in path order, so no two have the same place. -/
theorem pairwise_nodeViews (op : Operation) :
    op.nodeViews.Pairwise fun v w => NodePath.order v.node w.node = .lt := by
  unfold nodeViews
  rw [List.pairwise_map]
  exact Std.ExtTreeMap.ordered_keys_toList

/-- No action is listed twice, since it has one place. -/
theorem Mirrored.nodup (h : op.Mirrored) : (op.nodeViews.flatMap (·.ids)).Nodup := by
  have hplace : ∀ v ∈ op.nodeViews, ∀ id ∈ v.ids, op.wrapper? id = some v.node :=
    fun v hv id hid => ((h.lists v.node id).1 (lists_nodeViews.1 ⟨v, hv, rfl, hid⟩)).2.2
  refine List.nodup_flatMap.2 ⟨fun v hv => ?_, ?_⟩
  · obtain ⟨path, n, hn, rfl⟩ := mem_nodeViews.1 hv
    exact (h.sound path n hn).2
  · refine op.pairwise_nodeViews.imp_of_mem fun {v w} hv hw hlt id hid hid' => ?_
    have hsame := Option.some.inj ((hplace v hv id hid).symm.trans (hplace w hw id hid'))
    rw [hsame] at hlt
    cases hlt.symm.trans Std.ReflCmp.compare_self

end Operation

end SceneMerge
