/-
Which child is matched with which. The matching of the children of two
entities is that of a `Partnership`, in which every child, at its
position, has one partner at most and only one of its own fingerprint. No
child is lost or taken twice by it, it matches as many as can be matched,
and the keys that it hands out are all different: `children_matched`.
-/
import Mathlib.Data.List.Sort
import SceneMerge.Proofs.Difference.Children

namespace SceneMerge

/-- The key of the child at a position. -/
def Entity.keyAt (e : Entity) (i : Fin e.children.length) : ChildKey :=
  e.childKeys.get (i.cast e.length_childKeys.symm)

namespace Matching

-- =========================================================== specification

/-- Partners for children of `a` among those of `b`, all by position. -/
structure Partnership (a b : Entity) where
  partner? : Fin a.children.length → Option (Fin b.children.length)
  /-- Nobody is the partner of two. -/
  once : ∀ {i i' j}, partner? i = some j → partner? i' = some j → i = i'
  alike : ∀ {i j}, partner? i = some j →
    (a.children.get i).fingerprint = (b.children.get j).fingerprint
  /-- Children that agree at the same position are partners. -/
  inPlace : ∀ (i : Nat) (ha : i < a.children.length) (hb : i < b.children.length),
    a.children[i].fingerprint = b.children[i].fingerprint →
    partner? ⟨i, ha⟩ = some ⟨i, hb⟩

/-- The matching lists the partners in the order of `a`, who has none of
`a` in the order of `a`, and who has none of `b` in the order of `b`. -/
structure Partnership.Makes {a b : Entity} (p : Partnership a b)
    (m : Matching ChildKey ChildNode) : Prop where
  both : m.both = (List.finRange a.children.length).filterMap fun i =>
    (p.partner? i).map fun j => (a.keyAt i, a.children.get i, b.children.get j)
  onlyLeft : m.onlyLeft = ((List.finRange a.children.length).filter fun i =>
    (p.partner? i).isNone).map fun i => (a.keyAt i, a.children.get i)
  onlyRight : m.onlyRight.map (·.2) = ((List.finRange b.children.length).filter
    fun j => ∀ i, p.partner? i ≠ some j).map fun j => b.children.get j

/-- Everything about a matching of the children of `a` with those of `b`. -/
structure Matched (a b : Entity) (m : Matching ChildKey ChildNode) : Prop where
  partners : ∃ p : Partnership a b, p.Makes m
  /-- The left children are all there, under their keys. -/
  left : (m.both.map (·.1) ++ m.onlyLeft.map (·.1)).Perm a.childKeys
  /-- And so are the right ones. -/
  right : (m.both.map (·.2.2) ++ m.onlyRight.map (·.2)).Perm b.children
  /-- There is no larger matching. -/
  maximal : ∀ f, (m.both.map (·.1.fingerprint)).count f
    = min (a.fingerprints.count f) (b.fingerprints.count f)
  oneSided : ∀ f, f ∉ m.onlyLeft.map (·.1.fingerprint)
    ∨ f ∉ m.onlyRight.map (·.1.fingerprint)
  distinct : (m.both.map (·.1) ++ m.onlyLeft.map (·.1) ++ m.onlyRight.map (·.1)).Nodup
  /-- Whoever only the right side has gets a key of its fingerprint. -/
  own : ∀ x ∈ m.onlyRight, x.1.fingerprint = x.2.fingerprint
  /-- Of each fingerprint these are numbered on from the left side. -/
  numbered : ∀ f, (m.onlyRight.map (·.1)).filter (·.fingerprint == f)
    = (List.range' (a.fingerprints.count f)
        (b.fingerprints.count f - a.fingerprints.count f)).map (⟨f, ·⟩)
  bijective : m.isBijective = true ↔ a.fingerprints.Perm b.fingerprints

-- ============================================================== positions

section positions

variable {a b : Entity} {partners : List (Option (Fin b.children.length))}
  {free : List (Fin b.children.length)}

private theorem fingerprint_keyAt (i : Fin a.children.length) :
    (a.keyAt i).fingerprint = (a.children.get i).fingerprint := by
  have hall : (a.childKeys.map (·.fingerprint))[i.val]?
      = (a.children.map ChildNode.fingerprint)[i.val]? := by
    rw [a.map_fingerprint_childKeys]
    rfl
  have hi : i.val < a.childKeys.length := by
    rw [a.length_childKeys]
    exact i.isLt
  simpa [hi, Entity.keyAt] using hall

private theorem map_keyAt :
    (List.finRange a.children.length).map a.keyAt = a.childKeys := by
  refine List.ext_getElem (by simp [a.length_childKeys]) fun i _ _ => ?_
  simp [Entity.keyAt]

private theorem length_secondPass : (secondPass a b).1.length = a.children.length := by
  have := congrArg List.length (lefts_secondPass a b)
  simpa [lefts, a.length_childKeys] using this

/-- The pairings that the passes make, position by position. -/
private theorem secondPass_eq
    (h : List.Forall₂ (Placed (candidateAt b)) (secondPass a b).1 partners) :
    (secondPass a b).1 = (List.finRange a.children.length).map fun i =>
      ⟨a.keyAt i, a.children.get i, partners[i.val]?.join.map fun j => b.children.get j⟩ := by
  refine List.ext_getElem (by simp [length_secondPass]) fun i hi _ => ?_
  have hi' : i < partners.length := h.length_eq ▸ hi
  have hplaced : Placed (candidateAt b) (secondPass a b).1[i] partners[i] := h.get hi hi'
  -- the left side of each pairing is as it was, and its right side is said by its tag
  have hleft : (lefts (secondPass a b).1)[i]? = (a.childKeys.zip a.children)[i]? := by
    rw [lefts_secondPass]
  have hchildren : i < a.children.length := length_secondPass ▸ hi
  have hkeys : i < a.childKeys.length := by
    rw [a.length_childKeys]
    exact hchildren
  rw [lefts, List.getElem?_map, List.getElem?_eq_getElem hi, Option.map_some,
    List.getElem?_eq_getElem (by simp [hkeys, hchildren]), List.getElem_zip,
    Option.some.injEq, Prod.mk.injEq] at hleft
  have hpartner := hplaced.partner
  rw [List.getElem_map, List.getElem_finRange]
  generalize (secondPass a b).1[i] = p at hleft hpartner
  obtain ⟨key, node, partner?⟩ := p
  obtain ⟨rfl, rfl⟩ := hleft
  simp only at hpartner
  subst hpartner
  simp [Entity.keyAt, hi', candidateAt]

/-- Where nobody is listed twice, nobody has two positions. -/
private theorem position_unique (h : partners.reduceOption.Nodup) {i i' : Nat}
    {j : Fin b.children.length} (hi : partners[i]?.join = some j)
    (hi' : partners[i']?.join = some j) : i = i' := by
  have hpairs := List.pairwise_iff_getElem.1 (List.pairwise_filterMap.1 h)
  have hat : partners[i]? = some (some j) := by simpa [Option.join_eq_some_iff] using hi
  have hat' : partners[i']? = some (some j) := by simpa [Option.join_eq_some_iff] using hi'
  obtain ⟨hlt, hj⟩ := List.getElem?_eq_some_iff.1 hat
  obtain ⟨hlt', hj'⟩ := List.getElem?_eq_some_iff.1 hat'
  rcases Nat.lt_trichotomy i i' with hbefore | hsame | hafter
  · exact absurd rfl (hpairs i i' hlt hlt' hbefore j hj j hj')
  · exact hsame
  · exact absurd rfl (hpairs i' i hlt' hlt hafter j hj' j hj)

/-- The positions that are left free, in order, are those of no partner. -/
private theorem free_eq
    (hshared : (partners.reduceOption ++ free).Perm (List.finRange b.children.length))
    (hfree : free.Sublist (List.finRange b.children.length))
    (hlength : partners.length = a.children.length) :
    free = (List.finRange b.children.length).filter fun j =>
      ∀ i : Fin a.children.length, partners[i.val]?.join ≠ some j := by
  have hsorted := (List.sortedLT_finRange b.children.length).pairwise
  have hnodup : (partners.reduceOption ++ free).Nodup :=
    hshared.nodup_iff.2 (List.nodup_finRange _)
  refine (hsorted.sublist hfree).eq_of_mem_iff (hsorted.sublist List.filter_sublist) fun j => ?_
  have hall : j ∈ partners.reduceOption ∨ j ∈ free :=
    List.mem_append.1 (hshared.mem_iff.2 (List.mem_finRange j))
  -- a position is taken just if some child has it for a partner
  have hlisted : j ∈ partners.reduceOption
      ↔ ∃ i : Fin a.children.length, partners[i.val]?.join = some j := by
    rw [List.reduceOption_mem_iff, List.mem_iff_getElem?]
    constructor
    · intro ⟨i, hi⟩
      obtain ⟨hlt, -⟩ := List.getElem?_eq_some_iff.1 hi
      exact ⟨⟨i, hlength ▸ hlt⟩, by rw [hi]; rfl⟩
    · intro ⟨i, hi⟩
      exact ⟨i, by simpa [Option.join_eq_some_iff] using hi⟩
  simp only [List.mem_filter, List.mem_finRange, true_and, decide_eq_true_eq]
  rw [← not_exists_not]
  simp only [not_not, ← hlisted]
  constructor
  · intro hj hpartner
    exact List.disjoint_of_nodup_append hnodup hpartner hj
  · exact hall.resolve_left

/-- Partners have the same fingerprint. -/
private theorem alike_of_placed
    (h : List.Forall₂ (Placed (candidateAt b)) (secondPass a b).1 partners)
    {i : Fin a.children.length} {j : Fin b.children.length}
    (hij : partners[i.val]?.join = some j) :
    (a.children.get i).fingerprint = (b.children.get j).fingerprint := by
  have hat : partners[i.val]? = some (some j) := by simpa [Option.join_eq_some_iff] using hij
  obtain ⟨hi, hj⟩ := List.getElem?_eq_some_iff.1 hat
  have hi' : i.val < (secondPass a b).1.length := h.length_eq ▸ hi
  have hplaced : Placed (candidateAt b) (secondPass a b).1[i.val] partners[i.val] := h.get hi' hi
  have hkey : ((secondPass a b).1[i.val]).key = a.keyAt i := by
    simp [secondPass_eq h]
  rw [← fingerprint_keyAt, ← hkey, ← hplaced.alike j hj]
  rfl

private theorem both_eq
    (h : List.Forall₂ (Placed (candidateAt b)) (secondPass a b).1 partners) :
    (ofChildren a b).both = (List.finRange a.children.length).filterMap fun i =>
      partners[i.val]?.join.map fun j => (a.keyAt i, a.children.get i, b.children.get j) := by
  rw [ofChildren_eq, secondPass_eq h, List.filterMap_map]
  refine List.filterMap_congr fun i _ => ?_
  simp [Option.map_map, Function.comp_def]

private theorem onlyLeft_eq
    (h : List.Forall₂ (Placed (candidateAt b)) (secondPass a b).1 partners) :
    (ofChildren a b).onlyLeft = ((List.finRange a.children.length).filter fun i =>
      partners[i.val]?.join.isNone).map fun i => (a.keyAt i, a.children.get i) := by
  rw [ofChildren_eq, secondPass_eq h, List.filter_map, List.map_map]
  simp [Function.comp_def]

end positions

-- ========================================================= the partnership

/-- The passes make a partnership, and the matching lists it. -/
private theorem exists_partnership (a b : Entity) :
    ∃ p : Partnership a b, p.Makes (ofChildren a b) := by
  obtain ⟨partners, free, h, hfree, hplace⟩ := secondPass_assigned a b
  have hlength : partners.length = a.children.length :=
    h.placed.length_eq.symm.trans length_secondPass
  have hnodup : (partners.reduceOption ++ free).Nodup :=
    h.shared.nodup_iff.2 (List.nodup_finRange _)
  refine ⟨⟨fun i => partners[i.val]?.join, ?once, fun hij => alike_of_placed h.placed hij,
    ?inPlace⟩, both_eq h.placed, onlyLeft_eq h.placed, ?onlyRight⟩
  -- a tag that two children had would be handed out twice
  case once =>
    intro i i' j hi hi'
    exact Fin.ext (position_unique hnodup.of_append_left hi hi')
  -- the first pass matched them, and the second one took nothing away
  case inPlace =>
    intro i ha hb halike
    have hkey : i < a.childKeys.length := by
      rw [a.length_childKeys]
      exact ha
    have hat : (a.childKeys.zip a.children)[i]? = some (a.keyAt ⟨i, ha⟩, a.children[i]) := by
      simp [hkey, ha, Entity.keyAt]
    rw [hplace i hb _ hat (by rw [fingerprint_keyAt]; exact halike.symm)]
    rfl
  case onlyRight =>
    rw [← free_eq h.shared hfree hlength, onlyRight_nodes, h.spared, List.map_map]
    rfl

section makes

variable {a b : Entity} {p : Partnership a b} {m : Matching ChildKey ChildNode}

/-- Every child of `a` has a partner or has none. -/
private theorem Partnership.Makes.left (h : p.Makes m) :
    (m.both.map (·.1) ++ m.onlyLeft.map (·.1)).Perm a.childKeys := by
  have hboth : m.both.map (·.1) = ((List.finRange a.children.length).filter fun i =>
      (p.partner? i).isSome).map a.keyAt := by
    rw [h.both, List.map_filterMap, ← List.filterMap_eq_map, List.filterMap_filter]
    refine List.filterMap_congr fun i _ => ?_
    cases p.partner? i <;> rfl
  have hleft : m.onlyLeft.map (·.1) = ((List.finRange a.children.length).filter fun i =>
      !(p.partner? i).isSome).map a.keyAt := by
    rw [h.onlyLeft, List.map_map]
    simp [Function.comp_def]
  rw [hboth, hleft, ← List.map_append, ← map_keyAt]
  exact (List.filter_append_perm _ _).map _

/-- Every child of `b` is a partner or is none. -/
private theorem Partnership.Makes.right (h : p.Makes m) :
    (m.both.map (·.2.2) ++ m.onlyRight.map (·.2)).Perm b.children := by
  have hboth : m.both.map (·.2.2)
      = ((List.finRange a.children.length).filterMap p.partner?).map fun j =>
        b.children.get j := by
    rw [h.both, List.map_filterMap, List.map_filterMap]
    refine List.filterMap_congr fun i _ => ?_
    cases p.partner? i <;> rfl
  -- the positions that are someone's partner, in the order of the left children or in
  -- their own
  have hpartners : ((List.finRange a.children.length).filterMap p.partner?).Perm
      ((List.finRange b.children.length).filter fun j => !∀ i, p.partner? i ≠ some j) := by
    refine (List.perm_ext_iff_of_nodup ?_ ?_).2 fun j => ?_
    · exact (List.nodup_finRange _).filterMap fun i i' j hi hi' => p.once hi hi'
    · exact (List.nodup_finRange _).filter _
    · simp
  have hchildren : (List.finRange b.children.length).map (fun j => b.children.get j)
      = b.children := by
    refine List.ext_getElem (by simp) fun i _ _ => ?_
    simp
  have hall := (hpartners.append_right _).trans (List.perm_append_comm.trans
    (List.filter_append_perm (fun j => ∀ i, p.partner? i ≠ some j) _))
  have hnodes := hall.map fun j => b.children.get j
  rw [hchildren, List.map_append] at hnodes
  rw [hboth, h.onlyRight]
  exact hnodes

end makes

-- ================================================================== matched

/-- The left keys are numbered below the right ones. -/
private theorem disjoint_keys (a b : Entity) :
    a.childKeys.Disjoint ((ofChildren a b).onlyRight.map (·.1)) := by
  intro key hleft hright
  obtain ⟨⟨_, node⟩, hmem, rfl⟩ := List.mem_map.1 hright
  have hafter := (of_mem_onlyRight hmem).2.2
  have hbefore := (ChildKey.occurrence_numberAfter a.fingerprints [] _ hleft).2
  simp only [List.count_nil, Nat.zero_add] at hbefore
  exact Nat.not_le_of_lt hbefore hafter

/-- The matching of the children of two entities, whatever they are. -/
theorem children_matched (a b : Entity) : Matched a b (ofChildren a b) := by
  obtain ⟨p, hp⟩ := exists_partnership a b
  have hleft := count_onlyLeft a b
  have hright := count_onlyRight a b
  refine ⟨⟨p, hp⟩, hp.left, hp.right, count_both a b, ?oneSided, ?distinct, ?own,
    filter_onlyRight a b, ?bijective⟩
  case oneSided =>
    intro f
    rw [← List.count_eq_zero, ← List.count_eq_zero, hleft, hright]
    omega
  -- keys on the left are keys of `a`, and those on the right go on from them
  case distinct =>
    refine List.nodup_append'.2 ⟨hp.left.nodup_iff.2 a.nodup_childKeys, nodup_onlyRight, ?_⟩
    intro key hkey
    exact disjoint_keys a b (hp.left.subset hkey)
  case own =>
    intro x hx
    exact (of_mem_onlyRight hx).2.1.symm
  case bijective =>
    have hnil : (ofChildren a b).isBijective = true ↔ a.childChanges b = [] := by
      simp [isBijective, Entity.childChanges]
    exact hnil.trans Entity.childChanges_eq_nil

end Matching
end SceneMerge
