/-
What the two passes of the matching of children do, with every right
child known by a tag, which may be its position. Both passes only move
tags about: what a pass hands out as partners, and what it leaves free,
are together the tags that it was given (`Assigned.shared`), and what is
left free stays in order. Everything that is said of the matching, how
many children of a fingerprint find a partner as well as which child is
whose, is read off these tags.

The first pass gives the child at a position the tag at that position if
the fingerprints agree (`inPlace_assigned`), and the second one takes
none of them away (`byContent_assigned`). What the second pass leaves
without a partner finds none among what it leaves free
(`byContent_maximal`).
-/
import Mathlib.Data.List.Forall2
import Mathlib.Data.List.ReduceOption
import SceneMerge.Difference.Matching

namespace SceneMerge.Matching

/-- The left children of pairings, as they came in. -/
def lefts (ps : List Pairing) : List (ChildKey × ChildNode) :=
  ps.map fun p => (p.key, p.node)

section tags

variable {τ : Type} (child : τ → Candidate)

/-- The pairing has the child with the tag as its partner, or none. -/
structure Placed (p : Pairing) (tag? : Option τ) : Prop where
  partner : p.partner? = tag?.map fun t => (child t).2
  alike : ∀ t ∈ tag?, (child t).1 = p.key.fingerprint

/-- The pairings have the `partners`, the `free` ones are left, and these
are together the tags. -/
structure Assigned (tags : List τ) (ps : List Pairing) (spare : List Candidate)
    (partners : List (Option τ)) (free : List τ) : Prop where
  placed : List.Forall₂ (Placed child) ps partners
  spared : spare = free.map child
  shared : (partners.reduceOption ++ free).Perm tags

variable {child}

/-- A left child that is given no tag has no partner. -/
theorem placed_none (key : ChildKey) (node : ChildNode) :
    Placed child ⟨key, node, none⟩ none where
  partner := rfl
  alike := by simp

/-- A left child that is given the tag of a child with its fingerprint has that child as
its partner. -/
theorem placed_some {key : ChildKey} (node : ChildNode) {t : τ}
    (h : (child t).1 = key.fingerprint) :
    Placed child ⟨key, node, some (child t).2⟩ (some t) where
  partner := rfl
  alike := by
    rintro t' ⟨⟩
    exact h

/-- Who has no partner was given no tag. -/
theorem Placed.eq_none {p : Pairing} {tag? : Option τ} (h : Placed child p tag?)
    (hp : p.partner? = none) : tag? = none := by
  rw [h.partner] at hp
  exact Option.map_eq_none_iff.1 hp

-- ============================================================== in place

/-- Without right children nobody finds a partner. -/
private theorem placed_all_none (left : List (ChildKey × ChildNode)) :
    List.Forall₂ (Placed child) (left.map fun (key, node) => ⟨key, node, none⟩)
      (List.replicate left.length none) := by
  induction left with
  | nil => exact .nil
  | cons x left ih => exact .cons (placed_none x.1 x.2) ih

/-- The first pass hands out tags, and those whose fingerprints agree to
the children at their positions. -/
theorem inPlace_assigned (left : List (ChildKey × ChildNode)) :
    ∀ tags : List τ, ∃ partners free,
      Assigned child tags (inPlace left (tags.map child)).1
        (inPlace left (tags.map child)).2 partners free
      ∧ free.Sublist tags
      ∧ ∀ (i : Nat) x t, left[i]? = some x → tags[i]? = some t →
        (child t).1 = x.1.fingerprint → partners[i]? = some (some t) := by
  induction left with
  | nil =>
      intro tags
      exact ⟨[], tags, ⟨.nil, rfl, .refl _⟩, .refl _, by simp⟩
  | cons x left ih =>
      intro tags
      obtain ⟨key, node⟩ := x
      cases tags with
      | nil =>
          refine ⟨List.replicate (left.length + 1) none, [],
            ⟨placed_all_none ((key, node) :: left), rfl, ?_⟩, .refl _, by simp⟩
          rw [List.reduceOption_replicate_none]
          rfl
      | cons t tags =>
          obtain ⟨partners, free, h, hfree, hplace⟩ := ih tags
          rw [List.map_cons]
          unfold inPlace
          -- the children at this position are partners, or the right one stays free
          by_cases hprint : key.fingerprint = (child t).1
          · simp only [hprint, if_true]
            refine ⟨some t :: partners, free, ⟨.cons (placed_some node hprint.symm) h.placed,
              h.spared, ?_⟩, hfree.cons t, ?_⟩
            · rw [List.reduceOption_cons_of_some]
              exact h.shared.cons t
            · intro i x' t' hx ht halike
              cases i with
              | zero => simpa using ht
              | succ i => exact hplace i x' t' hx ht halike
          · simp only [hprint, if_false]
            refine ⟨none :: partners, t :: free, ⟨.cons (placed_none key node) h.placed,
              congrArg _ h.spared, ?_⟩, hfree.cons_cons t, ?_⟩
            · rw [List.reduceOption_cons_of_none]
              exact List.perm_middle.trans (h.shared.cons t)
            · intro i x' t' hx ht halike
              cases i with
              | zero =>
                  cases hx
                  cases ht
                  exact absurd halike.symm hprint
              | succ i => exact hplace i x' t' hx ht halike

end tags

/-- The first pass keeps the left children and their order. -/
theorem lefts_inPlace (left : List (ChildKey × ChildNode)) :
    ∀ right, lefts (inPlace left right).1 = left := by
  induction left with
  | nil => intro right; rfl
  | cons x left ih =>
      intro right
      obtain ⟨key, node⟩ := x
      cases right with
      | nil => simp [inPlace, lefts, Function.comp_def]
      | cons c right =>
          have := ih right
          unfold inPlace
          simp only
          split
          · simpa [lefts] using this
          · simpa [lefts] using this

-- ============================================================= by content

/-- What is found first goes first. -/
private theorem perm_cons_eraseP {α : Type} {p : α → Bool} {l : List α} {x : α}
    (h : l.find? p = some x) : l.Perm (x :: l.eraseP p) := by
  obtain ⟨hx, before, after, rfl, hb⟩ := List.find?_eq_some_iff_append.1 h
  have hb' : ∀ y ∈ before, ¬ p y = true := by
    intro y hy
    simpa using hb y hy
  rw [List.eraseP_append_right _ hb', List.eraseP_cons_of_pos hx]
  exact List.perm_middle

section byContent

variable {p : Pairing} {ps : List Pairing} {free : List Candidate}

/-- A left child without a partner is given the first that is free and looks alike,
which is free no longer. -/
theorem byContent_found (hp : p.partner? = none) {found : Candidate}
    (hf : free.find? (·.1 == p.key.fingerprint) = some found) :
    byContent (p :: ps) free
      = ({ p with partner? := some found.2 }
          :: (byContent ps (free.eraseP (·.1 == p.key.fingerprint))).1,
        (byContent ps (free.eraseP (·.1 == p.key.fingerprint))).2) := by
  rw [byContent]
  simp only [hp, hf]

/-- Who has a partner, or finds none, is passed over. -/
theorem byContent_passed
    (h : p.partner? = none → free.find? (·.1 == p.key.fingerprint) = none) :
    byContent (p :: ps) free
      = (p :: (byContent ps free).1, (byContent ps free).2) := by
  rw [byContent]
  cases hp : p.partner? with
  | none => simp only [h hp]
  | some c => rfl

end byContent

/-- Either a partner is found, or the pairing is passed over because it
has one or none fits. -/
private theorem byContent_cases (p : Pairing) (free : List Candidate) :
    (p.partner? = none
        ∧ ∃ found, free.find? (·.1 == p.key.fingerprint) = some found)
      ∨ (p.partner? = none →
        free.find? (·.1 == p.key.fingerprint) = none) := by
  cases hp : p.partner? with
  | some c => exact .inr fun h => nomatch h
  | none =>
      cases hf : free.find? (·.1 == p.key.fingerprint) with
      | none => exact .inr fun _ => rfl
      | some found => exact .inl ⟨rfl, found, rfl⟩

/-- The second pass hands out tags that were free, and takes back none. -/
theorem byContent_assigned {τ : Type} {child : τ → Candidate} (ps : List Pairing) :
    ∀ (partners : List (Option τ)) (tags : List τ),
      List.Forall₂ (Placed child) ps partners → ∃ partners' free,
        Assigned child (partners.reduceOption ++ tags) (byContent ps (tags.map child)).1
          (byContent ps (tags.map child)).2 partners' free
        ∧ free.Sublist tags
        ∧ ∀ (i : Nat) t, partners[i]? = some (some t) → partners'[i]? = some (some t) := by
  induction ps with
  | nil =>
      rintro _ tags ⟨⟩
      exact ⟨[], tags, ⟨.nil, rfl, .refl _⟩, .refl _, by simp⟩
  | cons p ps ih =>
      rintro _ tags (_ | ⟨hone, hrest⟩)
      rename_i tag? partners
      rcases byContent_cases p (tags.map child) with ⟨hp, found, hf⟩ | hpass
      · -- a tag that was free becomes the partner
        cases hone.eq_none hp
        rw [byContent_found hp hf, List.eraseP_map]
        rw [List.find?_map] at hf
        obtain ⟨t, ht, rfl⟩ := Option.map_eq_some_iff.1 hf
        have hprint : (child t).1 = p.key.fingerprint := by simpa using List.find?_some ht
        obtain ⟨partners', free, h, hfree, hkept⟩ := ih partners _ hrest
        refine ⟨some t :: partners', free,
          ⟨.cons (placed_some p.node hprint) h.placed, h.spared, ?_⟩,
          hfree.trans List.eraseP_sublist, ?_⟩
        · rw [List.reduceOption_cons_of_some, List.reduceOption_cons_of_none]
          refine (h.shared.cons t).trans (List.perm_middle.symm.trans ?_)
          exact (perm_cons_eraseP ht).symm.append_left _
        · intro i t' hi
          cases i with
          | zero => cases hi
          | succ i => exact hkept i t' hi
      · rw [byContent_passed hpass]
        obtain ⟨partners', free, h, hfree, hkept⟩ := ih partners tags hrest
        refine ⟨tag? :: partners', free, ⟨.cons hone h.placed, h.spared, ?_⟩, hfree, ?_⟩
        · cases tag? with
          | none => exact h.shared
          | some t => exact h.shared.cons t
        · intro i t' hi
          cases i with
          | zero => exact hi
          | succ i => exact hkept i t' hi

/-- The second pass keeps the left children and their order as well. -/
theorem lefts_byContent (ps : List Pairing) :
    ∀ free, lefts (byContent ps free).1 = lefts ps := by
  induction ps with
  | nil => intro free; rfl
  | cons p ps ih =>
      intro free
      rcases byContent_cases p free with ⟨hp, found, hf⟩ | hpass
      · rw [byContent_found hp hf]
        simpa [lefts] using ih _
      · rw [byContent_passed hpass]
        simpa [lefts] using ih _

/-- What the second pass leaves free was free before, and stays in order. -/
theorem byContent_sublist (ps : List Pairing) :
    ∀ free, (byContent ps free).2.Sublist free := by
  induction ps with
  | nil => intro free; exact .refl _
  | cons p ps ih =>
      intro free
      rcases byContent_cases p free with ⟨hp, found, hf⟩ | hpass
      · rw [byContent_found hp hf]
        exact (ih _).trans List.eraseP_sublist
      · rw [byContent_passed hpass]
        exact ih _

/-- Whoever is left without a partner has no free one of its
fingerprint. -/
theorem byContent_maximal (ps : List Pairing) :
    ∀ free, ∀ p ∈ (byContent ps free).1, p.partner? = none →
      ∀ c ∈ (byContent ps free).2, c.1 ≠ p.key.fingerprint := by
  induction ps with
  | nil => intro free p hp; cases hp
  | cons q ps ih =>
      intro free p hp hnone
      rcases byContent_cases q free with ⟨hq, found, hf⟩ | hpass
      · rw [byContent_found hq hf] at hp ⊢
        rcases List.mem_cons.1 hp with rfl | hp
        · cases hnone
        · exact ih _ p hp hnone
      · rw [byContent_passed hpass] at hp ⊢
        rcases List.mem_cons.1 hp with rfl | hp
        · intro c hc
          have hfree := (byContent_sublist ps free).subset hc
          have := List.find?_eq_none.1 (hpass hnone) c hfree
          simpa using this
        · exact ih _ p hp hnone

end SceneMerge.Matching
