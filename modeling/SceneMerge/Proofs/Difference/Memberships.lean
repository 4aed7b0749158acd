/-
The changes between two metadata as a patch. What a difference lists is
who is a member in the one and not in the other, each once (`Between`),
and that says nothing about an order. Making one of the changes takes
exactly that one off the rest (`Between.of_cons`), so all of them lead
from the one metadata to the other in whatever order they are made, and
each is news when its turn comes.

On the way layers and groups may run empty and fill again. Nothing of
that is visible in the relation of who belongs to what, and where
nothing is left empty the relation is the metadata
(`Metadata.ext_isMember`).
-/
import Mathlib.Data.List.Nodup
import SceneMerge.Difference.Scene
import SceneMerge.Proofs.Content.Membership
import SceneMerge.Replay.MetadataScript

namespace SceneMerge

-- ============================================================== a patch

/-- A change as the step that makes it. -/
def MembershipChange.step (c : MembershipChange) : MetadataStep :=
  .setMember c.membership c.entity c.member

/-- The metadata after the changes are made, one after the other. -/
def Metadata.patched (m : Metadata) (changes : List MembershipChange) : Metadata :=
  changes.foldl (fun m c => (c.step.run m).2) m

/-- What the steps that make the changes answer. -/
def Metadata.answers (m : Metadata) (changes : List MembershipChange) :
    List MetadataReply :=
  (MetadataStep.runAll m (changes.map (·.step))).map (·.1)

namespace Metadata

/-- Making changes leaves no layer or group empty. -/
theorem pruned_patched {m : Metadata} (h : m.Pruned)
    (changes : List MembershipChange) : (m.patched changes).Pruned := by
  induction changes generalizing m with
  | nil => exact h
  | cons c rest ih => exact ih (pruned_put h c.membership c.entity c.member)

/-- A step changes the pair that it names. -/
theorem mem_memberships_put (m : Metadata) (g : Membership) (e : EntityName)
    (b : Bool) (pair : Membership × EntityName) :
    pair ∈ (m.put g e b).memberships ↔
      if pair = (g, e) then b = true else pair ∈ m.memberships := by
  obtain ⟨g', e'⟩ := pair
  rw [mem_memberships, isMember_put, mem_memberships]
  by_cases h : g' = g ∧ e' = e
  · rw [if_pos h, if_pos (Prod.ext_iff.2 h)]
  · rw [if_neg h, if_neg (fun heq => h (Prod.ext_iff.1 heq))]

/-- A step answers whether the pair was there. -/
theorem isMember_eq_decide (m : Metadata) (g : Membership) (e : EntityName) :
    m.isMember g e = decide ((g, e) ∈ m.memberships) := by
  rw [Bool.eq_iff_iff, decide_eq_true_iff, mem_memberships]

/-- A change is listed if it is news in the one and so in the other. -/
theorem mem_changes {base other : Metadata} {c : MembershipChange} :
    c ∈ base.changes other ↔
      base.isMember c.membership c.entity = !c.member
        ∧ other.isMember c.membership c.entity = c.member := by
  obtain ⟨g, e, b⟩ := c
  cases b <;> simp [changes, and_comm]

/-- No change is listed twice: each side lists pairs that the other lacks, and the flag
tells the sides apart. -/
theorem nodup_changes (base other : Metadata) : (base.changes other).Nodup := by
  have hside : ∀ (m m' : Metadata) (b : Bool),
      ((m.memberships.filter (· ∉ m'.memberships)).map fun pair =>
        (⟨pair.1, pair.2, b⟩ : MembershipChange)).Nodup := by
    intro m m' b
    refine List.Nodup.map (fun p q hpq => ?_) (m.nodup_memberships.filter _)
    exact Prod.ext_iff.2 ⟨congrArg MembershipChange.membership hpq,
      congrArg MembershipChange.entity hpq⟩
  refine List.nodup_append.2 ⟨hside base other false, hside other base true, ?_⟩
  intro c hc d hd heq
  obtain ⟨x, -, rfl⟩ := List.mem_map.1 hc
  obtain ⟨y, -, rfl⟩ := List.mem_map.1 hd
  exact Bool.false_ne_true (congrArg MembershipChange.member heq)

end Metadata

-- ============================================================ in any order

namespace MembershipChange

/-- The changes are what lies between two metadata: each of them is news
in the one and so in the other, there is no other, and none is listed
twice. -/
structure Between (m other : Metadata) (changes : List MembershipChange) :
    Prop where
  nodup : changes.Nodup
  mem_iff : ∀ c, c ∈ changes ↔
    m.isMember c.membership c.entity = !c.member
      ∧ other.isMember c.membership c.entity = c.member

variable {m base other : Metadata} {c : MembershipChange}
  {changes : List MembershipChange}

/-- The listing is one way between the two metadata. -/
theorem between_changes (base other : Metadata) :
    Between base other (base.changes other) :=
  ⟨Metadata.nodup_changes base other, fun _ => Metadata.mem_changes⟩

/-- In another order it is still one. -/
theorem Between.perm {changes' : List MembershipChange}
    (h : Between m other changes) (hp : changes'.Perm changes) :
    Between m other changes' :=
  ⟨hp.nodup_iff.2 h.nodup, fun c => hp.mem_iff.trans (h.mem_iff c)⟩

/-- With nothing between them the two have the same members. -/
theorem Between.of_nil (h : Between m other []) (g : Membership)
    (e : EntityName) : m.isMember g e = other.isMember g e := by
  by_contra hne
  have hnews := (h.mem_iff ⟨g, e, other.isMember g e⟩).2
    ⟨Bool.eq_not_of_ne hne, rfl⟩
  cases hnews

/-- A change that is made is not between them any more, and every other
one still is. -/
theorem Between.of_cons (h : Between m other (c :: changes)) :
    m.isMember c.membership c.entity = (!c.member)
      ∧ Between (c.step.run m).2 other changes := by
  obtain ⟨hnot, hnodup⟩ := List.nodup_cons.1 h.nodup
  obtain ⟨hnews, hother⟩ := (h.mem_iff c).1 List.mem_cons_self
  refine ⟨hnews, hnodup, fun d => ?_⟩
  show d ∈ changes ↔ (m.put _ _ _).isMember _ _ = _ ∧ _
  rw [Metadata.isMember_put]
  by_cases hpair : d.membership = c.membership ∧ d.entity = c.entity
  · -- of that pair nothing is left
    rw [if_pos hpair, hpair.1, hpair.2, hother]
    refine ⟨fun hd => ?_, fun ⟨hwas, his⟩ => ?_⟩
    · have hd' := ((h.mem_iff d).1 (List.mem_cons_of_mem c hd)).2
      rw [hpair.1, hpair.2, hother] at hd'
      obtain ⟨g, e, b⟩ := d
      obtain ⟨rfl, rfl⟩ := hpair
      cases hd'
      exact absurd hd hnot
    · rw [his] at hwas
      exact absurd hwas.symm (Bool.not_not_eq.2 rfl)
  · rw [if_neg hpair, ← h.mem_iff d, List.mem_cons]
    refine ⟨.inr, fun hd => hd.resolve_left ?_⟩
    rintro rfl
    exact hpair ⟨rfl, rfl⟩

/-- All of them made, the two have the same members, and each was news. -/
theorem Between.patched (h : Between m other changes) :
    (∀ g e, (m.patched changes).isMember g e = other.isMember g e)
      ∧ m.answers changes = changes.map fun c => .flag (!c.member) := by
  induction changes generalizing m with
  | nil => exact ⟨h.of_nil, rfl⟩
  | cons c rest ih =>
      obtain ⟨hnews, hrest⟩ := h.of_cons
      obtain ⟨hmembers, hanswers⟩ := ih hrest
      refine ⟨hmembers, ?_⟩
      rw [List.map_cons, ← hanswers, ← hnews]
      rfl

end MembershipChange

-- ============================================================== the result

namespace Metadata

/-- The changes between two metadata are a patch, in any order. Made one
by one they leave the memberships of the other metadata, each of them
answers that it was news, and where neither had an empty layer or group
the result is the other metadata.

Behind it stands that metadata without empty layers and groups is what
its memberships are: a step changes the pair that it names, answers
whether that was there and leaves nothing empty, and what an entity
belongs to is listed in order. -/
theorem changes_patch :
    (∀ (base other : Metadata) (changes : List MembershipChange),
      changes.Perm (base.changes other) →
        (base.patched changes).memberships = other.memberships
        ∧ base.answers changes = changes.map (fun c => .flag (!c.member))
        ∧ (base.Pruned → other.Pruned → base.patched changes = other))
    ∧ (∀ m : Metadata, m.Pruned → ∀ (g : Membership) (e : EntityName) (b : Bool),
        let (reply, m') := (MetadataStep.setMember g e b).run m
        (∀ pair, pair ∈ m'.memberships ↔
          if pair = (g, e) then b = true else pair ∈ m.memberships)
        ∧ reply = .flag (decide ((g, e) ∈ m.memberships))
        ∧ m'.Pruned)
    ∧ (∀ m : Metadata, m.Pruned → ∀ e : EntityName,
        (∀ g, g ∈ m.membershipsOf e ↔ (g, e) ∈ m.memberships)
        ∧ (m.membershipsOf e).Pairwise Membership.Before)
    ∧ ∀ m m' : Metadata, m.Pruned → m'.Pruned →
        (m = m' ↔ m.memberships = m'.memberships) := by
  refine ⟨fun base other changes hp => ?_, fun m h g e b => ?_, fun m _ e => ?_,
    fun m m' h h' => ⟨fun heq => heq ▸ rfl, fun heq => ?_⟩⟩
  · have hbetween := (MembershipChange.between_changes base other).perm hp
    obtain ⟨hmembers, hanswers⟩ := hbetween.patched
    exact ⟨memberships_eq_iff.2 hmembers, hanswers,
      fun hb ho => ext_isMember (pruned_patched hb changes) ho hmembers⟩
  · exact ⟨mem_memberships_put m g e b, congrArg _ (isMember_eq_decide m g e),
      pruned_put h g e b⟩
  · exact ⟨fun g => by rw [mem_membershipsOf, mem_memberships],
      pairwise_membershipsOf m e⟩
  · exact ext_isMember h h' (memberships_eq_iff.1 heq)

/-- A light leaves the ground to a wall and both leave their groups. Made
from the last to the first, the changes open a new group and fill the
ground before anybody has left. -/
theorem changes_patch_reversed :
    let light := ({} : Metadata).put (.layer "ground") "light" true
    let base := (light.put (.selectionGroup 1) "light" true).put
      (.selectionGroup 1) "wall" true
    let wall := ({} : Metadata).put (.layer "ground") "wall" true
    let other := wall.put (.selectionGroup 2) "light" true
    (base.changes other).length = 5
      ∧ base.patched (base.changes other).reverse = other
      ∧ base.answers (base.changes other).reverse
          = [.flag false, .flag false, .flag true, .flag true, .flag true]
      ∧ (base.put (.layer "ground") "light" false).memberships
          ≠ base.memberships
      ∧ .selectionGroup 1 ∈ base.membershipsOf "light"
      ∧ base ≠ other := by
  intro light base wall other
  have hlight : light.Pruned := pruned_put pruned_empty _ _ _
  have hbase : base.Pruned := pruned_put (pruned_put hlight _ _ _) _ _ _
  have hwall : wall.Pruned := pruned_put pruned_empty _ _ _
  have hother : other.Pruned := pruned_put hwall _ _ _
  obtain ⟨hpatch, hstep, hof, heq⟩ := changes_patch
  obtain ⟨-, hanswers, hresult⟩ :=
    hpatch base other _ (List.reverse_perm (base.changes other))
  refine ⟨by decide +kernel, hresult hbase hother, ?_, fun h => ?_, ?_, ?_⟩
  · rw [hanswers]
    rfl
  · obtain ⟨hpairs, -, -⟩ := hstep base hbase (.layer "ground") "light" false
    have hleft := (hpairs (.layer "ground", "light")).1 (h ▸ by decide +kernel)
    exact Bool.false_ne_true hleft
  · exact ((hof base hbase "light").1 _).2 (by decide +kernel)
  · rw [Ne, heq base other hbase hother]
    decide +kernel

end Metadata

end SceneMerge
