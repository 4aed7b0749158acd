/-
Every mutation is reversible: the edits it answers with lead back to the
scene it found (`reversible_make` and its siblings, one per mutation).

# Strays

A layer or group may list a name that no entity has (`Scene.Stray`).
Taking an inserted entity out again strips its name from every layer and
group, so if strays of that name were there before, they are gone
afterwards. Nothing else is ever lost on the way back. So the way back
starts out from any scene that is the one the mutation made but for
strays, and ends at one that is the one it found but for strays
(`Retraces`), and strays that the mutation left where they were are still
there. This is what goes on from one mutation to the next
(`Retraces.append`). Where members are entities (`Scene.WellFormed`) there
are no strays, and the way back is exact.

Leaving a layer and joining it again is the way back only if an emptied
layer is a layer that is gone, so no layer may be empty (`pruned`).

# What is built on this

Edits are mutations too, so the way back has a way back of its own:
replaying edits, however far that comes, collects edits that retrace it
(`Scene.Tidy.replay`, `Leads.retrace`). Rolling back, undoing and redoing
are all replays. There and back again, no strays are lost any more
(`Retraces.there_and_back`).
-/
import SceneMerge.Proofs.Content.Entity
import SceneMerge.Proofs.Content.Membership
import SceneMerge.Proofs.Scene.Mutation

namespace SceneMerge

/-- What a live scene starts out with and every mutation keeps. -/
structure Scene.Tidy (s : Scene) : Prop where
  /-- Entities are told apart by their names. -/
  distinct : s.names.Nodup
  /-- No layer and no group is empty. -/
  pruned : s.metadata.Pruned

/-- A membership of a name that no entity has. -/
def Scene.Stray (s : Scene) (g : Membership) (n : EntityName) : Prop :=
  s.contains n = false ∧ s.metadata.isMember g n = true

/-- A tidy scene without strays. -/
structure Scene.WellFormed (s : Scene) : Prop where
  /-- Entities are told apart by their names. -/
  distinct : s.names.Nodup
  /-- No layer and no group is empty. -/
  pruned : s.metadata.Pruned
  /-- Members are entities of the scene. -/
  listed : ∀ g n, s.metadata.isMember g n = true → s.contains n = true

/-- `u` is `s`, except that strays may be missing. -/
structure Scene.Trims (u s : Scene) : Prop where
  entities : u.entities = s.entities
  pruned : u.metadata.Pruned
  /-- Entities belong to the same layers and groups. -/
  members : ∀ g n, s.contains n = true →
    u.metadata.isMember g n = s.metadata.isMember g n
  /-- Nothing is listed that was not listed before. -/
  fewer : ∀ g n, u.metadata.isMember g n = true →
    s.metadata.isMember g n = true

/-- The edits can all be made in turn, from the one scene to the other. -/
inductive Leads : List Edit → Scene → Scene → Prop where
  | nil {s : Scene} : Leads [] s s
  | cons {edit : Edit} {rest : List Edit} {s t : Scene} {r : Edited Unit} :
      edit.make s = .ok r → Leads rest r.scene t → Leads (edit :: rest) s t

/-- The edits lead from `t` back to `s`, but for strays. -/
structure Retraces (edits : List Edit) (t s : Scene) : Prop where
  tidy : t.Tidy
  /-- On the way to `t` nothing became a stray. -/
  strays : ∀ g n, t.Stray g n → s.Stray g n
  back : ∀ u, u.Trims t → ∃ v, Leads edits u v ∧ v.Trims s
    ∧ ∀ g n, t.Stray g n → v.metadata.isMember g n = u.metadata.isMember g n

/-- A mutation keeps scenes tidy and answers with the way back. -/
def Mutation.Reversible {α : Type} (m : Mutation α) : Prop :=
  ∀ (s : Scene) (r : Edited α), s.Tidy → m s = .ok r →
    Retraces r.inverse r.scene s

namespace Leads

/-- One series of edits after the other leads all the way. -/
theorem append {edits edits' : List Edit} {s t u : Scene}
    (h : Leads edits s t) (h' : Leads edits' t u) :
    Leads (edits ++ edits') s u := by
  induction h with
  | nil => exact h'
  | cons hmake _ ih => exact .cons hmake (ih h')

/-- A series of one edit leads where the edit does. -/
theorem single {edit : Edit} {s t : Scene} {r : Edited Unit}
    (h : edit.make s = .ok r) (ht : r.scene = t) : Leads [edit] s t :=
  ht ▸ .cons h .nil

/-- No edit leads nowhere else. -/
theorem eq_of_nil {s t : Scene} (h : Leads [] s t) : s = t := by
  cases h
  rfl

end Leads

-- =============================================================== trimming

namespace Scene.Trims

variable {s t u : Scene}

/-- Nothing is missing of a scene from itself. -/
theorem refl (h : s.metadata.Pruned) : s.Trims s where
  entities := rfl
  pruned := h
  members _ _ _ := rfl
  fewer _ _ hm := hm

/-- Strays are names that no entity has, so the same entities are there. -/
theorem contains_eq (h : u.Trims s) (n : EntityName) :
    u.contains n = s.contains n := by
  rw [contains, contains, entity?, entity?, h.entities]

/-- Entities are found under the same names, stray or not. -/
theorem entity?_eq (h : u.Trims s) (n : EntityName) :
    u.entity? n = s.entity? n := by
  rw [entity?, entity?, h.entities]

/-- If the strays are there as well, nothing is missing. -/
theorem eq_of_strays (h : u.Trims s) (hs : s.metadata.Pruned)
    (hstray : ∀ g n, s.Stray g n → u.metadata.isMember g n = true) : u = s := by
  have hmetadata : u.metadata = s.metadata := by
    refine Metadata.ext_isMember h.pruned hs fun g n => ?_
    cases hn : s.contains n with
    | true => exact h.members g n hn
    | false =>
        rw [Bool.eq_iff_iff]
        exact ⟨h.fewer g n, fun hm => hstray g n ⟨hn, hm⟩⟩
  obtain ⟨entities, metadata⟩ := u
  obtain ⟨entities', metadata'⟩ := s
  cases h.entities
  cases hmetadata
  rfl

end Scene.Trims

-- ============================================================= retracing

namespace Retraces

variable {edits edits' : List Edit} {s t u : Scene}

/-- Where nothing was done the way back is to do nothing. -/
theorem nil (h : s.Tidy) : Retraces [] s s where
  tidy := h
  strays _ _ hs := hs
  back u hu := ⟨u, .nil, hu, fun _ _ _ => rfl⟩

/-- What was a stray at the end was one all along, so if neither way back
touches it, it is there after both. -/
theorem append (h : Retraces edits' u t) (h' : Retraces edits t s) :
    Retraces (edits' ++ edits) u s where
  tidy := h.tidy
  strays g n hu := h'.strays g n (h.strays g n hu)
  back x hx := by
    obtain ⟨y, hlead, hy, hkept⟩ := h.back x hx
    obtain ⟨z, hlead', hz, hkept'⟩ := h'.back y hy
    refine ⟨z, hlead.append hlead', hz, fun g n hu => ?_⟩
    rw [hkept' g n (h.strays g n hu), hkept g n hu]

/-- Where there are no strays the way back is exact. -/
theorem exact (h : Retraces edits t s) (hs : s.WellFormed) :
    t.WellFormed ∧ Leads edits t s := by
  have hnone : ∀ g n, ¬ s.Stray g n := by
    intro g n hstray
    have hc := hs.listed g n hstray.2
    rw [hstray.1] at hc
    cases hc
  refine ⟨⟨h.tidy.distinct, h.tidy.pruned, fun g n hm => ?_⟩, ?_⟩
  · cases hc : t.contains n with
    | true => rfl
    | false => exact absurd (h.strays g n ⟨hc, hm⟩) (hnone g n)
  · obtain ⟨v, hlead, hv, -⟩ := h.back t (.refl h.tidy.pruned)
    rwa [hv.eq_of_strays hs.pruned fun g n hstray => absurd hstray (hnone g n)]
      at hlead

end Retraces

/-- A scene without strays is tidy. -/
theorem Scene.WellFormed.tidy {s : Scene} (h : s.WellFormed) : s.Tidy :=
  ⟨h.distinct, h.pruned⟩

/-- In a scene without strays a mutation is taken back exactly. -/
theorem Mutation.Reversible.exact {α : Type} {m : Mutation α}
    (h : m.Reversible) {s : Scene} {r : Edited α} (hs : s.WellFormed)
    (hr : m s = .ok r) : r.scene.WellFormed ∧ Leads r.inverse r.scene s :=
  (h s r hs.tidy hr).exact hs

namespace Scene

variable {s : Scene}

-- ============================================================ well-formed

/-- Joining and leaving of an entity that is there keeps the scene well
formed. -/
theorem WellFormed.put (h : s.WellFormed) {n : EntityName}
    (hn : s.contains n = true) (g : Membership) (b : Bool) :
    ({ s with metadata := s.metadata.put g n b } : Scene).WellFormed where
  distinct := h.distinct
  pruned := Metadata.pruned_put h.pruned g n b
  listed := by
    intro g' n' hmem
    rw [Metadata.isMember_put] at hmem
    split at hmem
    · next heq => rw [heq.2]; exact hn
    · exact h.listed g' n' hmem

/-- Joining several memberships leaves no strays either, if the entity that joins is
there. -/
theorem WellFormed.join (h : s.WellFormed) {n : EntityName}
    (hn : s.contains n = true) (gs : List Membership) :
    ({ s with metadata := gs.foldl (·.put · n true) s.metadata } :
      Scene).WellFormed := by
  induction gs generalizing s with
  | nil => exact h
  | cons g gs ih => exact ih (h.put hn g true) hn

/-- Nobody lists a name that no entity has. -/
theorem WellFormed.not_listed (h : s.WellFormed) {n : EntityName}
    (hn : s.entity? n = none) (g : Membership) :
    s.metadata.isMember g n = false := by
  cases hm : s.metadata.isMember g n with
  | false => rfl
  | true =>
      have hc := h.listed g n hm
      rw [contains, hn] at hc
      cases hc

-- =========================================================== memberships

/-- An entity that is there joins one membership after the other. -/
theorem leads_join {n : EntityName} :
    ∀ (gs : List Membership) (s : Scene), s.contains n = true →
      Leads (gs.map (.setMember · n true)) s
        { s with metadata := gs.foldl (·.put · n true) s.metadata } := by
  intro gs
  induction gs with
  | nil => intro s _; exact .nil
  | cons g gs ih =>
      intro s hn
      exact .cons (forget_ok (setMember_ok_iff.2 ⟨hn, rfl⟩))
        (ih { s with metadata := s.metadata.put g n true } hn)

/-- Joining or leaving is taken back by doing to the membership what it was before. The
entity is there, so no stray is of its name, and strays of other names are not touched.
-/
theorem reversible_setMember (g : Membership) (n : EntityName) (b : Bool) :
    Mutation.Reversible (setMember g n b) := by
  intro s r h hr
  obtain ⟨hn, rfl⟩ := setMember_ok_iff.1 hr
  refine ⟨⟨h.distinct, Metadata.pruned_put h.pruned g n b⟩, ?_, ?_⟩
  · -- no stray comes of it: only the entity's own listing changes
    rintro g' x ⟨hx, hm⟩
    refine ⟨hx, ?_⟩
    rw [Metadata.isMember_put] at hm
    split at hm
    · next heq =>
        rw [heq.2] at hx
        exact absurd (hn.symm.trans hx) (by simp)
    · exact hm
  · intro u hu
    have hback : u.contains n = true := (hu.contains_eq n).trans hn
    refine ⟨{ u with metadata := u.metadata.put g n (s.metadata.isMember g n) },
      .single (forget_ok (setMember_ok_iff.2 ⟨hback, rfl⟩)) rfl,
      ⟨hu.entities, Metadata.pruned_put hu.pruned g n _, ?_, ?_⟩, ?_⟩
    · intro g' x hx
      have hm := hu.members g' x hx
      rw [Metadata.isMember_put] at hm ⊢
      split
      · next heq => rw [heq.1, heq.2]
      · next hne => rwa [if_neg hne] at hm
    · intro g' x hx
      have hm := hu.fewer g' x
      rw [Metadata.isMember_put] at hx hm
      split at hx
      · next heq => rwa [heq.1, heq.2]
      · next hne => rw [if_neg hne] at hm; exact hm hx
    · rintro g' x ⟨hx, -⟩
      rw [Metadata.isMember_put, if_neg]
      rintro ⟨-, rfl⟩
      exact absurd (hn.symm.trans hx) (by simp)

-- ============================================================== entities

section insertion

variable {e : Entity} {i : Nat} (hnone : s.entity? e.name = none)
  (hle : i ≤ s.entities.length)

include hnone hle

/-- Of other names the same are there as before. -/
theorem contains_insertIdx {x : EntityName} (hx : x ≠ e.name) :
    (⟨s.entities.insertIdx i e, s.metadata⟩ : Scene).contains x = s.contains x := by
  rw [contains, contains, entity?_insertIdx hnone hle, if_neg hx]

/-- The name that came in is no stray. -/
theorem Stray.ne_of_insertIdx {g : Membership} {x : EntityName}
    (hx : (⟨s.entities.insertIdx i e, s.metadata⟩ : Scene).Stray g x) : x ≠ e.name := by
  rintro rfl
  have hc := hx.1
  rw [contains, entity?_insertIdx hnone hle, if_pos rfl] at hc
  cases hc

/-- What came in is taken out again. -/
theorem Trims.without {u : Scene}
    (hu : u.Trims ⟨s.entities.insertIdx i e, s.metadata⟩) :
    (u.without e.name).Trims s := by
  have hposition : u.position e.name = i := by
    rw [← position_insertIdx (m := s.metadata) hnone hle, position, position, hu.entities]
  refine ⟨?_, Metadata.pruned_foldl_put _ false _ hu.pruned, fun g x hx => ?_, fun g x hx => ?_⟩
  · show u.entities.eraseIdx (u.position e.name) = s.entities
    rw [hposition, hu.entities, List.eraseIdx_insertIdx_self]
  · -- the name that came in was not there before
    have hne : x ≠ e.name := by
      rintro rfl
      rw [contains, hnone] at hx
      cases hx
    rw [Scene.without, Metadata.isMember_strip, if_neg hne]
    exact hu.members g x ((contains_insertIdx hnone hle hne).trans hx)
  · rw [Scene.without, Metadata.isMember_strip] at hx
    split at hx
    · cases hx
    · exact hu.fewer g x hx

end insertion

/-- Strays of the name that came in are strays no more, and are lost when
it is taken out again. -/
theorem reversible_insertEntityAt (i : Nat) (e : Entity) :
    Mutation.Reversible (insertEntityAt i e) := by
  intro s r h hr
  obtain ⟨hnone, hle, rfl⟩ := insertEntityAt_ok_iff.1 hr
  have hfound : (⟨s.entities.insertIdx i e, s.metadata⟩ : Scene).entity? e.name
      = some e := by
    rw [entity?_insertIdx hnone hle, if_pos rfl]
  refine ⟨⟨nodup_names_insertIdx h.distinct hnone hle, h.pruned⟩, fun g x hx => ?_,
    fun u hu => ?_⟩
  · have hne := hx.ne_of_insertIdx hnone hle
    exact ⟨(contains_insertIdx hnone hle hne).symm.trans hx.1, hx.2⟩
  · have hthere : u.entity? e.name = some e := (hu.entity?_eq _).trans hfound
    refine ⟨u.without e.name,
      .single (forget_ok (removeEntity_ok_iff.2 ⟨e, hthere, rfl⟩)) rfl,
      hu.without hnone hle, fun g x hx => ?_⟩
    rw [without, Metadata.isMember_strip, if_neg (hx.ne_of_insertIdx hnone hle)]

section removal

variable {n : EntityName} {e : Entity}

/-- Whoever is taken out is listed nowhere, and everyone else as before. -/
theorem isMember_without (g : Membership) (x : EntityName) :
    (s.without n).metadata.isMember g x = if x = n then false else s.metadata.isMember g x :=
  Metadata.isMember_strip s.metadata n x g

/-- Nobody lists the name that was taken out. -/
theorem Stray.ne_of_without {g : Membership} {x : EntityName} (hx : (s.without n).Stray g x) :
    x ≠ n := by
  rintro rfl
  have hm := hx.2
  rw [isMember_without, if_pos rfl] at hm
  cases hm

/-- Of other names the same are there as before. -/
theorem contains_without (h : s.Tidy) (he : s.entity? n = some e) {x : EntityName} (hx : x ≠ n) :
    (s.without n).contains x = s.contains x := by
  rw [contains, contains, entity?_without h.distinct he, if_neg hx]

/-- Put back where it stood, an entity completes the list that it was taken from,
whatever strays are missing by then. -/
theorem Trims.insertIdx_position (he : s.entity? n = some e) {u : Scene}
    (hu : u.Trims (s.without n)) : u.entities.insertIdx (s.position n) e = s.entities := by
  rw [hu.entities]
  exact insertIdx_eraseIdx_position he

/-- What was taken out comes in again where it stood, and rejoins what it
left. -/
theorem Trims.rejoined (h : s.Tidy) (he : s.entity? n = some e) {u : Scene}
    (hu : u.Trims (s.without n)) :
    (⟨u.entities.insertIdx (s.position n) e,
      (s.metadata.membershipsOf n).reverse.foldl (·.put · n true) u.metadata⟩ : Scene).Trims s := by
  refine ⟨hu.insertIdx_position he, Metadata.pruned_foldl_put n true _ hu.pruned,
    fun g x hx => ?_, fun g x hx => ?_⟩
  · have hunlisted : u.metadata.isMember g n = false := by
      refine Bool.eq_false_iff.2 fun hm => ?_
      have hlisted := hu.fewer g n hm
      rw [isMember_without, if_pos rfl] at hlisted
      cases hlisted
    rw [Metadata.isMember_foldl_put]
    -- the entity that came back is listed in exactly what it left, since it was listed
    -- nowhere in between; everyone else is listed as before
    by_cases hne : x = n
    · subst hne
      cases hm : s.metadata.isMember g x <;> simp [hm, hunlisted]
    · rw [if_neg fun hin => hne hin.2,
        hu.members g x ((contains_without h he hne).trans hx), isMember_without, if_neg hne]
  · rw [Metadata.isMember_foldl_put] at hx
    split at hx
    · next hin =>
        rw [hin.2]
        simpa using hin.1
    · have hm := hu.fewer g x hx
      rw [isMember_without] at hm
      split at hm
      · cases hm
      · exact hm

end removal

/-- The entity comes in again where it stood, and rejoins what it left.
Nobody lists its name in between. -/
theorem reversible_removeEntity (n : EntityName) :
    Mutation.Reversible (removeEntity n) := by
  intro s r h hr
  obtain ⟨e, he, rfl⟩ := removeEntity_ok_iff.1 hr
  have hgone : (s.without n).entity? n = none := by
    rw [entity?_without h.distinct he, if_pos rfl]
  refine ⟨⟨nodup_names_without h.distinct,
    Metadata.pruned_foldl_put n false _ h.pruned⟩, fun g x hx => ?_, fun u hu => ?_⟩
  · have hne := hx.ne_of_without
    have hm := hx.2
    rw [isMember_without, if_neg hne] at hm
    exact ⟨(contains_without h he hne).symm.trans hx.1, hm⟩
  · have hroom : s.position n ≤ u.entities.length := by
      rw [hu.entities]
      exact position_le_without he
    have hfree : u.entity? e.name = none := by
      rw [entity?_name he, hu.entity?_eq]
      exact hgone
    have hjoin := leads_join (n := n) (s.metadata.membershipsOf n).reverse
      ⟨s.entities, u.metadata⟩ (contains_iff_entity?.2 ⟨e, he⟩)
    rw [← hu.insertIdx_position he] at hjoin
    refine ⟨_, .cons (insertEntityAt_ok_iff.2 ⟨hfree, hroom, rfl⟩) hjoin,
      hu.rejoined h he, fun g x hx => ?_⟩
    rw [Metadata.isMember_foldl_put, if_neg fun hin => hx.ne_of_without hin.2]

/-- Taking an entity out leaves a scene without strays. -/
theorem WellFormed.without (h : s.WellFormed) {n : EntityName} {e : Entity}
    (he : s.entity? n = some e) : (s.without n).WellFormed :=
  ((reversible_removeEntity n).exact h (removeEntity_ok_iff.2 ⟨e, he, rfl⟩)).1

-- ================================================================= parts

/-- A mutation of one entity that keeps its name, with an edit as its way
back that puts the entity back as it was. -/
private theorem retraces_part (h : s.Tidy) {n : EntityName} {e : Entity}
    (e' : Entity) (he : s.entity? n = some e) (hname : e'.name = e.name)
    {edit : Edit}
    (hback : ∀ t : Scene, t.entity? n = some e' →
      ∃ r, edit.make t = .ok r ∧ r.scene = t.setEntity n e) :
    Retraces [edit] (s.setEntity n e') s := by
  have hn : e'.name = n := hname.trans (entity?_name he)
  have hnames : (s.setEntity n e').names = s.names := names_setEntity he hn
  have hcontains := contains_congr hnames
  have hfound : (s.setEntity n e').entity? n = some e' := by
    rw [entity?_setEntity he hn, if_pos rfl]
  refine ⟨⟨hnames ▸ h.distinct, h.pruned⟩, ?_, ?_⟩
  · intro g x hx
    exact ⟨(hcontains x).symm.trans hx.1, hx.2⟩
  · intro u hu
    obtain ⟨r, hmake, hscene⟩ := hback u ((hu.entity?_eq n).trans hfound)
    refine ⟨u.setEntity n e, .single hmake hscene, ⟨?_, hu.pruned, ?_, hu.fewer⟩,
      fun _ _ _ => rfl⟩
    · -- the entity as it was takes the place of the changed one, which has its name
      have hputback : (s.setEntity n e').setEntity n e = s := by
        rw [setEntity_setEntity he hn, setEntity_self he]
      calc (u.setEntity n e).entities
          = ((s.setEntity n e').setEntity n e).entities := by
            rw [setEntity, setEntity, position, position, hu.entities]
        _ = s.entities := congrArg Scene.entities hputback
    · exact fun g x hx => hu.members g x ((hcontains x).trans hx)

/-- Setting a value is taken back by setting the earlier one, or by removing the key if
there was none. -/
theorem reversible_setValue (n : EntityName) (key value : String) :
    Mutation.Reversible (setValue n key value) := by
  intro s r h hr
  obtain ⟨e, he, rfl⟩ := setValue_ok_iff.1 hr
  refine retraces_part h (e.withKeyValue key value) he rfl fun t ht => ?_
  cases hv : e.value? key with
  | none =>
      have hkey : (e.withKeyValue key value).value? key = some value := by
        rw [Entity.value?_withKeyValue, if_pos rfl]
      refine ⟨_, forget_ok (removeValue_ok_iff.2 ⟨_, value, ht, hkey, rfl⟩), ?_⟩
      rw [Entity.erase_withKeyValue hv]
  | some old =>
      refine ⟨_, forget_ok (setValue_ok_iff.2 ⟨_, ht, rfl⟩), ?_⟩
      rw [Entity.withKeyValue_withKeyValue hv]

/-- Removing a value is taken back by setting it. -/
theorem reversible_removeValue (n : EntityName) (key : String) :
    Mutation.Reversible (removeValue n key) := by
  intro s r h hr
  obtain ⟨e, old, he, hv, rfl⟩ := removeValue_ok_iff.1 hr
  refine retraces_part h { e with keyValues := e.keyValues.erase key } he rfl
    fun t ht => ?_
  refine ⟨_, forget_ok (setValue_ok_iff.2 ⟨_, ht, rfl⟩), ?_⟩
  rw [Entity.withKeyValue_erase hv]

/-- Inserting a child is taken back by removing the one at that position. -/
theorem reversible_insertChildAt (n : EntityName) (i : Nat)
    (child : ChildNode) : Mutation.Reversible (insertChildAt n i child) := by
  intro s r h hr
  obtain ⟨e, he, hi, rfl⟩ := insertChildAt_ok_iff.1 hr
  refine retraces_part h { e with children := e.children.insertIdx i child }
    he rfl fun t ht => ?_
  have hget : (e.children.insertIdx i child)[i]? = some child := by
    rw [List.getElem?_insertIdx_self, if_pos hi]
  refine ⟨_, forget_ok (removeChildAt_ok_iff.2 ⟨_, child, ht, hget, rfl⟩), ?_⟩
  simp only [List.eraseIdx_insertIdx_self]

/-- Removing the child at a position is taken back by inserting it there. -/
theorem reversible_removeChildAt (n : EntityName) (i : Nat) :
    Mutation.Reversible (removeChildAt n i) := by
  intro s r h hr
  obtain ⟨e, child, he, hget, rfl⟩ := removeChildAt_ok_iff.1 hr
  refine retraces_part h { e with children := e.children.eraseIdx i } he rfl
    fun t ht => ?_
  obtain ⟨hi, hchild⟩ := List.getElem?_eq_some_iff.1 hget
  have hback : (e.children.eraseIdx i).insertIdx i child = e.children := by
    rw [← hchild]
    exact List.insertIdx_eraseIdx_getElem hi
  have hlen : i ≤ (e.children.eraseIdx i).length := by
    rw [List.length_eraseIdx_of_lt hi]
    omega
  refine ⟨_, insertChildAt_ok_iff.2 ⟨_, ht, hlen, rfl⟩, ?_⟩
  simp only [hback]

/-- Removing a child by its fingerprint is removing the last one of that fingerprint,
wherever it is. -/
theorem reversible_removeChild (n : EntityName) (f : Fingerprint) :
    Mutation.Reversible (removeChild n f) := by
  intro s r h hr
  obtain ⟨-, i, r', -, -, hat, rfl⟩ := removeChild_ok_iff.1 hr
  exact reversible_removeChildAt n i s r' h hat

end Scene

-- ================================================================= edits

/-- Forgetting the answer of a mutation changes nothing about the way
back. -/
theorem Mutation.Reversible.forget {α : Type} {m : Mutation α}
    (h : m.Reversible) :
    Mutation.Reversible fun s =>
      (m s).map fun r => ({ r with result := () } : Edited Unit) := by
  intro s r hs hr
  obtain ⟨r', hm, rfl⟩ := of_forget_ok hr
  exact h s r' hs hm

/-- Edits are mutations, so every edit is reversible. It is what makes undoing undone in
turn. -/
theorem reversible_make (edit : Edit) : Mutation.Reversible edit.make := by
  cases edit with
  | insertEntity i e => exact Scene.reversible_insertEntityAt i e
  | removeEntity n => exact .forget (Scene.reversible_removeEntity n)
  | setValue n key value => exact .forget (Scene.reversible_setValue n key value)
  | removeValue n key => exact .forget (Scene.reversible_removeValue n key)
  | insertChild n i child => exact Scene.reversible_insertChildAt n i child
  | removeChild n i => exact .forget (Scene.reversible_removeChildAt n i)
  | setMember g n b => exact .forget (Scene.reversible_setMember g n b)

-- ================================================================ replay

/-- However far a replay comes, what it collects retraces it. -/
theorem Scene.Tidy.replay {s : Scene} (h : s.Tidy) (edits : List Edit) :
    ∃ t back error?, Retraces back t s
      ∧ ∀ inverse, s.replay inverse edits = ⟨t, back ++ inverse, error?⟩ := by
  induction edits generalizing s with
  | nil => exact ⟨s, [], none, .nil h, fun _ => rfl⟩
  | cons edit rest ih =>
      -- the first edit may not be possible, and then the replay stops where it is, with
      -- nothing collected beyond that
      cases hmake : edit.make s with
      | error e =>
          refine ⟨s, [], some e, .nil h, fun inverse => ?_⟩
          rw [Scene.replay, hmake]
          rfl
      | ok r =>
          have hr := reversible_make edit s r h hmake
          obtain ⟨t, back, error?, hback, hreplay⟩ := ih hr.tidy
          refine ⟨t, back ++ r.inverse, error?, hback.append hr,
            fun inverse => ?_⟩
          rw [Scene.replay, hmake]
          simp only [hreplay, List.append_assoc]

/-- Edits that can all be made are replayed to the end. -/
theorem Leads.replay {edits : List Edit} {s t : Scene} (h : Leads edits s t) :
    ∃ back, ∀ inverse, s.replay inverse edits = ⟨t, back ++ inverse, none⟩ := by
  induction h with
  | nil => exact ⟨[], fun _ => rfl⟩
  | @cons edit rest s t r hmake _ ih =>
      obtain ⟨back, hreplay⟩ := ih
      refine ⟨back ++ r.inverse, fun inverse => ?_⟩
      rw [Scene.replay, hmake]
      simp only [hreplay, List.append_assoc]

/-- What is collected on the way retraces it. -/
theorem Leads.retrace {edits : List Edit} {s t : Scene} (h : Leads edits s t)
    (hs : s.Tidy) :
    ∃ back, Retraces back t s
      ∧ ∀ inverse, s.replay inverse edits = ⟨t, back ++ inverse, none⟩ := by
  obtain ⟨back, hreplay⟩ := h.replay
  obtain ⟨t', back', error?, hretraces, hreplay'⟩ := hs.replay edits
  have heq := (hreplay' []).symm.trans (hreplay [])
  simp only [List.append_nil, Replayed.mk.injEq] at heq
  obtain ⟨rfl, rfl, -⟩ := heq
  exact ⟨back', hretraces, hreplay⟩

/-- Without strays, what is collected leads back. -/
theorem Leads.reverse {edits : List Edit} {s t : Scene}
    (h : Leads edits s t) (hs : s.WellFormed) :
    t.WellFormed ∧ ∃ back, Leads back t s
      ∧ ∀ inverse, s.replay inverse edits = ⟨t, back ++ inverse, none⟩ := by
  obtain ⟨back, hretraces, hreplay⟩ := h.retrace hs.tidy
  obtain ⟨ht, hback⟩ := hretraces.exact hs
  exact ⟨ht, back, hback, hreplay⟩

/-- The way back is replayed to the end. Strays that were there when it
began are there when it ends, and no others; so from then on nothing can
be lost, and what was collected leads exactly to where it began. -/
theorem Retraces.there_and_back {edits : List Edit} {s t : Scene}
    (h : Retraces edits t s) :
    ∃ v back, v.Trims s ∧ (∀ g n, v.Stray g n ↔ t.Stray g n)
      ∧ (∀ inverse, t.replay inverse edits = ⟨v, back ++ inverse, none⟩)
      ∧ ∃ forth, ∀ inverse,
          v.replay inverse back = ⟨t, forth ++ inverse, none⟩ := by
  obtain ⟨v, hlead, hv, hkept⟩ := h.back t (.refl h.tidy.pruned)
  obtain ⟨back, hretraces, hreplay⟩ := hlead.retrace h.tidy
  -- back at `v` the strays are those of `t`: none came up on the way there, and none
  -- was lost on the way back
  have hstray : ∀ g n, v.Stray g n ↔ t.Stray g n := by
    refine fun g n => ⟨hretraces.strays g n, fun ht => ⟨?_, ?_⟩⟩
    · rw [hv.contains_eq]
      exact (h.strays g n ht).1
    · rw [hkept g n ht]
      exact ht.2
  refine ⟨v, back, hv, hstray, hreplay, ?_⟩
  obtain ⟨w, hlead', hw, hkept'⟩ := hretraces.back v (.refl hretraces.tidy.pruned)
  -- hence the way forth ends at `t` itself, and not at `t` but for strays
  have hsame : w = t := by
    refine hw.eq_of_strays h.tidy.pruned fun g n ht => ?_
    have hlisted := (hstray g n).2 ht
    rw [hkept' g n hlisted]
    exact hlisted.2
  rw [hsame] at hlead'
  exact hlead'.replay

end SceneMerge
