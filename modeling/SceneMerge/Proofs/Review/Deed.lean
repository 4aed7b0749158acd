/-
What an action of a merge does to the one entity that it is about, apart
from scenes and transactions. A `Deed` is made on what is there under its
name, an entity or none, and may be impossible (`Deed.make`).

# Plans

The deeds that a merge proposes for one entity make a `Plan`: a single deed
for the entity as a whole, or deeds on its parts that fit it (`Fits`). They
fit if no key is written twice, what is to be erased is there, and no more
children of a fingerprint are to be removed than there are.

A plan carries over to any of its deeds in any order. Each deed uses up of
the entity only what no other one needs (`Fits.exists_make`), so a part of
a plan is possible, whatever the order (`Plan.possible`). And what comes of
it is told by the deeds that were made, not by their order (`Worked`), up to
the order of children (`Plan.alike`).
-/
import SceneMerge.Proofs.Review.Merged

namespace SceneMerge

inductive Deed where
  | insert (e : Entity)
  /-- Puts the entity where one of its name may be. -/
  | replace (e : Entity)
  | remove (n : EntityName)
  /-- Without a value the key is erased. -/
  | setKey (n : EntityName) (key : String) (value? : Option String)
  | addChild (n : EntityName) (node : ChildNode)
  | removeChild (n : EntityName) (f : Fingerprint)
deriving DecidableEq

namespace Deed

/-- The name of the entity that it is about. -/
def name : Deed → EntityName
  | insert e | replace e => e.name
  | remove n | setKey n _ _ | addChild n _ | removeChild n _ => n

/-- Whether it is about a part of an entity. -/
def isPart : Deed → Bool
  | insert _ | replace _ | remove _ => false
  | setKey .. | addChild .. | removeChild .. => true

/-- The key that it writes. -/
def key? : Deed → Option String
  | setKey _ key _ => some key
  | _ => none

def adds (f : Fingerprint) : Deed → Bool
  | addChild _ node => node.fingerprint == f
  | _ => false

def removes (f : Fingerprint) : Deed → Bool
  | removeChild _ f' => f' == f
  | _ => false

/-- What is there afterwards, if it is possible where `e?` is there. -/
def make : Deed → Option Entity → Option (Option Entity)
  | insert e, none => some (some e)
  | insert _, some _ => none
  | replace e, _ => some (some e)
  | remove _, e? => e?.map fun _ => none
  | setKey _ key (some value), e? => e?.map fun e => some (e.withKeyValue key value)
  | setKey _ key none, e? =>
      (e?.filter fun e => (e.value? key).isSome).map fun e =>
        some { e with keyValues := e.keyValues.erase key }
  | addChild _ node, e? => e?.map fun e => some (e.withChild node)
  | removeChild _ f, e? =>
      e?.bind fun e => (Scene.lastIdx? (·.fingerprint == f) e.children).map fun i =>
        some { e with children := e.children.eraseIdx i }

/-- What is there after one deed and the next, if all are possible. -/
def makeAll : List Deed → Option Entity → Option (Option Entity)
  | [], e? => some e?
  | d :: ds, e? => (d.make e?).bind (makeAll ds)

/-- Deeds in two series are made one series after the other. -/
theorem makeAll_append (ds ds' : List Deed) (e? : Option Entity) :
    makeAll (ds ++ ds') e? = (makeAll ds e?).bind (makeAll ds') := by
  induction ds generalizing e? with
  | nil => rfl
  | cons d ds ih =>
      rw [List.cons_append, makeAll, makeAll]
      cases d.make e? with
      | none => rfl
      | some e?' => exact ih e?'

/-- An insertion needs the place to be free. -/
theorem make_insert {e : Entity} {e? e?' : Option Entity} :
    (insert e).make e? = some e?' ↔ e? = none ∧ e?' = some e := by
  cases e? with
  | none => simp [make, eq_comm]
  | some e => simp [make]

/-- Only a removal leaves nothing. -/
theorem isSome_of_make {d : Deed} {e? e?' : Option Entity}
    (h : d.make e? = some e?') (hd : ∀ n, d ≠ .remove n) : e?'.isSome := by
  cases d with
  | insert e => rw [(make_insert.1 h).2]; rfl
  | replace e => cases h; rfl
  | remove n => exact absurd rfl (hd n)
  | setKey n key value? =>
      cases value? with
      | none => obtain ⟨e, -, rfl⟩ := Option.map_eq_some_iff.1 h; rfl
      | some value => obtain ⟨e, -, rfl⟩ := Option.map_eq_some_iff.1 h; rfl
  | addChild n node => obtain ⟨e, -, rfl⟩ := Option.map_eq_some_iff.1 h; rfl
  | removeChild n f =>
      obtain ⟨e, -, h⟩ := Option.bind_eq_some_iff.1 h
      obtain ⟨i, -, rfl⟩ := Option.map_eq_some_iff.1 h
      rfl

/-- A part is a part of something. -/
theorem exists_of_make {d : Deed} {e? e?' : Option Entity} (hd : d.isPart = true)
    (h : d.make e? = some e?') : ∃ e, e? = some e := by
  cases e? with
  | some e => exact ⟨e, rfl⟩
  | none =>
      cases d with
      | insert | replace | remove => cases hd
      | setKey n key value? => cases value? <;> cases h
      | addChild | removeChild => cases h

end Deed

open Deed

-- ================================================================== parts

variable {t e e' : Entity} {d : Deed} {ds ds' : List Deed}

/-- The deeds are about parts of `t`, and there is what they need. -/
structure Fits (t : Entity) (ds : List Deed) : Prop where
  parts : ∀ d ∈ ds, d.isPart = true
  keys : (ds.filterMap key?).Nodup
  there : ∀ n key, setKey n key none ∈ ds → t.value? key ≠ none
  enough : ∀ f, ds.countP (removes f) ≤ t.fingerprints.count f

/-- `e` is `t` with the deeds on its parts made. -/
structure Worked (t : Entity) (ds : List Deed) (e : Entity) : Prop where
  name : e.name = t.name
  written : ∀ n key value?, setKey n key value? ∈ ds → e.value? key = value?
  kept : ∀ key, key ∉ ds.filterMap key? → e.value? key = t.value? key
  counted : ∀ f, e.fingerprints.count f + ds.countP (removes f)
    = t.fingerprints.count f + ds.countP (adds f)

/-- A key is among those written if some deed writes it, whatever it writes. -/
theorem mem_keys {key : String} :
    key ∈ ds.filterMap key? ↔ ∃ n value?, setKey n key value? ∈ ds := by
  rw [List.mem_filterMap]
  constructor
  · rintro ⟨d, hd, hk⟩
    cases d with
    | setKey n key' value? => cases hk; exact ⟨n, value?, hd⟩
    | _ => cases hk
  · rintro ⟨n, value?, hd⟩
    exact ⟨_, hd, rfl⟩

/-- To do nothing fits everything. -/
theorem fits_nil (t : Entity) : Fits t [] where
  parts := by simp
  keys := .nil
  there := by simp
  enough f := Nat.zero_le _

/-- Some of the deeds need no more than all of them. -/
theorem Fits.subperm (h : Fits t ds) (hsub : ds'.Subperm ds) : Fits t ds' where
  parts d hd := h.parts d (hsub.subset hd)
  keys := by
    obtain ⟨ds₁, hperm, hsub⟩ := hsub
    exact (hperm.filterMap key?).nodup_iff.1 (h.keys.sublist (hsub.filterMap key?))
  there n key hd := h.there n key (hsub.subset hd)
  enough f := Nat.le_trans (hsub.countP_le (removes f)) (h.enough f)

namespace Worked

/-- Where no deed was made the entity is as it was. -/
theorem nil (t : Entity) : Worked t [] t where
  name := rfl
  written := by simp
  kept _ _ := rfl
  counted _ := rfl

/-- The one key that is written holds the value, and children are as before. -/
theorem setKey (t : Entity) (n : EntityName) (key value : String) :
    Worked t [.setKey n key (some value)] (t.withKeyValue key value) where
  name := rfl
  written := by
    rintro _ key' value? hd
    cases List.mem_singleton.1 hd
    rw [Entity.value?_withKeyValue, if_pos rfl]
  kept key' hkey := by
    rw [Entity.value?_withKeyValue, if_neg fun h => hkey (by simp [key?, h])]
  counted _ := rfl

/-- The one key that is erased is gone. -/
theorem eraseKey (t : Entity) (n : EntityName) (key : String) :
    Worked t [.setKey n key none] { t with keyValues := t.keyValues.erase key } where
  name := rfl
  written := by
    rintro _ key' value? hd
    cases List.mem_singleton.1 hd
    rw [Entity.value?_erase, if_pos rfl]
  kept key' hkey := by
    rw [Entity.value?_erase, if_neg fun h => hkey (by simp [key?, h])]
  counted _ := rfl

/-- One child more of that fingerprint. -/
theorem addChild (t : Entity) (n : EntityName) (node : ChildNode) :
    Worked t [.addChild n node] (t.withChild node) where
  name := rfl
  written := by simp
  kept _ _ := rfl
  counted f := by
    have hmore : (t.withChild node).fingerprints
        = t.fingerprints ++ [node.fingerprint] := List.map_append
    rw [hmore, List.count_append, List.count_singleton]
    simp [removes, adds]

/-- One less, if the child that goes has that fingerprint. -/
theorem removeChild {t : Entity} (n : EntityName) {i : Nat} {f : Fingerprint}
    (hi : i < t.children.length) (hf : t.children[i].fingerprint = f) :
    Worked t [.removeChild n f] { t with children := t.children.eraseIdx i } where
  name := rfl
  written := by simp
  kept _ _ := rfl
  counted f' := by
    have hperm := (List.getElem_cons_eraseIdx_perm hi).map ChildNode.fingerprint
    rw [List.map_cons, hf] at hperm
    have hcount := hperm.count_eq f'
    rw [List.count_cons] at hcount
    simpa [removes, adds, Entity.fingerprints] using hcount

/-- Deeds that write different keys add up. -/
theorem append (h : Worked t ds e) (h' : Worked e ds' e')
    (hkeys : (ds.filterMap key?).Disjoint (ds'.filterMap key?)) :
    Worked t (ds ++ ds') e' where
  name := h'.name.trans h.name
  -- what the first deeds wrote the later ones leave alone, since their keys differ
  written n key value? hd := by
    rcases List.mem_append.1 hd with hd | hd
    · rw [h'.kept key (hkeys (mem_keys.2 ⟨n, value?, hd⟩))]
      exact h.written n key value? hd
    · exact h'.written n key value? hd
  kept key hkey := by
    rw [List.filterMap_append, List.mem_append, not_or] at hkey
    rw [h'.kept key hkey.2, h.kept key hkey.1]
  counted f := by
    have hfirst := h.counted f
    have hrest := h'.counted f
    rw [List.countP_append, List.countP_append]
    omega

/-- The order in which the deeds were made is that of children at most. -/
theorem semanticallyEqual (h : Worked t ds e) (h' : Worked t ds' e')
    (hperm : ds.Perm ds') : e.semanticallyEqual e' = true := by
  refine Entity.semanticallyEqual_iff.2 ⟨h.name.trans h'.name.symm, ?_, ?_⟩
  · refine Std.ExtTreeMap.ext_getElem? fun {key} => ?_
    show e.value? key = e'.value? key
    -- a key holds what was written to it, or what it held before
    by_cases hkey : key ∈ ds.filterMap key?
    · obtain ⟨n, value?, hd⟩ := mem_keys.1 hkey
      rw [h.written n key value? hd, h'.written n key value? (hperm.mem_iff.1 hd)]
    · have hkey' : key ∉ ds'.filterMap key? :=
        mt (hperm.filterMap key?).mem_iff.2 hkey
      rw [h.kept key hkey, h'.kept key hkey']
  · refine List.perm_iff_count.2 fun f => ?_
    have hc := h.counted f
    have hc' := h'.counted f
    rw [hperm.countP_eq, hperm.countP_eq] at hc
    omega

end Worked

/-- A deed on a part is possible where there is what it needs. -/
theorem exists_make (hpart : d.isPart = true)
    (hthere : ∀ n key, d = setKey n key none → t.value? key ≠ none)
    (henough : ∀ f, d.removes f = true → f ∈ t.fingerprints) :
    ∃ e, d.make (some t) = some (some e) ∧ Worked t [d] e := by
  -- for each kind of part: what it asks for, and what comes of it
  cases d with
  | insert | replace | remove => cases hpart
  | setKey n key value? =>
      cases value? with
      | some value => exact ⟨_, rfl, .setKey t n key value⟩
      | none =>
          have hsome := Option.isSome_iff_ne_none.2 (hthere n key rfl)
          exact ⟨_, by simp [make, hsome], .eraseKey t n key⟩
  | addChild n node => exact ⟨_, rfl, .addChild t n node⟩
  | removeChild n f =>
      have hf : f ∈ t.fingerprints := henough f (beq_self_eq_true f)
      obtain ⟨node, hnode, rfl⟩ := List.mem_map.1 hf
      obtain ⟨i, hlast, hi, hp⟩ := Scene.exists_lastIdx
        (p := (·.fingerprint == node.fingerprint)) hnode (by simp)
      exact ⟨_, by simp [make, hlast], .removeChild n hi (eq_of_beq hp)⟩

/-- The first of the deeds is possible, and leaves what the others need. -/
theorem Fits.exists_make (h : Fits t (d :: ds)) :
    ∃ e, d.make (some t) = some (some e) ∧ Worked t [d] e ∧ Fits e ds := by
  obtain ⟨e, hmake, hworked⟩ := SceneMerge.exists_make
    (h.parts d List.mem_cons_self)
    (fun n key hd => h.there n key (hd ▸ List.mem_cons_self)) fun f hf => by
      have := h.enough f
      rw [List.countP_cons_of_pos hf] at this
      exact List.count_pos_iff.1 (by omega)
  -- what the others need is still there: the first deed wrote another key than any that
  -- is to be erased, and took no child that was spoken for
  refine ⟨e, hmake, hworked, ?_, ?_, ?_, ?_⟩
  · exact fun d' hd' => h.parts d' (List.mem_cons_of_mem _ hd')
  · exact h.keys.sublist ((List.sublist_cons_self d ds).filterMap key?)
  · intro n key hd
    have hfresh : key ∉ [d].filterMap key? := by
      intro hkey
      have hkeys := h.keys
      rw [← List.singleton_append, List.filterMap_append] at hkeys
      exact List.disjoint_of_nodup_append hkeys hkey (mem_keys.2 ⟨n, none, hd⟩)
    rw [hworked.kept key hfresh]
    exact h.there n key (List.mem_cons_of_mem _ hd)
  · intro f
    have henough := h.enough f
    have hcounted := hworked.counted f
    rw [← List.singleton_append, List.countP_append] at henough
    omega

/-- Deeds that fit are all possible, one after the other. -/
theorem Fits.makeAll (h : Fits t ds) :
    ∃ e, makeAll ds (some t) = some (some e) ∧ Worked t ds e := by
  induction ds generalizing t with
  | nil => exact ⟨t, rfl, .nil t⟩
  | cons d ds ih =>
      obtain ⟨e₁, hmake, hworked, hfits⟩ := h.exists_make
      obtain ⟨e, hall, hrest⟩ := ih hfits
      have hkeys := h.keys
      rw [← List.singleton_append, List.filterMap_append] at hkeys
      refine ⟨e, ?_, hworked.append hrest (List.disjoint_of_nodup_append hkeys)⟩
      rw [Deed.makeAll, hmake]
      exact hall

-- ================================================================== plans

/-- Whether an entity is there is the same on both sides. -/
theorem Alike.isSome_eq {e? e?' : Option Entity} (h : Alike e? e?') :
    e?.isSome = e?'.isSome := by
  cases h <;> rfl

/-- Whatever is there is like itself. -/
theorem Alike.refl (e? : Option Entity) : Alike e? e? := by
  cases e? with
  | none => exact .none
  | some e => exact .some (Entity.semanticallyEqual_iff.2 ⟨rfl, rfl, .refl _⟩)

/-- What is there on one side is there on the other, up to the order of children. -/
theorem Alike.exists_of_some {e? e?' : Option Entity} {e : Entity} (h : Alike e? e?')
    (he : e? = some e) : ∃ e', e?' = some e' ∧ e.semanticallyEqual e' = true := by
  subst he
  cases h with
  | some h => exact ⟨_, rfl, h⟩

/-- Likeness is as good as equality to compare by. -/
theorem alike_equivalence : Equivalence Alike where
  refl := .refl
  symm := by
    rintro _ _ (h | _)
    · exact .some (Entity.semanticallyEqual_symm h)
    · exact .none
  trans := by
    rintro _ _ _ (h | _) (h' | _)
    · exact .some (Entity.semanticallyEqual_trans h h')
    · exact .none

/-- What may be proposed to be done where `t?` is there. -/
inductive Plan : Option Entity → List Deed → Prop where
  | nothing : Plan none []
  | insert (e : Entity) : Plan none [.insert e]
  | replace (t e : Entity) : Plan (some t) [.replace e]
  | remove (t : Entity) : Plan (some t) [.remove t.name]
  | parts {t : Entity} {ds : List Deed} : Fits t ds → Plan (some t) ds

namespace Plan

variable {t? e? e?' : Option Entity} {done done' : List Deed}

/-- To do nothing is a plan for whatever is there. -/
theorem nil (t? : Option Entity) : Plan t? [] := by
  cases t? with
  | none => exact .nothing
  | some t => exact .parts (fits_nil t)

/-- Of a single deed there is all or nothing. -/
private theorem subperm_singleton (h : done.Subperm [d]) :
    done = [] ∨ done = [d] := by
  obtain ⟨ds, hperm, hsub⟩ := h
  rcases List.sublist_singleton.1 hsub with rfl | rfl
  · exact .inl (List.nil_perm.1 hperm)
  · exact .inr (List.singleton_perm.1 hperm).symm

/-- Some of the deeds are possible, in whatever order. -/
theorem possible (h : Plan t? ds) (hsub : done.Subperm ds) :
    ∃ e?, makeAll done t? = some e? := by
  cases h with
  | nothing =>
      cases List.subperm_nil.1 hsub
      exact ⟨_, rfl⟩
  | insert | replace | remove =>
      rcases subperm_singleton hsub with rfl | rfl
      · exact ⟨_, rfl⟩
      · exact ⟨_, rfl⟩
  | parts hfits =>
      obtain ⟨e, hall, -⟩ := (hfits.subperm hsub).makeAll
      exact ⟨_, hall⟩

/-- What comes of them is told by which they are. -/
theorem alike (h : Plan t? ds) (hsub : done.Subperm ds) (hperm : done.Perm done')
    (hdone : makeAll done t? = some e?) (hdone' : makeAll done' t? = some e?') :
    Alike e? e?' := by
  have hsame : done = done' → Alike e? e?' := by
    rintro rfl
    cases hdone.symm.trans hdone'
    exact .refl e?
  -- a single deed, made or not, and then there is nothing to reorder; or deeds on
  -- parts, which add up
  cases h with
  | nothing =>
      cases List.subperm_nil.1 hsub
      exact hsame (List.nil_perm.1 hperm).symm
  | insert | replace | remove =>
      rcases subperm_singleton hsub with rfl | rfl
      · exact hsame (List.nil_perm.1 hperm).symm
      · exact hsame (List.singleton_perm.1 hperm)
  | parts hfits =>
      obtain ⟨e, hall, hworked⟩ := (hfits.subperm hsub).makeAll
      obtain ⟨e', hall', hworked'⟩ :=
        (hfits.subperm (hperm.subperm_right.1 hsub)).makeAll
      cases hdone.symm.trans hall
      cases hdone'.symm.trans hall'
      exact .some (hworked.semanticallyEqual hworked' hperm)

/-- Once the entity is removed, none is there. -/
theorem removed (h : Plan t? ds) (hsub : done.Subperm ds) {n : EntityName}
    (hmem : .remove n ∈ done) (hdone : makeAll done t? = some e?) : e? = none := by
  have hin := hsub.subset hmem
  cases h with
  | nothing => cases hin
  | insert | replace => cases List.mem_singleton.1 hin
  | remove =>
      rcases subperm_singleton hsub with rfl | rfl
      · cases hmem
      · cases hdone
        rfl
  | parts hfits => cases hfits.parts _ hin

/-- Nobody is removed who is not there. -/
theorem not_remove (h : Plan none ds) {n : EntityName} : .remove n ∉ ds := by
  intro hmem
  cases h with
  | nothing => cases hmem
  | insert => cases List.mem_singleton.1 hmem

end Plan

end SceneMerge
