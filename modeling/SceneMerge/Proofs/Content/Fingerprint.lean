/-
What a fingerprint identifies. The bytes that are digested for a child
are read back field by field: the tag and the size have fixed widths, so
they are cut off by their lengths, and the size then says where the kind
ends. No content can imitate that boundary (`preimage_inj`).

What is assumed of the digest is said of the children at hand
(`NoCollision`): where different bytes were digested, the digests
differ. Then a fingerprint is the child itself, and children that agree
by fingerprints are the same children in another order.
-/
import Mathlib.Algebra.Group.Nat.Defs
import Mathlib.Data.Set.Function
import SceneMerge.Proofs.Content.Entity

namespace SceneMerge

namespace Fingerprint

-- ================================================================ the size

/-- The number that bytes spell, least significant first. -/
def size (bytes : List UInt8) : Nat :=
  bytes.foldr (fun b n => b.toNat + 256 * n) 0

/-- A size takes eight bytes, whatever it is. -/
theorem length_sizeBytes (n : Nat) : (sizeBytes n).length = 8 := by
  simp [sizeBytes]

/-- As many bytes as there are, so much of the number is read back. -/
theorem size_map_range (width n : Nat) :
    size ((List.range width).map fun i => (n >>> (8 * i)).toUInt8)
      = n % 2 ^ (8 * width) := by
  induction width generalizing n with
  | zero => simp [size, Nat.mod_one]
  | succ width ih =>
      have hrest : (List.range width).map
            ((fun i => (n >>> (8 * i)).toUInt8) ∘ Nat.succ)
          = (List.range width).map fun i => ((n / 256) >>> (8 * i)).toUInt8 := by
        refine List.map_congr_left fun i _ => ?_
        show (n >>> (8 * (i + 1))).toUInt8 = _
        rw [show 8 * (i + 1) = 8 + 8 * i by omega, Nat.shiftRight_add]
        simp only [Nat.shiftRight_eq_div_pow]
      rw [List.range_succ_eq_map, List.map_cons, List.map_map, hrest]
      show (n >>> (8 * 0)).toUInt8.toNat + 256 * size _ = _
      rw [ih, show 8 * (width + 1) = 8 + 8 * width by omega, Nat.pow_add,
        Nat.mod_mul]
      simp

/-- Sizes that fit into eight bytes are read back from them. -/
theorem sizeBytes_inj {n m : Nat} (hn : n < 2 ^ 64) (hm : m < 2 ^ 64)
    (h : sizeBytes n = sizeBytes m) : n = m := by
  have hread := congrArg size h
  rwa [sizeBytes, sizeBytes, size_map_range, size_map_range,
    Nat.mod_eq_of_lt hn, Nat.mod_eq_of_lt hm] at hread

-- =============================================================== the bytes

/-- What is still to come is listed after what was collected. -/
theorem toList_loop_eq (b : ByteArray) (i : Nat) (r : List UInt8) :
    ByteArray.toList.loop b i r = r.reverse ++ b.data.toList.drop i := by
  fun_induction ByteArray.toList.loop b i r with
  | case1 i r hi ih =>
      have hi' : i < b.data.toList.length := hi
      have hnext : b.get! i = b.data.toList[i] := getElem!_pos b.data i hi
      have hdrop : b.data.toList.drop i
          = b.get! i :: b.data.toList.drop (i + 1) := by
        rw [List.drop_eq_getElem_cons hi', hnext]
      rw [ih, hdrop, List.reverse_cons, List.append_assoc, List.singleton_append]
  | case2 i r hi =>
      have hend : b.data.toList.length ≤ i := Nat.le_of_not_lt hi
      rw [List.drop_eq_nil_of_le hend, List.append_nil]

/-- The bytes of an array are its data, in order. -/
theorem toList_eq_data (b : ByteArray) : b.toList = b.data.toList :=
  toList_loop_eq b 0 []

/-- A string has as many bytes as its size says. -/
theorem length_toUTF8_toList (s : String) :
    s.toUTF8.toList.length = s.utf8ByteSize := by
  rw [toList_eq_data]
  rfl

/-- A string is read back from its bytes. -/
theorem toUTF8_toList_inj {s t : String} :
    s.toUTF8.toList = t.toUTF8.toList ↔ s = t := by
  rw [toList_eq_data, toList_eq_data, Array.toList_inj]
  constructor
  · intro h
    exact String.toByteArray_inj.1 (ByteArray.ext h)
  · rintro rfl
    rfl

variable {kind kind' content content' : String}

/-- The fields are cut off one after the other: those of fixed width by
their width, the kind by the size in front of it. -/
theorem preimage_inj (hk : kind.utf8ByteSize < 2 ^ 64)
    (hk' : kind'.utf8ByteSize < 2 ^ 64) :
    preimage kind content = preimage kind' content' ↔
      kind = kind' ∧ content = content' := by
  constructor
  · intro h
    simp only [preimage, List.append_assoc, List.append_cancel_left_eq] at h
    obtain ⟨hsize, hrest⟩ := List.append_inj h
      (by rw [length_sizeBytes, length_sizeBytes])
    have hlength := sizeBytes_inj hk hk' hsize
    obtain ⟨hkind, hcontent⟩ := List.append_inj hrest
      (by rw [length_toUTF8_toList, length_toUTF8_toList, hlength])
    exact ⟨toUTF8_toList_inj.1 hkind, toUTF8_toList_inj.1 hcontent⟩
  · rintro ⟨rfl, rfl⟩
    rfl

end Fingerprint

-- ============================================================= one child

namespace ChildNode

/-- The bytes that are digested for the child. -/
def preimage (n : ChildNode) : List UInt8 :=
  Fingerprint.preimage n.kind n.content

/-- The size of the kind fits the eight bytes that it is written in, as
that of anything held in memory does. -/
def Sized (n : ChildNode) : Prop :=
  n.kind.utf8ByteSize < 2 ^ 64

instance (n : ChildNode) : Decidable n.Sized :=
  inferInstanceAs (Decidable (_ < _))

/-- Among these children, different bytes have different digests. -/
def NoCollision (nodes : List ChildNode) : Prop :=
  ∀ n ∈ nodes, ∀ m ∈ nodes,
    Blake3.digest n.preimage = Blake3.digest m.preimage →
      n.preimage = m.preimage

instance (nodes : List ChildNode) : Decidable (NoCollision nodes) :=
  inferInstanceAs (Decidable (∀ n ∈ nodes, ∀ m ∈ nodes, _ → _))

variable {n m : ChildNode} {nodes : List ChildNode}

/-- Two children have the same bytes digested just if they have the same kind and the
same content. -/
theorem preimage_eq_iff (hn : n.Sized) (hm : m.Sized) :
    n.preimage = m.preimage ↔ n.kind = m.kind ∧ n.content = m.content :=
  Fingerprint.preimage_inj hn hm

/-- The fingerprint is the child. -/
theorem fingerprint_eq_iff (hn : n.Sized) (hm : m.Sized)
    (hc : NoCollision nodes) (hin : n ∈ nodes) (him : m ∈ nodes) :
    n.fingerprint = m.fingerprint ↔ n = m := by
  constructor
  · intro h
    have hdigest : Blake3.digest n.preimage = Blake3.digest m.preimage :=
      congrArg Fingerprint.bytes h
    have hpre := hc n hin m him hdigest
    obtain ⟨hkind, hcontent⟩ := (preimage_eq_iff hn hm).1 hpre
    cases n
    cases m
    cases hkind
    cases hcontent
    rfl
  · rintro rfl
    rfl

/-- Fingerprints that tell the children apart tell their lists apart, up
to order. -/
theorem perm_of_fingerprints {as bs : List ChildNode}
    (hinj : Set.InjOn fingerprint { n | n ∈ as ++ bs })
    (h : (as.map fingerprint).Perm (bs.map fingerprint)) : as.Perm bs := by
  have : Nonempty ChildNode := ⟨⟨"", ""⟩⟩
  let back := Function.invFunOn fingerprint { n | n ∈ as ++ bs }
  have hback : ∀ ns : List ChildNode, (∀ n ∈ ns, n ∈ as ++ bs) →
      (ns.map fingerprint).map back = ns := by
    intro ns hns
    rw [List.map_map]
    refine (List.map_congr_left fun n hn => ?_).trans (List.map_id ns)
    exact hinj.leftInvOn_invFunOn (hns n hn)
  have hperm := h.map back
  rwa [hback as fun n hn => List.mem_append_left bs hn,
    hback bs fun n hn => List.mem_append_right as hn] at hperm

end ChildNode

-- ============================================================== the result

open ChildNode

/-- The bytes that are digested tell any two children apart. Where their
digests do so too, a fingerprint is the child, and two entities are
semantically equal when they differ in the order of their children at
most. -/
theorem Entity.identified_by_fingerprints :
    (∀ n m : ChildNode, n.Sized → m.Sized →
      (n.preimage = m.preimage ↔ n.kind = m.kind ∧ n.content = m.content))
    ∧ (∀ n m : ChildNode, n.Sized → m.Sized → NoCollision [n, m] →
      (n.fingerprint = m.fingerprint ↔ n = m))
    ∧ ∀ a b : Entity, (∀ n ∈ a.children ++ b.children, n.Sized) →
        NoCollision (a.children ++ b.children) →
        (a.semanticallyEqual b = true ↔
          a.name = b.name ∧ a.keyValues = b.keyValues
            ∧ a.children.Perm b.children) := by
  refine ⟨fun n m hn hm => preimage_eq_iff hn hm, ?_, ?_⟩
  · intro n m hn hm hc
    exact fingerprint_eq_iff hn hm hc (by simp) (by simp)
  · intro a b hsized hc
    have hinj : Set.InjOn fingerprint { n | n ∈ a.children ++ b.children } :=
      fun n hn m hm h =>
        (fingerprint_eq_iff (hsized n hn) (hsized m hm) hc hn hm).1 h
    have hperm : a.fingerprints.Perm b.fingerprints ↔
        a.children.Perm b.children :=
      ⟨perm_of_fingerprints hinj, fun h => h.map _⟩
    rw [semanticallyEqual_iff, hperm]

/-- A letter that moves from the content to the kind makes another child,
so a wall is still itself with its children exchanged, but not with one
of them doubled. -/
theorem Entity.identified_by_shifted_letter :
    let short : ChildNode := ⟨"a", "bc"⟩
    let long : ChildNode := ⟨"ab", "c"⟩
    let wall : Entity := { name := "wall", children := [short, long] }
    short.preimage ≠ long.preimage
      ∧ short.fingerprint ≠ long.fingerprint
      ∧ wall.semanticallyEqual { wall with children := [long, short] } = true
      ∧ wall.semanticallyEqual { wall with children := [long, long] } = false := by
  intro short long wall
  obtain ⟨hpre, hprint, hequal⟩ := identified_by_fingerprints
  have hsized : short.Sized ∧ long.Sized := by decide +kernel
  refine ⟨fun h => ?_, fun h => ?_, ?_, ?_⟩
  · exact absurd ((hpre short long hsized.1 hsized.2).1 h) (by decide)
  · have heq := (hprint short long hsized.1 hsized.2 (by decide +kernel)).1 h
    exact absurd heq (by decide)
  · refine (hequal wall _ (by decide +kernel) (by decide +kernel)).2
      ⟨rfl, rfl, List.Perm.swap long short []⟩
  · rw [Bool.eq_false_iff]
    intro h
    have hperm := ((hequal wall { wall with children := [long, long] }
      (by decide +kernel) (by decide +kernel)).1 h).2.2
    exact absurd hperm (by decide)

end SceneMerge
