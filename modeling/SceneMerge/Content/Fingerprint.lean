/-
Fingerprints of child primitives. A child carries no name, so what
identifies it across versions of a scene is a digest of its kind and its
content.

The digested bytes are a tag, a colon, the size of the kind as eight
bytes, the kind and the content. With the size in front the boundary
between kind and content cannot move, so different children have
different `preimage`s.
-/
import SceneMerge.Digest.Blake3

namespace SceneMerge

/-- The digest of a child primitive. -/
@[ext]
structure Fingerprint where
  bytes : Vector UInt8 32
deriving DecidableEq

namespace Fingerprint

/-- Sets child fingerprints apart from other uses of the digest. -/
def tag : String := "mapmerge-child-v1"

/-- A size as eight bytes, least significant first. -/
def sizeBytes (n : Nat) : List UInt8 :=
  (List.range 8).map fun i => (n >>> (8 * i)).toUInt8

/-- The bytes that are digested for a child. -/
def preimage (kind content : String) : List UInt8 :=
  tag.toUTF8.toList ++ ":".toUTF8.toList ++ sizeBytes kind.utf8ByteSize
    ++ kind.toUTF8.toList ++ content.toUTF8.toList

def ofChild (kind content : String) : Fingerprint :=
  ⟨Blake3.digest (preimage kind content)⟩

-- =============================================================== display

/-- A number below sixteen as a lower case hexadecimal digit. -/
def hexDigit (n : Nat) : Char :=
  if n < 10 then Char.ofNat (48 + n) else Char.ofNat (87 + n)

def hexByte (b : UInt8) : List Char :=
  [hexDigit (b.toNat / 16), hexDigit (b.toNat % 16)]

/-- All bytes in hexadecimal. -/
def hex (f : Fingerprint) : String :=
  .ofList (f.bytes.toList.flatMap hexByte)

/-- The first four bytes in hexadecimal, enough for a reader to tell
fingerprints apart. -/
def short (f : Fingerprint) : String :=
  .ofList ((f.bytes.toList.take 4).flatMap hexByte)

instance : ToString Fingerprint := ⟨short⟩

/-- The form used inside messages, which names the type. -/
def inspect (f : Fingerprint) : String := s!"ContentHash({f.short})"

end Fingerprint

end SceneMerge
