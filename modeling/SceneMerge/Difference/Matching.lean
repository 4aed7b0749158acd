/-
Which things of one version of a scene are which of another. Entities
are matched by name, key/values by key, children by fingerprint.

Children at the same position with the same fingerprint are matched
first; each child still without a partner then takes the first free one
with its fingerprint. So a child is left over only if its version has
more of its fingerprint than the other, and an order of children that
merely changed leaves nothing over.
-/
import SceneMerge.Content.Snapshot

namespace SceneMerge

/-- A snapshot does not tell its entities apart. -/
structure AmbiguousIdentity where
  snapshot : String
  name : EntityName
deriving DecidableEq

def AmbiguousIdentity.message (e : AmbiguousIdentity) : String :=
  s!"ambiguous identity in snapshot '{e.snapshot}': entity {e.name} "
    ++ "appears more than once"

/-- Succeeds if the names of the entities are distinct. -/
def Snapshot.checkNames (s : Snapshot) : Except AmbiguousIdentity Unit :=
  match s.repeated? with
  | some name => .error ⟨s.path, name⟩
  | none => .ok ()

/-- The things of two versions: those in both with what each version
holds, and those in one alone. `both` and `onlyLeft` follow the order of
the left version, `onlyRight` that of the right one. -/
structure Matching (κ α : Type) where
  both : List (κ × α × α)
  onlyLeft : List (κ × α)
  onlyRight : List (κ × α)
deriving DecidableEq

namespace Matching

/-- Nothing is left over on either side. -/
def isBijective {κ α : Type} (m : Matching κ α) : Bool :=
  m.onlyLeft.isEmpty && m.onlyRight.isEmpty

-- ============================================== entities and key/values

def ofEntities (a b : Snapshot) :
    Except AmbiguousIdentity (Matching EntityName Entity) := do
  a.checkNames
  b.checkNames
  return {
    both := a.entities.filterMap fun e =>
      (b.entity? e.name).map (e.name, e, ·)
    onlyLeft := (a.entities.filter (·.name ∉ b.names)).map fun e => (e.name, e)
    onlyRight := (b.entities.filter (·.name ∉ a.names)).map fun e => (e.name, e) }

def ofKeyValues (a b : KeyValues) : Matching String String where
  both := a.toList.filterMap fun (key, value) => b[key]?.map (key, value, ·)
  onlyLeft := a.toList.filter fun (key, _) => key ∉ b
  onlyRight := b.toList.filter fun (key, _) => key ∉ a

-- ============================================================== children

/-- A child of the left version and its partner in the right one. -/
structure Pairing where
  key : ChildKey
  node : ChildNode
  partner? : Option ChildNode := none

/-- A child of the right version, with its fingerprint. -/
abbrev Candidate := Fingerprint × ChildNode

/-- Matches what stands at the same position. The right children that got
no partner come second. -/
def inPlace : List (ChildKey × ChildNode) → List Candidate →
    List Pairing × List Candidate
  | [], right => ([], right)
  | left, [] => (left.map fun (key, node) => ⟨key, node, none⟩, [])
  | (key, node) :: left, (print, other) :: right =>
      let (pairings, free) := inPlace left right
      if key.fingerprint = print then
        (⟨key, node, some other⟩ :: pairings, free)
      else
        (⟨key, node, none⟩ :: pairings, (print, other) :: free)

/-- Gives each child without a partner the first free one with its
fingerprint. The right children that are free after that come second. -/
def byContent : List Pairing → List Candidate → List Pairing × List Candidate
  | [], free => ([], free)
  | p :: rest, free =>
      let fits : Candidate → Bool := (·.1 == p.key.fingerprint)
      match p.partner?, free.find? fits with
      | none, some found =>
          let (pairings, left) := byContent rest (free.eraseP fits)
          ({ p with partner? := some found.2 } :: pairings, left)
      | _, _ =>
          let (pairings, left) := byContent rest free
          (p :: pairings, left)

/-- The keys are those of the left entity; the children that only the
right one has are numbered on from there. -/
def ofChildren (a b : Entity) : Matching ChildKey ChildNode :=
  let candidates := b.fingerprints.zip b.children
  let (pairings, free) := inPlace (a.childKeys.zip a.children) candidates
  let (pairings, free) := byContent pairings free
  { both := pairings.filterMap fun p => p.partner?.map (p.key, p.node, ·)
    onlyLeft := (pairings.filter (·.partner?.isNone)).map fun p =>
      (p.key, p.node)
    onlyRight := (ChildKey.numberAfter a.fingerprints (free.map (·.1))).zip
      (free.map (·.2)) }

end Matching

end SceneMerge
