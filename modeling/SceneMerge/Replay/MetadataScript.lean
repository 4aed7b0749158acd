/-
Scripts of changes to metadata: steps written down as data, and what each
of them answers.
-/
import SceneMerge.Content.Membership

namespace SceneMerge

inductive MetadataStep where
  | setMember (membership : Membership) (entity : EntityName) (member : Bool)
  /-- Adds a member while metadata is being built. -/
  | withMember (membership : Membership) (entity : EntityName)
  | prune
  | isMember (membership : Membership) (entity : EntityName)
  | membershipsOf (entity : EntityName)
  | memberships

inductive MetadataReply where
  | nothing
  | flag (b : Bool)
  | memberships (l : List Membership)
  | pairs (l : List (Membership × EntityName))

namespace MetadataStep

/-- The answer to a step, and the metadata after it. -/
def run (m : Metadata) : MetadataStep → MetadataReply × Metadata
  | .setMember g e member => (.flag (m.isMember g e), m.put g e member)
  | .withMember g e => (.nothing, m.put g e true)
  | .prune => (.nothing, m.prune)
  | .isMember g e => (.flag (m.isMember g e), m)
  | .membershipsOf e => (.memberships (m.membershipsOf e), m)
  | .memberships => (.pairs m.memberships, m)

/-- The answers to the steps in turn, each with the metadata after it. -/
def runAll (m : Metadata) : List MetadataStep → List (MetadataReply × Metadata)
  | [] => []
  | step :: rest =>
      let (reply, m) := step.run m
      (reply, m) :: runAll m rest

end MetadataStep

end SceneMerge
