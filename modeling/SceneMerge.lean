import SceneMerge.Digest.Blake3
import SceneMerge.Proofs.Content.Fingerprint
import SceneMerge.Proofs.Difference.Listing
import SceneMerge.Proofs.Difference.Memberships
import SceneMerge.Proofs.Difference.Partners
import SceneMerge.Proofs.Scene.History
import SceneMerge.Proofs.Scene.Reachable
import SceneMerge.Proofs.Session.Atomic
import SceneMerge.Proofs.Session.Counts
import SceneMerge.Proofs.Session.Delivered
import SceneMerge.Proofs.Session.Instalments
import SceneMerge.Proofs.Session.Lifecycle
import SceneMerge.Proofs.Session.Once
import SceneMerge.Proofs.Session.Outcome
import SceneMerge.Proofs.Session.Owners
import SceneMerge.Proofs.Session.Populated
import SceneMerge.Proofs.Session.Reordered
import SceneMerge.Proofs.Session.Replaced
import SceneMerge.Proofs.Session.Staged
import SceneMerge.Proofs.Session.TwoWay
import SceneMerge.Proofs.Session.Undisturbed
import SceneMerge.Proofs.Session.Undone
import SceneMerge.Replay.MergeScript
import SceneMerge.Replay.MetadataScript
import SceneMerge.Proofs.Session.Recording
