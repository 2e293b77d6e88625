import SceneGraph.Main
import SceneGraph.Proofs.Completeness
import SceneGraph.Proofs.Handles
import SceneGraph.Proofs.MeshSharing
import SceneGraph.Proofs.ReferenceResolution
import SceneGraph.Proofs.RoundTrip
import SceneGraph.Proofs.StrayDefaults
import SceneGraph.Proofs.Agreement
import SceneGraph.Proofs.OneParameter
import SceneGraph.Proofs.Overriding
import SceneGraph.Proofs.Anonymity
import SceneGraph.Proofs.AnonymousScene
import SceneGraph.Proofs.Independence
import SceneGraph.Proofs.Strictness
import SceneGraph.Proofs.Recall
import SceneGraph.Proofs.Rebuilding
import SceneGraph.Proofs.Inlining
import SceneGraph.Proofs.Loading
import SceneGraph.Proofs.Lookup
import SceneGraph.Proofs.Ranges
import SceneGraph.Proofs.TableCalls
import SceneGraph.Proofs.Repetition
import SceneGraph.Proofs.Suppression
import SceneGraph.Proofs.Expansion
import SceneGraph.Proofs.Accounts
import SceneGraph.Proofs.PluginTree
import SceneGraph.Proofs.Places
import SceneGraph.Proofs.Mismatches
import SceneGraph.Proofs.ChildSlots
import SceneGraph.Proofs.Truncation
import SceneGraph.Proofs.Coordinates
import SceneGraph.Proofs.TransformBlocks
import SceneGraph.Proofs.RegistryCalls
import SceneGraph.Proofs.MeshCalls
import SceneGraph.Proofs.Telling
import SceneGraph.Proofs.UnusedProperties
import SceneGraph.Proofs.PropertyOrder
import SceneGraph.Proofs.DefaultOrder
import SceneGraph.Proofs.NumberLiterals
import SceneGraph.Proofs.MeshMerging
import SceneGraph.Proofs.Versions
