import FolderGrants.Cluster.Session
import FolderGrants.Main
import FolderGrants.Operator.Basic
import FolderGrants.OrderedMap.Lemmas
import FolderGrants.Program.Basic
import FolderGrants.Review.Endpoint
import FolderGrants.Review.Impersonation
import FolderGrants.Serving.Basic
import FolderGrants.Pass.Course
import FolderGrants.Proofs.Actions
import FolderGrants.Proofs.AdmissionDecision
import FolderGrants.Proofs.BindingComparison
import FolderGrants.Proofs.ChangeOrder
import FolderGrants.Proofs.ChangeTrace
import FolderGrants.Proofs.Collapse
import FolderGrants.Proofs.ConditionMerging
import FolderGrants.Proofs.Conditions
import FolderGrants.Proofs.Conflicts
import FolderGrants.Proofs.Convergence
import FolderGrants.Proofs.Courses
import FolderGrants.Proofs.Covering
import FolderGrants.Proofs.DriftRepair
import FolderGrants.Proofs.Edits
import FolderGrants.Proofs.EmptyChanges
import FolderGrants.Proofs.EmptyVersions
import FolderGrants.Proofs.GrantComparisons
import FolderGrants.Proofs.GrantCoverage
import FolderGrants.Proofs.GroupingNodes
import FolderGrants.Proofs.Growth
import FolderGrants.Proofs.Interleaving
import FolderGrants.Proofs.LocalTemplates
import FolderGrants.Proofs.MadeChanges
import FolderGrants.Proofs.NameSeparation
import FolderGrants.Proofs.NodeEdits
import FolderGrants.Proofs.Ownership
import FolderGrants.Proofs.PassDeletions
import FolderGrants.Proofs.PassFootprint
import FolderGrants.Proofs.PassInvariants
import FolderGrants.Proofs.PassOutcome
import FolderGrants.Proofs.PrintedJson
import FolderGrants.Proofs.PrintedSpecs
import FolderGrants.Proofs.Quiescence
import FolderGrants.Proofs.RecordReading
import FolderGrants.Proofs.RecordedCalls
import FolderGrants.Proofs.RecordedTrials
import FolderGrants.Proofs.Refresh
import FolderGrants.Proofs.Reordering
import FolderGrants.Proofs.Resumption
import FolderGrants.Proofs.RevocationCoverage
import FolderGrants.Proofs.SafeFailures
import FolderGrants.Proofs.SameChanges
import FolderGrants.Proofs.SettledReading
import FolderGrants.Proofs.SpecsOnTheWire
import FolderGrants.Proofs.StatusReport
import FolderGrants.Proofs.StoreInvariant
import FolderGrants.Proofs.SubjectOrder
import FolderGrants.Proofs.TornVersions
import FolderGrants.Proofs.TrialTrace
import FolderGrants.Proofs.WrittenSpecs
