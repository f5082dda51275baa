import Surrogates.Files.Disk
import Surrogates.Main
import Surrogates.Proofs.Execution.RoundTrip
import Surrogates.Proofs.Generation.History
import Surrogates.Proofs.Generation.Modules
import Surrogates.Proofs.Source.BoundNames
import Surrogates.Proofs.TypeExpr.RoundTrip
import Surrogates.Proofs.Generation.Knowledge
import Surrogates.Proofs.Generation.Provenance
import Surrogates.Proofs.Files.Disk
import Surrogates.Proofs.Configuration.Checked
import Surrogates.Proofs.Files.Writing
import Surrogates.Proofs.TypeName.Simple
import Surrogates.Proofs.Source.Paths
import Surrogates.Proofs.Source.Hygiene
import Surrogates.Proofs.Generation.Rerun
import Surrogates.Proofs.Generation.Workflow
import Surrogates.Proofs.Execution.Unmirrored
import Surrogates.Proofs.Generation.Dependencies
import Surrogates.Proofs.Generation.Pending
import Surrogates.Proofs.Generation.ItemNames
import Surrogates.Proofs.Generation.DerivedSerializers
import Surrogates.Proofs.Generation.LeastOrder
import Surrogates.Proofs.Generation.Disorder
import Surrogates.Proofs.Source.Names
import Surrogates.Proofs.CommandLine.Loading
import Surrogates.Proofs.Document.RoundTrip
import Surrogates.Proofs.Execution.Termination
import Surrogates.Proofs.Generation.Deferral
import Surrogates.Proofs.Generation.Reliance
import Surrogates.Proofs.Generation.RepeatedTargets
import Surrogates.Proofs.Resolution.Declarations
import Surrogates.Proofs.Source.SerializedAs
import Surrogates.Proofs.Execution.Collapse
import Surrogates.Proofs.Catalog.Merging
import Surrogates.Proofs.Source.ModuleText
import Surrogates.Proofs.Execution.Containers
import Surrogates.Proofs.Execution.AbsentFields
import Surrogates.Proofs.Resolution.Collection
