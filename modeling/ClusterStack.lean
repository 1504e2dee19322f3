import ClusterStack.Journal
import ClusterStack.Main
import ClusterStack.Proofs.Naming.Label
import ClusterStack.Proofs.Outcome
import ClusterStack.Proofs.Balancer.Ports
import ClusterStack.Proofs.Cluster.Declarations
import ClusterStack.Proofs.Cluster.Distinctness
import ClusterStack.Proofs.Cluster.Keys
import ClusterStack.Proofs.Cluster.Validation
import ClusterStack.Proofs.Compile.Acyclicity
import ClusterStack.Proofs.Compile.Confusion
import ClusterStack.Proofs.Listener.Gating
import ClusterStack.Proofs.Service.Described
import ClusterStack.Proofs.Cluster.Described
import ClusterStack.Proofs.Compile.Faults
import ClusterStack.Proofs.Compile.Concatenation
import ClusterStack.Proofs.Listener.Agreement
import ClusterStack.Proofs.Spec.Inventory
import ClusterStack.Proofs.Cluster.Inventory
import ClusterStack.Proofs.Cluster.Circles
import ClusterStack.Proofs.Compile.Endpoints
import ClusterStack.Proofs.Balancer.Access
import ClusterStack.Proofs.Compile.Alphabet
import ClusterStack.Proofs.Listener.Certificates
import ClusterStack.Proofs.Compile.Extension
import ClusterStack.Proofs.Compile.Used
import ClusterStack.Proofs.Compile.LogGroups
import ClusterStack.Proofs.Dependency.Records
import ClusterStack.Proofs.Dependency.Check
import ClusterStack.Proofs.Listener.Registration
import ClusterStack.Proofs.Compile.Absence
import ClusterStack.Proofs.Compile.Spelling
import ClusterStack.Proofs.Balancer.Aggregation
import ClusterStack.Proofs.Scaling.Wiring
import ClusterStack.Proofs.Template.Operations
import ClusterStack.Proofs.Listener.Awaiting
import ClusterStack.Proofs.Template.Merging
import ClusterStack.Proofs.Template.Supplied
import ClusterStack.Proofs.Network.Notation
import ClusterStack.Proofs.Template.Rendering
import ClusterStack.Proofs.Naming.Numbering
import ClusterStack.Proofs.Service.Clashes
import ClusterStack.Proofs.CommandLine.Agreement
import ClusterStack.Proofs.Spec.Respelling
import ClusterStack.Proofs.Naming.Runs
import ClusterStack.Proofs.Compile.WellFormed
