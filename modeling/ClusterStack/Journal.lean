import ClusterStack.Compile

/-!
# The journal

What is told while clusters are compiled: the ports of each listener, what each cluster amounts to,
and which clusters are passed over. Whatever follows a fault is left out.
-/

set_option autoImplicit false

namespace ClusterStack

/-- How much a record matters. -/
inductive Level where
  | debug
  | info
  | warn
  deriving DecidableEq, Repr

def Level.name : Level → String
  | .debug => "DEBUG"
  | .info => "INFO"
  | .warn => "WARN"

/-- A record of the journal. -/
structure Record where
  level : Level
  message : String
  deriving DecidableEq, Repr

namespace Listener

/-- The record of a listener: its ports, and how it is reached. -/
def record (owner : ListenerOwner) (listener : Listener) : Record :=
  let attachment := match listener.isAttached, listener.protocol with
    | true, some protocol => "ALB " ++ protocol.text
    | _, _ => "no ALB"
  ⟨.debug, s!"Using port {listener.port} and container port {listener.containerPort} for service " ++
    s!"{owner.serviceName} of cluster {owner.clusterPrefix} ({attachment})"⟩

/-- The records of the listeners at and after a place, up to the first that is refused. -/
def recordsFrom (deployment : Deployment) (owner : ListenerOwner) (index : Nat) :
    List ListenerSpec → List Record
  | [] => []
  | spec :: rest =>
    match resolve deployment owner index spec with
    | .ok listener => listener.record owner :: recordsFrom deployment owner (index + 1) rest
    | .error _ => []

end Listener

namespace Service

/-- The records of a service, whose listeners come after its token and its image. -/
def records (deployment : Deployment) (clusterPrefix : String) (albDisabled : Bool)
    (spec : ServiceSpec) : List Record :=
  match resolveToken spec, resolveImage spec with
  | .ok token, .ok _ =>
    Listener.recordsFrom deployment (owner clusterPrefix token albDisabled spec) 0 spec.listeners
  | _, _ => []

/-- The records of services, up to the first that is refused. -/
def recordsUntilRefused (deployment : Deployment) (clusterPrefix : String) (albDisabled : Bool) :
    List ServiceSpec → List Record
  | [] => []
  | spec :: rest =>
    records deployment clusterPrefix albDisabled spec ++
      match resolve deployment clusterPrefix albDisabled spec with
      | .ok _ => recordsUntilRefused deployment clusterPrefix albDisabled rest
      | .error _ => []

end Service

namespace Cluster

def record (cluster : Cluster) : Record :=
  let network := if cluster.network.isExisting then "existing" else "dedicated"
  let shared := if cluster.isShared then "true" else "false"
  ⟨.debug, s!"Resolved cluster {cluster.clusterPrefix} with {cluster.services.length} service(s), " ++
    s!"{network} network, shared: {shared}"⟩

def records (deployment : Deployment) (spec : ClusterSpec) : List Record :=
  let services := match resolveToken spec, requireNetwork spec with
    | .ok token, .ok networkSpec =>
      let clusterPrefix := deployment.servicePrefix ++ token
      match Network.resolve deployment clusterPrefix networkSpec with
      | .ok _ =>
        Service.recordsUntilRefused deployment clusterPrefix spec.albDisabled spec.services
      | .error _ => []
    | _, _ => []
  services ++ match resolve deployment spec with
    | .ok cluster => [cluster.record]
    | .error _ => []

def templateRecords (cluster : Cluster) (template : Template) : List Record :=
  let resources := template.resources.size
  let outputs := template.outputs.size
  [⟨.debug, s!"Compiled cluster {cluster.clusterPrefix}: {resources} resource(s), " ++
    s!"{outputs} output(s)"⟩,
  ⟨.info, s!"Compiled cluster '{cluster.name}' ({resources} resources)"⟩]

end Cluster

namespace Compilation

def records (deployment : Deployment) (compilation : Compilation) (spec : ClusterSpec) :
    List Record :=
  if spec.vpc.isNone then
    [⟨.info, s!"Skipping cluster '{spec.clusterName}': missing vpc configuration"⟩]
  else
    Cluster.records deployment spec ++
      match Cluster.resolve deployment spec, compilation.compileCluster deployment spec with
      | .ok cluster, .ok (_, template) => cluster.templateRecords template
      | _, _ => []

/-- The records of taking clusters in, up to the first that is refused. -/
def recordsUntilRefused (deployment : Deployment) (compilation : Compilation) :
    List ClusterSpec → List Record
  | [] => []
  | spec :: rest =>
    compilation.records deployment spec ++
      match compilation.next deployment spec with
      | .ok further => further.recordsUntilRefused deployment rest
      | .error _ => []

end Compilation

def journal (deployment : Deployment) (specs : List ClusterSpec) : List Record :=
  if specs.isEmpty then [⟨.warn, "No clusters configured, nothing will be deployed"⟩]
  else Compilation.start.recordsUntilRefused deployment specs

end ClusterStack
