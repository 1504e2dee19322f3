import ClusterStack.Balancer.Basic
import ClusterStack.Service.ExecutionRole

/-!
# Clusters

A cluster with its network, services and load balancer settled. Every fault of a description is
found here, before anything is generated.
-/

set_option autoImplicit false

namespace ClusterStack

/-- Where a cluster lives. -/
inductive ClusterHome where
  | created (name : String)
  | shared (arn ingressGroup : Value)
  deriving Repr

/-- A cluster with everything settled. -/
structure Cluster where
  name : String
  clusterPrefix : String
  home : ClusterHome
  containerGroup : String
  selfIngress : String
  containerInsights : Bool
  tags : Tags
  network : Network
  services : List Service
  balancer : Balancer
  executionRole : ExecutionRole
  deriving Repr

namespace ClusterHome

/-- The shared cluster of a description: both of its references must be provided. -/
def shared? (spec : ClusterSpec) : Option ClusterHome := do
  let arns ← spec.clusterArns
  let arn ← provided? arns.ecsClusterArn
  let ingressGroup ← provided? arns.ecsIngressSecGroupId
  return .shared (.ofInput arn) (.ofInput ingressGroup)

/-- Where the cluster of a description lives, by the id that it has if it is generated. -/
def ofSpec (name : String) (spec : ClusterSpec) : ClusterHome :=
  (shared? spec).getD (.created name)

end ClusterHome

namespace Cluster

def context (spec : ClusterSpec) : String :=
  s!"cluster '{spec.clusterName}'"

def resolveToken (spec : ClusterSpec) : Except CompileError String :=
  let token := normalizeName spec.clusterName
  if token.isEmpty then
    .error (.invalidConfig (context spec)
      "clusterName must contain at least one alphanumeric character")
  else
    .ok token

def requireNetwork (spec : ClusterSpec) : Except CompileError NetworkSpec :=
  match spec.vpc with
  | some network => .ok network
  | none => .error (.missingField (context spec) "vpc")

/-- The first service with the token of an earlier one, after that one. -/
def repeatedToken? (seen : List Service) : List Service → Option (Service × Service)
  | [] => none
  | service :: rest =>
    match seen.find? (·.token == service.token) with
    | some first => some (first, service)
    | none => repeatedToken? (service :: seen) rest

/-- Checks that no two services have one token, for they would share all their ids. -/
def checkTokens (spec : ClusterSpec) (services : List Service) : Except CompileError Unit :=
  match repeatedToken? [] services with
  | some (first, second) =>
    .error (.invalidConfig (context spec)
      s!"services '{first.name}' and '{second.name}' both normalize to '{second.token}'")
  | none => .ok ()

/-- The execution role of a description, by the id that it has if it is generated. -/
def executionRoleOf (name : String) (spec : ClusterSpec) : ExecutionRole :=
  match provided? spec.executionRoleArn with
  | some arn => .supplied (.ofInput arn)
  | none => .generated name

def resolve (deployment : Deployment) (spec : ClusterSpec) : Except CompileError Cluster := do
  let token ← resolveToken spec
  let networkSpec ← requireNetwork spec
  let clusterPrefix := deployment.servicePrefix ++ token
  let network ← Network.resolve deployment clusterPrefix networkSpec
  let services ← spec.services.mapM (Service.resolve deployment clusterPrefix spec.albDisabled)
  checkTokens spec services
  let balancer ← Balancer.resolve deployment clusterPrefix spec services
  return {
    name := spec.clusterName
    clusterPrefix
    home := .ofSpec (deployment.logicalId clusterPrefix .cluster) spec
    containerGroup := deployment.logicalId clusterPrefix .containerSecurityGroup
    selfIngress := deployment.logicalId clusterPrefix .selfIngress
    containerInsights := spec.enableContainerInsights
    tags := .ofSpec spec.tags
    network, services, balancer
    executionRole := executionRoleOf (deployment.logicalId clusterPrefix .executionRole) spec }

def isShared (cluster : Cluster) : Bool :=
  match cluster.home with
  | .created _ => false
  | .shared _ _ => true

def clusterRef (cluster : Cluster) : Value :=
  match cluster.home with
  | .created name => .ref name
  | .shared arn _ => arn

def clusterArn (cluster : Cluster) : Value :=
  match cluster.home with
  | .created name => .attribute name "Arn"
  | .shared arn _ => arn

/-- The security group through which containers are reached. A cluster that is generated on an
existing network has none. -/
def ingressGroup (cluster : Cluster) : Option Value :=
  match cluster.home with
  | .shared _ ingressGroup => some ingressGroup
  | .created _ => if cluster.network.isExisting then none else some (.ref cluster.containerGroup)

/-- The resources that metrics depend on; they need not be part of the template. -/
def externalDependencies (cluster : Cluster) : List String :=
  cluster.services.flatMap (·.metricDependencies)

end Cluster

end ClusterStack
