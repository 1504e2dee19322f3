import ClusterStack.Balancer.Resources
import ClusterStack.Cluster.Basic
import ClusterStack.Network.Resources
import ClusterStack.Service.Resources

/-!
# Resources of a cluster

The network, the cluster itself, the security group of the containers on a dedicated network, the
load balancer, and the services.
-/

set_option autoImplicit false

namespace ClusterStack.Cluster

def resource (cluster : Cluster) (name : String) : Resource :=
  let settings : Value := .list [.map [
    ("Name", .string "containerInsights"),
    ("Value", .string "enabled")]]
  .make .ecsCluster [
    ("ClusterName", some (.string name)),
    ("Tags", cluster.tags.toValue?),
    ("ClusterSettings", if cluster.containerInsights then some settings else none)] []

/-- The security group of the containers, and leave for its members to reach one another. -/
def containerGroupDeclarations (cluster : Cluster) : List Declaration :=
  let group : Value := .ref cluster.containerGroup
  [.resource cluster.containerGroup (.make .securityGroup [
    ("Tags", cluster.tags.toValue?),
    ("GroupDescription", some (.string "Access to the ECS containers")),
    ("VpcId", some cluster.network.vpcRef)] []),
  .resource cluster.selfIngress (.make .securityGroupIngress [
    ("Description",
      some (.string "Ingress from other containers in the same security group")),
    ("GroupId", some group),
    ("IpProtocol", some (.int (-1))),
    ("SourceSecurityGroupId", some group)] [])]

/-- The resources of the cluster apart from its network, load balancer and services. A shared
cluster needs none. -/
def ownDeclarations (cluster : Cluster) : List Declaration :=
  match cluster.home with
  | .shared _ _ => []
  | .created name =>
    .resource name (cluster.resource name) ::
      if cluster.network.isExisting then [] else cluster.containerGroupDeclarations

def serviceScope (cluster : Cluster) (deployment : Deployment) : ServiceScope where
  deployment := deployment
  tags := cluster.tags
  network := cluster.network
  balancer := cluster.balancer
  clusterRef := cluster.clusterRef
  clusterArn := cluster.clusterArn
  ingressGroup := cluster.ingressGroup
  executionRole := cluster.executionRole

/-- All resources and outputs of a cluster, in the order in which they are entered. -/
def declarations (cluster : Cluster) (deployment : Deployment) :
    Except CompileError (List Declaration) := do
  let scope := cluster.serviceScope deployment
  let services ← cluster.services.mapM (·.declarations scope)
  return cluster.network.declarations cluster.tags ++ cluster.ownDeclarations ++
    cluster.balancer.declarations cluster.tags cluster.network cluster.ingressGroup ++
    services.flatten

end ClusterStack.Cluster
