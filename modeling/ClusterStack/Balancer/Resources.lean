import ClusterStack.Balancer.Basic
import ClusterStack.Tags
import ClusterStack.Template.Basic

/-!
# Resources of a load balancer

A security group for each service on a public load balancer, with leave to enter the containers of
a dedicated network; and, where the load balancer is generated, the load balancer and a listener for
each of its ports.
-/

set_option autoImplicit false

namespace ClusterStack.Balancer

/-- The group that admits everyone to a service, and its leave to enter the containers. -/
def groupDeclarations (tags : Tags) (network : Network) (containerGroup : Option Value)
    (group : ServiceGroup) : List Declaration :=
  let description := "Access to the public facing load balancer - task " ++ group.service
  let everyone : Value := .list [.map [
    ("CidrIp", .string "0.0.0.0/0"),
    ("IpProtocol", .int (-1))]]
  let ingress := if network.isExisting then none else containerGroup
  .resource group.name (.make .securityGroup [
    ("Tags", tags.toValue?),
    ("GroupDescription", some (.string description)),
    ("VpcId", some network.vpcRef),
    ("SecurityGroupIngress", some everyone)] [])
  :: ingress.toList.map fun containerGroup =>
    .resource group.ingress (.make .securityGroupIngress [
      ("Description", some (.string ("Ingress from the ALB - task " ++ group.service))),
      ("GroupId", some containerGroup),
      ("IpProtocol", some (.int (-1))),
      ("SourceSecurityGroupId", some (.ref group.name))] [])

def resource (balancer : Balancer) (tags : Tags) (network : Network)
    (containerGroup : Option Value) : Resource :=
  let groups := balancer.securityGroups network containerGroup
  .make .loadBalancer [
    ("Name", some (.string balancer.name)),
    ("Tags", tags.toValue?),
    ("Scheme", some (.string (if balancer.isPrivate then "internal" else "internet-facing"))),
    ("LoadBalancerAttributes", some (.list [.map [
      ("Key", .string "idle_timeout.timeout_seconds"),
      ("Value", .string (toString balancer.idleTimeout))]])),
    ("Subnets", some network.albSubnets),
    ("SecurityGroups", if groups.isEmpty then none else some (.list groups))] []

/-- The listener on a port, which forwards to the port's first target group. -/
def listenerResource (balancer : Balancer) (listener : PortListener) : Resource :=
  let certificates : Value :=
    .list (listener.certificateArns.map fun arn => .map [("CertificateArn", .string arn)])
  .make .loadBalancerListener [
    ("DefaultActions", some (.list [.map [
      ("TargetGroupArn", .ref listener.defaultTargetGroup),
      ("Type", .string "forward")]])),
    ("LoadBalancerArn", some (.ref balancer.name)),
    ("Port", some (.ofNat listener.port.toNat)),
    ("Protocol", some (.string listener.protocol.text)),
    ("Certificates", if listener.protocol = .https then some certificates else none)]
    [balancer.name]

def declarations (balancer : Balancer) (tags : Tags) (network : Network)
    (containerGroup : Option Value) : List Declaration :=
  let groups := balancer.serviceGroups.flatMap (groupDeclarations tags network containerGroup)
  match balancer.mode with
  | .disabled => []
  | .external _ => groups
  | .managed =>
    groups ++ .resource balancer.name (balancer.resource tags network containerGroup)
      :: balancer.listeners.map fun listener =>
        .resource listener.name (balancer.listenerResource listener)

end ClusterStack.Balancer
