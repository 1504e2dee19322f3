import ClusterStack.Network.Basic
import ClusterStack.Tags
import ClusterStack.Template.Basic

/-!
# Resources of a dedicated network

The network itself, its gateway to the internet, a route there, and for each subnet the subnet and
its association with the route table. An existing network needs no resources.
-/

set_option autoImplicit false

namespace ClusterStack

/-- The resources of a subnet, which lies in the availability zone of its own number. -/
def DedicatedNetwork.subnetDeclarations (network : DedicatedNetwork) (tags : Tags)
    (index : Nat) (subnet : SubnetPlan) : List Declaration := [
  .resource subnet.name (.make .subnet [
    ("Tags", tags.toValue?),
    ("AvailabilityZone", some (.select index (.zones .region))),
    ("VpcId", some (.ref network.vpc)),
    ("CidrBlock", some (.string subnet.cidr)),
    ("MapPublicIpOnLaunch", some (.bool true))] []),
  .resource subnet.association (.make .subnetRouteTableAssociation [
    ("SubnetId", some (.ref subnet.name)),
    ("RouteTableId", some (.ref network.routeTable))] [])]

def DedicatedNetwork.declarations (network : DedicatedNetwork) (tags : Tags) :
    List Declaration := [
  .resource network.vpc (.make .vpc [
    ("Tags", tags.toValue?),
    ("EnableDnsSupport", some (.bool true)),
    ("EnableDnsHostnames", some (.bool true)),
    ("CidrBlock", some (.string network.cidr))] []),
  .resource network.internetGateway (.make .internetGateway [
    ("Tags", tags.toValue?)] []),
  .resource network.gatewayAttachment (.make .vpcGatewayAttachment [
    ("VpcId", some (.ref network.vpc)),
    ("InternetGatewayId", some (.ref network.internetGateway))] []),
  .resource network.routeTable (.make .routeTable [
    ("Tags", tags.toValue?),
    ("VpcId", some (.ref network.vpc))] []),
  .resource network.route (.make .route [
    ("RouteTableId", some (.ref network.routeTable)),
    ("DestinationCidrBlock", some (.string "0.0.0.0/0")),
    ("GatewayId", some (.ref network.internetGateway))] [network.gatewayAttachment])]
  ++ (network.subnets.mapIdx (network.subnetDeclarations tags)).flatten

def Network.declarations (network : Network) (tags : Tags) : List Declaration :=
  match network with
  | .dedicated network => network.declarations tags
  | .existing _ => []

end ClusterStack
