import ClusterStack.Error
import ClusterStack.Naming.Role
import ClusterStack.Network.Cidr
import ClusterStack.Network.SecurityGroups
import ClusterStack.Spec.Basic

/-!
# Networks

The network of a cluster is either dedicated, and then generated with the cluster, or it exists
already and is referred to by ids that the description supplies.
-/

set_option autoImplicit false

namespace ClusterStack

/-- A subnet of a dedicated network: its id, the id of its route table association, and its address
range. -/
structure SubnetPlan where
  name : String
  association : String
  cidr : String
  deriving DecidableEq, Repr

/-- The ids of a dedicated network and its address ranges. -/
structure DedicatedNetwork where
  vpc : String
  internetGateway : String
  gatewayAttachment : String
  routeTable : String
  route : String
  cidr : String
  subnets : List SubnetPlan
  deriving DecidableEq, Repr

/-- What a description supplies about an existing network. -/
structure ExistingNetwork where
  vpcId : Value
  securityGroups : SecurityGroups
  subnetIds : Value
  albSubnetIds : Option Value
  deriving Repr

/-- The network of a cluster. -/
inductive Network where
  | dedicated (network : DedicatedNetwork)
  | existing (network : ExistingNetwork)
  deriving Repr

namespace Network

/-- The existing network of a description: all three of its ids must be provided. -/
def existing? (spec : NetworkSpec) : Option ExistingNetwork := do
  let vpcId ← provided? spec.vpcId
  let securityGroups ← provided? spec.securityGroupIds
  let subnetIds ← provided? spec.subnetIds
  return {
    vpcId := .ofInput vpcId
    securityGroups := .ofInput securityGroups
    subnetIds := .ofInput subnetIds
    albSubnetIds := (provided? spec.albSubnetIds).map .ofInput }

def checkCidr (context text : String) : Except CompileError Unit :=
  (Cidr.check text).mapError fun problem => .invalidConfig context problem.message

def planSubnet (deployment : Deployment) (owner cidr : String) (index : Nat) : SubnetPlan :=
  ⟨deployment.numberedId owner .subnet (toString index),
    deployment.numberedId owner .routeTableAssociation (toString index), cidr⟩

/-- The network of a description. A dedicated one is named after its owner, and its address ranges
are checked, the subnets' after its own. -/
def resolve (deployment : Deployment) (owner : String) (spec : NetworkSpec) :
    Except CompileError Network :=
  match existing? spec with
  | some network => .ok (.existing network)
  | none => do
    let context := s!"vpc of cluster {owner}"
    match spec.cidr with
    | none => .error (.missingField context "cidr")
    | some cidr =>
      checkCidr context cidr
      spec.subnets.forM (checkCidr context)
      return .dedicated {
        vpc := deployment.logicalId owner .vpc
        internetGateway := deployment.logicalId owner .internetGateway
        gatewayAttachment := deployment.logicalId owner .gatewayAttachment
        routeTable := deployment.logicalId owner .routeTable
        route := deployment.logicalId owner .route
        cidr
        subnets := spec.subnets.mapIdx fun index subnet =>
          planSubnet deployment owner subnet index }

def isExisting : Network → Bool
  | .dedicated _ => false
  | .existing _ => true

def vpcRef : Network → Value
  | .dedicated network => .ref network.vpc
  | .existing network => network.vpcId

def subnets : Network → Value
  | .dedicated network => .list (network.subnets.map fun subnet => .ref subnet.name)
  | .existing network => network.subnetIds

/-- The subnets of the load balancer, which only an existing network tells apart. -/
def albSubnets : Network → Value
  | .dedicated network => subnets (.dedicated network)
  | .existing network => network.albSubnetIds.getD network.subnetIds

def securityGroups? : Network → Option SecurityGroups
  | .dedicated _ => none
  | .existing network => some network.securityGroups

end Network

end ClusterStack
