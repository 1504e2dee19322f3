import ClusterStack.Template.Value

/-!
# Resources and outputs

The definitions that a template holds.
-/

set_option autoImplicit false

namespace ClusterStack

/-- The kinds of resource that are generated. -/
inductive ResourceKind where
  | ecsCluster
  | ecsService
  | ecsTaskDefinition
  | vpc
  | internetGateway
  | vpcGatewayAttachment
  | routeTable
  | route
  | subnet
  | subnetRouteTableAssociation
  | securityGroup
  | securityGroupIngress
  | loadBalancer
  | loadBalancerListener
  | listenerRule
  | targetGroup
  | logGroup
  | iamRole
  | eventsRule
  | scalableTarget
  | scalingPolicy
  | alarm
  deriving DecidableEq, Repr, Inhabited

def ResourceKind.typeName : ResourceKind → String
  | .ecsCluster => "AWS::ECS::Cluster"
  | .ecsService => "AWS::ECS::Service"
  | .ecsTaskDefinition => "AWS::ECS::TaskDefinition"
  | .vpc => "AWS::EC2::VPC"
  | .internetGateway => "AWS::EC2::InternetGateway"
  | .vpcGatewayAttachment => "AWS::EC2::VPCGatewayAttachment"
  | .routeTable => "AWS::EC2::RouteTable"
  | .route => "AWS::EC2::Route"
  | .subnet => "AWS::EC2::Subnet"
  | .subnetRouteTableAssociation => "AWS::EC2::SubnetRouteTableAssociation"
  | .securityGroup => "AWS::EC2::SecurityGroup"
  | .securityGroupIngress => "AWS::EC2::SecurityGroupIngress"
  | .loadBalancer => "AWS::ElasticLoadBalancingV2::LoadBalancer"
  | .loadBalancerListener => "AWS::ElasticLoadBalancingV2::Listener"
  | .listenerRule => "AWS::ElasticLoadBalancingV2::ListenerRule"
  | .targetGroup => "AWS::ElasticLoadBalancingV2::TargetGroup"
  | .logGroup => "AWS::Logs::LogGroup"
  | .iamRole => "AWS::IAM::Role"
  | .eventsRule => "AWS::Events::Rule"
  | .scalableTarget => "AWS::ApplicationAutoScaling::ScalableTarget"
  | .scalingPolicy => "AWS::ApplicationAutoScaling::ScalingPolicy"
  | .alarm => "AWS::CloudWatch::Alarm"

/-- What happens to a resource when it leaves the template. -/
inductive DeletionPolicy where
  | delete
  | retain
  deriving DecidableEq, Repr, Inhabited

def DeletionPolicy.name : DeletionPolicy → String
  | .delete => "Delete"
  | .retain => "Retain"

/-- A resource. Its dependencies are those on top of the ones its properties refer to. -/
structure Resource where
  kind : ResourceKind
  deletionPolicy : Option DeletionPolicy
  properties : List (String × Value)
  dependsOn : List String
  deriving Repr, Inhabited

namespace Resource

/-- A resource that is deleted with its template entry. Of the properties, whose keys are distinct,
it has those with a value. -/
def make (kind : ResourceKind) (properties : List (String × Option Value))
    (dependsOn : List String) : Resource :=
  ⟨kind, some .delete, properties.filterMap fun entry => entry.2.map (entry.1, ·), dependsOn⟩

def setProperty (resource : Resource) (key : String) (value : Value) : Resource :=
  { resource with properties := Entries.insert resource.properties key value }

def property? (resource : Resource) (key : String) : Option Value :=
  Entries.get? resource.properties key

/-- The targets of all references in the properties, in order of appearance. -/
def references (resource : Resource) : List String :=
  Value.entryReferences resource.properties

/-- Whether two resources are equal: the order of properties does not matter. -/
def same (a b : Resource) : Bool :=
  a.kind == b.kind && a.deletionPolicy == b.deletionPolicy && a.dependsOn == b.dependsOn
    && Value.same (.map a.properties) (.map b.properties)

end Resource

/-- An output of a template. -/
structure Output where
  description : String
  value : Value
  exportName : String
  deriving Repr, Inhabited

def Output.same (a b : Output) : Bool :=
  a.description == b.description && a.exportName == b.exportName && a.value.same b.value

end ClusterStack
