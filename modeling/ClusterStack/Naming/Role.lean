import ClusterStack.Naming.Normalize

/-!
# Logical ids

The key of every generated resource is put together from a prefix (host service, cluster and, below
a service, the service), the role of the resource, the deployment stage, and a discriminator where a
role has several instances. The same resource gets the same id on every run.
-/

set_option autoImplicit false

namespace ClusterStack

/-- What a generated resource is for. -/
inductive Role where
  | cluster
  | containerSecurityGroup
  | selfIngress
  | vpc
  | internetGateway
  | gatewayAttachment
  | routeTable
  | route
  | subnet
  | routeTableAssociation
  | loadBalancer
  | loadBalancerListener
  | loadBalancerSecurityGroup
  | loadBalancerIngress
  | listenerRule
  | targetGroup
  | taskDefinition
  | container
  | service
  | logGroup
  | schedulerRule
  | executionRole
  | scalingRole
  | scalingTarget
  | scalingPolicy
  | scalingPolicyIn
  | scalingPolicyOut
  | scalingAlarmIn
  | scalingAlarmOut
  deriving DecidableEq, Repr

def Role.tag : Role → String
  | .cluster => "ECSCluster"
  | .containerSecurityGroup => "ContainerSecGroup"
  | .selfIngress => "ECSSecGroupIngressSelf"
  | .vpc => "VPC"
  | .internetGateway => "InternetGateway"
  | .gatewayAttachment => "GatewayAttachment"
  | .routeTable => "RouteTable"
  | .route => "PublicRoute"
  | .subnet => "Subnet"
  | .routeTableAssociation => "RouteTableAssociation"
  | .loadBalancer => "ALB"
  | .loadBalancerListener => "ALBListener"
  | .loadBalancerSecurityGroup => "ALBSecGroup"
  | .loadBalancerIngress => "ECSSecGroupIngressALB"
  | .listenerRule => "ALBListenerRule"
  | .targetGroup => "TargetGroup"
  | .taskDefinition => "TaskDefinition"
  | .container => "Container"
  | .service => "Service"
  | .logGroup => "LogGroup"
  | .schedulerRule => "SchedulerRule"
  | .executionRole => "ECSServiceExecutionRole"
  | .scalingRole => "AutoScalingRole"
  | .scalingTarget => "AutoScalingTarget"
  | .scalingPolicy => "AutoScalingPolicy"
  | .scalingPolicyIn => "AutoScalingPolicyIn"
  | .scalingPolicyOut => "AutoScalingPolicyOut"
  | .scalingAlarmIn => "AutoScalingAlarmIn"
  | .scalingAlarmOut => "AutoScalingAlarmOut"

/-- What every component of one compilation shares: the stage as it was given, and the prefix of
the host service. -/
structure Deployment where
  stage : String
  servicePrefix : String
  deriving DecidableEq, Repr

namespace Deployment

/-- The deployment of a host service, given by its own name, to a stage. -/
def ofService (stage service : String) : Deployment :=
  ⟨stage, normalizeServiceName service⟩

def stageToken (deployment : Deployment) : String :=
  normalizeName deployment.stage

def logicalId (deployment : Deployment) (owner : String) (role : Role) : String :=
  owner ++ role.tag ++ deployment.stageToken

def numberedId (deployment : Deployment) (owner : String) (role : Role) (discriminator : String) :
    String :=
  deployment.logicalId owner role ++ discriminator

end Deployment

end ClusterStack
