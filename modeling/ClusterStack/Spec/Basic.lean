import ClusterStack.Number.Real64
import ClusterStack.Spec.Choice

/-!
# Descriptions

What the author of a cluster writes down. These are plain records; what they amount to is decided
when a cluster is planned.
-/

set_option autoImplicit false

namespace ClusterStack

/-- A single value or a list of values. -/
inductive OneOrMany (α : Type) where
  | one (value : α)
  | many (values : List α)
  deriving DecidableEq, Repr

def OneOrMany.toList {α : Type} : OneOrMany α → List α
  | .one value => [value]
  | .many values => values

/-- An optional value counts as absent when it is null, the word `null` or the empty text. -/
def provided? : Option Json → Option Json
  | none | some .null | some (.string "null") | some (.string "") => none
  | some value => some value

/-- A volume of the host. -/
structure VolumeSpec where
  name : String
  source : String
  deriving DecidableEq, Repr

/-- A volume that is visible inside a container. -/
structure MountPointSpec where
  source : String
  dest : String
  deriving DecidableEq, Repr

/-- A constraint on the hosts of a service. -/
structure PlacementConstraintSpec where
  expression : Option String
  kind : String
  deriving DecidableEq, Repr

/-- A strategy for choosing the hosts of a service. -/
structure PlacementStrategySpec where
  field : Option String
  kind : String
  deriving DecidableEq, Repr

/-- A share of the tasks that run on a capacity provider. -/
structure CapacityProviderSpec where
  base : Option Nat
  weight : Option Nat
  capacityProvider : String
  deriving DecidableEq, Repr

/-- Values of a header that a request must have. -/
structure HeaderMatchSpec where
  name : String
  value : OneOrMany String
  deriving DecidableEq, Repr

/-- An entry of a list of routing rules. -/
inductive PathRuleSpec where
  | path (path : String)
  | rule (path : String) (method : Option String) (priority : Option Nat)
  deriving DecidableEq, Repr

/-- Routing by a single path or by a list of rules. -/
inductive PathSpec where
  | single (path : String)
  | rules (rules : List PathRuleSpec)
  deriving DecidableEq, Repr

/-- The user pool that requests to a listener are checked against. -/
structure AuthorizerSpec where
  poolArn : String
  clientId : String
  poolDomain : String
  deriving DecidableEq, Repr

/-- A port of a service. With a protocol it is served through the cluster's load balancer. -/
structure ListenerSpec where
  albProtocol : Option AlbProtocol
  port : Option UInt16
  containerPort : Option UInt16
  certificateArns : Option (List String)
  authorizer : Option AuthorizerSpec
  deriving DecidableEq, Repr

/-- A further dimension of a metric. -/
structure AdditionalDimensionSpec where
  dimension : String
  target : Json
  deriving Repr

/-- What missing data points of an alarm are filled with. -/
inductive FillValue where
  | flag (value : Bool)
  | number (value : Real64)
  deriving DecidableEq, Repr

namespace FillValue

/-- The number that missing data points are filled with, where it is one that JSON has. -/
def fill? : FillValue → Option Binary64
  | .flag true => some (.zero false)
  | .flag false => none
  | .number value => value.finite?

/-- What missing data points are filled with, as it is written inside an expression. -/
def text? : FillValue → Option String
  | .number value => some value.text
  | .flag requested => (fill? (.flag requested)).map (·.text .plain)

end FillValue

/-- One direction of scaling in steps, and the alarm that triggers it. -/
structure StepScalingSpec where
  adjustmentType : Option AdjustmentType
  cooldown : Option Nat
  aggregation : Statistic
  minAdjustmentMagnitude : Option Nat
  scaleBy : Option Int
  metricNamespace : String
  metricName : String
  metricDimension : String
  metricDimensionTarget : Json
  metricEvaluationPeriod : Option Nat
  metricPeriod : Option Nat
  operator : ComparisonOperator
  targetValue : Real64
  additionalDimension : List AdditionalDimensionSpec
  treatMissingData : Option MissingDataTreatment
  fillupMissingData : Option FillValue
  metricDependsOn : Option (OneOrMany String)
  deriving Repr

/-- How a service scales. -/
structure AutoScaleSpec where
  min : Option Nat
  max : Option Nat
  metric : Option MetricType
  cooldown : Option Nat
  cooldownIn : Option Nat
  cooldownOut : Option Nat
  targetValue : Option Real64
  scaleIn : Option StepScalingSpec
  scaleOut : Option StepScalingSpec
  deriving Repr

/-- A service of a cluster. -/
structure ServiceSpec where
  name : String
  environment : List (String × Json)
  propagateTags : PropagateTags
  privileged : Bool
  volumes : List VolumeSpec
  mountPoints : List MountPointSpec
  /-- CPU units; a negative value leaves the setting out. -/
  cpu : Option Int
  /-- Memory in MiB; a negative value leaves the setting out. -/
  memory : Option Int
  softCpu : Option Int
  hardCpu : Option Int
  softMemory : Option Int
  image : Option String
  imageRepository : Option String
  imageTag : Option String
  entryPoint : Option (List String)
  desiredCount : Option Nat
  ec2LaunchType : Bool
  daemonEc2Type : Bool
  placementConstraints : List PlacementConstraintSpec
  placementStrategies : List PlacementStrategySpec
  capacityProviderStrategy : List CapacityProviderSpec
  disablePublicIpAssign : Bool
  listeners : List ListenerSpec
  path : Option PathSpec
  /-- The priority of the rule of a single path. -/
  priority : Option Nat
  hostname : Option (OneOrMany String)
  limitSourceIps : Option (OneOrMany String)
  limitHeaders : List HeaderMatchSpec
  healthCheckUri : Option String
  healthCheckProtocol : Option String
  healthCheckInterval : Option Nat
  healthCheckTimeout : Option Nat
  healthCheckHealthyCount : Option Nat
  healthCheckUnhealthyCount : Option Nat
  healthCheckStatusCode : Option String
  deregistrationDelay : Option Nat
  logsRetentionInDays : Option Nat
  logsMultilinePattern : Option String
  taskRoleArn : Option Json
  autoScale : Option AutoScaleSpec
  /-- A schedule expression, such as `rate(5 minutes)`. -/
  schedulerRate : Option String
  schedulerConcurrency : Option Nat
  schedulerInput : Option Json
  deriving Repr

/-- References to a cluster that exists elsewhere. -/
structure ClusterArns where
  ecsClusterArn : Option Json
  ecsIngressSecGroupId : Option Json
  deriving Repr

/-- The network of a cluster: an address range and subnets for a network of its own, or the ids of
an existing one. -/
structure NetworkSpec where
  cidr : Option String
  subnets : List String
  vpcId : Option Json
  securityGroupIds : Option Json
  subnetIds : Option Json
  albSubnetIds : Option Json
  deriving Repr

/-- A cluster. -/
structure ClusterSpec where
  tags : List (String × Json)
  enableContainerInsights : Bool
  albPrivate : Bool
  albDisabled : Bool
  /-- The listener of a load balancer that is managed elsewhere. -/
  albListenerArn : Option Json
  /-- The idle timeout of the load balancer in seconds. -/
  timeout : Option Nat
  clusterName : String
  clusterArns : Option ClusterArns
  services : List ServiceSpec
  executionRoleArn : Option Json
  vpc : Option NetworkSpec
  deriving Repr

end ClusterStack
