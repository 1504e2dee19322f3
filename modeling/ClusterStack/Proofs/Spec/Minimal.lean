import ClusterStack.Cluster.Basic

/-!
# Minimal descriptions

Descriptions that give what is required and leave out the rest.
-/

set_option autoImplicit false

namespace ClusterStack

/-- A service of which only its name and its image are given. -/
def ServiceSpec.minimal (name image : String) : ServiceSpec where
  name := name
  environment := []
  propagateTags := .off
  privileged := false
  volumes := []
  mountPoints := []
  cpu := none
  memory := none
  softCpu := none
  hardCpu := none
  softMemory := none
  image := some image
  imageRepository := none
  imageTag := none
  entryPoint := none
  desiredCount := none
  ec2LaunchType := false
  daemonEc2Type := false
  placementConstraints := []
  placementStrategies := []
  capacityProviderStrategy := []
  disablePublicIpAssign := false
  listeners := []
  path := none
  priority := none
  hostname := none
  limitSourceIps := none
  limitHeaders := []
  healthCheckUri := none
  healthCheckProtocol := none
  healthCheckInterval := none
  healthCheckTimeout := none
  healthCheckHealthyCount := none
  healthCheckUnhealthyCount := none
  healthCheckStatusCode := none
  deregistrationDelay := none
  logsRetentionInDays := none
  logsMultilinePattern := none
  taskRoleArn := none
  autoScale := none
  schedulerRate := none
  schedulerConcurrency := none
  schedulerInput := none

/-- A cluster with a network of its own, of which only its name and its services are given. -/
def ClusterSpec.minimal (name : String) (services : List ServiceSpec) : ClusterSpec where
  tags := []
  enableContainerInsights := false
  albPrivate := false
  albDisabled := false
  albListenerArn := none
  timeout := none
  clusterName := name
  clusterArns := none
  services := services
  executionRoleArn := none
  vpc := some {
    cidr := some "10.0.0.0/16"
    subnets := []
    vpcId := none
    securityGroupIds := none
    subnetIds := none
    albSubnetIds := none }

def ServiceSpec.listening (spec : ServiceSpec) (listeners : List ListenerSpec) : ServiceSpec :=
  { spec with listeners := listeners }

/-- A listener on the default port of a protocol. -/
def ListenerSpec.minimal (protocol : AlbProtocol) : ListenerSpec where
  albProtocol := some protocol
  port := none
  containerPort := none
  certificateArns := none
  authorizer := none

/-- A listener that is open to those only whom an authorizer knows. -/
def ListenerSpec.guarded (certificate : String) (authorizer : AuthorizerSpec) : ListenerSpec :=
  { ListenerSpec.minimal .https with
    certificateArns := some [certificate]
    authorizer := some authorizer }

/-- A step of scaling whose metric depends on some resources. -/
def StepScalingSpec.minimal (dependencies : List String) : StepScalingSpec where
  adjustmentType := none
  cooldown := none
  aggregation := .average
  minAdjustmentMagnitude := none
  scaleBy := none
  metricNamespace := "AWS/SQS"
  metricName := "NumberOfMessagesSent"
  metricDimension := "QueueName"
  metricDimensionTarget := .string "jobs"
  metricEvaluationPeriod := none
  metricPeriod := none
  operator := .less
  targetValue := .finite (.zero false)
  additionalDimension := []
  treatMissingData := none
  fillupMissingData := none
  metricDependsOn := some (.many dependencies)

/-- The description with scaling in, on a metric that depends on some resources. -/
def ServiceSpec.scalingIn (spec : ServiceSpec) (dependencies : List String) : ServiceSpec :=
  { spec with
    autoScale := some {
      min := none
      max := none
      metric := none
      cooldown := none
      cooldownIn := none
      cooldownOut := none
      targetValue := none
      scaleIn := some (.minimal dependencies)
      scaleOut := none } }

end ClusterStack
