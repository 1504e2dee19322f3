import ClusterStack.Balancer.Basic
import ClusterStack.Listener.Resources
import ClusterStack.Scaling.Resources
import ClusterStack.Service.ExecutionRole

/-!
# Resources of a service

The service and its task definition, a log group, a schedule where one is described, the rules and
the target group of each attached listener, the resources of scaling, the execution role, and the
addresses at which a generated load balancer serves it.
-/

set_option autoImplicit false

namespace ClusterStack

/-- What a service takes from its cluster. -/
structure ServiceScope where
  deployment : Deployment
  tags : Tags
  network : Network
  balancer : Balancer
  clusterRef : Value
  clusterArn : Value
  /-- The security group that the containers are in, where there is one. -/
  ingressGroup : Option Value
  executionRole : ExecutionRole
  deriving Repr

/-- The security groups of every service: those of an existing network, then the group of the
containers. An expression is taken as it is. -/
def ServiceScope.securityGroups (scope : ServiceScope) : Value :=
  match scope.network.securityGroups? with
  | none => .list scope.ingressGroup.toList
  | some groups =>
    match groups.toList? with
    | some items => .list (items ++ scope.ingressGroup.toList)
    | none => groups.toValue

def Value.listOf? {α : Type} (items : List α) (value : α → Value) : Option Value :=
  if items.isEmpty then none else some (.list (items.map value))

def Value.orNone {α : Type} (value : α → Value) (content : Option α) : Value :=
  content.elim .noValue value

namespace LaunchType

/-- The properties of a service that only a launch type on hosts of one's own has. -/
def placementProperties : LaunchType → List (String × Option Value)
  | .fargate _ => []
  | .ec2 _ constraints strategies providers => [
    ("PlacementConstraints", Value.listOf? constraints fun entry => .map [
      ("Expression", Value.orNone .string entry.expression),
      ("Type", .string entry.kind)]),
    ("PlacementStrategies", Value.listOf? strategies fun entry => .map [
      ("Field", Value.orNone .string entry.field),
      ("Type", .string entry.kind)]),
    ("CapacityProviderStrategy", Value.listOf? providers fun entry => .map [
      ("Base", Value.orNone .ofNat entry.base),
      ("Weight", Value.orNone .ofNat entry.weight),
      ("CapacityProvider", .string entry.capacityProvider)])]

/-- The network configuration of a service, which hosts of one's own do without. -/
def networkConfiguration? (securityGroups subnets : Value) : LaunchType → Option Value
  | .fargate assignPublicIp => some (.map [("AwsvpcConfiguration", .map [
      ("AssignPublicIp", .string (if assignPublicIp then "ENABLED" else "DISABLED")),
      ("SecurityGroups", securityGroups),
      ("Subnets", subnets)])])
  | .ec2 _ _ _ _ => none

end LaunchType

namespace Service

def ruleNames (service : Service) : List String :=
  service.attachedListeners.flatMap fun listener => listener.ruleNames service.routing

/-- What connects a listener of the load balancer to the container. -/
def targetEntry (service : Service) (listener : Listener) : Value :=
  .map [
    ("ContainerName", .string service.container),
    ("ContainerPort", .ofNat listener.containerPort.toNat),
    ("TargetGroupArn", .ref listener.targetGroup)]

/-- The service itself, which waits for its own listener rules. -/
def serviceResource (service : Service) (scope : ServiceScope) : Resource :=
  let spec := service.spec
  let tags := scope.tags.toValue?
  let isDaemon := service.launchType.isDaemon
  .make .ecsService ([
    ("ServiceName", some (.string service.logicalId)),
    ("Cluster", some scope.clusterRef),
    ("EnableECSManagedTags", tags.map fun _ => .bool true),
    ("Tags", tags),
    ("LaunchType", some (.string service.launchType.name)),
    ("SchedulingStrategy", if isDaemon then some (.string "DAEMON") else none),
    ("DeploymentConfiguration", some (.map [
      ("MaximumPercent", .int 200),
      ("MinimumHealthyPercent", .int 75)])),
    ("DesiredCount", if isDaemon then none else some (.ofNat (spec.desiredCount.getD 1))),
    ("NetworkConfiguration",
      service.launchType.networkConfiguration? scope.securityGroups scope.network.subnets),
    ("TaskDefinition", some (.ref service.taskDefinition)),
    ("LoadBalancers", Value.listOf? service.attachedListeners service.targetEntry),
    ("PropagateTags",
      if spec.propagateTags = .off then none else some (.string spec.propagateTags.text))]
    ++ service.launchType.placementProperties) service.ruleNames

def logConfiguration (service : Service) : Value :=
  .map [
    ("LogDriver", .string "awslogs"),
    ("Options", .present [
      ("awslogs-group", some (.string service.logGroupName)),
      ("awslogs-region", some .region),
      ("awslogs-stream-prefix", some (.string service.taskDefinition)),
      ("awslogs-multiline-pattern", service.spec.logsMultilinePattern.map .string)])]

/-- The limits on processor time; a limit that is left out is unlimited. -/
def limits? (spec : ServiceSpec) : Option Value :=
  if spec.softCpu.isSome || spec.hardCpu.isSome then
    some (.list [.map [
      ("SoftLimit", .int (spec.softCpu.getD (-1))),
      ("Name", .string "cpu"),
      ("HardLimit", .int (spec.hardCpu.getD (-1)))]])
  else
    none

def applicable? (quantity : Option Int) : Option Value :=
  (quantity.filter (0 ≤ ·)).map .int

def containerDefinition (service : Service) : Value :=
  let spec := service.spec
  .present [
    ("Name", some (.string service.container)),
    ("Cpu", applicable? spec.cpu),
    ("Memory", applicable? spec.memory),
    ("Ulimits", limits? spec),
    ("MemoryReservation", spec.softMemory.map .int),
    ("Image", some (.string service.image)),
    ("EntryPoint", spec.entryPoint.map .strings),
    ("Privileged", if spec.privileged then some (.bool true) else none),
    ("MountPoints", Value.listOf? spec.mountPoints fun mount => .map [
      ("SourceVolume", .string mount.source),
      ("ContainerPath", .string mount.dest)]),
    ("PortMappings", Value.listOf? service.listeners fun listener => .map [
      ("ContainerPort", .ofNat listener.containerPort.toNat)]),
    ("LogConfiguration", some service.logConfiguration),
    ("Environment", Value.listOf? spec.environment fun (name, value) => .map [
      ("Name", .string name),
      ("Value", .ofInput value)])]

def taskResource (service : Service) (scope : ServiceScope) : Resource :=
  let spec := service.spec
  .make .ecsTaskDefinition [
    ("Tags", scope.tags.toValue?),
    ("Family", some (.string service.taskDefinition)),
    ("Cpu", applicable? spec.cpu),
    ("Memory", applicable? spec.memory),
    ("NetworkMode", some (.string service.launchType.networkMode)),
    ("RequiresCompatibilities", some (.strings [service.launchType.name])),
    ("ExecutionRoleArn", some scope.executionRole.arn),
    ("TaskRoleArn", some (Value.orNone .ofInput (provided? spec.taskRoleArn))),
    ("Volumes", Value.listOf? spec.volumes fun volume => .map [
      ("Name", .string volume.name),
      ("Host", .map [("SourcePath", .string volume.source)])]),
    ("ContainerDefinitions", some (.list [service.containerDefinition]))] []

/-- The log group; logs are kept for a year unless the description says otherwise. -/
def logGroupResource (service : Service) : Resource :=
  .make .logGroup [
    ("LogGroupName", some (.string service.logGroupName)),
    ("RetentionInDays", some (.ofNat (service.spec.logsRetentionInDays.getD 365)))] []

/-- The input of scheduled tasks: a text as it is, anything else as JSON. -/
def schedulerInput? (spec : ServiceSpec) : Option Value :=
  (provided? spec.schedulerInput).map fun
    | .string text => .string text
    | other => .string other.compact

def schedulerResource (service : Service) (scope : ServiceScope) (rate : String) : Resource :=
  let spec := service.spec
  let target : Value := .present [
    ("Id", some (.string service.schedulerRule)),
    ("RoleArn", some scope.executionRole.arn),
    ("EcsParameters", some (.map [
      ("TaskDefinitionArn", .ref service.taskDefinition),
      ("TaskCount", .ofNat (spec.schedulerConcurrency.getD 1))])),
    ("Arn", some scope.clusterArn),
    ("Input", schedulerInput? spec)]
  let rule := Resource.make .eventsRule [
    ("Description", some (.string ("Scheduler for task " ++ service.taskDefinition))),
    ("Name", some (.string service.schedulerRule)),
    ("ScheduleExpression", some (.string rate)),
    ("State", some (.string "ENABLED")),
    ("Targets", some (.list [target]))] []
  { rule with deletionPolicy := none }

/-- The target group of a listener, with the health check of the service. -/
def targetGroupResource (service : Service) (scope : ServiceScope) (listener : Listener) :
    Resource :=
  let spec := service.spec
  .make .targetGroup [
    ("Tags", scope.tags.toValue?),
    ("HealthCheckIntervalSeconds", some (.ofNat (spec.healthCheckInterval.getD 6))),
    ("HealthCheckPath", some (.string (spec.healthCheckUri.getD "/"))),
    ("HealthCheckProtocol", some (.string (spec.healthCheckProtocol.getD "HTTP"))),
    ("HealthCheckTimeoutSeconds", some (.ofNat (spec.healthCheckTimeout.getD 5))),
    ("HealthyThresholdCount", some (.ofNat (spec.healthCheckHealthyCount.getD 2))),
    ("Matcher", spec.healthCheckStatusCode.map fun code => .map [("HttpCode", .string code)]),
    ("TargetGroupAttributes", spec.deregistrationDelay.map fun delay => .list [.map [
      ("Key", .string "deregistration_delay.timeout_seconds"),
      ("Value", .string (toString delay))]]),
    ("TargetType", some (.string service.launchType.targetType)),
    ("Port", some (.ofNat listener.containerPort.toNat)),
    ("Protocol", some (.string "HTTP")),
    ("UnhealthyThresholdCount", some (.ofNat (spec.healthCheckUnhealthyCount.getD 2))),
    ("VpcId", some scope.network.vpcRef)] []

/-- The resources that a service always has, and its schedule where one is described. -/
def coreDeclarations (service : Service) (scope : ServiceScope) : List Declaration := [
  .resource service.logicalId (service.serviceResource scope),
  .resource service.taskDefinition (service.taskResource scope),
  .resource service.logGroup service.logGroupResource]
  ++ service.spec.schedulerRate.toList.map fun rate =>
    .resource service.schedulerRule (service.schedulerResource scope rate)

def listenerDeclarations (service : Service) (scope : ServiceScope) (listener : Listener) :
    Except CompileError (List Declaration) := do
  let listenerArn ← scope.balancer.listenerArn service.name listener.port
  return listener.ruleDeclarations service.routing listenerArn ++
    [.resource listener.targetGroup (service.targetGroupResource scope listener)]

def scalingDeclarations (service : Service) (scope : ServiceScope) : List Declaration :=
  service.scaling.toList.flatMap fun scaling => scaling.declarations {
    deployment := scope.deployment
    servicePrefix := service.servicePrefix
    service := service.logicalId
    clusterRef := scope.clusterRef
    tags := scope.tags }

/-- The addresses at which a generated load balancer serves the service. -/
def outputDeclarations (service : Service) (scope : ServiceScope) : List Declaration :=
  if scope.balancer.isManaged then
    service.listeners.flatMap (·.outputDeclarations scope.balancer.dnsName)
  else
    []

def declarations (service : Service) (scope : ServiceScope) :
    Except CompileError (List Declaration) := do
  let attached ← service.attachedListeners.mapM (service.listenerDeclarations scope)
  return service.coreDeclarations scope ++ attached.flatten ++ service.scalingDeclarations scope ++
    scope.executionRole.declarations scope.tags ++ service.outputDeclarations scope

end Service

end ClusterStack
