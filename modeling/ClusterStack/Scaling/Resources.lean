import ClusterStack.Naming.Role
import ClusterStack.Number.Layout
import ClusterStack.Scaling.Basic
import ClusterStack.Tags
import ClusterStack.Template.Basic

/-!
# Resources of scaling

A role, a scalable target, and either a tracking policy or, for each direction, a step policy with
the alarm that triggers it.
-/

set_option autoImplicit false

namespace ClusterStack

/-- What the resources of scaling are attached to. -/
structure ScalingScope where
  deployment : Deployment
  servicePrefix : String
  service : String
  clusterRef : Value
  tags : Tags
  deriving Repr

namespace ScalingScope

def id (scope : ScalingScope) (role : Role) : String :=
  scope.deployment.logicalId scope.servicePrefix role

def roleResource (scope : ScalingScope) : Resource :=
  let trust : Value := .map [("Statement", .list [.map [
    ("Effect", .string "Allow"),
    ("Action", .string "sts:AssumeRole"),
    ("Principal", .map [("Service", .strings [
      "ecs-tasks.amazonaws.com", "application-autoscaling.amazonaws.com"])])]])]
  let policies : Value := .list [.map [
    ("PolicyName", .string "service-autoscaling"),
    ("PolicyDocument", .map [("Statement", .list [.map [
      ("Effect", .string "Allow"),
      ("Action", .strings [
        "application-autoscaling:*", "cloudwatch:DescribeAlarms", "cloudwatch:PutMetricAlarm",
        "ecs:DescribeServices", "ecs:UpdateService"]),
      ("Resource", .string "*")]])])]]
  .make .iamRole [
    ("Tags", scope.tags.toValue?),
    ("RoleName", some (.string (scope.id .scalingRole))),
    ("AssumeRolePolicyDocument", some trust),
    ("ManagedPolicyArns", some (.strings [
      "arn:aws:iam::aws:policy/service-role/AmazonEC2ContainerServiceAutoscaleRole"])),
    ("Path", some (.string "/")),
    ("Policies", some policies)] []

def targetResource (scope : ScalingScope) (scaling : Scaling) : Resource :=
  .make .scalableTarget [
    ("MinCapacity", some (.ofNat scaling.min)),
    ("MaxCapacity", some (.ofNat scaling.max)),
    ("ScalableDimension", some (.string "ecs:service:DesiredCount")),
    ("ServiceNamespace", some (.string "ecs")),
    ("ResourceId", some (.join "/" [
      .string "service", scope.clusterRef, .attribute scope.service "Name"])),
    ("RoleARN", some (.attribute (scope.id .scalingRole) "Arn"))] []

def trackingResource (scope : ScalingScope) (metric : MetricType) (targetValue : Real64)
    (cooldownIn cooldownOut : Nat) : Resource :=
  .make .scalingPolicy [
    ("PolicyName", some (.string (scope.id .scalingPolicy))),
    ("PolicyType", some (.string "TargetTrackingScaling")),
    ("ScalingTargetId", some (.ref (scope.id .scalingTarget))),
    ("TargetTrackingScalingPolicyConfiguration", some (.map [
      ("ScaleInCooldown", .ofNat cooldownIn),
      ("ScaleOutCooldown", .ofNat cooldownOut),
      ("TargetValue", .ofReal64 targetValue),
      ("PredefinedMetricSpecification", .map [
        ("PredefinedMetricType", .string metric.text)])]))] []

end ScalingScope

namespace Direction

def policyRole : Direction → Role
  | .scaleIn => .scalingPolicyIn
  | .scaleOut => .scalingPolicyOut

def alarmRole : Direction → Role
  | .scaleIn => .scalingAlarmIn
  | .scaleOut => .scalingAlarmOut

end Direction

namespace StepScalingSpec

/-- The change of capacity, and on which side of the threshold it applies. -/
def adjustment (step : StepScalingSpec) (direction : Direction) : Value :=
  .present [
    ("MetricIntervalLowerBound", if step.operator.isGreater then some (.int 0) else none),
    ("MetricIntervalUpperBound", if step.operator.isLess then some (.int 0) else none),
    ("ScalingAdjustment", some (.int (step.scaleBy.getD direction.defaultStep)))]

def dimensions (step : StepScalingSpec) : Value :=
  let dimension (name : String) (target : Json) : Value :=
    .map [("Name", .string name), ("Value", .ofInput target)]
  .list (dimension step.metricDimension step.metricDimensionTarget ::
    step.additionalDimension.map fun further => dimension further.dimension further.target)

/-- The queries of a metric whose missing data points are filled. -/
def filledMetrics (step : StepScalingSpec) (amount : String) : Value :=
  .list [
    .map [
      ("Id", .string "m1"),
      ("ReturnData", .bool false),
      ("MetricStat", .map [
        ("Metric", .map [
          ("Dimensions", step.dimensions),
          ("MetricName", .string step.metricName),
          ("Namespace", .string step.metricNamespace)]),
        ("Period", .ofNat (step.metricPeriod.getD 120)),
        ("Stat", .string step.aggregation.text)])],
    .map [
      ("Expression", .string s!"FILL(m1, {amount})"),
      ("Id", .string "e1"),
      ("Label", .string s!"Fillup value (absence of data, uses {amount} value)"),
      ("ReturnData", .bool true)]]

/-- The properties that name the metric of an alarm: queries where missing data points are filled,
and the metric itself otherwise. -/
def metricProperties (step : StepScalingSpec) : List (String × Option Value) :=
  match step.fillupMissingData.bind FillValue.text? with
  | some amount => [("Metrics", some (step.filledMetrics amount))]
  | none => [
    ("MetricName", some (.string step.metricName)),
    ("Dimensions", some step.dimensions),
    ("Period", some (.ofNat (step.metricPeriod.getD 120))),
    ("Namespace", some (.string step.metricNamespace)),
    ("Statistic", some (.string step.aggregation.text))]

end StepScalingSpec

namespace ScalingScope

def stepPolicyResource (scope : ScalingScope) (direction : Direction) (step : StepScalingSpec) :
    Resource :=
  .make .scalingPolicy [
    ("PolicyName", some (.string (scope.id direction.policyRole))),
    ("PolicyType", some (.string "StepScaling")),
    ("ScalingTargetId", some (.ref (scope.id .scalingTarget))),
    ("StepScalingPolicyConfiguration", some (.present [
      ("AdjustmentType",
        some (.string (step.adjustmentType.getD .changeInCapacity).text)),
      ("Cooldown", some (.ofNat (step.cooldown.getD 300))),
      ("MetricAggregationType", some (.string step.aggregation.text)),
      ("MinAdjustmentMagnitude", step.minAdjustmentMagnitude.map .ofNat),
      ("StepAdjustments", some (.list [step.adjustment direction]))]))] []

def alarmResource (scope : ScalingScope) (direction : Direction) (step : StepScalingSpec) :
    Resource :=
  let policy := scope.id direction.policyRole
  .make .alarm ([
    ("AlarmName", some (.string (scope.id direction.alarmRole))),
    ("AlarmDescription",
      some (.string ("Auto created scale " ++ direction.label ++ " policy for " ++ scope.service))),
    ("EvaluationPeriods", some (.ofNat (step.metricEvaluationPeriod.getD 1))),
    ("ComparisonOperator", some (.string step.operator.text)),
    ("Threshold", some (.ofReal64 step.targetValue)),
    ("TreatMissingData", some (.string (step.treatMissingData.getD .notBreaching).text)),
    ("AlarmActions", some (.list [.ref policy]))] ++ step.metricProperties)
    (step.dependencies ++ [policy])

def stepDeclarations (scope : ScalingScope) (step : Direction × StepScalingSpec) :
    List Declaration := [
  .resource (scope.id step.1.policyRole) (scope.stepPolicyResource step.1 step.2),
  .resource (scope.id step.1.alarmRole) (scope.alarmResource step.1 step.2)]

end ScalingScope

def Scaling.declarations (scaling : Scaling) (scope : ScalingScope) : List Declaration :=
  let common : List Declaration := [
    .resource (scope.id .scalingRole) scope.roleResource,
    .resource (scope.id .scalingTarget) (scope.targetResource scaling)]
  match scaling.policy with
  | .targetTracking metric targetValue cooldownIn cooldownOut =>
    common ++ [.resource (scope.id .scalingPolicy)
      (scope.trackingResource metric targetValue cooldownIn cooldownOut)]
  | .steps _ _ => common ++ scaling.steps.flatMap scope.stepDeclarations

end ClusterStack
