import ClusterStack.Spec.Basic

/-!
# Shapes of descriptions

The schema of every part of a description, and the record that is made of what the schema reads.
-/

set_option autoImplicit false

namespace ClusterStack

/-- A type whose values are read from documents. -/
class Described (α : Type) : Type 1 where
  schema : Schema
  build : schema.El → α

def Described.ofTree (α : Type) [Described α] (tree : Json) : Except Fault α :=
  ((Described.schema α).decodeTree tree).map Described.build

def Described.listOfTree (α : Type) [Described α] (tree : Json) : Except Fault (List α) :=
  ((Schema.sequence (Described.schema α)).decodeTree tree).map fun values =>
    values.map Described.build

def Described.ofText (α : Type) [Described α] (format : Format) (text : String) : Except Fault α :=
  ((Described.schema α).decodeText format text).map Described.build

namespace Field

def required (name : String) (schema : Schema) : Field :=
  .mk name [] .never schema

def optional (name : String) (schema : Schema) : Field :=
  .mk name [] .inObject (.optional schema)

def defaulted (name : String) (schema : Schema) : Field :=
  .mk name [] .always schema

def count (name : String) : Field :=
  optional name (.natural 32)

end Field

instance {α : Type} [Choice α] : Described α where
  schema := Choice.schema α
  build word := word

def OneOrMany.schema : Schema :=
  .either "OneOrMany" .text (.sequence .text)

def OneOrMany.build : OneOrMany.schema.El → OneOrMany String
  | .inl value => .one value
  | .inr values => .many values

instance : Described (OneOrMany String) := ⟨OneOrMany.schema, OneOrMany.build⟩

instance : Described VolumeSpec where
  schema := .record "VolumeSpec" true [.required "name" .text, .required "source" .text]
  build | (name, source, ()) => ⟨name, source⟩

instance : Described MountPointSpec where
  schema := .record "MountPointSpec" true [.required "source" .text, .required "dest" .text]
  build | (source, dest, ()) => ⟨source, dest⟩

instance : Described PlacementConstraintSpec where
  schema := .record "PlacementConstraintSpec" true
    [.optional "expression" .text, .required "type" .text]
  build | (expression, kind, ()) => ⟨expression, kind⟩

instance : Described PlacementStrategySpec where
  schema := .record "PlacementStrategySpec" true
    [.optional "field" .text, .required "type" .text]
  build | (field, kind, ()) => ⟨field, kind⟩

instance : Described CapacityProviderSpec where
  schema := .record "CapacityProviderSpec" true
    [.count "base", .count "weight", .required "capacityProvider" .text]
  build | (base, weight, provider, ()) => ⟨base, weight, provider⟩

instance : Described HeaderMatchSpec where
  schema := .record "HeaderMatchSpec" true
    [.mk "name" ["Name"] .never .text, .mk "value" ["Value"] .never OneOrMany.schema]
  build | (name, value, ()) => ⟨name, OneOrMany.build value⟩

def PathRuleSpec.ruleSchema : Schema :=
  .record "PathRuleSpec" false
    [.required "path" .text, .optional "method" .text, .count "priority"]

instance : Described PathRuleSpec where
  schema := .either "PathRuleSpec" .text PathRuleSpec.ruleSchema
  build
    | .inl path => .path path
    | .inr (path, method, priority, ()) => .rule path method priority

instance : Described PathSpec where
  schema := .either "PathSpec" .text (.sequence (Described.schema PathRuleSpec))
  build
    | .inl path => .single path
    | .inr rules => .rules (rules.map Described.build)

instance : Described AuthorizerSpec where
  schema := .record "AuthorizerSpec" true
    [.required "poolArn" .text, .required "clientId" .text, .required "poolDomain" .text]
  build | (pool, client, domain, ()) => ⟨pool, client, domain⟩

instance : Described ListenerSpec where
  schema := .record "ListenerSpec" true [
    .optional "albProtocol" (Choice.schema AlbProtocol),
    .optional "port" (.natural 16),
    .optional "containerPort" (.natural 16),
    .optional "certificateArns" (.sequence .text),
    .optional "authorizer" (Described.schema AuthorizerSpec)]
  build
    | (protocol, port, containerPort, certificates, authorizer, ()) =>
      ⟨protocol, port.map UInt16.ofNat, containerPort.map UInt16.ofNat, certificates,
        authorizer.map Described.build⟩

instance : Described AdditionalDimensionSpec where
  schema := .record "AdditionalDimensionSpec" true
    [.required "dimension" .text, .required "target" .anything]
  build | (dimension, target, ()) => ⟨dimension, target⟩

instance : Described FillValue where
  schema := .either "FillValue" .flag .real
  build
    | .inl value => .flag value
    | .inr value => .number (.finite value)

instance : Described StepScalingSpec where
  schema := .record "StepScalingSpec" true [
    .optional "adjustmentType" (Choice.schema AdjustmentType),
    .count "cooldown",
    .required "aggregation" (Choice.schema Statistic),
    .count "minAdjustmentMagnitude",
    .optional "scaleBy" .integer,
    .required "metricNamespace" .text,
    .required "metricName" .text,
    .required "metricDimension" .text,
    .required "metricDimensionTarget" .anything,
    .count "metricEvaluationPeriod",
    .count "metricPeriod",
    .required "operator" (Choice.schema ComparisonOperator),
    .required "targetValue" .real,
    .defaulted "additionalDimension" (.sequence (Described.schema AdditionalDimensionSpec)),
    .optional "treatMissingData" (Choice.schema MissingDataTreatment),
    .optional "fillupMissingData" (Described.schema FillValue),
    .optional "metricDependsOn" OneOrMany.schema]
  build
    | (adjustmentType, cooldown, aggregation, magnitude, scaleBy, metricNamespace, metricName,
        dimension, target, evaluationPeriod, period, operator, targetValue, additional, missingData,
        fill, dependsOn, ()) =>
      { adjustmentType, cooldown, aggregation
        minAdjustmentMagnitude := magnitude
        scaleBy, metricNamespace, metricName
        metricDimension := dimension
        metricDimensionTarget := target
        metricEvaluationPeriod := evaluationPeriod
        metricPeriod := period
        operator
        targetValue := .finite targetValue
        additionalDimension := additional.map Described.build
        treatMissingData := missingData
        fillupMissingData := fill.map Described.build
        metricDependsOn := dependsOn.map OneOrMany.build }

instance : Described AutoScaleSpec where
  schema := .record "AutoScaleSpec" true [
    .count "min",
    .count "max",
    .optional "metric" (Choice.schema MetricType),
    .count "cooldown",
    .count "cooldownIn",
    .count "cooldownOut",
    .optional "targetValue" .real,
    .optional "scaleIn" (Described.schema StepScalingSpec),
    .optional "scaleOut" (Described.schema StepScalingSpec)]
  build
    | (min, max, metric, cooldown, cooldownIn, cooldownOut, targetValue, scaleIn, scaleOut, ()) =>
      ⟨min, max, metric, cooldown, cooldownIn, cooldownOut, targetValue.map .finite,
        scaleIn.map Described.build, scaleOut.map Described.build⟩

def ServiceSpec.schema : Schema :=
  .record "ServiceSpec" true [
    .required "name" .text,
    .defaulted "environment" (.dictionary .anything),
    .defaulted "propagateTags" (Choice.schema PropagateTags),
    .defaulted "privileged" .flag,
    .defaulted "volumes" (.sequence (Described.schema VolumeSpec)),
    .defaulted "mountPoints" (.sequence (Described.schema MountPointSpec)),
    .optional "cpu" .integer,
    .optional "memory" .integer,
    .optional "softCPU" .integer,
    .optional "hardCPU" .integer,
    .optional "softMemory" .integer,
    .optional "image" .text,
    .optional "imageRepository" .text,
    .optional "imageTag" .text,
    .optional "entryPoint" (.sequence .text),
    .count "desiredCount",
    .defaulted "ec2LaunchType" .flag,
    .defaulted "daemonEc2Type" .flag,
    .defaulted "placementConstraints" (.sequence (Described.schema PlacementConstraintSpec)),
    .defaulted "placementStrategies" (.sequence (Described.schema PlacementStrategySpec)),
    .defaulted "capacityProviderStrategy" (.sequence (Described.schema CapacityProviderSpec)),
    .defaulted "disablePublicIPAssign" .flag,
    .defaulted "listeners" (.sequence (Described.schema ListenerSpec)),
    .optional "path" (Described.schema PathSpec),
    .count "priority",
    .optional "hostname" OneOrMany.schema,
    .optional "limitSourceIPs" OneOrMany.schema,
    .defaulted "limitHeaders" (.sequence (Described.schema HeaderMatchSpec)),
    .optional "healthCheckUri" .text,
    .optional "healthCheckProtocol" .text,
    .count "healthCheckInterval",
    .count "healthCheckTimeout",
    .count "healthCheckHealthyCount",
    .count "healthCheckUnhealthyCount",
    .optional "healthCheckStatusCode" .text,
    .count "deregistrationDelay",
    .count "logsRetentionInDays",
    .optional "logsMultilinePattern" .text,
    .optional "taskRoleArn" .anything,
    .optional "autoScale" (Described.schema AutoScaleSpec),
    .optional "schedulerRate" .text,
    .count "schedulerConcurrency",
    .optional "schedulerInput" .anything]

instance : Described ServiceSpec where
  schema := ServiceSpec.schema
  build values :=
    let (name, environment, propagateTags, privileged, volumes, mountPoints, values) := values
    let (cpu, memory, softCpu, hardCpu, softMemory, image, imageRepository, values) := values
    let (imageTag, entryPoint, desiredCount, ec2LaunchType, daemonEc2Type, values) := values
    let (constraints, strategies, providers, noPublicIp, listeners, path, values) := values
    let (priority, hostname, sourceIps, headers, healthCheckUri, healthCheckProtocol, values) :=
      values
    let (healthCheckInterval, healthCheckTimeout, healthCheckHealthyCount, values) := values
    let (healthCheckUnhealthyCount, healthCheckStatusCode, deregistrationDelay, values) := values
    let (logsRetentionInDays, logsMultilinePattern, taskRoleArn, autoScale, values) := values
    let (schedulerRate, schedulerConcurrency, schedulerInput, ()) := values
    { name, environment, propagateTags, privileged
      volumes := volumes.map Described.build
      mountPoints := mountPoints.map Described.build
      cpu, memory, softCpu, hardCpu, softMemory, image, imageRepository, imageTag, entryPoint
      desiredCount, ec2LaunchType, daemonEc2Type
      placementConstraints := constraints.map Described.build
      placementStrategies := strategies.map Described.build
      capacityProviderStrategy := providers.map Described.build
      disablePublicIpAssign := noPublicIp
      listeners := listeners.map Described.build
      path := path.map Described.build
      priority
      hostname := hostname.map OneOrMany.build
      limitSourceIps := sourceIps.map OneOrMany.build
      limitHeaders := headers.map Described.build
      healthCheckUri, healthCheckProtocol, healthCheckInterval, healthCheckTimeout
      healthCheckHealthyCount, healthCheckUnhealthyCount, healthCheckStatusCode
      deregistrationDelay, logsRetentionInDays, logsMultilinePattern, taskRoleArn
      autoScale := autoScale.map Described.build
      schedulerRate, schedulerConcurrency, schedulerInput }

instance : Described ClusterArns where
  schema := .record "ClusterArns" true
    [.optional "ecsClusterArn" .anything, .optional "ecsIngressSecGroupId" .anything]
  build | (cluster, ingressGroup, ()) => ⟨cluster, ingressGroup⟩

instance : Described NetworkSpec where
  schema := .record "NetworkSpec" true [
    .optional "cidr" .text,
    .defaulted "subnets" (.sequence .text),
    .optional "vpcId" .anything,
    .optional "securityGroupIds" .anything,
    .optional "subnetIds" .anything,
    .optional "albSubnetIds" .anything]
  build
    | (cidr, subnets, vpcId, securityGroupIds, subnetIds, albSubnetIds, ()) =>
      ⟨cidr, subnets, vpcId, securityGroupIds, subnetIds, albSubnetIds⟩

instance : Described ClusterSpec where
  schema := .record "ClusterSpec" true [
    .defaulted "tags" (.dictionary .anything),
    .defaulted "enableContainerInsights" .flag,
    .defaulted "albPrivate" .flag,
    .mk "albDisabled" ["disableELB"] .always .flag,
    .mk "albListenerArn" ["elbListenerArn"] .always (.optional .anything),
    .count "timeout",
    .required "clusterName" .text,
    .optional "clusterArns" (Described.schema ClusterArns),
    .defaulted "services" (.sequence (Described.schema ServiceSpec)),
    .optional "executionRoleArn" .anything,
    .optional "vpc" (Described.schema NetworkSpec)]
  build
    | (tags, insights, albPrivate, albDisabled, albListenerArn, timeout, clusterName, clusterArns,
        services, executionRoleArn, vpc, ()) =>
      { tags
        enableContainerInsights := insights
        albPrivate, albDisabled, albListenerArn, timeout, clusterName
        clusterArns := clusterArns.map Described.build
        services := services.map Described.build
        executionRoleArn
        vpc := vpc.map Described.build }

end ClusterStack
