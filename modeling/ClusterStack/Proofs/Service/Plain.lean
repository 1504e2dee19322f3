import ClusterStack.Network.Resources
import ClusterStack.Proofs.Outcome
import ClusterStack.Proofs.Spec.Plain
import ClusterStack.Service.Resources

/-!
# Networks and services of plain descriptions

Writing a description plainly and settling it is the same as settling it first. What is declared does not
depend on how the description was written.
-/

set_option autoImplicit false

namespace ClusterStack

variable {deployment : Deployment}

namespace Network

/-- The network when its security groups have been split. -/
def plain : Network → Network
  | .dedicated network => .dedicated network
  | .existing network => .existing { network with securityGroups := network.securityGroups.plain }

theorem existing?_plain (spec : NetworkSpec) : existing? spec.plain =
    (existing? spec).map fun network => { network with securityGroups := network.securityGroups.plain } := by
  rw [existing?, spec.provided?_plain, existing?]
  simp only [NetworkSpec.plain, provided?_provided?]
  cases provided? spec.vpcId <;> cases provided? spec.securityGroupIds <;>
    cases provided? spec.subnetIds <;> simp [SecurityGroups.ofInput_plainInput]

theorem resolve_plain (deployment : Deployment) (owner : String) (spec : NetworkSpec) :
    resolve deployment owner spec.plain = (resolve deployment owner spec).map plain := by
  rw [resolve, existing?_plain, resolve]
  cases existing? spec with
  | some network => rfl
  | none =>
    have range : spec.plain.cidr = spec.cidr := rfl
    simp only [Option.map_none, range]
    cases spec.cidr with
    | none => rfl
    | some cidr =>
      simp only [map_bind]
      rfl

@[simp] theorem isExisting_plain (network : Network) : network.plain.isExisting = network.isExisting := by
  cases network <;> rfl

@[simp] theorem vpcRef_plain (network : Network) : network.plain.vpcRef = network.vpcRef := by
  cases network <;> rfl

@[simp] theorem subnets_plain (network : Network) : network.plain.subnets = network.subnets := by
  cases network <;> rfl

@[simp] theorem albSubnets_plain (network : Network) : network.plain.albSubnets = network.albSubnets := by
  cases network <;> rfl

@[simp] theorem securityGroups?_plain (network : Network) :
    network.plain.securityGroups? = network.securityGroups?.map .plain := by
  cases network <;> rfl

@[simp] theorem declarations_plain (network : Network) (tags : Tags) :
    network.plain.declarations tags = network.declarations tags := by
  cases network <;> rfl

end Network

/-- The policy when what its metrics depend on has been written as lists. -/
def ScalingPolicy.plain : ScalingPolicy → ScalingPolicy
  | .steps scaleIn scaleOut => .steps (scaleIn.map .plain) (scaleOut.map .plain)
  | tracking => tracking

theorem ScalingScope.stepDeclarations_plain (scope : ScalingScope) (direction : Direction)
    (step : StepScalingSpec) :
    scope.stepDeclarations (direction, step.plain) = scope.stepDeclarations (direction, step) := by
  have alarm : scope.alarmResource direction step.plain = scope.alarmResource direction step := by
    rw [alarmResource, step.dependencies_plain, alarmResource]
    rfl
  simp only [stepDeclarations, alarm]
  rfl

namespace Scaling

def plain (scaling : Scaling) : Scaling :=
  { scaling with policy := scaling.policy.plain }

theorem resolvePolicy_plain (serviceName : String) (spec : AutoScaleSpec) :
    resolvePolicy serviceName spec.plain = (resolvePolicy serviceName spec).map .plain := by
  have described : (spec.plain.scaleIn.isSome || spec.plain.scaleOut.isSome) =
      (spec.scaleIn.isSome || spec.scaleOut.isSome) := by
    simp [AutoScaleSpec.plain]
  rw [resolvePolicy, described, resolvePolicy]
  split
  · rfl
  · have metric : spec.plain.metric = spec.metric := rfl
    have targetValue : spec.plain.targetValue = spec.targetValue := rfl
    rw [metric, targetValue]
    cases spec.metric <;> cases spec.targetValue <;> rfl

theorem resolve_plain (serviceName : String) (spec : AutoScaleSpec) :
    resolve serviceName spec.plain = (resolve serviceName spec).map plain := by
  rw [resolve, resolvePolicy_plain, resolve]
  cases resolvePolicy serviceName spec <;> rfl

theorem steps_plain (scaling : Scaling) :
    scaling.plain.steps = scaling.steps.map (Prod.map id .plain) := by
  cases kind : scaling.policy with
  | targetTracking _ _ _ _ => simp [steps, plain, kind, ScalingPolicy.plain]
  | steps scaleIn scaleOut =>
    simp only [steps, plain, kind, ScalingPolicy.plain]
    cases scaleIn <;> cases scaleOut <;> rfl

theorem metricDependencies_plain (scaling : Scaling) :
    scaling.plain.metricDependencies = scaling.metricDependencies := by
  simp [metricDependencies, steps_plain, List.flatMap_map]

theorem declarations_plain (scaling : Scaling) (scope : ScalingScope) :
    scaling.plain.declarations scope = scaling.declarations scope := by
  cases kind : scaling.policy with
  | targetTracking metric targetValue cooldownIn cooldownOut =>
    have tracking : scaling.plain.policy = .targetTracking metric targetValue cooldownIn cooldownOut := by
      simp only [plain, kind, ScalingPolicy.plain]
    rw [declarations, tracking, declarations, kind]
    rfl
  | steps scaleIn scaleOut =>
    have stepwise : scaling.plain.policy = .steps (scaleIn.map .plain) (scaleOut.map .plain) := by
      rw [plain, kind, ScalingPolicy.plain]
    have each : scaling.plain.steps.flatMap scope.stepDeclarations =
        scaling.steps.flatMap scope.stepDeclarations := by
      rw [steps_plain, List.flatMap_map]
      exact List.flatMap_congr fun step _ => scope.stepDeclarations_plain step.1 step.2
    rw [declarations, stepwise, declarations, kind, ← each]
    rfl

end Scaling

/-- What the services see of a cluster whose network is written plainly. -/
def ServiceScope.plain (scope : ServiceScope) : ServiceScope :=
  { scope with network := scope.network.plain }

theorem ServiceScope.securityGroups_plain (scope : ServiceScope) :
    scope.plain.securityGroups = scope.securityGroups := by
  have groups : scope.plain.network.securityGroups? = scope.network.securityGroups?.map .plain :=
    scope.network.securityGroups?_plain
  rw [securityGroups, groups, securityGroups]
  cases scope.network.securityGroups? with
  | none => rfl
  | some groups =>
    simp only [Option.map_some, SecurityGroups.toList?_plain, SecurityGroups.toValue_plain]
    rfl

namespace Service

def plain (service : Service) : Service :=
  { service with
    spec := service.spec.plain
    scaling := service.scaling.map .plain }

theorem resolve_plain (deployment : Deployment) (clusterPrefix : String) (albDisabled : Bool)
    (spec : ServiceSpec) :
    resolve deployment clusterPrefix albDisabled spec.plain =
      (resolve deployment clusterPrefix albDisabled spec).map plain := by
  have scaling : spec.plain.autoScale.mapM (Scaling.resolve spec.plain.name) =
      (spec.autoScale.mapM (Scaling.resolve spec.name)).map (Option.map Scaling.plain) := by
    have described : spec.plain.autoScale = spec.autoScale.map .plain := rfl
    rw [described]
    cases spec.autoScale with
    | none => rfl
    | some scale =>
      rw [Option.map_some, optionMapM_some, optionMapM_some]
      change (Scaling.resolve spec.name scale.plain).map some = _
      rw [Scaling.resolve_plain]
      cases Scaling.resolve spec.name scale <;> rfl
  simp only [resolve, map_bind]
  refine bind_congr fun token => bind_congr fun image => bind_congr fun listeners => bind_congr fun _ => ?_
  rw [scaling, bind_map]
  refine bind_congr fun scaling => ?_
  rw [Routing.ofSpec_plain]
  rfl

theorem serviceResource_plain (service : Service) (scope : ServiceScope) :
    service.plain.serviceResource scope.plain = service.serviceResource scope := by
  have groups := scope.securityGroups_plain
  have subnets : scope.plain.network.subnets = scope.network.subnets := scope.network.subnets_plain
  rw [serviceResource, groups, subnets, serviceResource]
  rfl

theorem taskResource_plain (service : Service) (scope : ServiceScope) :
    service.plain.taskResource scope.plain = service.taskResource scope := by
  have role : provided? service.plain.spec.taskRoleArn = provided? service.spec.taskRoleArn :=
    provided?_provided? _
  rw [taskResource, role, taskResource]
  rfl

theorem schedulerResource_plain (service : Service) (scope : ServiceScope) (rate : String) :
    service.plain.schedulerResource scope.plain rate = service.schedulerResource scope rate := by
  have input : schedulerInput? service.plain.spec = schedulerInput? service.spec := by
    have same : provided? service.plain.spec.schedulerInput = provided? service.spec.schedulerInput :=
      provided?_provided? _
    rw [schedulerInput?, same, schedulerInput?]
  rw [schedulerResource, input, schedulerResource]
  rfl

theorem coreDeclarations_plain (service : Service) (scope : ServiceScope) :
    service.plain.coreDeclarations scope.plain = service.coreDeclarations scope := by
  rw [coreDeclarations, serviceResource_plain, taskResource_plain, coreDeclarations,
    ← funext (service.schedulerResource_plain scope)]
  rfl

theorem listenerDeclarations_plain (service : Service) (scope : ServiceScope) (listener : Listener) :
    service.plain.listenerDeclarations scope.plain listener = service.listenerDeclarations scope listener := by
  have group : service.plain.targetGroupResource scope.plain listener =
      service.targetGroupResource scope listener := by
    have vpc : scope.plain.network.vpcRef = scope.network.vpcRef := scope.network.vpcRef_plain
    rw [targetGroupResource, vpc, targetGroupResource]
    rfl
  rw [listenerDeclarations, group, listenerDeclarations]
  rfl

theorem scalingDeclarations_plain (service : Service) (scope : ServiceScope) :
    service.plain.scalingDeclarations scope.plain = service.scalingDeclarations scope := by
  cases given : service.scaling with
  | none => simp [scalingDeclarations, plain, given]
  | some scaling =>
    simp only [scalingDeclarations, plain, given, Option.map_some, Option.toList_some, List.flatMap_singleton,
      Scaling.declarations_plain]
    rfl

/-- A service declares the same however it and its network were written. -/
theorem declarations_plain (service : Service) (scope : ServiceScope) :
    service.plain.declarations scope.plain = service.declarations scope := by
  have listeners : service.plain.listenerDeclarations scope.plain = service.listenerDeclarations scope :=
    funext (service.listenerDeclarations_plain scope)
  rw [declarations, listeners, coreDeclarations_plain, scalingDeclarations_plain, declarations]
  rfl

theorem metricDependencies_plain (service : Service) :
    service.plain.metricDependencies = service.metricDependencies := by
  cases given : service.scaling <;>
    simp [metricDependencies, plain, given, Scaling.metricDependencies_plain]

end Service

end ClusterStack
