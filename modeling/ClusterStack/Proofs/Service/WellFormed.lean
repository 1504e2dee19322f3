import ClusterStack.Proofs.Cluster.Declarations
import ClusterStack.Proofs.Spec.Ordered
import ClusterStack.Proofs.Template.WellFormed

/-!
# Well-formed resources of a service

What a service and its parts generate is well formed, if what the service takes from its cluster and from its
description is ordered. Each resource gives its properties under keys of its own.
-/

set_option autoImplicit false

namespace ClusterStack

def Tags.IsOrdered (tags : Tags) : Prop :=
  ∀ entry ∈ tags.entries, entry.2.HasOrderedExpressions

/-- What the network supplies has its expressions in order. -/
structure Network.IsOrdered (network : Network) : Prop where
  vpcRef : network.vpcRef.HasOrderedExpressions
  subnets : network.subnets.HasOrderedExpressions
  albSubnets : network.albSubnets.HasOrderedExpressions
  securityGroups : ∀ groups ∈ network.securityGroups?, groups.toValue.HasOrderedExpressions

/-- What the cluster supplies has its expressions in order. -/
structure ServiceScope.IsOrdered (scope : ServiceScope) : Prop where
  tags : scope.tags.IsOrdered
  network : scope.network.IsOrdered
  clusterRef : scope.clusterRef.HasOrderedExpressions
  clusterArn : scope.clusterArn.HasOrderedExpressions
  ingressGroup : ∀ group ∈ scope.ingressGroup, group.HasOrderedExpressions
  executionRole : scope.executionRole.arn.HasOrderedExpressions
  listenerArn : ∀ service port arn, scope.balancer.listenerArn service port = .ok arn →
    arn.HasOrderedExpressions

theorem Tags.IsOrdered.toValue? {tags : Tags} (ordered : tags.IsOrdered) :
    ∀ value, tags.toValue? = some value → value.HasOrderedExpressions := by
  unfold Tags.toValue?
  split
  · simp
  · simp only [Option.some.injEq, forall_eq', Value.hasOrderedExpressions_list, List.forall_mem_map]
    intro entry member
    simpa using ordered entry member

theorem SecurityGroups.hasOrderedExpressions_of_mem {groups : SecurityGroups}
    (ordered : groups.toValue.HasOrderedExpressions) {items : List Value} (listed : groups.toList? = some items) :
    ∀ item ∈ items, item.HasOrderedExpressions := by
  cases groups with
  | expression raw => cases listed
  | list given =>
    cases listed
    exact Value.hasOrderedExpressions_list.mp ordered
  | split delimiter source =>
    cases listed
    exact Value.hasOrderedExpressions_list.mp ordered

theorem ServiceScope.IsOrdered.securityGroups {scope : ServiceScope} (ordered : scope.IsOrdered) :
    scope.securityGroups.HasOrderedExpressions := by
  have container : ∀ group ∈ scope.ingressGroup.toList, group.HasOrderedExpressions :=
    fun group member => ordered.ingressGroup group (Option.mem_toList.mp member)
  unfold ServiceScope.securityGroups
  split
  · exact .list container
  · rename_i groups existing
    have whole := ordered.network.securityGroups groups existing
    split
    · rename_i items listed
      exact .list (List.forall_mem_append.mpr
        ⟨SecurityGroups.hasOrderedExpressions_of_mem whole listed, container⟩)
    · exact whole

theorem ExecutionRole.isWellFormed {role : ExecutionRole} {tags : Tags} (ordered : tags.IsOrdered) :
    ∀ declaration ∈ role.declarations tags, declaration.IsWellFormed := by
  cases role with
  | supplied arn => simp [declarations]
  | generated name =>
    simp only [declarations, List.forall_mem_singleton, Declaration.IsWellFormed, resource]
    exact Resource.isWellFormed_make (by simp) (by simpa using ordered.toValue?)

namespace Listener

theorem hasOrderedExpressions_conditions (listener : Listener) (routing : Routing) (rule : RouteRule) :
    ∀ condition ∈ listener.conditions routing rule, condition.HasOrderedExpressions := by
  have header : ∀ name values, (headerCondition name values).HasOrderedExpressions := by
    simp [headerCondition]
  intro condition member
  simp only [conditions, List.mem_cons, List.mem_append, List.mem_map] at member
  rcases member with ((((rfl | ⟨_, -, rfl⟩) | ⟨_, -, rfl⟩) | ⟨_, -, rfl⟩) | ⟨_, -, rfl⟩) | ⟨_, -, rfl⟩ <;>
    simp [header]

theorem hasOrderedExpressions_actions (listener : Listener) :
    ∀ action ∈ listener.actions, action.HasOrderedExpressions := by
  have forwards : ∀ order, (listener.forwardAction order).HasOrderedExpressions := by
    simp [forwardAction]
  unfold Listener.actions
  split <;> simp [authenticateAction, forwards]

theorem isWellFormed_ruleResource {listener : Listener} {routing : Routing} {arn : Value}
    (ordered : arn.HasOrderedExpressions) (rule : RouteRule) :
    (listener.ruleResource routing arn rule).IsWellFormed := by
  refine Resource.isWellFormed_make (by simp) ?_
  simpa [ordered] using And.intro listener.hasOrderedExpressions_actions
    (listener.hasOrderedExpressions_conditions routing rule)

theorem isWellFormed_outputDeclarations {listener : Listener} {dnsName : Value}
    (ordered : dnsName.HasOrderedExpressions) :
    ∀ declaration ∈ listener.outputDeclarations dnsName, declaration.IsWellFormed := by
  unfold outputDeclarations
  split
  · split
    · simp [Declaration.IsWellFormed, ordered]
    · simp
  · simp

end Listener

namespace StepScalingSpec

variable {step : StepScalingSpec}

theorem IsOrdered.dimensions (ordered : step.IsOrdered) : step.dimensions.HasOrderedExpressions := by
  have further : ∀ dimension ∈ step.additionalDimension, (Value.ofInput dimension.target).HasOrderedExpressions :=
    fun dimension member => Value.hasOrderedExpressions_ofInput (ordered.further dimension member)
  simpa [StepScalingSpec.dimensions, Value.hasOrderedExpressions_ofInput ordered.target] using further

theorem IsOrdered.metricProperties (ordered : step.IsOrdered) :
    ∀ entry ∈ step.metricProperties, ∀ value ∈ entry.2, value.HasOrderedExpressions := by
  unfold StepScalingSpec.metricProperties
  split <;> simp [filledMetrics, ordered.dimensions]

end StepScalingSpec

namespace ScalingScope

variable {scope : ScalingScope}

theorem isWellFormed_alarmResource {step : StepScalingSpec} (ordered : step.IsOrdered) (direction : Direction) :
    (scope.alarmResource direction step).IsWellFormed := by
  refine Resource.isWellFormed_make ?_ ?_
  · unfold StepScalingSpec.metricProperties
    split <;> simp
  · rw [List.forall_mem_append]
    exact ⟨by simp, ordered.metricProperties⟩

end ScalingScope

theorem Scaling.isWellFormed {scaling : Scaling} {scope : ScalingScope} (tags : scope.tags.IsOrdered)
    (cluster : scope.clusterRef.HasOrderedExpressions) (steps : ∀ step ∈ scaling.steps, step.2.IsOrdered) :
    ∀ declaration ∈ scaling.declarations scope, declaration.IsWellFormed := by
  intro declaration member
  rcases mem_declarations.mp member with rfl | rfl | ⟨metric, targetValue, cooldownIn, cooldownOut, -, rfl⟩ |
    ⟨step, described, ofStep⟩
  · exact Resource.isWellFormed_make (by simp) (by simpa using tags.toValue?)
  · exact Resource.isWellFormed_make (by simp) (by simp [cluster])
  · exact Resource.isWellFormed_make (by simp) (by simp)
  · simp only [ScalingScope.stepDeclarations, List.mem_cons, List.not_mem_nil, or_false] at ofStep
    rcases ofStep with rfl | rfl
    · exact Resource.isWellFormed_make (by simp) (by simp [StepScalingSpec.adjustment])
    · exact ScalingScope.isWellFormed_alarmResource (steps step described) step.1

namespace Service

variable {service : Service} {scope : ServiceScope}

theorem hasOrderedExpressions_placementProperties (launchType : LaunchType) :
    ∀ entry ∈ launchType.placementProperties, ∀ value ∈ entry.2, value.HasOrderedExpressions := by
  cases launchType with
  | fargate _ => simp [LaunchType.placementProperties]
  | ec2 _ _ _ _ => simp [LaunchType.placementProperties]

theorem hasOrderedExpressions_networkConfiguration {groups subnets : Value}
    (groupsOrdered : groups.HasOrderedExpressions) (subnetsOrdered : subnets.HasOrderedExpressions)
    (launchType : LaunchType) :
    ∀ value ∈ launchType.networkConfiguration? groups subnets, value.HasOrderedExpressions := by
  cases launchType with
  | fargate _ => simp [LaunchType.networkConfiguration?, groupsOrdered, subnetsOrdered]
  | ec2 _ _ _ _ => simp [LaunchType.networkConfiguration?]

theorem isWellFormed_serviceResource (ordered : scope.IsOrdered) :
    (service.serviceResource scope).IsWellFormed := by
  have network : ∀ value, service.launchType.networkConfiguration? scope.securityGroups
      scope.network.subnets = some value → value.HasOrderedExpressions :=
    hasOrderedExpressions_networkConfiguration ordered.securityGroups ordered.network.subnets service.launchType
  have entries : ∀ listener ∈ service.attachedListeners,
      (service.targetEntry listener).HasOrderedExpressions := by
    simp [targetEntry]
  refine Resource.isWellFormed_make ?_ ?_
  · cases service.launchType <;> simp [LaunchType.placementProperties]
  · rw [List.forall_mem_append]
    refine ⟨?_, hasOrderedExpressions_placementProperties _⟩
    simpa [ordered.clusterRef] using And.intro ordered.tags.toValue? (And.intro network entries)

theorem hasOrderedExpressions_applicable (quantity : Option Int) :
    ∀ value, applicable? quantity = some value → value.HasOrderedExpressions := by
  intro value applies
  obtain ⟨number, -, rfl⟩ := Option.map_eq_some_iff.mp applies
  exact .int number

theorem hasOrderedExpressions_containerDefinition (described : service.spec.IsOrdered) :
    service.containerDefinition.HasOrderedExpressions := by
  have limits : ∀ value, limits? service.spec = some value → value.HasOrderedExpressions := by
    unfold limits?
    split <;> simp
  have environment : ∀ entry ∈ service.spec.environment, (Value.ofInput entry.2).HasOrderedExpressions :=
    fun entry member => Value.hasOrderedExpressions_ofInput (described.environment entry member)
  simpa [containerDefinition, logConfiguration] using And.intro
    (hasOrderedExpressions_applicable service.spec.cpu)
      (And.intro (hasOrderedExpressions_applicable service.spec.memory) (And.intro limits environment))

theorem isWellFormed_taskResource (ordered : scope.IsOrdered) (described : service.spec.IsOrdered) :
    (service.taskResource scope).IsWellFormed := by
  have role : ∀ arn, provided? service.spec.taskRoleArn = some arn →
      (Value.ofInput arn).HasOrderedExpressions := by
    intro arn given
    exact Value.hasOrderedExpressions_ofInput (forall_mem_provided? described.taskRoleArn arn given)
  refine Resource.isWellFormed_make (by simp) ?_
  simpa [ordered.executionRole, hasOrderedExpressions_containerDefinition described] using
    And.intro ordered.tags.toValue? (And.intro (hasOrderedExpressions_applicable service.spec.cpu)
      (And.intro (hasOrderedExpressions_applicable service.spec.memory) role))

theorem isWellFormed_schedulerResource (ordered : scope.IsOrdered) (rate : String) :
    (service.schedulerResource scope rate).IsWellFormed := by
  have input : ∀ value, schedulerInput? service.spec = some value → value.HasOrderedExpressions := by
    intro value given
    obtain ⟨raw, -, rfl⟩ := Option.map_eq_some_iff.mp given
    split <;> simp
  refine Resource.isWellFormed_of_properties rfl (by simp) ?_
  simpa [ordered.executionRole, ordered.clusterArn] using input

theorem isWellFormed_targetGroupResource (ordered : scope.IsOrdered) (listener : Listener) :
    (service.targetGroupResource scope listener).IsWellFormed :=
  Resource.isWellFormed_make (by simp) (by simpa [ordered.network.vpcRef] using ordered.tags.toValue?)

/-- Everything that a service generates is well formed. -/
theorem isWellFormed (ordered : scope.IsOrdered) (described : service.spec.IsOrdered)
    (steps : ∀ scaling ∈ service.scaling, ∀ step ∈ scaling.steps, step.2.IsOrdered)
    {declarations : List Declaration} (declared : service.declarations scope = .ok declarations) :
    ∀ declaration ∈ declarations, declaration.IsWellFormed := by
  intro declaration member
  rcases (mem_declarations declared).mp member with ofCore |
    ⟨listener, attached, arn, found, ofRule | rfl⟩ | ofScaling | ofRole | ofOutput
  · rcases mem_coreDeclarations.mp ofCore with rfl | rfl | rfl | ⟨rate, -, rfl⟩
    · exact isWellFormed_serviceResource ordered
    · exact isWellFormed_taskResource ordered described
    · exact Resource.isWellFormed_make (by simp) (by simp)
    · exact isWellFormed_schedulerResource ordered rate
  · obtain ⟨-, index, bound, rfl⟩ := Listener.mem_ruleDeclarations.mp ofRule
    exact Listener.isWellFormed_ruleResource (ordered.listenerArn _ _ arn found) _
  · exact isWellFormed_targetGroupResource ordered listener
  · obtain ⟨scaling, given, ofScaling⟩ := mem_scalingDeclarations.mp ofScaling
    exact Scaling.isWellFormed ordered.tags ordered.clusterRef (steps scaling given) declaration ofScaling
  · exact ExecutionRole.isWellFormed ordered.tags declaration ofRole
  · unfold outputDeclarations at ofOutput
    split at ofOutput
    · obtain ⟨listener, -, ofOutput⟩ := List.mem_flatMap.mp ofOutput
      exact Listener.isWellFormed_outputDeclarations (.attributeOf _ _) declaration ofOutput
    · cases ofOutput

end Service

end ClusterStack
