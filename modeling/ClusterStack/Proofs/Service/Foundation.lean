import ClusterStack.Proofs.Cluster.Declarations
import ClusterStack.Proofs.Template.Foundation

/-!
# Foundations of a service

What a service and its parts refer to is generated with the service, or founded by the cluster that it
belongs to. Only its alarms may depend on anything else.
-/

set_option autoImplicit false

namespace ClusterStack

variable {resources : List (String × Resource)} {metrics : List String}

def Tags.IsPlain (tags : Tags) : Prop :=
  ∀ resources level, ∀ value ∈ tags.toValue?, value.IsFounded resources level

/-- A network that is founded, below everything else. -/
structure Network.Grounded (resources : List (String × Resource)) (network : Network) : Prop where
  vpcRef : ∀ {level}, 0 < level → network.vpcRef.IsFounded resources level
  subnets : ∀ {level}, 1 < level → network.subnets.IsFounded resources level
  albSubnets : ∀ {level}, 1 < level → network.albSubnets.IsFounded resources level
  securityGroups : ∀ groups, network.securityGroups? = some groups → ∀ level,
    groups.toValue.IsFounded resources level ∧
      ∀ items, groups.toList? = some items → ∀ item ∈ items, item.IsFounded resources level

/-- A scope in which everything that the cluster provides is founded. -/
structure ServiceScope.Grounded (resources : List (String × Resource)) (scope : ServiceScope) :
    Prop where
  tags : scope.tags.IsPlain
  network : scope.network.Grounded resources
  clusterRef : ∀ {level}, 0 < level → scope.clusterRef.IsFounded resources level
  clusterArn : ∀ {level}, 0 < level → scope.clusterArn.IsFounded resources level
  ingressGroup : ∀ group, scope.ingressGroup = some group → ∀ {level}, 1 < level →
    group.IsFounded resources level
  executionRole : ∀ {level}, 0 < level → scope.executionRole.arn.IsFounded resources level
  listenerArn : ∀ service port arn, scope.balancer.listenerArn service port = .ok arn →
    ∀ {level}, 3 < level → arn.IsFounded resources level
  dnsName : scope.balancer.isManaged = true → ∀ {level}, 2 < level →
    scope.balancer.dnsName.IsFounded resources level

theorem ServiceScope.Grounded.securityGroups {scope : ServiceScope} (grounded : scope.Grounded resources)
    {level : Nat} (higher : 1 < level) : scope.securityGroups.IsFounded resources level := by
  have container : ∀ group ∈ scope.ingressGroup.toList, group.IsFounded resources level := by
    intro group member
    exact grounded.ingressGroup group (Option.mem_toList.mp member) higher
  unfold ServiceScope.securityGroups
  split
  · exact Value.isFounded_list.mpr container
  · rename_i groups existing
    obtain ⟨whole, single⟩ := grounded.network.securityGroups groups existing level
    split
    · rename_i items listed
      rw [Value.isFounded_list, List.forall_mem_append]
      exact ⟨single items listed, container⟩
    · exact whole

theorem ExecutionRole.isFounded {role : ExecutionRole} {tags : Tags} (plain : tags.IsPlain) :
    ∀ declaration ∈ role.declarations tags, declaration.IsFounded resources metrics := by
  cases role with
  | supplied arn => simp [declarations]
  | generated name =>
    simp only [declarations, List.forall_mem_singleton, Declaration.IsFounded, resource]
    refine Resource.isFounded_make ?_ (by simp)
    simpa using plain _ _

namespace Listener

theorem isFounded_conditions (listener : Listener) (routing : Routing) (rule : RouteRule) {level : Nat} :
    ∀ condition ∈ listener.conditions routing rule, condition.IsFounded resources level := by
  have header : ∀ name values, (headerCondition name values).IsFounded resources level := by
    simp [headerCondition]
  intro condition member
  simp only [conditions, List.mem_cons, List.mem_append, List.mem_map] at member
  rcases member with ((((rfl | ⟨_, -, rfl⟩) | ⟨_, -, rfl⟩) | ⟨_, -, rfl⟩) | ⟨_, -, rfl⟩) | ⟨_, -, rfl⟩ <;>
    simp [header]

/-- The rules of a listener refer to its target group and to a listener of the load balancer. -/
theorem isFounded_ruleDeclarations {listener : Listener} {routing : Routing} {arn : Value}
    (arnFounded : ∀ {level}, 3 < level → arn.IsFounded resources level)
    (target : ∀ {level}, 1 < level → IsBelow resources level listener.targetGroup) :
    ∀ declaration ∈ listener.ruleDeclarations routing arn,
      declaration.IsFounded resources metrics := by
  have forwards : ∀ order, (listener.forwardAction order).IsFounded resources 4 := by
    intro order
    simp [forwardAction, target]
  have actions : ∀ action ∈ listener.actions, action.IsFounded resources 4 := by
    unfold Listener.actions
    split <;> simp [authenticateAction, forwards]
  intro declaration member
  obtain ⟨-, index, bound, rfl⟩ := mem_ruleDeclarations.mp member
  refine Resource.isFounded_make ?_ (by simp)
  have conditions : ∀ condition ∈ listener.conditions routing routing.rules[index],
      condition.IsFounded resources 4 := listener.isFounded_conditions routing _
  simpa [ResourceKind.level, arnFounded] using And.intro actions conditions

theorem isFounded_outputDeclarations {listener : Listener} {dnsName : Value}
    (address : ∀ {level}, 2 < level → dnsName.IsFounded resources level) :
    ∀ declaration ∈ listener.outputDeclarations dnsName,
      declaration.IsFounded resources metrics := by
  unfold outputDeclarations
  split
  · split
    · simp [Declaration.IsFounded, address, ResourceKind.top]
    · simp
  · simp

end Listener

namespace StepScalingSpec

theorem isFounded_dimensions (step : StepScalingSpec) {level : Nat} :
    step.dimensions.IsFounded resources level := by
  simp [dimensions]

theorem isFounded_metricProperties (step : StepScalingSpec) {level : Nat} :
    ∀ entry ∈ step.metricProperties, ∀ value ∈ entry.2, value.IsFounded resources level := by
  unfold metricProperties
  split <;> simp [filledMetrics, isFounded_dimensions]

end StepScalingSpec

/-- What makes a service scale refers to the service, its cluster, and itself; but the alarms also
depend on what the description lists for their metrics. -/
theorem Scaling.isFounded {scaling : Scaling} {scope : ScalingScope} (plain : scope.tags.IsPlain)
    (cluster : ∀ {level}, 0 < level → scope.clusterRef.IsFounded resources level)
    (service : ∀ {level}, 5 < level → IsBelow resources level scope.service)
    (listed : scaling.metricDependencies ⊆ metrics)
    (inside : (scaling.declarations scope).filterMap Declaration.resource? ⊆ resources) :
    ∀ declaration ∈ scaling.declarations scope, declaration.IsFounded resources metrics := by
  have role : ∀ {level}, 0 < level → IsBelow resources level (scope.id .scalingRole) :=
    (Provides.of_resource inside (mem_declarations.mpr (.inl rfl))).isBelow
  have target : ∀ {level}, 6 < level → IsBelow resources level (scope.id .scalingTarget) :=
    (Provides.of_resource inside (mem_declarations.mpr (.inr (.inl rfl)))).isBelow
  intro declaration member
  rcases mem_declarations.mp member with rfl | rfl | ⟨metric, targetValue, cooldownIn, cooldownOut, -, rfl⟩ |
    ⟨⟨direction, step⟩, described, ofStep⟩
  · refine Resource.isFounded_make ?_ (by simp)
    simpa using plain _ _
  · exact Resource.isFounded_make (by simp [ResourceKind.level, cluster, service, role]) (by simp)
  · exact Resource.isFounded_make (by simp [ResourceKind.level, target]) (by simp)
  · have policy : ∀ {level}, 7 < level → IsBelow resources level (scope.id direction.policyRole) :=
      (Provides.of_resource inside
        (mem_declarations.mpr (.inr (.inr (.inr ⟨_, described, .head _⟩))))).isBelow
    simp only [ScalingScope.stepDeclarations, List.mem_cons, List.not_mem_nil, or_false] at ofStep
    rcases ofStep with rfl | rfl
    · exact Resource.isFounded_make
        (by simp [ResourceKind.level, target, StepScalingSpec.adjustment]) (by simp)
    · refine Resource.isFounded_make ?_ ?_
      · rw [List.forall_mem_append]
        refine ⟨?_, step.isFounded_metricProperties⟩
        simp [ResourceKind.level, policy]
      · rw [List.forall_mem_append]
        refine ⟨fun target member => .inr ⟨rfl, listed ?_⟩, ?_⟩
        · exact List.mem_flatMap.mpr ⟨_, described, member⟩
        · simp [ResourceKind.level, policy]

namespace Service

section Founded

variable {service : Service} {scope : ServiceScope}

private theorem isFounded_placementProperties (launchType : LaunchType) {level : Nat} :
    ∀ entry ∈ launchType.placementProperties, ∀ value ∈ entry.2, value.IsFounded resources level := by
  cases launchType with
  | fargate _ => simp [LaunchType.placementProperties]
  | ec2 _ _ _ _ => simp [LaunchType.placementProperties]

private theorem isFounded_networkConfiguration {groups subnets : Value} (launchType : LaunchType)
    {level : Nat} (groupsFounded : groups.IsFounded resources level)
    (subnetsFounded : subnets.IsFounded resources level) :
    ∀ value ∈ launchType.networkConfiguration? groups subnets, value.IsFounded resources level := by
  cases launchType with
  | fargate _ => simp [LaunchType.networkConfiguration?, groupsFounded, subnetsFounded]
  | ec2 _ _ _ _ => simp [LaunchType.networkConfiguration?]

private theorem isFounded_serviceResource (grounded : scope.Grounded resources)
    (task : ∀ {level}, 1 < level → IsBelow resources level service.taskDefinition)
    (targets : ∀ listener ∈ service.attachedListeners, ∀ {level}, 1 < level →
      IsBelow resources level listener.targetGroup)
    (rules : ∀ name ∈ service.ruleNames, ∀ {level}, 4 < level → IsBelow resources level name) :
    (service.serviceResource scope).IsFounded resources metrics := by
  have network : ∀ value, service.launchType.networkConfiguration? scope.securityGroups
      scope.network.subnets = some value → value.IsFounded resources 5 :=
    isFounded_networkConfiguration _ (grounded.securityGroups (by decide))
      (grounded.network.subnets (by decide))
  have entries : ∀ listener ∈ service.attachedListeners,
      (service.targetEntry listener).IsFounded resources 5 := by
    intro listener attached
    simp [targetEntry, targets listener attached]
  refine Resource.isFounded_make ?_ fun name listed => .inl (rules name listed (by decide))
  rw [List.forall_mem_append]
  refine ⟨?_, isFounded_placementProperties _⟩
  simpa [ResourceKind.level, grounded.clusterRef, task] using
    And.intro (grounded.tags _ _) (And.intro network entries)

private theorem isFounded_applicable (quantity : Option Int) {level : Nat} :
    ∀ value, applicable? quantity = some value → value.IsFounded resources level := by
  intro value applies
  obtain ⟨number, -, rfl⟩ := Option.map_eq_some_iff.mp applies
  exact Value.isFounded_int number

private theorem isFounded_containerDefinition (service : Service) {level : Nat} :
    service.containerDefinition.IsFounded resources level := by
  have limits : ∀ value, limits? service.spec = some value → value.IsFounded resources level := by
    unfold limits?
    split <;> simp
  simpa [containerDefinition, logConfiguration] using And.intro
    (isFounded_applicable service.spec.cpu) (And.intro (isFounded_applicable service.spec.memory) limits)

private theorem isFounded_taskResource (grounded : scope.Grounded resources) :
    (service.taskResource scope).IsFounded resources metrics := by
  refine Resource.isFounded_make ?_ (by simp)
  simpa [ResourceKind.level, grounded.executionRole, isFounded_containerDefinition] using
    And.intro (grounded.tags _ _)
      (And.intro (isFounded_applicable service.spec.cpu) (isFounded_applicable service.spec.memory))

private theorem isFounded_logGroupResource (service : Service) :
    service.logGroupResource.IsFounded resources metrics :=
  Resource.isFounded_make (by simp) (by simp)

private theorem isFounded_schedulerResource (grounded : scope.Grounded resources) (rate : String)
    (task : ∀ {level}, 1 < level → IsBelow resources level service.taskDefinition) :
    (service.schedulerResource scope rate).IsFounded resources metrics := by
  have input : ∀ value, schedulerInput? service.spec = some value → value.IsFounded resources 2 := by
    intro value given
    obtain ⟨raw, -, rfl⟩ := Option.map_eq_some_iff.mp given
    split <;> simp
  -- The rule has no deletion policy, which its foundation does not depend on.
  refine Resource.IsFounded.of_eq (Resource.isFounded_make ?_ (by simp)) rfl rfl rfl
  simpa [ResourceKind.level, grounded.executionRole, grounded.clusterArn, task] using input

private theorem isFounded_targetGroupResource (grounded : scope.Grounded resources) (listener : Listener) :
    (service.targetGroupResource scope listener).IsFounded resources metrics := by
  refine Resource.isFounded_make ?_ (by simp)
  simpa [ResourceKind.level, grounded.network.vpcRef] using grounded.tags _ _

section Provides

variable {declarations : List Declaration} (declared : service.declarations scope = .ok declarations)
  (inside : declarations.filterMap Declaration.resource? ⊆ resources)

include declared inside

theorem provides_targetGroup {listener : Listener} (attached : listener ∈ service.attachedListeners) :
    Provides resources .targetGroup listener.targetGroup := by
  obtain ⟨arn, found⟩ := exists_listenerArn declared attached
  have present : .resource listener.targetGroup (service.targetGroupResource scope listener) ∈ declarations :=
    (mem_declarations declared).mpr (.inr (.inl ⟨listener, attached, arn, found, .inr rfl⟩))
  exact .of_resource inside present

theorem provides_rule {name : String} (named : name ∈ service.ruleNames) :
    Provides resources .listenerRule name := by
  obtain ⟨listener, attached, index, bound, rfl⟩ := mem_ruleNames.mp named
  obtain ⟨arn, found⟩ := exists_listenerArn declared attached
  have ofRule : .resource (listener.ruleName index)
      (listener.ruleResource service.routing arn service.routing.rules[index]) ∈
        listener.ruleDeclarations service.routing arn :=
    Listener.mem_ruleDeclarations.mpr ⟨(mem_attachedListeners.mp attached).2, index, bound, rfl⟩
  exact .of_resource inside ((mem_declarations declared).mpr
    (.inr (.inl ⟨listener, attached, arn, found, .inl ofRule⟩)))

end Provides

/-- Everything that a service generates is founded, if what its cluster provides is. -/
theorem isFounded (grounded : scope.Grounded resources)
    (listed : service.metricDependencies ⊆ metrics) {declarations : List Declaration}
    (declared : service.declarations scope = .ok declarations)
    (inside : declarations.filterMap Declaration.resource? ⊆ resources) :
    ∀ declaration ∈ declarations, declaration.IsFounded resources metrics := by
  have logicalId : ∀ {level}, 5 < level → IsBelow resources level service.logicalId :=
    (Provides.of_resource inside ((mem_declarations declared).mpr
      (.inl (List.mem_append_left _ (.head _))))).isBelow
  have task : ∀ {level}, 1 < level → IsBelow resources level service.taskDefinition :=
    (Provides.of_resource inside ((mem_declarations declared).mpr
      (.inl (List.mem_append_left _ (.tail _ (.head _)))))).isBelow
  have targets : ∀ listener ∈ service.attachedListeners, ∀ {level}, 1 < level →
      IsBelow resources level listener.targetGroup :=
    fun listener attached level higher => (provides_targetGroup declared inside attached).isBelow higher
  have rules : ∀ name ∈ service.ruleNames, ∀ {level}, 4 < level → IsBelow resources level name :=
    fun name named level higher => (provides_rule declared inside named).isBelow higher
  intro declaration member
  rcases (mem_declarations declared).mp member with ofCore |
    ⟨listener, attached, arn, found, ofRule | rfl⟩ | ofScaling | ofRole | ofOutput
  · rcases mem_coreDeclarations.mp ofCore with rfl | rfl | rfl | ⟨rate, -, rfl⟩
    · exact isFounded_serviceResource grounded task targets rules
    · exact isFounded_taskResource grounded
    · exact isFounded_logGroupResource service
    · exact isFounded_schedulerResource grounded rate task
  · exact Listener.isFounded_ruleDeclarations (grounded.listenerArn _ _ arn found)
      (targets listener attached) declaration ofRule
  · exact isFounded_targetGroupResource grounded listener
  · obtain ⟨scaling, described, ofScaling⟩ := List.mem_flatMap.mp ofScaling
    refine Scaling.isFounded grounded.tags grounded.clusterRef logicalId ?_ ?_ declaration ofScaling
    · intro metric depends
      refine listed ?_
      simpa [metricDependencies, Option.mem_toList.mp described] using depends
    · intro entry declares
      obtain ⟨source, present, given⟩ := List.mem_filterMap.mp declares
      have ofScaling : source ∈ service.scalingDeclarations scope :=
        List.mem_flatMap.mpr ⟨scaling, described, present⟩
      exact inside (List.mem_filterMap.mpr
        ⟨source, (mem_declarations declared).mpr (.inr (.inr (.inl ofScaling))), given⟩)
  · exact ExecutionRole.isFounded grounded.tags declaration ofRole
  · unfold outputDeclarations at ofOutput
    split at ofOutput
    · rename_i managed
      obtain ⟨listener, -, ofOutput⟩ := List.mem_flatMap.mp ofOutput
      exact Listener.isFounded_outputDeclarations (grounded.dnsName managed) declaration ofOutput
    · cases ofOutput

end Founded

end Service

end ClusterStack
