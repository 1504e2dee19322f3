import ClusterStack.Proofs.Cluster.Declarations
import ClusterStack.Proofs.Template.Growth

/-!
# Kinds of declared resources

Which component of a cluster declares resources of which kinds, and what a declared rule, port, alarm
and so on is the resource of.
-/

set_option autoImplicit false

namespace ClusterStack

namespace Declaration

def kind? (declaration : Declaration) : Option ResourceKind :=
  declaration.resource?.map fun entry => entry.2.kind

/-- A resource of these kinds is declared, which is not shared. -/
def IsOwned (kinds : List ResourceKind) (declaration : Declaration) : Prop :=
  ∃ key definition, declaration = .resource key definition ∧ definition.kind ∈ kinds

variable {kinds : List ResourceKind} {declaration : Declaration}

theorem IsOwned.mem_of_kind?_eq (owned : declaration.IsOwned kinds) {kind : ResourceKind}
    (given : declaration.kind? = some kind) : kind ∈ kinds := by
  obtain ⟨key, definition, rfl, member⟩ := owned
  obtain rfl : definition.kind = kind := Option.some.inj given
  exact member

theorem IsOwned.ne_sharedResource (owned : declaration.IsOwned kinds) (key : String)
    (definition : Resource) : .sharedResource key definition ≠ declaration := by
  obtain ⟨_, _, rfl, -⟩ := owned
  simp

theorem IsOwned.output?_eq_none (owned : declaration.IsOwned kinds) : declaration.output? = none := by
  obtain ⟨_, _, rfl, -⟩ := owned
  rfl

end Declaration

theorem Network.isOwned {network : Network} {tags : Tags} {declaration : Declaration}
    (member : declaration ∈ network.declarations tags) :
    declaration.IsOwned [.vpc, .internetGateway, .vpcGatewayAttachment,
      .routeTable, .route, .subnet, .subnetRouteTableAssociation] := by
  cases network with
  | existing _ => cases member
  | dedicated network =>
    rcases List.mem_append.mp member with fixed | ofSubnet
    · simp only [List.mem_cons, List.not_mem_nil, or_false] at fixed
      rcases fixed with rfl | rfl | rfl | rfl | rfl <;> exact ⟨_, _, rfl, List.elem_iff.mp rfl⟩
    · obtain ⟨part, listed, member⟩ := List.mem_flatten.mp ofSubnet
      obtain ⟨index, bound, rfl⟩ := List.mem_mapIdx.mp listed
      simp only [DedicatedNetwork.subnetDeclarations, List.mem_cons, List.not_mem_nil, or_false] at member
      rcases member with rfl | rfl <;> exact ⟨_, _, rfl, List.elem_iff.mp rfl⟩

theorem Cluster.isOwned_ownDeclarations {cluster : Cluster} {declaration : Declaration}
    (member : declaration ∈ cluster.ownDeclarations) :
    declaration.IsOwned [.ecsCluster, .securityGroup, .securityGroupIngress] := by
  unfold ownDeclarations at member
  split at member
  · cases member
  · rcases List.mem_cons.mp member with rfl | member
    · exact ⟨_, _, rfl, List.elem_iff.mp rfl⟩
    · split at member
      · cases member
      · simp only [containerGroupDeclarations, List.mem_cons, List.not_mem_nil, or_false] at member
        rcases member with rfl | rfl <;> exact ⟨_, _, rfl, List.elem_iff.mp rfl⟩

theorem Balancer.isOwned_groupDeclarations {tags : Tags} {network : Network} {containerGroup : Option Value}
    {group : ServiceGroup} {declaration : Declaration}
    (member : declaration ∈ groupDeclarations tags network containerGroup group) :
    declaration.IsOwned [.securityGroup, .securityGroupIngress] := by
  rcases List.mem_cons.mp member with rfl | member
  · exact ⟨_, _, rfl, List.elem_iff.mp rfl⟩
  · obtain ⟨container, -, rfl⟩ := List.mem_map.mp member
    exact ⟨_, _, rfl, List.elem_iff.mp rfl⟩

section Common

variable {cluster : Cluster}

/-- What is declared for all services of a cluster together. -/
def Cluster.commonDeclarations (cluster : Cluster) : List Declaration :=
  cluster.network.declarations cluster.tags ++ cluster.ownDeclarations ++
    cluster.balancer.declarations cluster.tags cluster.network cluster.ingressGroup

theorem Cluster.exists_resource_of_common {declaration : Declaration}
    (member : declaration ∈ cluster.commonDeclarations) :
    ∃ key definition, declaration = .resource key definition := by
  rcases List.mem_append.mp member with member | ofBalancer
  · rcases List.mem_append.mp member with network | own
    · obtain ⟨key, definition, rfl, -⟩ := Network.isOwned network
      exact ⟨key, definition, rfl⟩
    · obtain ⟨key, definition, rfl, -⟩ := isOwned_ownDeclarations own
      exact ⟨key, definition, rfl⟩
  · rcases Balancer.mem_declarations.mp ofBalancer with ⟨-, _, -, group⟩ | ⟨-, itself | ⟨_, -, port⟩⟩
    · obtain ⟨key, definition, rfl, -⟩ := Balancer.isOwned_groupDeclarations group
      exact ⟨key, definition, rfl⟩
    · exact ⟨_, _, itself⟩
    · exact ⟨_, _, port⟩

theorem Cluster.output_commonDeclarations (cluster : Cluster) :
    cluster.commonDeclarations.filterMap Declaration.output? = [] := by
  refine List.filterMap_eq_nil_iff.mpr fun declaration member => ?_
  obtain ⟨_, _, rfl⟩ := exists_resource_of_common member
  rfl

end Common

theorem Service.isOwned_coreDeclarations {service : Service} {scope : ServiceScope} {declaration : Declaration}
    (member : declaration ∈ service.coreDeclarations scope) :
    declaration.IsOwned [.ecsService, .ecsTaskDefinition, .logGroup, .eventsRule] := by
  rcases mem_coreDeclarations.mp member with rfl | rfl | rfl | ⟨rate, -, rfl⟩ <;>
    exact ⟨_, _, rfl, List.elem_iff.mp rfl⟩

theorem Service.isOwned_scalingDeclarations {service : Service} {scope : ServiceScope}
    {declaration : Declaration} (member : declaration ∈ service.scalingDeclarations scope) :
    declaration.IsOwned [.iamRole, .scalableTarget, .scalingPolicy, .alarm] := by
  obtain ⟨scaling, -, member⟩ := mem_scalingDeclarations.mp member
  rcases Scaling.mem_declarations.mp member with rfl | rfl | ⟨_, _, _, _, -, rfl⟩ | ⟨step, -, ofStep⟩
  · exact ⟨_, _, rfl, List.elem_iff.mp rfl⟩
  · exact ⟨_, _, rfl, List.elem_iff.mp rfl⟩
  · exact ⟨_, _, rfl, List.elem_iff.mp rfl⟩
  · simp only [ScalingScope.stepDeclarations, List.mem_cons, List.not_mem_nil, or_false] at ofStep
    rcases ofStep with rfl | rfl <;> exact ⟨_, _, rfl, List.elem_iff.mp rfl⟩

theorem ExecutionRole.kind?_declarations {role : ExecutionRole} {tags : Tags} {declaration : Declaration}
    (member : declaration ∈ role.declarations tags) :
    declaration.kind? = some .iamRole := by
  cases role with
  | supplied _ => cases member
  | generated name =>
    obtain rfl := List.mem_singleton.mp member
    rfl

/-- The parts of what a cluster declares. -/
inductive Component where
  | network
  | own
  | serviceGroup
  | loadBalancer
  | port
  | service
  | rule
  | targetGroup
  | scaling
  | executionRole
  | output
  deriving DecidableEq

def Component.kinds : Component → List ResourceKind
  | .network => [.vpc, .internetGateway, .vpcGatewayAttachment, .routeTable, .route, .subnet,
    .subnetRouteTableAssociation]
  | .own => [.ecsCluster, .securityGroup, .securityGroupIngress]
  | .serviceGroup => [.securityGroup, .securityGroupIngress]
  | .loadBalancer => [.loadBalancer]
  | .port => [.loadBalancerListener]
  | .service => [.ecsService, .ecsTaskDefinition, .logGroup, .eventsRule]
  | .rule => [.listenerRule]
  | .targetGroup => [.targetGroup]
  | .scaling => [.iamRole, .scalableTarget, .scalingPolicy, .alarm]
  | .executionRole => [.iamRole]
  | .output => []

namespace Cluster

variable {deployment : Deployment} {cluster : Cluster} {declarations : List Declaration}

/-- What is declared by a component of the cluster. -/
def Declares (deployment : Deployment) (cluster : Cluster) (declaration : Declaration) :
    Component → Prop
  | .network => declaration ∈ cluster.network.declarations cluster.tags
  | .own => declaration ∈ cluster.ownDeclarations
  | .serviceGroup => ∃ group ∈ cluster.balancer.serviceGroups, declaration ∈
      Balancer.groupDeclarations cluster.tags cluster.network cluster.ingressGroup group
  | .loadBalancer => cluster.balancer.isManaged = true ∧ declaration = .resource cluster.balancer.name
      (cluster.balancer.resource cluster.tags cluster.network cluster.ingressGroup)
  | .port => cluster.balancer.isManaged = true ∧ ∃ port ∈ cluster.balancer.listeners,
      declaration = .resource port.name (cluster.balancer.listenerResource port)
  | .service => ∃ service ∈ cluster.services,
      declaration ∈ service.coreDeclarations (cluster.serviceScope deployment)
  | .rule => ∃ service ∈ cluster.services, ∃ listener ∈ service.attachedListeners, ∃ arn,
      cluster.balancer.listenerArn service.name listener.port = .ok arn ∧
        declaration ∈ listener.ruleDeclarations service.routing arn
  | .targetGroup => ∃ service ∈ cluster.services, ∃ listener ∈ service.attachedListeners,
      declaration = .resource listener.targetGroup
        (service.targetGroupResource (cluster.serviceScope deployment) listener)
  | .scaling => ∃ service ∈ cluster.services,
      declaration ∈ service.scalingDeclarations (cluster.serviceScope deployment)
  | .executionRole => declaration ∈ cluster.executionRole.declarations cluster.tags
  | .output => ∃ service ∈ cluster.services,
      declaration ∈ service.outputDeclarations (cluster.serviceScope deployment)

/-- Everything that is declared is declared by some component. -/
theorem exists_component (declared : cluster.declarations deployment = .ok declarations)
    {declaration : Declaration} (member : declaration ∈ declarations) :
    ∃ component, cluster.Declares deployment declaration component := by
  rcases (mem_declarations declared).mp member with ofNetwork | own | ofBalancer |
    ⟨service, present, part, partDeclared, ofService⟩
  · exact ⟨.network, ofNetwork⟩
  · exact ⟨.own, own⟩
  · rcases Balancer.mem_declarations.mp ofBalancer with ⟨-, ofGroup⟩ | ⟨managed, itself | ofPort⟩
    · exact ⟨.serviceGroup, ofGroup⟩
    · exact ⟨.loadBalancer, managed, itself⟩
    · exact ⟨.port, managed, ofPort⟩
  · rcases (Service.mem_declarations partDeclared).mp ofService with core |
      ⟨listener, attached, arn, found, ofRule | target⟩ | ofScaling | ofRole | ofOutput
    · exact ⟨.service, service, present, core⟩
    · exact ⟨.rule, service, present, listener, attached, arn, found, ofRule⟩
    · exact ⟨.targetGroup, service, present, listener, attached, target⟩
    · exact ⟨.scaling, service, present, ofScaling⟩
    · exact ⟨.executionRole, ofRole⟩
    · exact ⟨.output, service, present, ofOutput⟩

/-- A component declares resources of its kinds only. -/
theorem Declares.kind_mem {declaration : Declaration} {component : Component}
    (declares : cluster.Declares deployment declaration component) {kind : ResourceKind}
    (given : declaration.kind? = some kind) : kind ∈ component.kinds := by
  cases component with
  | network => exact (Network.isOwned declares).mem_of_kind?_eq given
  | own => exact (isOwned_ownDeclarations declares).mem_of_kind?_eq given
  | serviceGroup =>
    obtain ⟨group, -, ofGroup⟩ := declares
    exact (Balancer.isOwned_groupDeclarations ofGroup).mem_of_kind?_eq given
  | loadBalancer =>
    obtain ⟨-, rfl⟩ := declares
    cases given
    exact .head _
  | port =>
    obtain ⟨-, port, -, rfl⟩ := declares
    cases given
    exact .head _
  | service =>
    obtain ⟨service, -, core⟩ := declares
    exact (Service.isOwned_coreDeclarations core).mem_of_kind?_eq given
  | rule =>
    obtain ⟨service, -, listener, -, arn, -, ofRule⟩ := declares
    obtain ⟨-, index, bound, rfl⟩ := Listener.mem_ruleDeclarations.mp ofRule
    cases given
    exact .head _
  | targetGroup =>
    obtain ⟨service, -, listener, -, rfl⟩ := declares
    cases given
    exact .head _
  | scaling =>
    obtain ⟨service, -, ofScaling⟩ := declares
    exact (Service.isOwned_scalingDeclarations ofScaling).mem_of_kind?_eq given
  | executionRole =>
    rw [ExecutionRole.kind?_declarations declares] at given
    cases given
    exact .head _
  | output =>
    obtain ⟨service, -, ofOutput⟩ := declares
    obtain ⟨key, definition, rfl⟩ := service.exists_output_of_mem ofOutput
    cases given

/-- A resource is declared by a component that has resources of its kind. -/
theorem exists_component_of_kind (declared : cluster.declarations deployment = .ok declarations)
    {declaration : Declaration} (member : declaration ∈ declarations) {kind : ResourceKind}
    (given : declaration.kind? = some kind) :
    ∃ component, kind ∈ component.kinds ∧ cluster.Declares deployment declaration component := by
  obtain ⟨component, declares⟩ := exists_component declared member
  exact ⟨component, declares.kind_mem given, declares⟩

/-- A listener rule is that of an attached listener for a routing rule of its service. -/
theorem listenerRule_of_mem (declared : cluster.declarations deployment = .ok declarations)
    {declaration : Declaration} (member : declaration ∈ declarations)
    (kind : declaration.kind? = some .listenerRule) :
    ∃ service ∈ cluster.services, ∃ listener ∈ service.attachedListeners, ∃ arn,
      cluster.balancer.listenerArn service.name listener.port = .ok arn ∧
        ∃ index, ∃ bound : index < service.routing.rules.length,
          declaration = .resource (listener.ruleName index)
            (listener.ruleResource service.routing arn service.routing.rules[index]) := by
  obtain ⟨component, among, declares⟩ := exists_component_of_kind declared member kind
  obtain rfl : component = .rule := by
    revert among
    cases component <;> decide
  obtain ⟨service, present, listener, attached, arn, found, ofRule⟩ := declares
  obtain ⟨-, index, bound, made⟩ := Listener.mem_ruleDeclarations.mp ofRule
  exact ⟨service, present, listener, attached, arn, found, index, bound, made⟩

theorem loadBalancerListener_of_mem (declared : cluster.declarations deployment = .ok declarations)
    {declaration : Declaration} (member : declaration ∈ declarations)
    (kind : declaration.kind? = some .loadBalancerListener) :
    cluster.balancer.isManaged = true ∧ ∃ port ∈ cluster.balancer.listeners,
      declaration = .resource port.name (cluster.balancer.listenerResource port) := by
  obtain ⟨component, among, declares⟩ := exists_component_of_kind declared member kind
  obtain rfl : component = .port := by
    revert among
    cases component <;> decide
  exact declares

/-- An alarm is that of a step in which a service scales. -/
theorem alarm_of_mem (declared : cluster.declarations deployment = .ok declarations)
    {declaration : Declaration} (member : declaration ∈ declarations)
    (kind : declaration.kind? = some .alarm) :
    ∃ service ∈ cluster.services, ∃ scaling ∈ service.scaling, ∃ step ∈ scaling.steps,
      let scope := service.scalingScope (cluster.serviceScope deployment)
      declaration = .resource (scope.id step.1.alarmRole) (scope.alarmResource step.1 step.2) := by
  obtain ⟨component, among, declares⟩ := exists_component_of_kind declared member kind
  obtain rfl : component = .scaling := by
    revert among
    cases component <;> decide
  obtain ⟨service, present, ofScaling⟩ := declares
  obtain ⟨scaling, given, ofScaling⟩ := Service.mem_scalingDeclarations.mp ofScaling
  rcases Scaling.mem_declarations.mp ofScaling with rfl | rfl | ⟨_, _, _, _, -, rfl⟩ | ⟨step, listed, ofStep⟩
  · cases kind
  · cases kind
  · cases kind
  · simp only [ScalingScope.stepDeclarations, List.mem_cons, List.not_mem_nil, or_false] at ofStep
    rcases ofStep with rfl | rfl
    · cases kind
    · exact ⟨service, present, scaling, given, step, listed, rfl⟩

end Cluster

end ClusterStack
