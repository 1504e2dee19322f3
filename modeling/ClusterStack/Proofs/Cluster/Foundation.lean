import ClusterStack.Cluster.Resources
import ClusterStack.Proofs.Cluster.Settled
import ClusterStack.Proofs.Service.Foundation

/-!
# Foundations of a cluster

Whatever a component of a cluster refers to is generated by some component of the cluster, and at a
lower level.
-/

set_option autoImplicit false

namespace ClusterStack

variable {deployment : Deployment} {resources : List (String × Resource)} {metrics : List String}

theorem Tags.isPlain_ofSpec (tags : List (String × Json)) : (Tags.ofSpec tags).IsPlain := by
  intro resources level
  have plain : ∀ input : Json, (Tags.valueOfInput input).IsFounded resources level := by
    intro input
    unfold Tags.valueOfInput
    split <;> simp
  unfold Tags.toValue?
  split
  · simp
  · simp only [Tags.ofSpec, List.map_map, Option.mem_some_iff, forall_eq', Value.isFounded_list,
      List.forall_mem_map]
    simp [plain]

namespace DedicatedNetwork

/-- The resources of a dedicated network refer to one another only. -/
theorem isFounded {network : DedicatedNetwork} {tags : Tags} (plain : tags.IsPlain)
    (inside : (network.declarations tags).filterMap Declaration.resource? ⊆ resources) :
    ∀ declaration ∈ network.declarations tags, declaration.IsFounded resources metrics := by
  have vpc : ∀ {level}, 0 < level → IsBelow resources level network.vpc :=
    (Provides.of_resource inside (List.mem_append_left _ (.head _))).isBelow
  have gateway : ∀ {level}, 0 < level → IsBelow resources level network.internetGateway :=
    (Provides.of_resource inside (List.mem_append_left _ (.tail _ (.head _)))).isBelow
  have attachment : ∀ {level}, 1 < level → IsBelow resources level network.gatewayAttachment :=
    (Provides.of_resource inside (List.mem_append_left _ (.tail _ (.tail _ (.head _))))).isBelow
  have routeTable : ∀ {level}, 1 < level → IsBelow resources level network.routeTable :=
    (Provides.of_resource inside (List.mem_append_left _ (.tail _ (.tail _ (.tail _ (.head _)))))).isBelow
  intro declaration member
  rcases List.mem_append.mp member with own | ofSubnet
  · simp only [List.mem_cons, List.not_mem_nil, or_false] at own
    rcases own with rfl | rfl | rfl | rfl | rfl
    · exact Resource.isFounded_make (by simpa using plain _ _) (by simp)
    · exact Resource.isFounded_make (by simpa using plain _ _) (by simp)
    · exact Resource.isFounded_make (by simp [vpc, gateway, ResourceKind.level]) (by simp)
    · refine Resource.isFounded_make ?_ (by simp)
      simpa [vpc, ResourceKind.level] using plain _ _
    · exact Resource.isFounded_make
        (by simp [routeTable, gateway, ResourceKind.level])
        (by simp [attachment, ResourceKind.level])
  · obtain ⟨declarations, listed, member⟩ := List.mem_flatten.mp ofSubnet
    obtain ⟨index, bound, rfl⟩ := List.mem_mapIdx.mp listed
    have subnet : ∀ {level}, 1 < level → IsBelow resources level network.subnets[index].name :=
      (Provides.of_resource inside (List.mem_append_right _
        (List.mem_flatten.mpr ⟨_, listed, .head _⟩))).isBelow
    simp only [subnetDeclarations, List.mem_cons, List.not_mem_nil, or_false] at member
    rcases member with rfl | rfl
    · refine Resource.isFounded_make ?_ (by simp)
      simpa [vpc, ResourceKind.level] using plain _ _
    · exact Resource.isFounded_make
        (by simp [subnet, routeTable, ResourceKind.level]) (by simp)

theorem grounded {network : DedicatedNetwork} {tags : Tags}
    (inside : (network.declarations tags).filterMap Declaration.resource? ⊆ resources) :
    (Network.dedicated network).Grounded resources := by
  have subnets : ∀ {level}, 1 < level →
      (Network.subnets (.dedicated network)).IsFounded resources level := by
    intro level higher
    rw [Network.subnets, Value.isFounded_list, List.forall_mem_map]
    intro subnet member
    obtain ⟨index, bound, rfl⟩ := List.mem_iff_getElem.mp member
    have listed : network.subnetDeclarations tags index network.subnets[index] ∈
        network.subnets.mapIdx (network.subnetDeclarations tags) :=
      List.mem_mapIdx.mpr ⟨index, bound, rfl⟩
    have provided : Provides resources .subnet network.subnets[index].name :=
      .of_resource inside (List.mem_append_right _ (List.mem_flatten.mpr ⟨_, listed, .head _⟩))
    exact Value.isFounded_ref.mpr (provided.isBelow higher)
  refine ⟨?_, subnets, subnets, by simp [Network.securityGroups?]⟩
  intro level higher
  have provided : Provides resources .vpc network.vpc :=
    .of_resource inside (List.mem_append_left _ (.head _))
  exact Value.isFounded_ref.mpr (provided.isBelow higher)

end DedicatedNetwork

theorem SecurityGroups.isFounded_ofInput (input : Json) {level : Nat} :
    (SecurityGroups.ofInput input).toValue.IsFounded resources level ∧
      ∀ items, (SecurityGroups.ofInput input).toList? = some items →
        ∀ item ∈ items, item.IsFounded resources level := by
  unfold SecurityGroups.ofInput
  split
  · simpa [toValue, toList?] using Value.isFounded_ofInputs _
  · simp [toValue, toList?]
  · split <;> simp [toValue, toList?]
  · simp [toValue, toList?]

theorem ExistingNetwork.Settled.grounded {network : ExistingNetwork} (settled : network.Settled) :
    (Network.existing network).Grounded resources := by
  obtain ⟨vpcId, vpc⟩ := settled.vpcId
  obtain ⟨securityGroups, groups⟩ := settled.securityGroups
  obtain ⟨subnetIds, subnets⟩ := settled.subnetIds
  have subnetsFounded : ∀ level, network.subnetIds.IsFounded resources level := by simp [subnets]
  refine ⟨?_, ?_, ?_, ?_⟩
  · simp [Network.vpcRef, vpc]
  · simp [Network.subnets, subnetsFounded]
  · intro level _
    cases own : network.albSubnetIds with
    | none => simp [Network.albSubnets, own, subnetsFounded]
    | some value =>
      obtain ⟨input, rfl⟩ := settled.albSubnetIds value own
      simp [Network.albSubnets, own]
  · intro found supplied level
    obtain rfl : network.securityGroups = found := by simpa [Network.securityGroups?] using supplied
    rw [groups]
    exact SecurityGroups.isFounded_ofInput securityGroups

namespace Balancer

variable {balancer : Balancer} {tags : Tags} {network : Network} {containerGroup : Option Value}

/-- The group of a service refers to the network, and its leave to the group of the containers. -/
theorem isFounded_groupDeclarations (plain : tags.IsPlain) (grounded : network.Grounded resources)
    (container : ∀ group, containerGroup = some group → ∀ {level}, 1 < level →
      group.IsFounded resources level) (group : ServiceGroup)
    (inside : (groupDeclarations tags network containerGroup group).filterMap Declaration.resource? ⊆
      resources) :
    ∀ declaration ∈ groupDeclarations tags network containerGroup group,
      declaration.IsFounded resources metrics := by
  have name : ∀ {level}, 1 < level → IsBelow resources level group.name :=
    (Provides.of_resource inside (.head _)).isBelow
  intro declaration member
  rcases List.mem_cons.mp member with rfl | member
  · refine Resource.isFounded_make ?_ (by simp)
    simpa [ResourceKind.level, grounded.vpcRef] using plain _ _
  · obtain ⟨enclosing, given, rfl⟩ := List.mem_map.mp member
    have founded : ∀ {level}, 1 < level → enclosing.IsFounded resources level := by
      refine container enclosing ?_
      split at given
      · cases given
      · exact Option.mem_toList.mp given
    exact Resource.isFounded_make (by simp [ResourceKind.level, founded, name]) (by simp)

theorem isDisabled_of_isManaged (managed : balancer.isManaged = true) :
    balancer.mode.isDisabled = false := by
  cases kind : balancer.mode <;> simp_all [isManaged, BalancerMode.isManaged, BalancerMode.isDisabled]

private theorem isFounded_securityGroups (grounded : network.Grounded resources)
    (container : ∀ group, containerGroup = some group → ∀ {level}, 1 < level →
      group.IsFounded resources level)
    (groups : ∀ group ∈ balancer.serviceGroups, Provides resources .securityGroup group.name) :
    ∀ value ∈ balancer.securityGroups network containerGroup, value.IsFounded resources 2 := by
  intro value member
  simp only [securityGroups, List.mem_append, List.mem_map] at member
  rcases member with (⟨group, listed, rfl⟩ | member) | member
  · exact Value.isFounded_ref.mpr ((groups group listed).isBelow (by decide))
  · split at member
    · exact container value (Option.mem_toList.mp member) (by decide)
    · cases member
  · split at member
    · cases member
    · rename_i existing supplied
      obtain ⟨whole, single⟩ := grounded.securityGroups existing supplied 2
      cases listed : existing.toList? with
      | none =>
        obtain rfl : value = existing.toValue := by simpa [listed] using member
        exact whole
      | some items => exact single items listed value (by simpa [listed] using member)

private theorem isFounded_resource (plain : tags.IsPlain) (grounded : network.Grounded resources)
    (groups : ∀ value ∈ balancer.securityGroups network containerGroup, value.IsFounded resources 2) :
    (balancer.resource tags network containerGroup).IsFounded resources metrics := by
  have own : ∀ value : Value, (if (balancer.securityGroups network containerGroup).isEmpty then none
      else some (.list (balancer.securityGroups network containerGroup))) = some value →
        value.IsFounded resources 2 := by
    intro value given
    split at given
    · cases given
    · obtain rfl := Option.some.inj given
      exact Value.isFounded_list.mpr groups
  refine Resource.isFounded_make ?_ (by simp)
  simpa [ResourceKind.level, grounded.albSubnets] using And.intro (plain _ _) own

/-- The load balancer refers to its groups, to the network and to the target groups of its ports. -/
theorem isFounded (plain : tags.IsPlain) (grounded : network.Grounded resources)
    (container : ∀ group, containerGroup = some group → ∀ {level}, 1 < level →
      group.IsFounded resources level)
    (targets : ∀ port ∈ balancer.listeners, ∀ {level}, 1 < level →
      IsBelow resources level port.defaultTargetGroup)
    (inside : (balancer.declarations tags network containerGroup).filterMap Declaration.resource? ⊆
      resources) :
    ∀ declaration ∈ balancer.declarations tags network containerGroup,
      declaration.IsFounded resources metrics := by
  have ofGroup : ∀ group ∈ balancer.serviceGroups, balancer.mode.isDisabled = false →
      (groupDeclarations tags network containerGroup group).filterMap Declaration.resource? ⊆
        resources := by
    intro group listed enabled entry declares
    obtain ⟨declaration, member, given⟩ := List.mem_filterMap.mp declares
    exact inside (List.mem_filterMap.mpr
      ⟨declaration, mem_declarations.mpr (.inl ⟨enabled, group, listed, member⟩), given⟩)
  intro declaration member
  rcases mem_declarations.mp member with ⟨enabled, group, listed, member⟩ |
    ⟨managed, rfl | ⟨listener, listed, rfl⟩⟩
  · exact isFounded_groupDeclarations plain grounded container group (ofGroup group listed enabled)
      declaration member
  · refine isFounded_resource plain grounded (isFounded_securityGroups grounded container ?_)
    exact fun group listed =>
      .of_resource (ofGroup group listed (isDisabled_of_isManaged managed)) (.head _)
  · have provided : Provides resources .loadBalancer balancer.name :=
      .of_resource inside (mem_declarations.mpr (.inr ⟨managed, .inl rfl⟩))
    have name : ∀ {level}, 2 < level → IsBelow resources level balancer.name := provided.isBelow
    refine Resource.isFounded_make ?_ (by simp [ResourceKind.level, name])
    simp [ResourceKind.level, name, targets listener listed]

end Balancer

namespace Cluster

variable {spec : ClusterSpec} {cluster : Cluster} {declarations : List Declaration}

/-- The target group of every attached listener is generated with its service. -/
theorem provides_targetGroup (declared : cluster.declarations deployment = .ok declarations)
    (inside : declarations.filterMap Declaration.resource? ⊆ resources) {service : Service}
    (member : service ∈ cluster.services) {listener : Listener}
    (attached : listener ∈ service.attachedListeners) :
    Provides resources .targetGroup listener.targetGroup := by
  obtain ⟨part, partDeclared, within⟩ := exists_service_declarations declared member
  exact Service.provides_targetGroup partDeclared
    (List.Subset.trans (List.filterMap_subset _ within) inside) attached

theorem isDisabled_eq_albDisabled (settled : cluster.Settled deployment spec) :
    cluster.balancer.mode.isDisabled = spec.albDisabled := by
  rw [settled.balancer.mode, BalancerMode.isDisabled_ofSpec]

/-- A listener of an enabled load balancer is attached if it declares a protocol. -/
theorem mem_attachedListeners (settled : cluster.Settled deployment spec)
    (enabled : cluster.balancer.mode.isDisabled = false) {service : Service}
    (member : service ∈ cluster.services) {listener : Listener} :
    listener ∈ service.attachedListeners ↔
      listener ∈ service.listeners ∧ listener.protocol.isSome = true := by
  rw [isDisabled_eq_albDisabled settled] at enabled
  rw [Service.mem_attachedListeners]
  refine and_congr_right fun listed => ?_
  rw [((settled.service member).2.listeners listener listed).isAttached, enabled]
  simp

/-- A cluster is generated under its id, or what the description supplies about it refers to nothing. -/
theorem home_cases (settled : cluster.Settled deployment spec) :
    cluster.home = .created (deployment.idOf ⟨cluster.clusterPrefix, .cluster, .single⟩) ∨
      ∃ arn ingressGroup, cluster.home = .shared (.ofInput arn) (.ofInput ingressGroup) := by
  rw [settled.home, ClusterHome.ofSpec]
  cases shared : ClusterHome.shared? spec with
  | none => exact .inl rfl
  | some home =>
    simp only [ClusterHome.shared?, Option.bind_eq_bind, Option.bind_eq_some_iff, Option.pure_def,
      Option.some.injEq] at shared
    obtain ⟨arns, -, arn, -, ingressGroup, -, rfl⟩ := shared
    exact .inr ⟨arn, ingressGroup, rfl⟩

theorem executionRole_cases (settled : cluster.Settled deployment spec) :
    cluster.executionRole = .generated (deployment.idOf ⟨cluster.clusterPrefix, .executionRole, .single⟩) ∨
      ∃ arn, cluster.executionRole = .supplied (.ofInput arn) := by
  rw [settled.executionRole, executionRoleOf]
  split
  · exact .inr ⟨_, rfl⟩
  · exact .inl rfl

section Grounded

variable (declared : cluster.declarations deployment = .ok declarations)
  (inside : declarations.filterMap Declaration.resource? ⊆ resources)

include declared inside

theorem network_grounded (settled : cluster.Settled deployment spec) :
    cluster.network.Grounded resources := by
  cases kind : cluster.network with
  | dedicated network =>
    refine @DedicatedNetwork.grounded _ network cluster.tags fun entry declares => ?_
    obtain ⟨declaration, member, given⟩ := List.mem_filterMap.mp declares
    refine inside (List.mem_filterMap.mpr ⟨declaration, (mem_declarations declared).mpr (.inl ?_), given⟩)
    rw [kind]
    exact member
  | existing network =>
    have existing := settled.network
    rw [kind] at existing
    cases existing with
    | existing settles => exact settles.grounded

theorem provides_containerGroup {home : String} (created : cluster.home = .created home)
    (dedicated : ¬cluster.network.isExisting = true) :
    Provides resources .securityGroup cluster.containerGroup :=
  have own := containerGroupDeclarations_subset created (Bool.eq_false_iff.mpr dedicated)
  .of_resource inside (ownDeclarations_subset declared (own (.head _)))

theorem ingressGroup_founded (settled : cluster.Settled deployment spec) {group : Value}
    (given : cluster.ingressGroup = some group) {level : Nat} (higher : 1 < level) :
    group.IsFounded resources level := by
  rcases home_cases settled with created | ⟨arn, ingressGroup, shared⟩
  · simp only [Cluster.ingressGroup, created] at given
    split at given
    · cases given
    · rename_i dedicated
      obtain rfl := Option.some.inj given
      have provided := provides_containerGroup declared inside created dedicated
      exact Value.isFounded_ref.mpr (provided.isBelow higher)
  · simp only [Cluster.ingressGroup, shared, Option.some.injEq] at given
    rw [← given]
    exact Value.isFounded_ofInput ingressGroup

theorem provides_cluster {name : String} (created : cluster.home = .created name) :
    Provides resources .ecsCluster name := by
  have own : .resource name (cluster.resource name) ∈ cluster.ownDeclarations := by
    simp [ownDeclarations, created]
  exact .of_resource inside (ownDeclarations_subset declared own)

theorem provides_executionRole {service : Service} (member : service ∈ cluster.services) {name : String}
    (generated : cluster.executionRole = .generated name) : Provides resources .iamRole name := by
  obtain ⟨part, partDeclared, within⟩ := exists_service_declarations declared member
  have ofRole : .sharedResource name (ExecutionRole.resource name cluster.tags) ∈
      cluster.executionRole.declarations cluster.tags := by
    simp [generated, ExecutionRole.declarations]
  exact .of_sharedResource inside (within ((Service.mem_declarations partDeclared).mpr
    (.inr (.inr (.inr (.inl ofRole))))))

theorem provides_balancer (managed : cluster.balancer.isManaged = true) :
    Provides resources .loadBalancer cluster.balancer.name ∧
      ∀ listener ∈ cluster.balancer.listeners,
        Provides resources .loadBalancerListener listener.name := by
  have ofBalancer := balancerDeclarations_subset declared
  refine ⟨?_, fun listener listed => ?_⟩
  · exact .of_resource inside (ofBalancer (Balancer.itself_mem_declarations managed))
  · exact .of_resource inside (ofBalancer (Balancer.listener_mem_declarations managed listed))

/-- The listener that a rule is for is generated, or refers to nothing. -/
theorem listenerArn_founded (settled : cluster.Settled deployment spec) {service : String} {port : UInt16}
    {arn : Value} (found : cluster.balancer.listenerArn service port = .ok arn) {level : Nat}
    (higher : 3 < level) : arn.IsFounded resources level := by
  have ofSpec := settled.balancer.mode
  unfold Balancer.listenerArn at found
  split at found
  · rename_i supplied external
    rw [external, BalancerMode.ofSpec] at ofSpec
    rw [Except.ok.injEq] at found
    subst found
    split at ofSpec
    · cases ofSpec
    · split at ofSpec
      · cases ofSpec
        exact Value.isFounded_ofInput _
      · cases ofSpec
  · rename_i disabled
    simp [settled.balancer.noListeners (by rw [disabled]; rfl)] at found
  · rename_i generated
    split at found
    · rename_i listener search
      rw [Except.ok.injEq] at found
      subst found
      have managed : cluster.balancer.isManaged = true := by
        rw [Balancer.isManaged, generated]
        rfl
      have provided := (provides_balancer declared inside managed).2 listener
        (List.mem_of_find?_eq_some search)
      exact Value.isFounded_ref.mpr (provided.isBelow higher)
    · cases found

/-- What the services of a cluster take from it is founded. -/
theorem grounded (settled : cluster.Settled deployment spec) {service : Service}
    (member : service ∈ cluster.services) : (cluster.serviceScope deployment).Grounded resources := by
  have tags : cluster.tags.IsPlain := by
    rw [settled.tags]
    exact Tags.isPlain_ofSpec spec.tags
  have own : ∀ {level}, 0 < level →
      cluster.clusterRef.IsFounded resources level ∧ cluster.clusterArn.IsFounded resources level := by
    intro level higher
    rcases home_cases settled with created | ⟨arn, ingressGroup, shared⟩
    · have below : IsBelow resources level _ := (provides_cluster declared inside created).isBelow higher
      simp [clusterRef, clusterArn, created, below]
    · simp [clusterRef, clusterArn, shared]
  have role : ∀ {level}, 0 < level → cluster.executionRole.arn.IsFounded resources level := by
    intro level higher
    rcases executionRole_cases settled with generated | ⟨arn, supplied⟩
    · have below : IsBelow resources level _ :=
        (provides_executionRole declared inside member generated).isBelow higher
      simp [ExecutionRole.arn, generated, below]
    · simp [ExecutionRole.arn, supplied]
  exact {
    tags
    network := network_grounded declared inside settled
    clusterRef := fun higher => (own higher).1
    clusterArn := fun higher => (own higher).2
    ingressGroup := fun group given level higher =>
      ingressGroup_founded declared inside settled given higher
    executionRole := role
    listenerArn := fun _ _ _ found level higher =>
      listenerArn_founded declared inside settled found higher
    dnsName := fun managed level higher => Value.isFounded_attribute.mpr
      ((provides_balancer declared inside managed).1.isBelow higher) }

theorem isFounded_ownDeclarations (settled : cluster.Settled deployment spec) :
    ∀ declaration ∈ cluster.ownDeclarations, declaration.IsFounded resources metrics := by
  have tags : cluster.tags.IsPlain := by
    rw [settled.tags]
    exact Tags.isPlain_ofSpec spec.tags
  have network := network_grounded declared inside settled
  rcases home_cases settled with created | ⟨arn, ingressGroup, shared⟩
  · have settings : ∀ value : Value, (if cluster.containerInsights then some (.list [.map [
        ("Name", .string "containerInsights"), ("Value", .string "enabled")]]) else none) = some value →
          value.IsFounded resources 0 := by
      split <;> simp
    have itself : (cluster.resource (deployment.idOf ⟨cluster.clusterPrefix, .cluster, .single⟩)).IsFounded
        resources metrics := by
      refine Resource.isFounded_make ?_ (by simp)
      simpa [ResourceKind.level] using And.intro (tags _ _) settings
    intro declaration member
    simp only [ownDeclarations, created, List.mem_cons] at member
    rcases member with rfl | member
    · exact itself
    · split at member
      · cases member
      · rename_i dedicated
        have group : ∀ {level}, 1 < level → IsBelow resources level cluster.containerGroup :=
          (provides_containerGroup declared inside created dedicated).isBelow
        simp only [containerGroupDeclarations, List.mem_cons, List.not_mem_nil, or_false] at member
        rcases member with rfl | rfl
        · refine Resource.isFounded_make ?_ (by simp)
          simpa [ResourceKind.level, network.vpcRef] using tags _ _
        · exact Resource.isFounded_make (by simp [ResourceKind.level, group]) (by simp)
  · simp [ownDeclarations, shared]

theorem provides_defaultTargetGroup (settled : cluster.Settled deployment spec) {port : PortListener}
    (listed : port ∈ cluster.balancer.listeners) :
    Provides resources .targetGroup port.defaultTargetGroup := by
  have enabled : cluster.balancer.mode.isDisabled = false := by
    by_contra disabled
    rw [settled.balancer.noListeners (by simpa using disabled)] at listed
    cases listed
  obtain ⟨⟨service, listener⟩, protocol, opens, declares, rfl⟩ :=
    (settled.balancer.listeners enabled).opened port listed
  obtain ⟨member, given⟩ := Balancer.mem_serviceListeners.mp opens.mem
  refine provides_targetGroup declared inside member ((mem_attachedListeners settled enabled member).mpr
    ⟨given, ?_⟩)
  rw [declares]
  rfl

/-- Everything that a cluster generates is founded, but for what its metrics depend on. -/
theorem isFounded (settled : cluster.Settled deployment spec)
    (listed : cluster.externalDependencies ⊆ metrics) :
    ∀ declaration ∈ declarations, declaration.IsFounded resources metrics := by
  have tags : cluster.tags.IsPlain := by
    rw [settled.tags]
    exact Tags.isPlain_ofSpec spec.tags
  have part_inside : ∀ part : List Declaration, part ⊆ declarations →
      part.filterMap Declaration.resource? ⊆ resources := by
    intro part within entry declares
    obtain ⟨declaration, member, given⟩ := List.mem_filterMap.mp declares
    exact inside (List.mem_filterMap.mpr ⟨declaration, within member, given⟩)
  intro declaration member
  rcases (mem_declarations declared).mp member with ofNetwork | own | ofBalancer |
    ⟨service, present, part, partDeclared, ofService⟩
  · cases kind : cluster.network with
    | dedicated network =>
      rw [kind] at ofNetwork
      refine DedicatedNetwork.isFounded tags (part_inside _ fun other within => ?_) declaration ofNetwork
      refine (mem_declarations declared).mpr (.inl ?_)
      rw [kind]
      exact within
    | existing network =>
      rw [kind] at ofNetwork
      cases ofNetwork
  · exact isFounded_ownDeclarations declared inside settled declaration own
  · refine Balancer.isFounded tags (network_grounded declared inside settled) ?_ ?_ ?_ declaration ofBalancer
    · exact fun group given level higher => ingressGroup_founded declared inside settled given higher
    · exact fun port opened level higher =>
        (provides_defaultTargetGroup declared inside settled opened).isBelow higher
    · exact part_inside _ (balancerDeclarations_subset declared)
  · refine Service.isFounded (grounded declared inside settled present) ?_ partDeclared
      (part_inside _ fun other within =>
        (mem_declarations declared).mpr (.inr (.inr (.inr ⟨service, present, part, partDeclared, within⟩))))
      declaration ofService
    exact fun metric depends => listed (List.mem_flatMap.mpr ⟨service, present, depends⟩)

end Grounded

end Cluster

end ClusterStack
