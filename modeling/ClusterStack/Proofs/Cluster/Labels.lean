import ClusterStack.Compile
import ClusterStack.Proofs.Cluster.Foundation
import ClusterStack.Proofs.Template.Keys

/-!
# Labels of a cluster

The labels of the resources that a cluster generates for itself and for its services. Their ids are
the keys under which the resources are declared. The groups that admit everyone to a service are
apart: their ids end in a token of the description.
-/

set_option autoImplicit false

namespace ClusterStack

variable {deployment : Deployment}

open Declaration (keysOf owned?)

def DedicatedNetwork.labels (owner : String) (network : DedicatedNetwork) : List Label :=
  [⟨owner, .vpc, .single⟩, ⟨owner, .internetGateway, .single⟩, ⟨owner, .gatewayAttachment, .single⟩,
    ⟨owner, .routeTable, .single⟩, ⟨owner, .route, .single⟩] ++
  (List.range network.subnets.length).flatMap fun index =>
    [⟨owner, .subnet, .number index⟩, ⟨owner, .routeTableAssociation, .number index⟩]

def Network.labels (owner : String) : Network → List Label
  | .dedicated network => network.labels owner
  | .existing _ => []

theorem Network.ownKeys_declarations {owner : String} {network : Network} (tags : Tags)
    (settled : network.Settled deployment owner) :
    keysOf owned? (network.declarations tags) = (network.labels owner).map deployment.idOf := by
  cases settled with
  | existing _ => rfl
  | dedicated settled =>
    rename_i network
    have subnets : keysOf owned? (network.subnets.mapIdx (network.subnetDeclarations tags)).flatten =
        (List.range network.subnets.length).flatMap fun index =>
          [deployment.idOf ⟨owner, .subnet, .number index⟩,
            deployment.idOf ⟨owner, .routeTableAssociation, .number index⟩] := by
      refine Declaration.keysOf_flatten_mapIdx fun subnet index listed => ?_
      obtain ⟨name, association⟩ := settled.subnets subnet index listed
      simp [DedicatedNetwork.subnetDeclarations, name, association]
    simp only [declarations, DedicatedNetwork.declarations, Declaration.keysOf_append, subnets]
    simp [Network.labels, DedicatedNetwork.labels, List.map_flatMap, settled.vpc, settled.internetGateway,
      settled.gatewayAttachment, settled.routeTable, settled.route]

def Cluster.ownLabels (cluster : Cluster) : List Label :=
  match cluster.home with
  | .shared _ _ => []
  | .created _ =>
    ⟨cluster.clusterPrefix, .cluster, .single⟩ ::
      if cluster.network.isExisting then []
      else [⟨cluster.clusterPrefix, .containerSecurityGroup, .single⟩,
        ⟨cluster.clusterPrefix, .selfIngress, .single⟩]

theorem Cluster.ownKeys_ownDeclarations {spec : ClusterSpec} {cluster : Cluster}
    (settled : cluster.Settled deployment spec) :
    keysOf owned? cluster.ownDeclarations = cluster.ownLabels.map deployment.idOf := by
  rcases home_cases settled with created | ⟨arn, ingressGroup, shared⟩
  · simp only [ownDeclarations, ownLabels, created]
    split
    · simp
    · simp [containerGroupDeclarations, settled.containerGroup, settled.selfIngress]
  · simp [ownDeclarations, ownLabels, shared]

def Balancer.labels (owner : String) (balancer : Balancer) : List Label :=
  if balancer.isManaged then
    ⟨owner, .loadBalancer, .single⟩ :: balancer.listeners.map fun listener =>
      ⟨owner, .loadBalancerListener, .number listener.port.toNat⟩
  else
    []

/-- The labels of the group that admits everyone to a service, and of its leave to enter the containers.
Their marks are the token of the service. -/
def Cluster.serviceGroupLabels (cluster : Cluster) (service : Service) : List Label :=
  ⟨cluster.clusterPrefix, .loadBalancerSecurityGroup, .word service.token⟩ ::
    if cluster.network.isExisting || cluster.ingressGroup.isNone then []
    else [⟨cluster.clusterPrefix, .loadBalancerIngress, .word service.token⟩]

/-- The labels of the groups that admit everyone to a service of a public load balancer. -/
def Cluster.groupLabels (cluster : Cluster) : List Label :=
  if cluster.balancer.mode.isDisabled || cluster.balancer.isPrivate then []
  else (cluster.services.filter (·.hasAttachedListener)).flatMap cluster.serviceGroupLabels

theorem Cluster.ownKeys_groups {spec : ClusterSpec} {cluster : Cluster}
    (settled : cluster.Settled deployment spec) :
    keysOf owned? (cluster.balancer.serviceGroups.flatMap
        (Balancer.groupDeclarations cluster.tags cluster.network cluster.ingressGroup)) =
      cluster.groupLabels.map deployment.idOf := by
  have each : ∀ service : Service,
      keysOf owned? (Balancer.groupDeclarations cluster.tags cluster.network cluster.ingressGroup {
        name := deployment.numberedId cluster.clusterPrefix .loadBalancerSecurityGroup service.token
        ingress := deployment.numberedId cluster.clusterPrefix .loadBalancerIngress service.token
        service := service.logicalId }) =
      (cluster.serviceGroupLabels service).map deployment.idOf := by
    intro service
    cases existing : cluster.network.isExisting <;> cases group : cluster.ingressGroup <;>
      simp [Balancer.groupDeclarations, serviceGroupLabels, existing, group, Deployment.idOf, Mark.text]
  rw [settled.balancer.serviceGroups, groupLabels]
  split
  · rfl
  · rw [Balancer.planGroups, List.flatMap_map, Declaration.keysOf_flatMap, List.map_flatMap]
    exact List.flatMap_congr fun service _ => each service

theorem Cluster.ownKeys_balancer {spec : ClusterSpec} {cluster : Cluster}
    (settled : cluster.Settled deployment spec) :
    keysOf owned? (cluster.balancer.declarations cluster.tags cluster.network cluster.ingressGroup) =
      (cluster.groupLabels ++ cluster.balancer.labels cluster.clusterPrefix).map deployment.idOf := by
  have groups := ownKeys_groups settled
  have listeners : ∀ enabled : cluster.balancer.mode.isDisabled = false,
      cluster.balancer.listeners.map (·.name) = cluster.balancer.listeners.map fun listener =>
        deployment.idOf ⟨cluster.clusterPrefix, .loadBalancerListener, .number listener.port.toNat⟩ := by
    intro enabled
    refine List.map_congr_left fun port listed => ?_
    obtain ⟨entry, protocol, -, -, rfl⟩ := (settled.balancer.listeners enabled).opened port listed
    rfl
  have mapped : ∀ listeners : List PortListener,
      keysOf owned? (listeners.map fun listener =>
        .resource listener.name (cluster.balancer.listenerResource listener)) =
          listeners.map (·.name) := by
    intro listeners
    induction listeners with
    | nil => rfl
    | cons listener rest ih => simp [ih]
  cases kind : cluster.balancer.mode with
  | disabled =>
    simp [Balancer.declarations, groupLabels, Balancer.labels, Balancer.isManaged,
      BalancerMode.isManaged, BalancerMode.isDisabled, kind]
  | external _ =>
    simp [Balancer.declarations, Balancer.labels, Balancer.isManaged, BalancerMode.isManaged, kind, groups]
  | managed =>
    have enabled : cluster.balancer.mode.isDisabled = false := by rw [kind]; rfl
    simp [Balancer.declarations, Balancer.labels, Balancer.isManaged, BalancerMode.isManaged, kind, groups,
      mapped, listeners enabled, settled.balancer.name]

def Service.coreLabels (service : Service) : List Label :=
  [⟨service.servicePrefix, .service, .single⟩, ⟨service.servicePrefix, .taskDefinition, .single⟩,
    ⟨service.servicePrefix, .logGroup, .single⟩] ++
  service.spec.schedulerRate.toList.map fun _ => ⟨service.servicePrefix, .schedulerRule, .single⟩

def Service.listenerLabels (service : Service) (listener : Listener) : List Label :=
  (listener.protocol.toList.flatMap fun protocol =>
    (List.range service.routing.rules.length).map fun index =>
      ⟨service.servicePrefix, .listenerRule, .rule protocol listener.port index⟩) ++
  [⟨service.servicePrefix, .targetGroup, .number listener.port.toNat⟩]

def Scaling.labels (owner : String) (scaling : Scaling) : List Label :=
  [⟨owner, .scalingRole, .single⟩, ⟨owner, .scalingTarget, .single⟩] ++
  match scaling.policy with
  | .targetTracking _ _ _ _ => [⟨owner, .scalingPolicy, .single⟩]
  | .steps _ _ => scaling.steps.flatMap fun step =>
    [⟨owner, step.1.policyRole, .single⟩, ⟨owner, step.1.alarmRole, .single⟩]

def Service.labels (service : Service) : List Label :=
  service.coreLabels ++ service.attachedListeners.flatMap service.listenerLabels ++
    service.scaling.toList.flatMap (Scaling.labels service.servicePrefix)

theorem Scaling.ownKeys_declarations (scaling : Scaling) (scope : ScalingScope) :
    keysOf owned? (scaling.declarations scope) =
      (scaling.labels scope.servicePrefix).map scope.deployment.idOf := by
  have id_eq : ∀ role, scope.id role = scope.deployment.idOf ⟨scope.servicePrefix, role, .single⟩ :=
    fun role => scope.deployment.logicalId_eq_idOf _ _
  cases kind : scaling.policy with
  | targetTracking _ _ _ _ => simp [declarations, labels, kind, id_eq]
  | steps _ _ =>
    simp [declarations, labels, kind, id_eq, Declaration.keysOf_flatMap, List.map_flatMap,
      ScalingScope.stepDeclarations]

theorem Service.ownKeys_listenerDeclarations {service : Service} {scope : ServiceScope}
    {albDisabled : Bool} {listener : Listener}
    (settled : listener.Settled deployment service.servicePrefix albDisabled)
    (attached : listener.isAttached = true) {part : List Declaration}
    (declared : service.listenerDeclarations scope listener = .ok part) :
    keysOf owned? part = (service.listenerLabels listener).map deployment.idOf := by
  obtain ⟨arn, -, rfl⟩ := listenerDeclarations_eq_ok.mp declared
  obtain ⟨protocol, declares⟩ := settled.exists_protocol attached
  have rules : ∀ (rules : List RouteRule) (name : Nat → String) (definition : RouteRule → Resource),
      keysOf owned? (rules.mapIdx fun index rule => .resource (name index) (definition rule)) =
        (List.range rules.length).map name := by
    intro rules
    induction rules with
    | nil => intro name definition; rfl
    | cons rule rest ih =>
      intro name definition
      simp [List.mapIdx_cons, List.range_succ_eq_map, ih fun index => name (index + 1)]
  simp only [Declaration.keysOf_append, Listener.ruleDeclarations, attached, if_true, rules]
  simp [listenerLabels, declares, settled.targetGroup, settled.ruleName protocol declares]

theorem Service.ownKeys_declarations {service : Service} {scope : ServiceScope}
    {clusterPrefix : String} {albDisabled : Bool}
    (settled : service.Settled scope.deployment clusterPrefix albDisabled)
    {declarations : List Declaration} (declared : service.declarations scope = .ok declarations) :
    keysOf owned? declarations = service.labels.map scope.deployment.idOf := by
  obtain ⟨attached, related, rfl⟩ := declarations_eq_ok.mp declared
  have core : keysOf owned? (service.coreDeclarations scope) =
      service.coreLabels.map scope.deployment.idOf := by
    cases rate : service.spec.schedulerRate <;>
      simp [coreDeclarations, coreLabels, rate, settled.logicalId, settled.taskDefinition,
        settled.logGroup, settled.schedulerRule]
  have listeners : keysOf owned? attached.flatten =
      service.attachedListeners.flatMap fun listener =>
        (service.listenerLabels listener).map scope.deployment.idOf := by
    refine Declaration.keysOf_flatten related fun listener member part partDeclared => ?_
    obtain ⟨listed, isAttached⟩ := mem_attachedListeners.mp member
    exact ownKeys_listenerDeclarations (settled.listeners listener listed) isAttached partDeclared
  have scaling : keysOf owned? (service.scalingDeclarations scope) =
      (service.scaling.toList.flatMap (Scaling.labels service.servicePrefix)).map
        scope.deployment.idOf := by
    cases described : service.scaling <;> simp [scalingDeclarations, described, Scaling.ownKeys_declarations]
  have role : keysOf owned? (scope.executionRole.declarations scope.tags) = [] := by
    cases kind : scope.executionRole <;> simp [ExecutionRole.declarations]
  have outputs : keysOf owned? (service.outputDeclarations scope) = [] :=
    Declaration.keysOf_eq_nil fun declaration member => by
      obtain ⟨key, definition, rfl⟩ := service.exists_output_of_mem member
      rfl
  simp only [Declaration.keysOf_append, core, listeners, scaling, role, outputs, List.append_nil, labels,
    List.map_append, List.map_flatMap]

/-- The labels of a cluster that are plain, but for that of the role under which tasks are started. -/
def Cluster.plainLabels (cluster : Cluster) : List Label :=
  cluster.network.labels cluster.clusterPrefix ++ cluster.ownLabels ++
    cluster.balancer.labels cluster.clusterPrefix ++ cluster.services.flatMap (·.labels)

/-- The label of the role under which the tasks of a cluster are started. All of its services declare it. -/
def Cluster.roleLabels (cluster : Cluster) : List Label :=
  match cluster.executionRole with
  | .supplied _ => []
  | .generated _ =>
    if cluster.services.isEmpty then [] else [⟨cluster.clusterPrefix, .executionRole, .single⟩]

def Cluster.labels (cluster : Cluster) : List Label :=
  cluster.groupLabels ++ cluster.plainLabels ++ cluster.roleLabels

/-- The resources of a cluster that are not shared are declared under the ids of their labels. -/
theorem Cluster.ownKeys_declarations {spec : ClusterSpec} {cluster : Cluster}
    (settled : cluster.Settled deployment spec) {declarations : List Declaration}
    (declared : cluster.declarations deployment = .ok declarations) :
    (keysOf owned? declarations).Perm ((cluster.groupLabels ++ cluster.plainLabels).map deployment.idOf) := by
  obtain ⟨parts, related, rfl⟩ := declarations_eq_ok.mp declared
  have services : keysOf owned? parts.flatten =
      cluster.services.flatMap fun service => service.labels.map deployment.idOf := by
    refine Declaration.keysOf_flatten related fun service member part partDeclared => ?_
    exact @Service.ownKeys_declarations service (cluster.serviceScope deployment) _ _
      (settled.service member).2 _ partDeclared
  simp only [Declaration.keysOf_append, Network.ownKeys_declarations cluster.tags settled.network,
    ownKeys_ownDeclarations settled, ownKeys_balancer settled, services, plainLabels, List.map_append,
    List.map_flatMap, List.append_assoc]
  exact ((List.perm_append_comm_assoc _ (cluster.groupLabels.map _) _).append_left _).trans
    (List.perm_append_comm_assoc _ (cluster.groupLabels.map _) _)

end ClusterStack
