import ClusterStack.Cluster.Resources
import ClusterStack.Proofs.Outcome

/-!
# What a cluster declares

The declarations of a cluster and its components, taken apart.
-/

set_option autoImplicit false

namespace ClusterStack

theorem Scaling.mem_declarations {scaling : Scaling} {scope : ScalingScope} {declaration : Declaration} :
    declaration ∈ scaling.declarations scope ↔
      declaration = .resource (scope.id .scalingRole) scope.roleResource ∨
      declaration = .resource (scope.id .scalingTarget) (scope.targetResource scaling) ∨
      (∃ metric targetValue cooldownIn cooldownOut,
        scaling.policy = .targetTracking metric targetValue cooldownIn cooldownOut ∧
          declaration = .resource (scope.id .scalingPolicy)
            (scope.trackingResource metric targetValue cooldownIn cooldownOut)) ∨
      ∃ step ∈ scaling.steps, declaration ∈ scope.stepDeclarations step := by
  cases kind : scaling.policy with
  | targetTracking metric targetValue cooldownIn cooldownOut =>
    simp [declarations, steps, kind, and_assoc]
  | steps scaleIn scaleOut =>
    simp only [declarations, kind, List.mem_append, List.mem_cons, List.not_mem_nil, or_false,
      List.mem_flatMap, reduceCtorEq, false_and, exists_false, false_or, or_assoc]

theorem Listener.mem_ruleDeclarations {listener : Listener} {routing : Routing} {arn : Value}
    {declaration : Declaration} :
    declaration ∈ listener.ruleDeclarations routing arn ↔ listener.isAttached = true ∧
      ∃ index, ∃ bound : index < routing.rules.length, declaration =
        .resource (listener.ruleName index) (listener.ruleResource routing arn routing.rules[index]) := by
  cases attached : listener.isAttached <;>
    simp [ruleDeclarations, attached, List.mem_mapIdx, eq_comm]

namespace Service

theorem listenerDeclarations_eq_ok {service : Service} {scope : ServiceScope} {listener : Listener}
    {declarations : List Declaration} :
    service.listenerDeclarations scope listener = .ok declarations ↔
      ∃ arn, scope.balancer.listenerArn service.name listener.port = .ok arn ∧
        declarations = listener.ruleDeclarations service.routing arn ++
          [.resource listener.targetGroup (service.targetGroupResource scope listener)] := by
  simp only [listenerDeclarations, bind_eq_ok, pure_eq_ok]

theorem declarations_eq_ok {service : Service} {scope : ServiceScope} {declarations : List Declaration} :
    service.declarations scope = .ok declarations ↔
      ∃ attached, List.Forall₂ (fun listener part => service.listenerDeclarations scope listener = .ok part)
        service.attachedListeners attached ∧
          declarations = service.coreDeclarations scope ++ attached.flatten ++
            service.scalingDeclarations scope ++ scope.executionRole.declarations scope.tags ++
              service.outputDeclarations scope := by
  simp only [Service.declarations, bind_eq_ok, mapM_eq_ok, pure_eq_ok]

theorem mem_coreDeclarations {service : Service} {scope : ServiceScope} {declaration : Declaration} :
    declaration ∈ service.coreDeclarations scope ↔
      declaration = .resource service.logicalId (service.serviceResource scope) ∨
      declaration = .resource service.taskDefinition (service.taskResource scope) ∨
      declaration = .resource service.logGroup service.logGroupResource ∨
      ∃ rate ∈ service.spec.schedulerRate,
        declaration = .resource service.schedulerRule (service.schedulerResource scope rate) := by
  simp [coreDeclarations, eq_comm]

theorem mem_attachedListeners {service : Service} {listener : Listener} :
    listener ∈ service.attachedListeners ↔ listener ∈ service.listeners ∧ listener.isAttached = true :=
  List.mem_filter

/-- The rules of a service are those of its attached listeners, one for each entry of its routing. -/
theorem mem_ruleNames {service : Service} {name : String} : name ∈ service.ruleNames ↔
    ∃ listener ∈ service.attachedListeners, ∃ index < service.routing.rules.length,
      name = listener.ruleName index := by
  simp [ruleNames, Listener.ruleNames, eq_comm]

/-- What the resources of a service's scaling are attached to. -/
def scalingScope (service : Service) (scope : ServiceScope) : ScalingScope where
  deployment := scope.deployment
  servicePrefix := service.servicePrefix
  service := service.logicalId
  clusterRef := scope.clusterRef
  tags := scope.tags

theorem mem_scalingDeclarations {service : Service} {scope : ServiceScope} {declaration : Declaration} :
    declaration ∈ service.scalingDeclarations scope ↔ ∃ scaling ∈ service.scaling,
      declaration ∈ scaling.declarations (service.scalingScope scope) := by
  simp only [scalingDeclarations, List.mem_flatMap, Option.mem_toList]
  rfl

theorem mem_declarations {service : Service} {scope : ServiceScope} {declarations : List Declaration}
    (declared : service.declarations scope = .ok declarations) {declaration : Declaration} :
    declaration ∈ declarations ↔
      declaration ∈ service.coreDeclarations scope ∨
      (∃ listener ∈ service.attachedListeners, ∃ arn,
        scope.balancer.listenerArn service.name listener.port = .ok arn ∧
          (declaration ∈ listener.ruleDeclarations service.routing arn ∨
            declaration = .resource listener.targetGroup (service.targetGroupResource scope listener))) ∨
      declaration ∈ service.scalingDeclarations scope ∨
      declaration ∈ scope.executionRole.declarations scope.tags ∨
      declaration ∈ service.outputDeclarations scope := by
  obtain ⟨attached, related, rfl⟩ := declarations_eq_ok.mp declared
  have ofListener : declaration ∈ attached.flatten ↔ ∃ listener ∈ service.attachedListeners, ∃ arn,
      scope.balancer.listenerArn service.name listener.port = .ok arn ∧
        (declaration ∈ listener.ruleDeclarations service.routing arn ∨
          declaration = .resource listener.targetGroup (service.targetGroupResource scope listener)) := by
    rw [List.mem_flatten]
    constructor
    · rintro ⟨part, listed, member⟩
      obtain ⟨listener, isAttached, partDeclared⟩ := exists_of_forall₂_right related listed
      obtain ⟨arn, found, rfl⟩ := listenerDeclarations_eq_ok.mp partDeclared
      refine ⟨listener, isAttached, arn, found, ?_⟩
      simpa using member
    · rintro ⟨listener, isAttached, arn, found, member⟩
      obtain ⟨part, listed, partDeclared⟩ := exists_of_forall₂_left related isAttached
      obtain ⟨other, alsoFound, rfl⟩ := listenerDeclarations_eq_ok.mp partDeclared
      obtain rfl : arn = other := by simpa [found] using alsoFound
      exact ⟨_, listed, by simpa using member⟩
  simp only [List.mem_append, ofListener, or_assoc]

theorem exists_output_of_mem (service : Service) {scope : ServiceScope} {declaration : Declaration}
    (member : declaration ∈ service.outputDeclarations scope) :
    ∃ key definition, declaration = .output key definition := by
  unfold outputDeclarations at member
  split at member
  · obtain ⟨listener, -, member⟩ := List.mem_flatMap.mp member
    unfold Listener.outputDeclarations at member
    split at member
    · split at member
      · exact ⟨_, _, List.mem_singleton.mp member⟩
      · cases member
    · cases member
  · cases member

end Service

theorem Balancer.mem_declarations {balancer : Balancer} {tags : Tags} {network : Network}
    {containerGroup : Option Value} {declaration : Declaration} :
    declaration ∈ balancer.declarations tags network containerGroup ↔
      (balancer.mode.isDisabled = false ∧ ∃ group ∈ balancer.serviceGroups,
        declaration ∈ groupDeclarations tags network containerGroup group) ∨
      (balancer.isManaged = true ∧
        (declaration = .resource balancer.name (balancer.resource tags network containerGroup) ∨
          ∃ listener ∈ balancer.listeners,
            declaration = .resource listener.name (balancer.listenerResource listener))) := by
  cases kind : balancer.mode with
  | disabled => simp [declarations, kind, BalancerMode.isDisabled, isManaged, BalancerMode.isManaged]
  | external _ => simp [declarations, kind, BalancerMode.isDisabled, isManaged, BalancerMode.isManaged]
  | managed =>
    simp [declarations, kind, BalancerMode.isDisabled, isManaged, BalancerMode.isManaged, eq_comm]

section Managed

variable {balancer : Balancer} {tags : Tags} {network : Network} {containerGroup : Option Value}
  (managed : balancer.isManaged = true)

include managed

theorem Balancer.itself_mem_declarations :
    .resource balancer.name (balancer.resource tags network containerGroup) ∈
      balancer.declarations tags network containerGroup :=
  mem_declarations.mpr (.inr ⟨managed, .inl rfl⟩)

theorem Balancer.listener_mem_declarations {listener : PortListener}
    (listed : listener ∈ balancer.listeners) :
    .resource listener.name (balancer.listenerResource listener) ∈
      balancer.declarations tags network containerGroup :=
  mem_declarations.mpr (.inr ⟨managed, .inr ⟨listener, listed, rfl⟩⟩)

end Managed

section Dedicated

variable {cluster : Cluster} {home : String} (created : cluster.home = .created home)
  (dedicated : cluster.network.isExisting = false)

include created dedicated

/-- A cluster that is generated on a dedicated network has a security group for its containers. -/
theorem Cluster.containerGroupDeclarations_subset :
    cluster.containerGroupDeclarations ⊆ cluster.ownDeclarations := by
  rw [ownDeclarations, created, dedicated]
  exact List.subset_cons_self _ _

theorem Cluster.ingressGroup_eq : cluster.ingressGroup = some (.ref cluster.containerGroup) := by
  rw [ingressGroup, created, dedicated]
  rfl

end Dedicated

/-- The resources of a cluster are those of its services, and what they share. -/
theorem Cluster.declarations_eq_ok {cluster : Cluster} {deployment : Deployment}
    {declarations : List Declaration} :
    cluster.declarations deployment = .ok declarations ↔
      ∃ services, List.Forall₂ (fun service part =>
          service.declarations (cluster.serviceScope deployment) = .ok part) cluster.services services ∧
        declarations = cluster.network.declarations cluster.tags ++ cluster.ownDeclarations ++
          cluster.balancer.declarations cluster.tags cluster.network cluster.ingressGroup ++
            services.flatten := by
  simp only [Cluster.declarations, bind_eq_ok, mapM_eq_ok, pure_eq_ok]

theorem Cluster.mem_declarations {cluster : Cluster} {deployment : Deployment}
    {declarations : List Declaration} (declared : cluster.declarations deployment = .ok declarations)
    {declaration : Declaration} :
    declaration ∈ declarations ↔
      declaration ∈ cluster.network.declarations cluster.tags ∨
      declaration ∈ cluster.ownDeclarations ∨
      declaration ∈ cluster.balancer.declarations cluster.tags cluster.network cluster.ingressGroup ∨
      ∃ service ∈ cluster.services, ∃ part,
        service.declarations (cluster.serviceScope deployment) = .ok part ∧ declaration ∈ part := by
  obtain ⟨services, related, rfl⟩ := declarations_eq_ok.mp declared
  have ofService : declaration ∈ services.flatten ↔ ∃ service ∈ cluster.services, ∃ part,
      service.declarations (cluster.serviceScope deployment) = .ok part ∧ declaration ∈ part := by
    rw [List.mem_flatten]
    constructor
    · rintro ⟨part, listed, member⟩
      obtain ⟨service, present, partDeclared⟩ := exists_of_forall₂_right related listed
      exact ⟨service, present, part, partDeclared, member⟩
    · rintro ⟨service, present, part, partDeclared, member⟩
      obtain ⟨other, listed, alsoDeclared⟩ := exists_of_forall₂_left related present
      obtain rfl : part = other := by simpa [partDeclared] using alsoDeclared
      exact ⟨part, listed, member⟩
  simp only [List.mem_append, ofService, or_assoc]

theorem Cluster.ownDeclarations_subset {cluster : Cluster} {deployment : Deployment}
    {declarations : List Declaration} (declared : cluster.declarations deployment = .ok declarations) :
    cluster.ownDeclarations ⊆ declarations :=
  fun _ own => (mem_declarations declared).mpr (.inr (.inl own))

theorem Cluster.balancerDeclarations_subset {cluster : Cluster} {deployment : Deployment}
    {declarations : List Declaration} (declared : cluster.declarations deployment = .ok declarations) :
    cluster.balancer.declarations cluster.tags cluster.network cluster.ingressGroup ⊆ declarations :=
  fun _ ofBalancer => (mem_declarations declared).mpr (.inr (.inr (.inl ofBalancer)))

theorem Cluster.exists_service_declarations {cluster : Cluster} {deployment : Deployment}
    {declarations : List Declaration} (declared : cluster.declarations deployment = .ok declarations)
    {service : Service} (member : service ∈ cluster.services) :
    ∃ part, service.declarations (cluster.serviceScope deployment) = .ok part ∧ part ⊆ declarations := by
  obtain ⟨services, related, rfl⟩ := declarations_eq_ok.mp declared
  obtain ⟨part, listed, partDeclared⟩ := exists_of_forall₂_left related member
  refine ⟨part, partDeclared, fun declaration present => ?_⟩
  exact List.mem_append_right _ (List.mem_flatten.mpr ⟨part, listed, present⟩)

theorem Cluster.coreDeclarations_subset {cluster : Cluster} {deployment : Deployment}
    {declarations : List Declaration} (declared : cluster.declarations deployment = .ok declarations)
    {service : Service} (member : service ∈ cluster.services) :
    service.coreDeclarations (cluster.serviceScope deployment) ⊆ declarations := by
  obtain ⟨part, partDeclared, within⟩ := exists_service_declarations declared member
  exact fun _ core => within ((Service.mem_declarations partDeclared).mpr (.inl core))

theorem Service.exists_listenerArn {service : Service} {scope : ServiceScope}
    {declarations : List Declaration} (declared : service.declarations scope = .ok declarations)
    {listener : Listener} (attached : listener ∈ service.attachedListeners) :
    ∃ arn, scope.balancer.listenerArn service.name listener.port = .ok arn := by
  obtain ⟨parts, related, -⟩ := declarations_eq_ok.mp declared
  obtain ⟨part, -, partDeclared⟩ := exists_of_forall₂_left related attached
  obtain ⟨arn, found, -⟩ := listenerDeclarations_eq_ok.mp partDeclared
  exact ⟨arn, found⟩

end ClusterStack
