import ClusterStack.Cluster.Basic
import ClusterStack.Proofs.Balancer.Ports

/-!
# Settled clusters

What holds of every cluster that has been settled: its own ids, its network, its services, which have
distinct tokens, and its load balancer, which listens where they ask for it.
-/

set_option autoImplicit false

namespace ClusterStack

variable {deployment : Deployment}

structure DedicatedNetwork.Settled (deployment : Deployment) (owner : String)
    (network : DedicatedNetwork) : Prop where
  vpc : network.vpc = deployment.idOf ⟨owner, .vpc, .single⟩
  internetGateway : network.internetGateway = deployment.idOf ⟨owner, .internetGateway, .single⟩
  gatewayAttachment : network.gatewayAttachment = deployment.idOf ⟨owner, .gatewayAttachment, .single⟩
  routeTable : network.routeTable = deployment.idOf ⟨owner, .routeTable, .single⟩
  route : network.route = deployment.idOf ⟨owner, .route, .single⟩
  subnets : ∀ subnet index, (subnet, index) ∈ network.subnets.zipIdx →
    subnet.name = deployment.idOf ⟨owner, .subnet, .number index⟩ ∧
      subnet.association = deployment.idOf ⟨owner, .routeTableAssociation, .number index⟩

/-- What an existing network supplies refers to nothing. -/
structure ExistingNetwork.Settled (network : ExistingNetwork) : Prop where
  vpcId : ∃ input, network.vpcId = .ofInput input
  securityGroups : ∃ input, network.securityGroups = .ofInput input
  subnetIds : ∃ input, network.subnetIds = .ofInput input
  albSubnetIds : ∀ value ∈ network.albSubnetIds, ∃ input, value = .ofInput input

inductive Network.Settled (deployment : Deployment) (owner : String) : Network → Prop where
  | dedicated {network : DedicatedNetwork} (settled : network.Settled deployment owner) :
      Network.Settled deployment owner (.dedicated network)
  | existing {network : ExistingNetwork} (settled : network.Settled) :
      Network.Settled deployment owner (.existing network)

private theorem mem_zipIdx_mapIdx {α β : Type} {items : List α} {f : Nat → α → β} {result : β}
    {index : Nat} (member : (result, index) ∈ (items.mapIdx f).zipIdx) :
    ∃ item, result = f index item := by
  rw [List.mem_zipIdx_iff_getElem?, List.getElem?_mapIdx, Option.map_eq_some_iff] at member
  obtain ⟨item, -, made⟩ := member
  exact ⟨item, made.symm⟩

theorem Network.settled_of_resolve {owner : String} {spec : NetworkSpec} {network : Network}
    (resolved : Network.resolve deployment owner spec = .ok network) :
    network.Settled deployment owner := by
  unfold Network.resolve at resolved
  split at resolved
  · rename_i existing provided
    rw [Except.ok.injEq] at resolved
    subst resolved
    simp only [existing?, Option.bind_eq_bind, Option.bind_eq_some_iff, Option.pure_def,
      Option.some.injEq] at provided
    obtain ⟨vpcId, -, securityGroups, -, subnetIds, -, rfl⟩ := provided
    refine .existing ⟨⟨_, rfl⟩, ⟨_, rfl⟩, ⟨_, rfl⟩, ?_⟩
    intro value member
    obtain ⟨input, -, made⟩ := Option.map_eq_some_iff.mp member
    exact ⟨input, made.symm⟩
  · simp only at resolved
    split at resolved
    · cases resolved
    · simp only [bind_eq_ok] at resolved
      obtain ⟨_, -, _, -, made⟩ := resolved
      obtain rfl := Except.ok.inj made
      refine .dedicated ⟨deployment.logicalId_eq_idOf _ _, deployment.logicalId_eq_idOf _ _,
        deployment.logicalId_eq_idOf _ _, deployment.logicalId_eq_idOf _ _,
        deployment.logicalId_eq_idOf _ _, ?_⟩
      intro subnet index member
      obtain ⟨cidr, rfl⟩ := mem_zipIdx_mapIdx member
      exact ⟨rfl, rfl⟩

theorem BalancerMode.isDisabled_ofSpec (spec : ClusterSpec) :
    (ofSpec spec).isDisabled = spec.albDisabled := by
  unfold ofSpec
  cases spec.albDisabled with
  | true => rfl
  | false => cases provided? spec.albListenerArn <;> rfl

/-- What holds of the settled load balancer of some services. -/
structure Balancer.Settled (deployment : Deployment) (owner : String) (spec : ClusterSpec)
    (services : List Service) (balancer : Balancer) : Prop where
  name : balancer.name = deployment.idOf ⟨owner, .loadBalancer, .single⟩
  mode : balancer.mode = .ofSpec spec
  isPrivate : balancer.isPrivate = spec.albPrivate
  listeners : balancer.mode.isDisabled = false →
    Balancer.Collected deployment owner (Balancer.serviceListeners services) balancer.listeners
  noListeners : balancer.mode.isDisabled = true → balancer.listeners = []
  serviceGroups : balancer.serviceGroups =
    if balancer.mode.isDisabled || balancer.isPrivate then []
    else Balancer.planGroups deployment owner services

theorem Balancer.settled_of_resolve {owner : String} {spec : ClusterSpec} {services : List Service}
    {balancer : Balancer} (resolved : Balancer.resolve deployment owner spec services = .ok balancer) :
    balancer.Settled deployment owner spec services := by
  simp only [Balancer.resolve, bind_eq_ok] at resolved
  obtain ⟨ports, collects, made⟩ := resolved
  obtain rfl := Except.ok.inj made
  refine ⟨deployment.logicalId_eq_idOf _ _, rfl, rfl, ?_, ?_, rfl⟩
  · intro enabled
    simp only at enabled
    simp only [enabled, Bool.false_eq_true, if_false]
    exact collected_of_collectPorts collects
  · intro disabled
    simp only at disabled
    simp only [disabled, if_true]

theorem Cluster.repeatedToken?_eq_none {seen services : List Service} :
    Cluster.repeatedToken? seen services = none ↔
      (services.map (·.token)).Nodup ∧ ∀ service ∈ services, service.token ∉ seen.map (·.token) := by
  induction services generalizing seen with
  | nil => simp [Cluster.repeatedToken?]
  | cons service rest ih =>
    simp only [Cluster.repeatedToken?, List.map_cons, List.nodup_cons, List.forall_mem_cons]
    cases found : seen.find? (·.token == service.token) with
    | some first =>
      have known : service.token ∈ seen.map (·.token) :=
        List.mem_map.mpr ⟨first, List.mem_of_find?_eq_some found, by simpa using List.find?_some found⟩
      simp [known]
    | none =>
      have new : service.token ∉ seen.map (·.token) := by
        intro known
        obtain ⟨first, member, same⟩ := List.mem_map.mp known
        exact absurd same (by simpa using List.find?_eq_none.mp found first member)
      simp only [ih, List.map_cons]
      constructor
      · rintro ⟨distinct, fresh⟩
        refine ⟨⟨fun again => ?_, distinct⟩, new, fun other member known => ?_⟩
        · obtain ⟨other, member, same⟩ := List.mem_map.mp again
          exact fresh other member (same ▸ List.mem_cons_self)
        · exact fresh other member (List.mem_cons_of_mem _ known)
      · rintro ⟨⟨once, distinct⟩, -, fresh⟩
        refine ⟨distinct, fun other member known => ?_⟩
        rcases List.mem_cons.mp known with same | known
        · exact once (same ▸ List.mem_map_of_mem member)
        · exact fresh other member known

section Adapted

variable (adapt : Service → Service) (token : ∀ service, (adapt service).token = service.token)

include token

theorem Cluster.repeatedToken?_map (seen services : List Service) :
    repeatedToken? (seen.map adapt) (services.map adapt) =
      (repeatedToken? seen services).map (Prod.map adapt adapt) := by
  induction services generalizing seen with
  | nil => rfl
  | cons service rest ih =>
    have earlier : (seen.map adapt).find? (·.token == (adapt service).token) =
        (seen.find? (·.token == service.token)).map adapt := by
      rw [List.find?_map]
      simp only [Function.comp_def, token]
    rw [List.map_cons, repeatedToken?, earlier, repeatedToken?]
    cases seen.find? (·.token == service.token) with
    | some first => rfl
    | none => exact ih (service :: seen)

/-- Whether tokens are distinct, and what is said if they are not, depends on tokens and names alone. -/
theorem Cluster.checkTokens_map (name : ∀ service, (adapt service).name = service.name)
    {spec other : ClusterSpec} (sameName : spec.clusterName = other.clusterName) (services : List Service) :
    checkTokens spec (services.map adapt) = checkTokens other services := by
  have repeated := repeatedToken?_map adapt token [] services
  rw [List.map_nil] at repeated
  rw [checkTokens, repeated, checkTokens]
  cases repeatedToken? [] services with
  | none => rfl
  | some pair => simp [Prod.map, name, token, context, sameName]

end Adapted

/-- What holds of a settled cluster. -/
structure Cluster.Settled (deployment : Deployment) (spec : ClusterSpec) (cluster : Cluster) :
    Prop where
  name : cluster.name = spec.clusterName
  clusterPrefix : cluster.clusterPrefix = deployment.servicePrefix ++ normalizeName spec.clusterName
  home : cluster.home = .ofSpec (deployment.idOf ⟨cluster.clusterPrefix, .cluster, .single⟩) spec
  containerGroup : cluster.containerGroup =
    deployment.idOf ⟨cluster.clusterPrefix, .containerSecurityGroup, .single⟩
  selfIngress : cluster.selfIngress = deployment.idOf ⟨cluster.clusterPrefix, .selfIngress, .single⟩
  tags : cluster.tags = .ofSpec spec.tags
  network : cluster.network.Settled deployment cluster.clusterPrefix
  specs : List.Forall₂ (fun serviceSpec service =>
      Service.resolve deployment cluster.clusterPrefix spec.albDisabled serviceSpec = .ok service)
    spec.services cluster.services
  tokens : (cluster.services.map (·.token)).Nodup
  balancer : cluster.balancer.Settled deployment cluster.clusterPrefix spec cluster.services
  executionRole : cluster.executionRole =
    Cluster.executionRoleOf (deployment.idOf ⟨cluster.clusterPrefix, .executionRole, .single⟩) spec

theorem Cluster.settled_of_resolve {spec : ClusterSpec} {cluster : Cluster}
    (resolved : Cluster.resolve deployment spec = .ok cluster) : cluster.Settled deployment spec := by
  simp only [Cluster.resolve, bind_eq_ok] at resolved
  obtain ⟨token, tokenResolved, networkSpec, -, network, networkResolved, services, servicesResolved, _,
    tokensChecked, balancer, balancerResolved, made⟩ := resolved
  simp only [Cluster.resolveToken] at tokenResolved
  split at tokenResolved
  · cases tokenResolved
  rw [Except.ok.injEq] at tokenResolved
  subst tokenResolved
  simp only [deployment.logicalId_eq_idOf] at made
  obtain rfl := Except.ok.inj made
  exact {
    name := rfl
    clusterPrefix := rfl
    home := rfl
    containerGroup := rfl
    selfIngress := rfl
    tags := rfl
    network := Network.settled_of_resolve networkResolved
    specs := mapM_eq_ok.mp servicesResolved
    tokens := by
      simp only [Cluster.checkTokens] at tokensChecked
      split at tokensChecked
      · cases tokensChecked
      · rename_i distinct
        exact (Cluster.repeatedToken?_eq_none.mp distinct).1
    balancer := Balancer.settled_of_resolve balancerResolved
    executionRole := rfl }

namespace Cluster.Settled

variable {spec : ClusterSpec} {cluster : Cluster}

theorem service (settled : cluster.Settled deployment spec) {service : Service}
    (member : service ∈ cluster.services) :
    service.spec ∈ spec.services ∧
      service.Settled deployment cluster.clusterPrefix spec.albDisabled := by
  obtain ⟨serviceSpec, given, resolves⟩ := exists_of_forall₂_right settled.specs member
  obtain ⟨rfl, holds⟩ := Service.settled_of_resolve resolves
  exact ⟨given, holds⟩

theorem mode_eq_disabled (settled : cluster.Settled deployment spec) (disabled : spec.albDisabled = true) :
    cluster.balancer.mode = .disabled := by
  rw [settled.balancer.mode, BalancerMode.ofSpec, disabled]
  rfl

theorem mode_eq_managed (settled : cluster.Settled deployment spec) (enabled : spec.albDisabled = false)
    (unsupplied : provided? spec.albListenerArn = none) : cluster.balancer.mode = .managed := by
  rw [settled.balancer.mode, BalancerMode.ofSpec, enabled, unsupplied]
  rfl

theorem mode_eq_external (settled : cluster.Settled deployment spec) (enabled : spec.albDisabled = false)
    {supplied : Json} (given : provided? spec.albListenerArn = some supplied) :
    cluster.balancer.mode = .external (.ofInput supplied) := by
  rw [settled.balancer.mode, BalancerMode.ofSpec, enabled, given]
  rfl

end Cluster.Settled

end ClusterStack
