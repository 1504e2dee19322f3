import ClusterStack.Proofs.Cluster.Settled
import ClusterStack.Proofs.Service.Described
import Mathlib.Data.List.Nodup

/-!
# Clusters and their descriptions

A cluster is settled exactly if its description is valid, and then has the network and the services
that are described.
-/

set_option autoImplicit false

namespace ClusterStack

variable {deployment : Deployment}

namespace Network

variable {owner : String} {spec : NetworkSpec}

theorem isSome_existing?_iff : (existing? spec).isSome = true ↔ spec.IsExisting := by
  unfold existing? NetworkSpec.IsExisting
  cases provided? spec.vpcId <;> cases provided? spec.securityGroupIds <;>
    cases provided? spec.subnetIds <;> simp

theorem checkCidr_eq_ok {context text : String} :
    checkCidr context text = .ok () ↔ Cidr.check text = .ok () :=
  mapError_eq_ok

theorem exists_resolve_iff :
    (∃ network, resolve deployment owner spec = .ok network) ↔ spec.IsValid := by
  rw [NetworkSpec.IsValid, ← isSome_existing?_iff, resolve]
  cases existing : existing? spec with
  | some network => simp
  | none =>
    cases given : spec.cidr with
    | none => simp
    | some cidr =>
      simp only [bind_eq_ok, Option.isSome_none, Bool.false_eq_true, false_or, Option.mem_some_iff,
        exists_eq_left']
      constructor
      · rintro ⟨network, _, range, _, subnets, _⟩
        exact ⟨checkCidr_eq_ok.mp range,
          fun subnet member => checkCidr_eq_ok.mp (forM_eq_ok.mp subnets subnet member)⟩
      · rintro ⟨range, subnets⟩
        exact ⟨_, (), checkCidr_eq_ok.mpr range, (),
          forM_eq_ok.mpr fun subnet member => checkCidr_eq_ok.mpr (subnets subnet member), rfl⟩

/-- A network that exists already is referred to; any other is generated, with the subnets described. -/
theorem existing_or_dedicated {network : Network} (resolved : resolve deployment owner spec = .ok network) :
    (spec.IsExisting ∧ ∃ found, network = .existing found) ∨
      (¬spec.IsExisting ∧
        ∃ found, network = .dedicated found ∧ found.subnets.length = spec.subnets.length) := by
  rw [← isSome_existing?_iff]
  unfold resolve at resolved
  cases existing : existing? spec with
  | some found =>
    simp only [existing, Except.ok.injEq] at resolved
    exact .inl ⟨rfl, found, resolved.symm⟩
  | none =>
    simp only [existing] at resolved
    cases given : spec.cidr with
    | none =>
      simp only [given] at resolved
      cases resolved
    | some cidr =>
      simp only [given, bind_eq_ok] at resolved
      obtain ⟨_, -, _, -, made⟩ := resolved
      cases made
      exact .inr ⟨by simp, _, rfl, List.length_mapIdx⟩

theorem isExisting_of_resolve {network : Network}
    (resolved : resolve deployment owner spec = .ok network) :
    network.isExisting = true ↔ spec.IsExisting := by
  rcases existing_or_dedicated resolved with ⟨existing, found, rfl⟩ | ⟨dedicated, found, rfl, -⟩
  · simp [isExisting, existing]
  · simp [isExisting, dedicated]

end Network

namespace Balancer

variable {owner : String}

theorem filterMap_serviceListeners (services : List Service) :
    (serviceListeners services).filterMap (·.2.demand?) =
      services.flatMap fun service => service.listeners.filterMap (·.demand?) := by
  rw [serviceListeners, List.filterMap_flatMap]
  refine List.flatMap_congr fun service _ => ?_
  rw [List.filterMap_map]
  rfl

private theorem mem_demands_of_mem {entries : List (Service × Listener)} {entry : Service × Listener}
    (member : entry ∈ entries) {protocol : AlbProtocol} (declares : entry.2.protocol = some protocol) :
    (entry.2.port, protocol) ∈ entries.filterMap (·.2.demand?) :=
  List.mem_filterMap.mpr ⟨entry, member, by rw [Listener.demand?, declares]; rfl⟩

private theorem exists_of_mem_demands {entries : List (Service × Listener)} {port : UInt16}
    {protocol : AlbProtocol} (demanded : (port, protocol) ∈ entries.filterMap (·.2.demand?)) :
    ∃ entry ∈ entries, entry.2.port = port ∧ entry.2.protocol = some protocol := by
  obtain ⟨entry, member, asks⟩ := List.mem_filterMap.mp demanded
  obtain ⟨declared, declares, same⟩ := Option.map_eq_some_iff.mp asks
  cases same
  exact ⟨entry, member, rfl, declares⟩

theorem Collected.mem_ports_iff {entries : List (Service × Listener)} {ports : List PortListener}
    (collected : Collected deployment owner entries ports) {port : UInt16} :
    port ∈ ports.map (·.port) ↔ port ∈ (entries.filterMap (·.2.demand?)).map (·.1) := by
  constructor
  · intro listed
    obtain ⟨opened, member, rfl⟩ := List.mem_map.mp listed
    obtain ⟨entry, protocol, opens, declares, rfl⟩ := collected.opened opened member
    exact List.mem_map.mpr ⟨_, mem_demands_of_mem opens.mem declares, rfl⟩
  · intro demanded
    obtain ⟨⟨_, protocol⟩, member, rfl⟩ := List.mem_map.mp demanded
    obtain ⟨entry, inside, rfl, declares⟩ := exists_of_mem_demands member
    obtain ⟨opened, listed, same, -⟩ := collected.joined entry inside protocol declares
    exact List.mem_map.mpr ⟨opened, listed, same⟩

/-- Ports are collected exactly if no two listeners declare different protocols on one port. -/
theorem exists_collectPorts_iff {services : List Service} :
    (∃ ports, collectPorts deployment owner services = .ok ports) ↔
      ∀ port left right, (port, left) ∈ (serviceListeners services).filterMap (·.2.demand?) →
        (port, right) ∈ (serviceListeners services).filterMap (·.2.demand?) → left = right := by
  constructor
  · rintro ⟨ports, collects⟩ port left right first second
    have collected := collected_of_collectPorts collects
    obtain ⟨entry, member, rfl, declares⟩ := exists_of_mem_demands first
    obtain ⟨other, otherMember, same, otherDeclares⟩ := exists_of_mem_demands second
    obtain ⟨here, hereMember, herePort, rfl⟩ := collected.joined entry member left declares
    obtain ⟨there, thereMember, therePort, rfl⟩ := collected.joined other otherMember right otherDeclares
    have one : here = there := List.inj_on_of_nodup_map collected.distinct hereMember thereMember
      (herePort.trans (therePort.trans same).symm)
    rw [one]
  · intro agree
    cases outcome : collectPorts deployment owner services with
    | ok ports => exact ⟨ports, rfl⟩
    | error reason =>
      obtain ⟨front, entry, rest, protocol, existing, split, disagrees, -, -⟩ :=
        collectPorts_eq_error outcome
      obtain ⟨opener, opens, port, openerDeclares⟩ := disagrees.opened
      have demands : (entry.2.port, protocol) ∈ (serviceListeners services).filterMap (·.2.demand?) :=
        mem_demands_of_mem (by simp [split]) disagrees.declares
      have openerDemands : (entry.2.port, existing) ∈
          (serviceListeners services).filterMap (·.2.demand?) :=
        port ▸ mem_demands_of_mem opens.mem openerDeclares
      exact absurd (agree _ _ _ openerDemands demands) disagrees.differs

end Balancer

namespace Cluster

variable {spec : ClusterSpec}

theorem exists_resolveToken_iff :
    (∃ token, resolveToken spec = .ok token) ↔ normalizeName spec.clusterName ≠ "" := by
  simp only [resolveToken]
  split
  · rename_i empty
    simp [String.isEmpty_iff.mp empty]
  · rename_i nonempty
    simp only [Except.ok.injEq, exists_eq', true_iff]
    exact fun empty => nonempty (String.isEmpty_iff.mpr empty)

theorem resolveToken_eq_ok {token : String} (resolved : resolveToken spec = .ok token) :
    token = normalizeName spec.clusterName := by
  simp only [resolveToken] at resolved
  split at resolved
  · cases resolved
  · cases resolved
    rfl

theorem requireNetwork_eq_ok {network : NetworkSpec} :
    requireNetwork spec = .ok network ↔ spec.vpc = some network := by
  unfold requireNetwork
  cases spec.vpc <;> simp

theorem checkTokens_eq_ok {services : List Service} :
    checkTokens spec services = .ok () ↔ (services.map (·.token)).Nodup := by
  unfold checkTokens
  cases found : repeatedToken? [] services with
  | none => simp [(repeatedToken?_eq_none.mp found).1]
  | some pair =>
    have twice : ¬(services.map (·.token)).Nodup := by
      intro distinct
      rw [repeatedToken?_eq_none.mpr ⟨distinct, by simp⟩] at found
      cases found
    simp [twice]

theorem exists_balancer_iff {owner : String} {services : List Service} :
    (∃ balancer, Balancer.resolve deployment owner spec services = .ok balancer) ↔
      ∃ ports, Balancer.collectPorts deployment owner services = .ok ports := by
  simp only [Balancer.resolve, bind_eq_ok]
  constructor
  · rintro ⟨balancer, ports, collects, _⟩
    exact ⟨ports, collects⟩
  · rintro ⟨ports, collects⟩
    exact ⟨_, ports, collects, rfl⟩

section Services

variable {clusterPrefix : String} {services : List Service}
  (resolved : List.Forall₂ (fun serviceSpec service =>
    Service.resolve deployment clusterPrefix spec.albDisabled serviceSpec = .ok service)
      spec.services services)

include resolved

theorem specs_of_services : services.map (·.spec) = spec.services := by
  have same := map_eq_of_forall₂ resolved (f := id) fun _ _ _ settles =>
    (Service.describes_of_resolve settles).given
  rwa [List.map_id] at same

theorem tokens_of_services : services.map (·.token) =
    spec.services.map fun service => normalizeName service.name :=
  map_eq_of_forall₂ resolved fun _ _ _ settles => (Service.describes_of_resolve settles).token

theorem servicePrefixes_of_services : services.map (·.servicePrefix) =
    spec.services.map fun service => clusterPrefix ++ normalizeName service.name :=
  map_eq_of_forall₂ resolved fun _ _ _ settles => (Service.describes_of_resolve settles).servicePrefix

theorem demands_of_services :
    (Balancer.serviceListeners services).filterMap (·.2.demand?) = spec.demands := by
  have each := map_eq_of_forall₂ resolved (f := ServiceSpec.demands)
    (g := fun service => service.listeners.filterMap (·.demand?))
    fun _ _ _ settles => (Service.describes_of_resolve settles).demands
  rw [Balancer.filterMap_serviceListeners, ClusterSpec.demands, List.flatMap_def, each,
    List.flatMap_def]

end Services

/-- A cluster is settled exactly if its description is valid. -/
theorem exists_resolve_iff :
    (∃ cluster, resolve deployment spec = .ok cluster) ↔ spec.IsValid deployment := by
  simp only [resolve, bind_eq_ok]
  constructor
  · rintro ⟨cluster, token, tokenResolved, network, given, _, networkResolved, services,
      servicesResolved, _, tokensChecked, balancer, balancerResolved, _⟩
    obtain rfl := resolveToken_eq_ok tokenResolved
    have related := mapM_eq_ok.mp servicesResolved
    refine ⟨exists_resolveToken_iff.mp ⟨_, tokenResolved⟩, ?_, ?_, ?_, ?_⟩
    · exact ⟨network, requireNetwork_eq_ok.mp given, Network.exists_resolve_iff.mp ⟨_, networkResolved⟩⟩
    · intro service member
      exact Service.exists_resolve_iff.mp
        (exists_mapM_eq_ok.mp ⟨services, servicesResolved⟩ service member)
    · rw [← tokens_of_services related]
      exact checkTokens_eq_ok.mp tokensChecked
    · rw [← demands_of_services related]
      exact Balancer.exists_collectPorts_iff.mp (exists_balancer_iff.mp ⟨balancer, balancerResolved⟩)
  · intro valid
    obtain ⟨token, tokenResolved⟩ := exists_resolveToken_iff.mpr valid.name
    obtain rfl := resolveToken_eq_ok tokenResolved
    obtain ⟨network, given, networkValid⟩ := valid.network
    obtain ⟨settledNetwork, networkResolved⟩ : ∃ settled, Network.resolve deployment
        (spec.clusterPrefix deployment) network = .ok settled := Network.exists_resolve_iff.mpr networkValid
    obtain ⟨services, servicesResolved⟩ : ∃ services, spec.services.mapM
        (Service.resolve deployment (spec.clusterPrefix deployment) spec.albDisabled) = .ok services :=
      exists_mapM_eq_ok.mpr fun service member =>
        Service.exists_resolve_iff.mpr (valid.services service member)
    have related := mapM_eq_ok.mp servicesResolved
    have tokensChecked : checkTokens spec services = .ok () := by
      rw [checkTokens_eq_ok, tokens_of_services related]
      exact valid.tokens
    have collects : ∃ ports, Balancer.collectPorts deployment (spec.clusterPrefix deployment) services =
        .ok ports := by
      rw [Balancer.exists_collectPorts_iff, demands_of_services related]
      exact valid.protocols
    obtain ⟨balancer, balancerResolved⟩ := exists_balancer_iff.mpr collects
    exact ⟨_, _, tokenResolved, network, requireNetwork_eq_ok.mpr given, settledNetwork,
      networkResolved, services, servicesResolved, (), tokensChecked, balancer, balancerResolved, rfl⟩

theorem exists_network {cluster : Cluster}
    (resolved : resolve deployment spec = .ok cluster) :
    ∃ network, spec.vpc = some network ∧
      Network.resolve deployment cluster.clusterPrefix network = .ok cluster.network := by
  simp only [resolve, bind_eq_ok] at resolved
  obtain ⟨token, -, network, given, settled, networkResolved, _, -, _, -, _, -, made⟩ := resolved
  cases made
  exact ⟨network, requireNetwork_eq_ok.mp given, networkResolved⟩

theorem Settled.describes {cluster : Cluster} (settled : cluster.Settled deployment spec) {service : Service}
    (member : service ∈ cluster.services) : service.Describes cluster.clusterPrefix service.spec := by
  obtain ⟨given, -, resolved⟩ := exists_of_forall₂_right settled.specs member
  have describes := Service.describes_of_resolve resolved
  rwa [← describes.given] at describes

/-- The listeners of the settled services are those of the description, in the same order. -/
theorem Settled.listeners {cluster : Cluster} (settled : cluster.Settled deployment spec) :
    List.Forall₂ (fun given entry => entry.1.Describes cluster.clusterPrefix given.1 ∧
        entry.2.Describes given.2)
      spec.listeners (Balancer.serviceListeners cluster.services) := by
  refine List.rel_flatMap settled.specs fun given service resolved => ?_
  have describes := Service.describes_of_resolve resolved
  rw [List.forall₂_map_left_iff, List.forall₂_map_right_iff]
  exact (Service.listeners_of_resolve resolved).imp fun _ _ holds => ⟨describes, holds⟩

end Cluster

end ClusterStack
