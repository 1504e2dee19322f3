import ClusterStack.Proofs.Cluster.Inventory
import ClusterStack.Proofs.Service.Clashes
import ClusterStack.Proofs.Spec.Listening

/-!
# Attached listeners and their descriptions

The listeners that are attached in a settled cluster are those that its description attaches, each of which asks
for a port with a protocol. They have the ids that the description gives, and of those on one port the first
opens it, here as there.
-/

set_option autoImplicit false

namespace ClusterStack

/-- The listener is what the described one becomes, which asks for this port with this protocol. -/
structure Listener.Realizes (deployment : Deployment) (spec : ClusterSpec) (service : ServiceSpec)
    (described : ListenerSpec) (port : UInt16) (protocol : AlbProtocol) (listener : Listener) : Prop where
  onPort : listener.port = port
  declares : listener.protocol = some protocol
  containerPort : listener.containerPort = described.containerPort.getD port
  gate : listener.gate? = described.gate?
  targetGroup : listener.targetGroup = spec.targetGroupId deployment service port
  ruleName : ∀ index, listener.ruleName index = spec.ruleId deployment service port protocol index
  outputKey : listener.outputKey = spec.endpointKey deployment service port protocol

theorem ListenerSpec.declaredPort?_of_demand {listener : ListenerSpec} {port : UInt16} {protocol : AlbProtocol}
    (demand : listener.demand? = some (port, protocol)) : listener.declaredPort? = some port := by
  obtain ⟨declared, declares, same⟩ := Option.map_eq_some_iff.mp demand
  cases same
  cases own : listener.port <;> simp [declaredPort?, own, declares]

/-- Of the listeners of a service no two ask for one port. -/
theorem ServiceSpec.eq_of_demand {clusterPrefix : String} {spec : ServiceSpec}
    (distinct : (spec.ports clusterPrefix).Nodup) {listener other : ListenerSpec}
    (listed : listener ∈ spec.listeners) (otherListed : other ∈ spec.listeners) {port : UInt16}
    {protocol otherProtocol : AlbProtocol} (demand : listener.demand? = some (port, protocol))
    (otherDemand : other.demand? = some (port, otherProtocol)) : listener = other := by
  obtain ⟨index, found⟩ := List.mem_iff_getElem?.mp listed
  obtain ⟨otherIndex, otherFound⟩ := List.mem_iff_getElem?.mp otherListed
  have placed : (spec.ports clusterPrefix)[index]? = some port :=
    getElem?_ports_eq_some.mpr (.declared found (ListenerSpec.declaredPort?_of_demand demand))
  have otherPlaced : (spec.ports clusterPrefix)[otherIndex]? = some port :=
    getElem?_ports_eq_some.mpr (.declared otherFound (ListenerSpec.declaredPort?_of_demand otherDemand))
  obtain ⟨bound, -⟩ := List.getElem?_eq_some_iff.mp placed
  obtain rfl := (List.getElem?_inj bound distinct).mp (placed.trans otherPlaced.symm)
  exact Option.some.inj (found.symm.trans otherFound)

/-- Of the listeners, the first that asks for the port is the one that opens it. -/
theorem Balancer.Opens.find? {entries : List (Service × Listener)} {entry : Service × Listener}
    (opens : Opens entries entry) :
    entries.find? (fun other => other.2.demand?.any (·.1 == entry.2.port)) = some entry := by
  obtain ⟨front, rest, split, declares, first⟩ := opens
  obtain ⟨protocol, declares⟩ := Option.isSome_iff_exists.mp declares
  refine List.find?_eq_some_iff_append.mpr ⟨?_, front, rest, split, ?_⟩
  · simp [Listener.demand?, declares]
  · intro other earlier
    cases declared : other.2.protocol with
    | none => simp [Listener.demand?, declared]
    | some _ =>
      have different := first other earlier (by simp [declared])
      simp [Listener.demand?, declared, different]

/-- The first listener on a port is attached, unless there is no load balancer. -/
theorem ClusterSpec.attaches_of_opener? {spec : ClusterSpec} (enabled : spec.albDisabled = false)
    {port : UInt16} {service : ServiceSpec} {listener : ListenerSpec}
    (opens : spec.opener? port = some (service, listener)) :
    ∃ protocol, spec.Attaches service listener port protocol := by
  obtain ⟨owner, member, entered⟩ := List.mem_flatMap.mp (List.mem_of_find?_eq_some opens)
  obtain ⟨_, listed, same⟩ := List.mem_map.mp entered
  cases same
  have asks := List.find?_some opens
  obtain ⟨⟨asked, protocol⟩, demand, onPort⟩ := (Option.any_eq_true _ _).mp asks
  obtain rfl : asked = port := eq_of_beq onPort
  exact ⟨protocol, enabled, member, listed, demand⟩

namespace Cluster.Settled

variable {deployment : Deployment} {spec : ClusterSpec} {cluster : Cluster} {service : Service}
  {listener : Listener} {described : ServiceSpec} {given : ListenerSpec} {port : UInt16}
  {protocol : AlbProtocol} (settled : cluster.Settled deployment spec)

include settled

theorem realizes (member : service ∈ cluster.services) (listed : listener ∈ service.listeners)
    (describes : listener.Describes given) (demand : given.demand? = some (port, protocol)) :
    listener.Realizes deployment spec service.spec given port protocol := by
  have settles := (settled.service member).2.listeners listener listed
  have owner : service.servicePrefix = spec.clusterPrefix deployment ++ normalizeName service.spec.name := by
    rw [(settled.describes member).servicePrefix, settled.clusterPrefix]
    rfl
  obtain ⟨declared, declares, same⟩ := Option.map_eq_some_iff.mp (describes.demand.trans demand)
  cases same
  exact {
    onPort := rfl
    declares
    containerPort := describes.containerPort
    gate := by rw [Listener.gate?, ListenerSpec.gate?, describes.protocol, describes.authorizer]
    targetGroup := by rw [settles.targetGroup, owner]; rfl
    ruleName := fun index => by rw [settles.ruleName protocol declares, owner]; rfl
    outputKey := by rw [settles.outputKey protocol declares, owner]; rfl }

/-- What the description attaches is attached. -/
theorem exists_attached (attaches : spec.Attaches described given port protocol) :
    ∃ service ∈ cluster.services, ∃ listener ∈ service.attachedListeners,
      service.spec = described ∧ listener.Realizes deployment spec described given port protocol := by
  have entered : (described, given) ∈ spec.listeners :=
    List.mem_flatMap.mpr ⟨described, attaches.member, List.mem_map_of_mem attaches.listed⟩
  obtain ⟨⟨service, listener⟩, found, ofService, ofListener⟩ :=
    exists_of_forall₂_left settled.listeners entered
  obtain ⟨member, listed⟩ := Balancer.mem_serviceListeners.mp found
  obtain rfl := ofService.given
  have realizes := settled.realizes member listed ofListener attaches.demand
  have enabled : cluster.balancer.mode.isDisabled = false := by
    rw [Cluster.isDisabled_eq_albDisabled settled, attaches.enabled]
  exact ⟨service, member, listener,
    (mem_attachedListeners settled enabled member).mpr ⟨listed, by simp [realizes.declares]⟩, rfl, realizes⟩

/-- What is attached is attached by the description. -/
theorem exists_attaches (member : service ∈ cluster.services)
    (attached : listener ∈ service.attachedListeners) : ∃ given port protocol,
      spec.Attaches service.spec given port protocol ∧
        listener.Realizes deployment spec service.spec given port protocol := by
  obtain ⟨listed, isAttached⟩ := Service.mem_attachedListeners.mp attached
  have settles := (settled.service member).2.listeners listener listed
  obtain ⟨protocol, declares⟩ := settles.exists_protocol isAttached
  obtain ⟨⟨described, given⟩, entered, ofService, ofListener⟩ :=
    exists_of_forall₂_right settled.listeners (Balancer.mem_serviceListeners.mpr ⟨member, listed⟩)
  obtain rfl := ofService.given
  obtain ⟨owner, ownerMember, ofOwner⟩ := List.mem_flatMap.mp entered
  obtain ⟨_, givenListed, same⟩ := List.mem_map.mp ofOwner
  cases same
  have demand : given.demand? = some (listener.port, protocol) := by
    rw [← ofListener.demand, Listener.demand?, declares]
    rfl
  have enabled : spec.albDisabled = false := by
    rw [settles.isAttached, Bool.and_eq_true, Bool.not_eq_true'] at isAttached
    exact isAttached.1
  exact ⟨given, listener.port, protocol, ⟨enabled, ownerMember, givenListed, demand⟩,
    settled.realizes member listed ofListener demand⟩

theorem eq_of_spec_eq {other : Service} (member : service ∈ cluster.services)
    (otherMember : other ∈ cluster.services) (same : service.spec = other.spec) : service = other := by
  refine List.inj_on_of_nodup_map settled.servicePrefixes member otherMember ?_
  rw [(settled.describes member).servicePrefix, (settled.describes otherMember).servicePrefix, same]

/-- No two listeners have one port of one service. -/
theorem eq_of_port_eq {other : Service} {otherListener : Listener} (member : service ∈ cluster.services)
    (otherMember : other ∈ cluster.services) (listed : listener ∈ service.listeners)
    (otherListed : otherListener ∈ other.listeners) (prefixes : service.servicePrefix = other.servicePrefix)
    (ports : listener.port = otherListener.port) : service = other ∧ listener = otherListener := by
  obtain rfl := List.inj_on_of_nodup_map settled.servicePrefixes member otherMember prefixes
  exact ⟨rfl, List.inj_on_of_nodup_map (settled.service member).2.ports listed otherListed ports⟩

/-- Described and settled listeners ask for the same ports, so that the first to ask is the same. -/
theorem exists_opener (opens : Balancer.Opens (Balancer.serviceListeners cluster.services) (service, listener)) :
    ∃ given, spec.opener? listener.port = some (service.spec, given) ∧ listener.Describes given := by
  obtain ⟨⟨described, given⟩, found, ofService, ofListener⟩ : ∃ entry,
      spec.opener? listener.port = some entry ∧
        service.Describes cluster.clusterPrefix entry.1 ∧ listener.Describes entry.2 := by
    refine find?_of_forall₂ settled.listeners (fun given entry same => ?_) opens.find?
    rw [same.2.demand]
  obtain rfl := ofService.given
  exact ⟨given, found, ofListener⟩

/-- An attached listener opens its port exactly if the description has it first on the port. -/
theorem opens_iff (member : service ∈ cluster.services) (listed : listener ∈ service.listeners)
    (attaches : spec.Attaches service.spec given port protocol)
    (realizes : listener.Realizes deployment spec service.spec given port protocol) :
    Balancer.Opens (Balancer.serviceListeners cluster.services) (service, listener) ↔
      spec.opener? port = some (service.spec, given) := by
  obtain rfl := realizes.onPort
  constructor
  · intro opens
    obtain ⟨first, found, -⟩ := settled.exists_opener opens
    obtain ⟨_, opener⟩ := ClusterSpec.attaches_of_opener? attaches.enabled found
    obtain ⟨_, -, resolved⟩ := exists_of_forall₂_right settled.specs member
    have valid := Service.exists_resolve_iff.mp ⟨service, resolved⟩
    rw [← (Service.describes_of_resolve resolved).given] at valid
    rw [found, ServiceSpec.eq_of_demand valid.ports opener.listed attaches.listed opener.demand attaches.demand]
  · intro first
    have enabled : cluster.balancer.mode.isDisabled = false := by
      rw [Cluster.isDisabled_eq_albDisabled settled, attaches.enabled]
    have collected := settled.balancer.listeners enabled
    obtain ⟨opened, among, samePort, -⟩ := collected.joined (service, listener)
      (Balancer.mem_serviceListeners.mpr ⟨member, listed⟩) protocol realizes.declares
    obtain ⟨⟨owner, opener⟩, _, opens, -, rfl⟩ := collected.opened opened among
    obtain ⟨ownerMember, openerListed⟩ := Balancer.mem_serviceListeners.mp opens.mem
    have onPort : opener.port = listener.port := samePort
    obtain ⟨other, found, -⟩ := settled.exists_opener opens
    rw [onPort, first, Option.some.injEq, Prod.mk.injEq] at found
    obtain rfl := settled.eq_of_spec_eq ownerMember member found.1.symm
    obtain ⟨-, rfl⟩ := settled.eq_of_port_eq member member openerListed listed rfl onPort
    exact opens

end Cluster.Settled

end ClusterStack
