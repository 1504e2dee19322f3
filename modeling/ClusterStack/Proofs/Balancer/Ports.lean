import ClusterStack.Balancer.Basic
import ClusterStack.Proofs.Outcome
import ClusterStack.Proofs.Service.Settled
import Mathlib.Data.List.Nodup

/-!
# Ports of a load balancer

The first listener that declares a protocol on a port opens it; the others join. So there is one entry
for each port that is declared, and it is that of its opener.
-/

set_option autoImplicit false

namespace ClusterStack

/-- The entry that a listener makes when it opens its port. -/
def PortListener.ofListener (deployment : Deployment) (owner : String) (listener : Listener)
    (protocol : AlbProtocol) : PortListener where
  name := deployment.idOf ⟨owner, .loadBalancerListener, .number listener.port.toNat⟩
  port := listener.port
  protocol := protocol
  defaultTargetGroup := listener.targetGroup
  certificateArns := listener.certificateArns

namespace Balancer

/-- Of the listeners, this one is the first that declares a protocol on its port. -/
def Opens (entries : List (Service × Listener)) (entry : Service × Listener) : Prop :=
  ∃ front rest, entries = front ++ entry :: rest ∧ entry.2.protocol.isSome = true ∧
    ∀ other ∈ front, other.2.protocol.isSome = true → other.2.port ≠ entry.2.port

theorem Opens.mem {entries : List (Service × Listener)} {entry : Service × Listener}
    (opens : Opens entries entry) : entry ∈ entries := by
  obtain ⟨front, rest, split, -⟩ := opens
  simp [split]

theorem Opens.unique {entries : List (Service × Listener)} {entry other : Service × Listener}
    (opens : Opens entries entry) (otherOpens : Opens entries other)
    (same : entry.2.port = other.2.port) : entry = other := by
  obtain ⟨front, rest, split, declares, first⟩ := opens
  obtain ⟨otherFront, otherRest, otherSplit, otherDeclares, otherFirst⟩ := otherOpens
  rw [split] at otherSplit
  rcases List.append_eq_append_iff.mp otherSplit with ⟨between, fronts, rests⟩ | ⟨between, fronts, rests⟩
  · cases between with
    | nil => exact (List.cons.inj rests).1
    | cons head tail =>
      obtain ⟨rfl, -⟩ := List.cons.inj rests
      exact absurd same (otherFirst entry (by simp [fronts]) declares)
  · cases between with
    | nil => exact (List.cons.inj rests).1.symm
    | cons head tail =>
      obtain ⟨rfl, -⟩ := List.cons.inj rests
      exact absurd same.symm (first other (by simp [fronts]) otherDeclares)

/-- What the ports of some listeners are. -/
structure Collected (deployment : Deployment) (owner : String) (entries : List (Service × Listener))
    (ports : List PortListener) : Prop where
  opened : ∀ port ∈ ports, ∃ entry protocol, Opens entries entry ∧
    entry.2.protocol = some protocol ∧ port = .ofListener deployment owner entry.2 protocol
  joined : ∀ entry ∈ entries, ∀ protocol, entry.2.protocol = some protocol →
    ∃ port ∈ ports, port.port = entry.2.port ∧ port.protocol = protocol
  distinct : (ports.map (·.port)).Nodup

variable {deployment : Deployment} {owner : String}

theorem Opens.append {entries : List (Service × Listener)} {entry : Service × Listener}
    (opens : Opens entries entry) (more : List (Service × Listener)) : Opens (entries ++ more) entry := by
  obtain ⟨front, rest, rfl, declares, first⟩ := opens
  exact ⟨front, rest ++ more, by simp, declares, first⟩

private theorem Collected.keep {entries : List (Service × Listener)} {ports : List PortListener}
    (collected : Collected deployment owner entries ports) (last : Service × Listener) :
    ∀ port ∈ ports, ∃ entry protocol, Opens (entries ++ [last]) entry ∧
      entry.2.protocol = some protocol ∧ port = .ofListener deployment owner entry.2 protocol := by
  intro port member
  obtain ⟨entry, protocol, opens, declares, made⟩ := collected.opened port member
  exact ⟨entry, protocol, opens.append [last], declares, made⟩

/-- A listener whose port is open already, if it declares a protocol at all, changes no port. -/
theorem Collected.join {entries : List (Service × Listener)} {ports : List PortListener}
    (collected : Collected deployment owner entries ports) {last : Service × Listener}
    (known : ∀ protocol, last.2.protocol = some protocol →
      ∃ port ∈ ports, port.port = last.2.port ∧ port.protocol = protocol) :
    Collected deployment owner (entries ++ [last]) ports := by
  refine ⟨collected.keep last, ?_, collected.distinct⟩
  intro entry member protocol declares
  rcases List.mem_append.mp member with old | new
  · exact collected.joined entry old protocol declares
  · obtain rfl := List.mem_singleton.mp new
    exact known protocol declares

/-- A listener that is the first to declare a protocol on its port opens it. -/
theorem Collected.extend {entries : List (Service × Listener)} {ports : List PortListener}
    (collected : Collected deployment owner entries ports) {last : Service × Listener}
    {protocol : AlbProtocol} (declared : last.2.protocol = some protocol)
    (free : ∀ port ∈ ports, port.port ≠ last.2.port) :
    Collected deployment owner (entries ++ [last])
      (ports ++ [.ofListener deployment owner last.2 protocol]) := by
  have opener : Opens (entries ++ [last]) last := by
    refine ⟨entries, [], rfl, by simp [declared], ?_⟩
    intro other member declares same
    obtain ⟨protocol, declares⟩ := Option.isSome_iff_exists.mp declares
    obtain ⟨port, present, samePort, -⟩ := collected.joined other member protocol declares
    exact free port present (samePort.trans same)
  refine ⟨?_, ?_, ?_⟩
  · intro port member
    rcases List.mem_append.mp member with old | new
    · exact collected.keep last port old
    · exact ⟨last, protocol, opener, declared, List.mem_singleton.mp new⟩
  · intro entry member other declares
    rcases List.mem_append.mp member with old | new
    · obtain ⟨port, present, holds⟩ := collected.joined entry old other declares
      exact ⟨port, List.mem_append_left _ present, holds⟩
    · obtain rfl := List.mem_singleton.mp new
      rw [declared, Option.some.injEq] at declares
      exact ⟨_, List.mem_append_right _ (List.mem_singleton.mpr rfl), rfl, declares⟩
  · rw [List.map_append, List.nodup_append]
    refine ⟨collected.distinct, by simp, ?_⟩
    intro port member other new
    obtain ⟨existing, present, rfl⟩ := List.mem_map.mp member
    obtain rfl : other = last.2.port := List.mem_singleton.mp new
    exact free existing present

/-- A listener that is accepted joins the one that has opened its port, or it opens its port itself. -/
theorem register_eq_ok {ports larger : List PortListener} {entry : Service × Listener}
    (registered : Balancer.register deployment owner ports entry = .ok larger) :
    (larger = ports ∧ ∀ protocol, entry.2.protocol = some protocol →
      ∃ port ∈ ports, port.port = entry.2.port ∧ port.protocol = protocol) ∨
    ∃ protocol, entry.2.protocol = some protocol ∧ (∀ port ∈ ports, port.port ≠ entry.2.port) ∧
      larger = ports ++ [.ofListener deployment owner entry.2 protocol] := by
  obtain ⟨service, listener⟩ := entry
  cases declared : listener.protocol with
  | none =>
    simp only [Balancer.register, declared] at registered
    cases registered
    exact .inl ⟨rfl, by simp⟩
  | some protocol =>
    simp only [Balancer.register, declared] at registered
    cases found : ports.find? (·.port == listener.port) with
    | some existing =>
      simp only [found] at registered
      split at registered
      case isFalse => cases registered
      case isTrue agrees =>
        cases registered
        refine .inl ⟨rfl, fun other declares => ?_⟩
        rw [Option.some.injEq] at declares
        have port : existing.port = listener.port := by simpa using List.find?_some found
        exact ⟨existing, List.mem_of_find?_eq_some found, port, agrees.trans declares⟩
    | none =>
      simp only [found] at registered
      cases registered
      exact .inr ⟨protocol, rfl, by simpa using found, rfl⟩

theorem Collected.register {entries : List (Service × Listener)} {ports larger : List PortListener}
    (collected : Collected deployment owner entries ports) {entry : Service × Listener}
    (registered : Balancer.register deployment owner ports entry = .ok larger) :
    Collected deployment owner (entries ++ [entry]) larger := by
  cases register_eq_ok registered with
  | inl joins =>
    obtain ⟨rfl, known⟩ := joins
    exact collected.join known
  | inr opens =>
    obtain ⟨protocol, declared, free, rfl⟩ := opens
    exact collected.extend declared free

/-- A listener is refused if it declares another protocol on a port than the listener that opened it. -/
theorem register_eq_error {ports : List PortListener} {entry : Service × Listener} {reason : CompileError}
    (refused : Balancer.register deployment owner ports entry = .error reason) :
    ∃ protocol existing, entry.2.protocol = some protocol ∧ existing ∈ ports ∧
      existing.port = entry.2.port ∧ existing.protocol ≠ protocol ∧
      reason = .portProtocolConflict entry.1.name (deployment.logicalId owner .cluster) entry.2.port
        protocol.text existing.protocol.text := by
  obtain ⟨service, listener⟩ := entry
  cases declared : listener.protocol with
  | none =>
    simp only [Balancer.register, declared] at refused
    cases refused
  | some protocol =>
    simp only [Balancer.register, declared] at refused
    cases found : ports.find? (·.port == listener.port) with
    | some existing =>
      simp only [found] at refused
      split at refused
      case isTrue => cases refused
      case isFalse differs =>
        have port : existing.port = listener.port := by simpa using List.find?_some found
        exact ⟨protocol, existing, rfl, List.mem_of_find?_eq_some found, port, differs,
          (Except.error.inj refused).symm⟩
    | none =>
      simp only [found] at refused
      cases refused

theorem collected_of_foldlM {entries : List (Service × Listener)} {ports : List PortListener}
    (ran : entries.foldlM (Balancer.register deployment owner) [] = .ok ports) :
    Collected deployment owner entries ports := by
  refine foldlM_preserves ran (Collected deployment owner) ⟨by simp, by simp, by simp⟩ ?_
  intro before entry state next _ collected registered
  exact collected.register registered

theorem collected_of_collectPorts {services : List Service} {ports : List PortListener}
    (resolved : collectPorts deployment owner services = .ok ports) :
    Collected deployment owner (serviceListeners services) ports :=
  collected_of_foldlM resolved

/-- The listener declares a protocol, and the listener that opens its port declares another one. -/
structure Disagrees (entries : List (Service × Listener)) (entry : Service × Listener)
    (protocol existing : AlbProtocol) : Prop where
  declares : entry.2.protocol = some protocol
  opened : ∃ opener, Opens entries opener ∧ opener.2.port = entry.2.port ∧
    opener.2.protocol = some existing
  differs : existing ≠ protocol

/-- No listener that has been accepted disagrees, whatever comes after it. -/
theorem Collected.agrees {entries : List (Service × Listener)} {ports : List PortListener}
    (collected : Collected deployment owner entries ports) {entry : Service × Listener}
    (member : entry ∈ entries) (more : List (Service × Listener)) (protocol existing : AlbProtocol) :
    ¬Disagrees (entries ++ more) entry protocol existing := by
  intro disagrees
  obtain ⟨opener, opens, openerPort, openerDeclares⟩ := disagrees.opened
  obtain ⟨port, present, portSame, agrees⟩ :=
    collected.joined entry member protocol disagrees.declares
  obtain ⟨first, declared, firstOpens, firstDeclares, rfl⟩ := collected.opened port present
  obtain rfl : first = opener := (firstOpens.append more).unique opens (portSame.trans openerPort.symm)
  rw [firstDeclares, Option.some.injEq] at openerDeclares
  exact disagrees.differs (openerDeclares.symm.trans agrees)

/-- Listeners are refused for the first one that disagrees. -/
theorem collectPorts_eq_error {services : List Service} {reason : CompileError}
    (refused : collectPorts deployment owner services = .error reason) :
    ∃ front entry rest protocol existing, serviceListeners services = front ++ entry :: rest ∧
      Disagrees (serviceListeners services) entry protocol existing ∧
      (∀ earlier ∈ front, ∀ declared other,
        ¬Disagrees (serviceListeners services) earlier declared other) ∧
      reason = .portProtocolConflict entry.1.name (deployment.logicalId owner .cluster) entry.2.port
        protocol.text existing.text := by
  obtain ⟨front, entry, rest, ports, split, ran, refused⟩ := foldlM_eq_error.mp refused
  obtain ⟨protocol, port, declares, present, same, differs, told⟩ := register_eq_error refused
  have collected := collected_of_foldlM ran
  obtain ⟨opener, existing, opens, openerDeclares, rfl⟩ := collected.opened port present
  rw [split]
  refine ⟨front, entry, rest, protocol, existing, rfl, ⟨declares, ?_, differs⟩, ?_, told⟩
  · exact ⟨opener, opens.append (entry :: rest), same, openerDeclares⟩
  · intro earlier member declared other
    exact collected.agrees member (entry :: rest) declared other

theorem Collected.find? {entries : List (Service × Listener)} {ports : List PortListener}
    (collected : Collected deployment owner entries ports) {entry : Service × Listener}
    (member : entry ∈ entries) {protocol : AlbProtocol} (declares : entry.2.protocol = some protocol) :
    ∃ port ∈ ports, ports.find? (·.port == entry.2.port) = some port ∧ port.port = entry.2.port ∧
      port.protocol = protocol := by
  obtain ⟨port, present, same, agrees⟩ := collected.joined entry member protocol declares
  cases found : ports.find? (·.port == entry.2.port) with
  | none => exact absurd same (by simpa using List.find?_eq_none.mp found port present)
  | some other =>
    have otherPort : other.port = entry.2.port := by simpa using List.find?_some found
    obtain rfl : other = port := List.inj_on_of_nodup_map collected.distinct
      (List.mem_of_find?_eq_some found) present (otherPort.trans same.symm)
    exact ⟨other, present, rfl, same, agrees⟩

theorem mem_serviceListeners {services : List Service} {service : Service} {listener : Listener} :
    (service, listener) ∈ serviceListeners services ↔
      service ∈ services ∧ listener ∈ service.listeners := by
  simp only [serviceListeners, List.mem_flatMap, List.mem_map, Prod.mk.injEq]
  constructor
  · rintro ⟨other, member, given, listed, rfl, rfl⟩
    exact ⟨member, listed⟩
  · rintro ⟨member, listed⟩
    exact ⟨service, member, listener, listed, rfl, rfl⟩

section Adapted

variable {adapt : Service → Service} {services : List Service}

theorem serviceListeners_map {change : Listener → Listener}
    (listeners : ∀ service, (adapt service).listeners = service.listeners.map change) :
    serviceListeners (services.map adapt) = (serviceListeners services).map (Prod.map adapt change) := by
  simp only [serviceListeners, List.flatMap_map, List.map_flatMap, List.map_map]
  refine List.flatMap_congr fun service _ => ?_
  rw [listeners, List.map_map]
  rfl

/-- Whom the load balancer admits depends on the ids of the services, and on whether they are attached. -/
theorem planGroups_map (token : ∀ service, (adapt service).token = service.token)
    (logicalId : ∀ service, (adapt service).logicalId = service.logicalId)
    (attached : ∀ service, (adapt service).hasAttachedListener = service.hasAttachedListener) :
    planGroups deployment owner (services.map adapt) = planGroups deployment owner services := by
  have same : (·.hasAttachedListener) ∘ adapt = (·.hasAttachedListener) := funext attached
  rw [planGroups, List.filter_map, same, List.map_map, planGroups]
  refine List.map_congr_left fun service _ => ?_
  simp only [Function.comp_apply, token, logicalId]

end Adapted

end Balancer

end ClusterStack
