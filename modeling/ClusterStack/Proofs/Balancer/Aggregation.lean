import ClusterStack.Proofs.Cluster.Described

/-!
# Aggregation of listeners by port

A load balancer listens once on each port that is declared, in the order in which the ports are opened. Two
protocols on one port are refused, and the first listener that declares another protocol than the one its port
was opened with is named.
-/

set_option autoImplicit false

namespace ClusterStack.Balancer

/-- The ports that listeners declare with a protocol, each where it is first declared. -/
def declaredPorts (entries : List (Service × Listener)) : List UInt16 :=
  ((entries.filterMap (·.2.demand?)).map (·.1)).eraseDups

/-- The ports are those that are declared, and each of them is as the listener that opens it has it. -/
structure Aggregates (deployment : Deployment) (owner : String) (entries : List (Service × Listener))
    (ports : List PortListener) : Prop where
  order : ports.map (·.port) = declaredPorts entries
  opened : ∀ port ∈ ports, ∃ entry protocol, Opens entries entry ∧
    entry.2.protocol = some protocol ∧ port = .ofListener deployment owner entry.2 protocol

variable {deployment : Deployment} {owner : String} {entries : List (Service × Listener)}
  {last : Service × Listener} {protocol : AlbProtocol} {ports larger : List PortListener}

theorem declaredPorts_append_silent (silent : last.2.protocol = none) :
    declaredPorts (entries ++ [last]) = declaredPorts entries := by
  simp [declaredPorts, Listener.demand?, silent]

theorem declaredPorts_append (declared : last.2.protocol = some protocol) :
    declaredPorts (entries ++ [last]) =
      if last.2.port ∈ declaredPorts entries then declaredPorts entries
      else declaredPorts entries ++ [last.2.port] := by
  have demands : [last].filterMap (·.2.demand?) = [(last.2.port, protocol)] := by
    simp [Listener.demand?, declared]
  rw [declaredPorts, List.filterMap_append, demands, List.map_append, List.eraseDups_append,
    ← declaredPorts]
  split
  · rename_i known
    have listed := List.mem_eraseDups.mp known
    simp [List.removeAll, listed]
  · rename_i new
    have unlisted := mt List.mem_eraseDups.mpr new
    simp [List.removeAll, List.eraseDups_cons, unlisted]

/-- A listener that is accepted leaves a port for each that has been declared, in the same order. -/
theorem order_of_register (order : ports.map (·.port) = declaredPorts entries)
    (registered : Balancer.register deployment owner ports last = .ok larger) :
    larger.map (·.port) = declaredPorts (entries ++ [last]) := by
  cases register_eq_ok registered with
  | inl joins =>
    obtain ⟨rfl, known⟩ := joins
    cases declared : last.2.protocol with
    | none => rw [order, declaredPorts_append_silent declared]
    | some protocol =>
      obtain ⟨port, present, same, -⟩ := known protocol declared
      have listed : last.2.port ∈ declaredPorts entries := by
        rw [← order, ← same]
        exact List.mem_map_of_mem present
      rw [order, declaredPorts_append declared, if_pos listed]
  | inr opens =>
    obtain ⟨protocol, declared, free, rfl⟩ := opens
    have new : last.2.port ∉ declaredPorts entries := by
      rw [← order, List.mem_map]
      exact fun ⟨port, present, same⟩ => free port present same
    rw [List.map_append, order, declaredPorts_append declared, if_neg new]
    rfl

theorem aggregates_of_collectPorts {services : List Service}
    (collects : collectPorts deployment owner services = .ok ports) :
    Aggregates deployment owner (serviceListeners services) ports := by
  -- Of the listeners taken so far, the ports are in order; who has opened each is known of the whole run.
  constructor
  · refine foldlM_preserves collects (fun before state => state.map (·.port) = declaredPorts before) rfl ?_
    intro before entry state next _ order registered
    exact order_of_register order registered
  · exact (collected_of_collectPorts collects).opened

theorem resolve_eq_error {spec : ClusterSpec} {services : List Service} {reason : CompileError} :
    resolve deployment owner spec services = .error reason ↔
      collectPorts deployment owner services = .error reason := by
  rw [resolve, bind_eq_error]
  simp [pure, Except.pure]

theorem exists_collectPorts_eq_error_iff {services : List Service} :
    (∃ reason, collectPorts deployment owner services = .error reason) ↔
      ∃ port left right, (port, left) ∈ (serviceListeners services).filterMap (·.2.demand?) ∧
        (port, right) ∈ (serviceListeners services).filterMap (·.2.demand?) ∧ left ≠ right := by
  constructor
  · intro refused
    obtain ⟨reason, refused⟩ := refused
    by_contra agree
    push Not at agree
    obtain ⟨ports, collects⟩ := exists_collectPorts_iff.mpr agree
    rw [refused] at collects
    cases collects
  · intro conflict
    obtain ⟨port, left, right, first, second, differ⟩ := conflict
    cases outcome : collectPorts deployment owner services with
    | error reason => exact ⟨reason, rfl⟩
    | ok ports =>
      have agree := exists_collectPorts_iff.mp ⟨ports, outcome⟩
      exact absurd (agree port left right first second) differ

theorem listeners_of_resolve {spec : ClusterSpec} {services : List Service} {balancer : Balancer}
    (enabled : spec.albDisabled = false)
    (resolved : resolve deployment owner spec services = .ok balancer) :
    collectPorts deployment owner services = .ok balancer.listeners := by
  rw [resolve, bind_eq_ok] at resolved
  obtain ⟨ports, collects, made⟩ := resolved
  have mode : (BalancerMode.ofSpec spec).isDisabled = false := by
    unfold BalancerMode.ofSpec
    cases provided? spec.albListenerArn <;> simp [enabled, BalancerMode.isDisabled]
  cases made
  simpa [mode] using collects

/-- A load balancer is refused exactly if two listeners declare different protocols on one port, for the first
one that disagrees with the listener that opens its port. Any other one that is not disabled listens once on
each port that is declared. -/
theorem resolve_aggregates (deployment : Deployment) (owner : String) (spec : ClusterSpec)
    (services : List Service) :
    ((∃ reason, resolve deployment owner spec services = .error reason) ↔
      ∃ port left right, (port, left) ∈ (serviceListeners services).filterMap (·.2.demand?) ∧
        (port, right) ∈ (serviceListeners services).filterMap (·.2.demand?) ∧ left ≠ right) ∧
    (∀ reason, resolve deployment owner spec services = .error reason →
      ∃ front entry rest protocol existing, serviceListeners services = front ++ entry :: rest ∧
        Disagrees (serviceListeners services) entry protocol existing ∧
        (∀ earlier ∈ front, ∀ declared other,
          ¬Disagrees (serviceListeners services) earlier declared other) ∧
        reason = .portProtocolConflict entry.1.name (deployment.logicalId owner .cluster) entry.2.port
          protocol.text existing.text) ∧
    ∀ balancer, resolve deployment owner spec services = .ok balancer → spec.albDisabled = false →
      Aggregates deployment owner (serviceListeners services) balancer.listeners := by
  refine ⟨?_, ?_, ?_⟩
  · simp only [resolve_eq_error]
    exact exists_collectPorts_eq_error_iff
  · intro reason refused
    exact collectPorts_eq_error (resolve_eq_error.mp refused)
  · intro balancer resolved enabled
    exact aggregates_of_collectPorts (listeners_of_resolve enabled resolved)

end ClusterStack.Balancer
