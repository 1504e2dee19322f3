import ClusterStack.Cluster.Basic
import ClusterStack.Proofs.Balancer.Ports

/-!
# Faults of a description

Settling a cluster and its components is refused for faults of the description only, never because
generated resources do not fit together.
-/

set_option autoImplicit false

namespace ClusterStack

variable {deployment : Deployment} {reason : CompileError}

theorem Listener.fault_of_resolve {owner : ListenerOwner} {index : Nat} {spec : ListenerSpec}
    (refused : Listener.resolve deployment owner index spec = .error reason) :
    reason.isInvariantViolation = false := by
  simp only [Listener.resolve] at refused
  split at refused
  · cases refused
    rfl
  · cases refused

theorem Scaling.fault_of_resolve {serviceName : String} {spec : AutoScaleSpec}
    (refused : Scaling.resolve serviceName spec = .error reason) :
    reason.isInvariantViolation = false := by
  rw [Scaling.resolve, map_eq_error] at refused
  simp only [Scaling.resolvePolicy] at refused
  split at refused
  · cases refused
  · split at refused <;> cases refused <;> rfl

theorem Service.fault_of_resolve {clusterPrefix : String} {albDisabled : Bool} {spec : ServiceSpec}
    (refused : Service.resolve deployment clusterPrefix albDisabled spec = .error reason) :
    reason.isInvariantViolation = false := by
  simp only [Service.resolve, bind_eq_error] at refused
  rcases refused with refused | ⟨token, -, refused | ⟨image, -, refused | ⟨listeners, -, refused |
    ⟨_, -, refused | ⟨scaling, -, impossible⟩⟩⟩⟩⟩
  · simp only [Service.resolveToken] at refused
    split at refused
    · cases refused
      rfl
    · cases refused
  · unfold Service.resolveImage at refused
    split at refused <;> cases refused
    rfl
  · obtain ⟨⟨listener, index⟩, -, fault⟩ := mapM_eq_error refused
    exact Listener.fault_of_resolve fault
  · unfold Service.checkPorts at refused
    split at refused <;> cases refused
    rfl
  · obtain ⟨scale, -, fault⟩ := optionMapM_eq_error refused
    exact Scaling.fault_of_resolve fault
  · cases impossible

theorem Network.fault_of_resolve {owner : String} {spec : NetworkSpec}
    (refused : Network.resolve deployment owner spec = .error reason) :
    reason.isInvariantViolation = false := by
  have range : ∀ context text, Network.checkCidr context text = .error reason →
      reason.isInvariantViolation = false := by
    intro context text refused
    unfold Network.checkCidr at refused
    cases checked : Cidr.check text with
    | error problem =>
      rw [checked] at refused
      cases refused
      rfl
    | ok _ =>
      rw [checked] at refused
      cases refused
  unfold Network.resolve at refused
  split at refused
  · cases refused
  · simp only at refused
    split at refused
    · cases refused
      rfl
    · simp only [bind_eq_error] at refused
      rcases refused with refused | ⟨_, -, refused | ⟨_, -, impossible⟩⟩
      · exact range _ _ refused
      · obtain ⟨cidr, -, fault⟩ := forM_eq_error refused
        exact range _ _ fault
      · cases impossible

theorem Balancer.fault_of_resolve {owner : String} {spec : ClusterSpec} {services : List Service}
    (refused : Balancer.resolve deployment owner spec services = .error reason) :
    reason.isInvariantViolation = false := by
  simp only [Balancer.resolve, bind_eq_error] at refused
  rcases refused with refused | ⟨ports, -, impossible⟩
  · obtain ⟨front, entry, rest, protocol, existing, -, -, -, rfl⟩ := Balancer.collectPorts_eq_error refused
    rfl
  · cases impossible

/-- A cluster is not settled because of a fault of its description. -/
theorem Cluster.fault_of_resolve {spec : ClusterSpec}
    (refused : Cluster.resolve deployment spec = .error reason) :
    reason.isInvariantViolation = false := by
  simp only [Cluster.resolve, bind_eq_error] at refused
  rcases refused with refused | ⟨token, -, refused | ⟨network, -, refused | ⟨_, -, refused |
    ⟨services, -, refused | ⟨_, -, refused | ⟨balancer, -, impossible⟩⟩⟩⟩⟩⟩
  · simp only [Cluster.resolveToken] at refused
    split at refused <;> cases refused
    rfl
  · unfold Cluster.requireNetwork at refused
    split at refused <;> cases refused
    rfl
  · exact Network.fault_of_resolve refused
  · obtain ⟨service, -, fault⟩ := mapM_eq_error refused
    exact Service.fault_of_resolve fault
  · unfold Cluster.checkTokens at refused
    split at refused <;> cases refused
    rfl
  · exact Balancer.fault_of_resolve refused
  · cases impossible

end ClusterStack
