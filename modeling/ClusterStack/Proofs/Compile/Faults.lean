import ClusterStack.Proofs.Cluster.Described
import ClusterStack.Proofs.Compile.Closure

/-!
# Refusals for faults of a description

A description that is not valid is refused for a fault. A valid one never is: if there is no template
for it, its resources do not fit together.
-/

set_option autoImplicit false

namespace ClusterStack

variable {deployment : Deployment} {spec : ClusterSpec} {reason : CompileError}

theorem Cluster.Settled.isInvariantViolation_of_compile {cluster : Cluster}
    (settled : cluster.Settled deployment spec) (refused : cluster.compile deployment = .error reason) :
    reason.isInvariantViolation = true := by
  rcases settled.compile_eq_error refused with ⟨key, rfl⟩ | ⟨key, rfl⟩ | rfl <;> rfl

/-- A cluster is refused for a fault of its description exactly if the description is not valid. -/
theorem compile_fault_iff (deployment : Deployment) (spec : ClusterSpec) :
    (∃ reason, compile deployment spec = .error reason ∧ reason.isInvariantViolation = false) ↔
      ¬spec.IsValid deployment := by
  rw [← Cluster.exists_resolve_iff]
  constructor
  · rintro ⟨reason, refused, fault⟩ ⟨cluster, resolved⟩
    simp only [compile, resolved, bind_eq_error, reduceCtorEq, Except.ok.injEq, exists_eq_left',
      false_or] at refused
    rw [(Cluster.settled_of_resolve resolved).isInvariantViolation_of_compile refused] at fault
    cases fault
  · intro unresolved
    cases outcome : Cluster.resolve deployment spec with
    | ok cluster => exact absurd ⟨cluster, outcome⟩ unresolved
    | error reason =>
      have refused : compile deployment spec = .error reason := bind_eq_error.mpr (.inl outcome)
      exact ⟨reason, refused, Cluster.fault_of_resolve outcome⟩

end ClusterStack
