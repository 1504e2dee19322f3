import ClusterStack.Proofs.Compile.Plain
import ClusterStack.Proofs.Spec.Minimal
import Mathlib.Data.List.Forall2

/-!
# Absent settings

A setting can be left out, or be null, the word `null` or the empty text. Which of these it is makes no
difference to the template, nor to the reason for refusing one, however many settings are concerned.
-/

set_option autoImplicit false

namespace ClusterStack

/-- The same setting, or a setting that is absent in one way or another. -/
def SameOrAbsent (a b : Option Json) : Prop :=
  a = b ∨ IsAbsent a ∧ IsAbsent b

theorem SameOrAbsent.provided?_eq {a b : Option Json} (same : SameOrAbsent a b) :
    provided? a = provided? b := by
  cases same with
  | inl equal => rw [equal]
  | inr absent => rw [absent.1.provided?, absent.2.provided?]

/-- The services differ in how settings are absent, and in nothing else. -/
structure ServiceSpec.SameUpToAbsence (a b : ServiceSpec) : Prop where
  taskRoleArn : SameOrAbsent a.taskRoleArn b.taskRoleArn
  schedulerInput : SameOrAbsent a.schedulerInput b.schedulerInput
  others : { a with taskRoleArn := none, schedulerInput := none } =
    { b with taskRoleArn := none, schedulerInput := none }

structure NetworkSpec.SameUpToAbsence (a b : NetworkSpec) : Prop where
  vpcId : SameOrAbsent a.vpcId b.vpcId
  securityGroupIds : SameOrAbsent a.securityGroupIds b.securityGroupIds
  subnetIds : SameOrAbsent a.subnetIds b.subnetIds
  albSubnetIds : SameOrAbsent a.albSubnetIds b.albSubnetIds
  cidr : a.cidr = b.cidr
  subnets : a.subnets = b.subnets

/-- The clusters, their networks and their services differ in how settings are absent, and in nothing
else. References to a shared cluster that are left out together are absent each. -/
structure ClusterSpec.SameUpToAbsence (a b : ClusterSpec) : Prop where
  albListenerArn : SameOrAbsent a.albListenerArn b.albListenerArn
  executionRoleArn : SameOrAbsent a.executionRoleArn b.executionRoleArn
  ecsClusterArn : SameOrAbsent (a.clusterArns.bind (·.ecsClusterArn)) (b.clusterArns.bind (·.ecsClusterArn))
  ecsIngressSecGroupId : SameOrAbsent (a.clusterArns.bind (·.ecsIngressSecGroupId))
    (b.clusterArns.bind (·.ecsIngressSecGroupId))
  vpc : Option.Rel NetworkSpec.SameUpToAbsence a.vpc b.vpc
  services : List.Forall₂ ServiceSpec.SameUpToAbsence a.services b.services
  others : { a with
      albListenerArn := none, executionRoleArn := none, clusterArns := none, vpc := none, services := [] } =
    { b with
      albListenerArn := none, executionRoleArn := none, clusterArns := none, vpc := none, services := [] }

theorem ServiceSpec.SameUpToAbsence.plain_eq {a b : ServiceSpec} (same : a.SameUpToAbsence b) :
    a.plain = b.plain := by
  have split : ∀ spec : ServiceSpec, spec.plain =
      { ({ spec with taskRoleArn := none, schedulerInput := none } : ServiceSpec).plain with
        taskRoleArn := provided? spec.taskRoleArn
        schedulerInput := provided? spec.schedulerInput } := fun _ => rfl
  rw [split a, same.others, same.taskRoleArn.provided?_eq, same.schedulerInput.provided?_eq, ← split b]

theorem NetworkSpec.SameUpToAbsence.plain_eq {a b : NetworkSpec} (same : a.SameUpToAbsence b) :
    a.plain = b.plain := by
  rw [plain, same.vpcId.provided?_eq, same.securityGroupIds.provided?_eq, same.subnetIds.provided?_eq,
    same.albSubnetIds.provided?_eq, same.cidr, same.subnets, plain]

theorem ClusterSpec.SameUpToAbsence.plain_eq {a b : ClusterSpec} (same : a.SameUpToAbsence b) :
    a.plain = b.plain := by
  have split : ∀ spec : ClusterSpec, spec.plain =
      { ({ spec with
          albListenerArn := none, executionRoleArn := none, clusterArns := none, vpc := none,
          services := [] } : ClusterSpec).plain with
        albListenerArn := provided? spec.albListenerArn
        executionRoleArn := provided? spec.executionRoleArn
        clusterArns := some {
          ecsClusterArn := provided? (spec.clusterArns.bind (·.ecsClusterArn))
          ecsIngressSecGroupId := provided? (spec.clusterArns.bind (·.ecsIngressSecGroupId)) }
        vpc := spec.vpc.map .plain
        services := spec.services.map .plain } := fun _ => rfl
  have network : a.vpc.map NetworkSpec.plain = b.vpc.map NetworkSpec.plain := by
    have related := same.vpc
    generalize a.vpc = left, b.vpc = right at related ⊢
    cases related with
    | none => rfl
    | some related => rw [Option.map_some, Option.map_some, related.plain_eq]
  have services : a.services.map ServiceSpec.plain = b.services.map ServiceSpec.plain :=
    (map_eq_of_forall₂ same.services fun _ _ _ related => related.plain_eq.symm).symm
  rw [split a, same.others, same.albListenerArn.provided?_eq, same.executionRoleArn.provided?_eq,
    same.ecsClusterArn.provided?_eq, same.ecsIngressSecGroupId.provided?_eq, network, services, ← split b]

/-- Descriptions that differ in how settings are absent compile to the same, be it a template or a
fault. -/
theorem compile_eq_of_sameUpToAbsence {deployment : Deployment} {a b : ClusterSpec} (same : a.SameUpToAbsence b) :
    compile deployment a = compile deployment b := by
  rw [← compile_plain deployment a, same.plain_eq, compile_plain]

/-- A cluster with a scheduled service. -/
def scheduledCluster : ClusterSpec :=
  .minimal "main" [{ ServiceSpec.minimal "report" "worker" with schedulerRate := some "rate(1 day)" }]

/-- The same, with everything that is absent written out in some way. -/
def scheduledClusterWrittenOut : ClusterSpec :=
  { ClusterSpec.minimal "main" [{ ServiceSpec.minimal "report" "worker" with
      schedulerRate := some "rate(1 day)"
      schedulerInput := some (.string "")
      taskRoleArn := some (.string "null") }] with
    albListenerArn := some .null
    executionRoleArn := some (.string "")
    clusterArns := some { ecsClusterArn := none, ecsIngressSecGroupId := some (.string "null") }
    vpc := some {
      cidr := some "10.0.0.0/16"
      subnets := []
      vpcId := some (.string "null")
      securityGroupIds := some (.string "")
      subnetIds := some .null
      albSubnetIds := some (.string "") } }

theorem compile_eq_of_sameUpToAbsence_scheduledCluster :
    scheduledCluster.SameUpToAbsence scheduledClusterWrittenOut ∧ ∃ template,
      compile (.ofService "dev" "shop") scheduledCluster = .ok template ∧
        compile (.ofService "dev" "shop") scheduledClusterWrittenOut = .ok template := by
  have network : NetworkSpec.SameUpToAbsence ⟨some "10.0.0.0/16", [], none, none, none, none⟩
      ⟨some "10.0.0.0/16", [], some (.string "null"), some (.string ""), some .null, some (.string "")⟩ :=
    ⟨.inr ⟨.missing, .word⟩, .inr ⟨.missing, .empty⟩, .inr ⟨.missing, .null⟩, .inr ⟨.missing, .empty⟩,
      rfl, rfl⟩
  have same : scheduledCluster.SameUpToAbsence scheduledClusterWrittenOut :=
    ⟨.inr ⟨.missing, .null⟩, .inr ⟨.missing, .empty⟩, .inl rfl, .inr ⟨.missing, .word⟩, .some network,
      .cons ⟨.inr ⟨.missing, .word⟩, .inr ⟨.missing, .empty⟩, rfl⟩ .nil, rfl⟩
  obtain ⟨template, compiled⟩ : ∃ template,
      compile (.ofService "dev" "shop") scheduledCluster = .ok template :=
    exists_of_isOk (by decide +kernel)
  exact ⟨same, template, compiled, (compile_eq_of_sameUpToAbsence same).symm.trans compiled⟩

end ClusterStack
