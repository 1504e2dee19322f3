import ClusterStack.Proofs.Document.Ordered
import ClusterStack.Proofs.Spec.Plain
import ClusterStack.Proofs.Spec.Respelling

/-!
# Ordered descriptions

A description supplies trees that the template takes over. Where the description was read from a document,
they have the members of their objects in the order of the keys.
-/

set_option autoImplicit false

namespace ClusterStack

structure StepScalingSpec.IsOrdered (step : StepScalingSpec) : Prop where
  target : step.metricDimensionTarget.IsOrdered
  further : ∀ dimension ∈ step.additionalDimension, dimension.target.IsOrdered

structure AutoScaleSpec.IsOrdered (spec : AutoScaleSpec) : Prop where
  scaleIn : ∀ step ∈ spec.scaleIn, step.IsOrdered
  scaleOut : ∀ step ∈ spec.scaleOut, step.IsOrdered

/-- The input of a schedule does not count: the template has the text of it. -/
structure ServiceSpec.IsOrdered (spec : ServiceSpec) : Prop where
  environment : ∀ entry ∈ spec.environment, entry.2.IsOrdered
  taskRoleArn : ∀ arn ∈ spec.taskRoleArn, arn.IsOrdered
  autoScale : ∀ scale ∈ spec.autoScale, scale.IsOrdered

structure ClusterArns.IsOrdered (arns : ClusterArns) : Prop where
  cluster : ∀ arn ∈ arns.ecsClusterArn, arn.IsOrdered
  ingressGroup : ∀ group ∈ arns.ecsIngressSecGroupId, group.IsOrdered

structure NetworkSpec.IsOrdered (spec : NetworkSpec) : Prop where
  vpcId : ∀ id ∈ spec.vpcId, id.IsOrdered
  securityGroupIds : ∀ ids ∈ spec.securityGroupIds, ids.IsOrdered
  subnetIds : ∀ ids ∈ spec.subnetIds, ids.IsOrdered
  albSubnetIds : ∀ ids ∈ spec.albSubnetIds, ids.IsOrdered

/-- The trees that the template takes over have the members of their objects in the order of the keys. -/
structure ClusterSpec.IsOrdered (spec : ClusterSpec) : Prop where
  tags : ∀ entry ∈ spec.tags, entry.2.IsOrdered
  albListenerArn : ∀ arn ∈ spec.albListenerArn, arn.IsOrdered
  clusterArns : ∀ arns ∈ spec.clusterArns, arns.IsOrdered
  services : ∀ service ∈ spec.services, service.IsOrdered
  executionRoleArn : ∀ arn ∈ spec.executionRoleArn, arn.IsOrdered
  vpc : ∀ network ∈ spec.vpc, network.IsOrdered

theorem forall_mem_provided? {setting : Option Json} {holds : Json → Prop} (each : ∀ tree ∈ setting, holds tree) :
    ∀ tree ∈ provided? setting, holds tree := by
  rcases absent_or_provided setting with absent | given
  · rw [absent.provided?]
    simp
  · rw [given]
    exact each

section Built

variable {α : Type} [Described α] {holds : α → Prop}
  (each : ∀ value, (Described.schema α).IsOrdered value → holds (Described.build value))

include each

theorem Described.forall_mem_map_build {values : List (Described.schema α).El}
    (ordered : (Schema.sequence (Described.schema α)).IsOrdered values) :
    ∀ item ∈ values.map Described.build, holds item :=
  List.forall_mem_map.mpr fun value member => each value (List.forall_iff_forall_mem.mp ordered value member)

theorem Described.forall_mem_optionMap_build {content : Option (Described.schema α).El}
    (ordered : (Schema.optional (Described.schema α)).IsOrdered content) :
    ∀ item ∈ content.map Described.build, holds item := by
  intro item member
  obtain ⟨value, given, rfl⟩ := Option.map_eq_some_iff.mp member
  exact each value (ordered value given)

end Built

theorem AdditionalDimensionSpec.isOrdered_build (values : (Described.schema AdditionalDimensionSpec).El)
    (ordered : (Described.schema AdditionalDimensionSpec).IsOrdered values) :
    (Described.build values : AdditionalDimensionSpec).target.IsOrdered := by
  obtain ⟨_, target, _⟩ := ordered
  exact target

theorem StepScalingSpec.isOrdered_build (values : (Described.schema StepScalingSpec).El)
    (ordered : (Described.schema StepScalingSpec).IsOrdered values) :
    (Described.build values : StepScalingSpec).IsOrdered := by
  obtain ⟨_, _, _, _, _, _, _, _, target, _, _, _, _, further, _⟩ := ordered
  exact ⟨target, Described.forall_mem_map_build AdditionalDimensionSpec.isOrdered_build further⟩

theorem AutoScaleSpec.isOrdered_build (values : (Described.schema AutoScaleSpec).El)
    (ordered : (Described.schema AutoScaleSpec).IsOrdered values) :
    (Described.build values : AutoScaleSpec).IsOrdered := by
  obtain ⟨_, _, _, _, _, _, _, scaleIn, scaleOut, _⟩ := ordered
  exact ⟨Described.forall_mem_optionMap_build StepScalingSpec.isOrdered_build scaleIn,
    Described.forall_mem_optionMap_build StepScalingSpec.isOrdered_build scaleOut⟩

theorem ServiceSpec.isOrdered_build (values : (Described.schema ServiceSpec).El)
    (ordered : (Described.schema ServiceSpec).IsOrdered values) :
    (Described.build values : ServiceSpec).IsOrdered := by
  -- The fields come in the groups in which the record is made of them.
  obtain ⟨_, environment, _, _, _, _, more⟩ := ordered
  obtain ⟨_, _, _, _, _, _, _, more⟩ := more
  obtain ⟨_, _, _, _, _, more⟩ := more
  obtain ⟨_, _, _, _, _, _, more⟩ := more
  obtain ⟨_, _, _, _, _, _, more⟩ := more
  obtain ⟨_, _, _, more⟩ := more
  obtain ⟨_, _, _, more⟩ := more
  obtain ⟨_, _, taskRoleArn, autoScale, _⟩ := more
  exact ⟨List.forall_iff_forall_mem.mp environment, taskRoleArn,
    Described.forall_mem_optionMap_build AutoScaleSpec.isOrdered_build autoScale⟩

theorem ClusterArns.isOrdered_build (values : (Described.schema ClusterArns).El)
    (ordered : (Described.schema ClusterArns).IsOrdered values) :
    (Described.build values : ClusterArns).IsOrdered := by
  obtain ⟨cluster, ingressGroup, _⟩ := ordered
  exact ⟨cluster, ingressGroup⟩

theorem NetworkSpec.isOrdered_build (values : (Described.schema NetworkSpec).El)
    (ordered : (Described.schema NetworkSpec).IsOrdered values) :
    (Described.build values : NetworkSpec).IsOrdered := by
  obtain ⟨_, _, vpcId, securityGroupIds, subnetIds, albSubnetIds, _⟩ := ordered
  exact ⟨vpcId, securityGroupIds, subnetIds, albSubnetIds⟩

namespace ClusterSpec

theorem isOrdered_build (values : (Described.schema ClusterSpec).El)
    (ordered : (Described.schema ClusterSpec).IsOrdered values) :
    (Described.build values : ClusterSpec).IsOrdered := by
  obtain ⟨tags, _, _, _, albListenerArn, _, _, clusterArns, services, executionRoleArn, vpc, _⟩ := ordered
  exact {
    tags := List.forall_iff_forall_mem.mp tags
    albListenerArn
    clusterArns := Described.forall_mem_optionMap_build ClusterArns.isOrdered_build clusterArns
    services := Described.forall_mem_map_build ServiceSpec.isOrdered_build services
    executionRoleArn
    vpc := Described.forall_mem_optionMap_build NetworkSpec.isOrdered_build vpc }

/-- Whatever document a cluster is described by, the description is ordered. -/
theorem isOrdered_of_ofDocument {format : Format} {document : Document} {spec : ClusterSpec}
    (described : Described.ofDocument ClusterSpec format document = .ok spec) : spec.IsOrdered := by
  obtain ⟨values, read, rfl⟩ := Described.ofDocument_eq_ok.mp described
  exact isOrdered_build values (Schema.isOrdered_of_read? _ read)

end ClusterSpec

end ClusterStack
