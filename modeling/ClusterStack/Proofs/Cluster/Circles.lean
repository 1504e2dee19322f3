import ClusterStack.Proofs.Cluster.Described
import ClusterStack.Proofs.Compile.Acyclicity

/-!
# Circles within a cluster

Before it is checked, what a cluster generates may go round in circles. Every edge of such a circle leads
from the alarm of a step to another alarm, and is there because the description of the step says that
the metric depends on it.
-/

set_option autoImplicit false

namespace ClusterStack

variable {deployment : Deployment} {spec : ClusterSpec} {cluster : Cluster} {template : Template}

namespace Template

def HasAlarm (template : Template) (key : String) : Prop :=
  ∃ alarm, (key, alarm) ∈ template.resources.entries ∧ alarm.kind = .alarm

/-- An edge of a circle leads to the level that it comes from. -/
theorem IsFounded.alarmDependsOn_of_circle {metrics : List String} (founded : template.IsFounded metrics)
    (named : template.IsNamed) {source target : String} (depends : template.DependsOn source target)
    (back : Relation.ReflTransGen template.DependsOn target source) :
    template.AlarmDependsOn source target := by
  have notBelow : template.levelOf source ≤ template.levelOf target := by
    cases Relation.reflTransGen_iff_eq_or_transGen.mp back with
    | inl same => rw [same]
    | inr path =>
      cases founded.path named path with
      | inl lower => exact Nat.le_of_lt lower
      | inr level => exact Nat.le_of_eq level.1
  cases founded.step named depends with
  | inl lower => exact absurd lower (Nat.not_lt_of_le notBelow)
  | inr alarms => exact alarms.2.1

end Template

/-- A service is described to scale in a step that the alarm is for, and whose metric depends on the
target. -/
def ClusterSpec.ListsDependency (deployment : Deployment) (spec : ClusterSpec) (alarm target : String) :
    Prop :=
  ∃ service ∈ spec.services, ∃ scale ∈ service.autoScale, ∃ step ∈ scale.steps,
    alarm = deployment.logicalId (spec.clusterPrefix deployment ++ normalizeName service.name)
      step.1.alarmRole ∧ target ∈ step.2.dependencies

theorem ClusterSpec.ListsDependency.exists_metricDependsOn {alarm target : String}
    (lists : spec.ListsDependency deployment alarm target) :
    ∃ service ∈ spec.services, target ∈ service.metricDependsOn := by
  obtain ⟨service, member, scale, given, step, described, -, depends⟩ := lists
  refine ⟨service, member, List.mem_flatMap.mpr ⟨scale, Option.mem_toList.mpr given, ?_⟩⟩
  apply List.mem_flatMap.mpr
  refine ⟨step.2, ?_, depends⟩
  rw [← scale.map_steps]
  exact List.mem_map_of_mem described

section Declared

variable {declarations : List Declaration}
  (declared : cluster.declarations deployment = .ok declarations)
  (made : Template.ofDeclarations declarations = .ok template)

include declared made

/-- An alarm of the template lists what its metric depends on, and the policy that it sets off. -/
theorem Cluster.alarm_of_mem_entries {key : String} {alarm : Resource}
    (present : (key, alarm) ∈ template.resources.entries) (kind : alarm.kind = .alarm) :
    ∃ service ∈ cluster.services, ∃ scaling ∈ service.scaling, ∃ step ∈ scaling.steps,
      key = deployment.logicalId service.servicePrefix step.1.alarmRole ∧
        ∃ policy, (∃ definition, (policy, definition) ∈ template.resources.entries ∧
          definition.kind = .scalingPolicy) ∧ alarm.dependsOn = step.2.dependencies ++ [policy] := by
  obtain ⟨declaration, member, entry⟩ := Template.exists_declaration_of_mem made present
  have alarmKind : declaration.kind? = some .alarm := by
    rw [Declaration.kind?, entry, Option.map_some, kind]
  obtain ⟨service, ofCluster, scaling, given, step, listed, rfl⟩ := alarm_of_mem declared member alarmKind
  cases entry
  let scope := service.scalingScope (cluster.serviceScope deployment)
  refine ⟨service, ofCluster, scaling, given, step, listed, rfl, scope.id step.1.policyRole, ?_, rfl⟩
  obtain ⟨part, partDeclared, within⟩ := exists_service_declarations declared ofCluster
  have ofStep : .resource (scope.id step.1.policyRole) (scope.stepPolicyResource step.1 step.2) ∈
      scaling.declarations scope :=
    Scaling.mem_declarations.mpr (.inr (.inr (.inr ⟨step, listed, .head _⟩)))
  have ofScaling := Service.mem_scalingDeclarations.mpr ⟨scaling, given, ofStep⟩
  have inside := within ((Service.mem_declarations partDeclared).mpr (.inr (.inr (.inl ofScaling))))
  exact ⟨_, Template.mem_of_resource made inside, rfl⟩

theorem Cluster.Settled.listsDependency (settled : cluster.Settled deployment spec)
    {source target : String} (depends : template.AlarmDependsOn source target) :
    spec.ListsDependency deployment source target := by
  obtain ⟨alarm, other, here, there, kind, otherKind, listed⟩ := depends
  obtain ⟨service, member, scaling, given, step, ofScaling, rfl, policy, ⟨definition, present, policyKind⟩,
    dependsOn⟩ := Cluster.alarm_of_mem_entries declared made here kind
  rw [dependsOn] at listed
  cases List.mem_append.mp listed with
  | inl depends =>
    have settles := (settled.service member).2
    have describes := settled.describes member
    cases optionMapM_eq_ok.mp settles.scaling with
    | inl absent =>
      rw [absent.2] at given
      cases given
    | inr described =>
      obtain ⟨scale, _, autoScale, resolved, scalingGiven⟩ := described
      rw [scalingGiven] at given
      cases given
      rw [Scaling.steps_of_resolve resolved] at ofScaling
      refine ⟨service.spec, (settled.service member).1, scale, autoScale, step, ofScaling, ?_, depends⟩
      rw [describes.servicePrefix, settled.clusterPrefix, ClusterSpec.clusterPrefix]
  | inr itself =>
    -- The policy is no alarm, so that the alarm cannot depend on another one through it.
    rw [List.mem_singleton.mp itself] at there
    rw [Entries.eq_of_mem_of_mem template.resources.distinct there present, policyKind] at otherKind
    cases otherKind

end Declared

/-- What a cluster generates, before it is checked. -/
def generate (deployment : Deployment) (spec : ClusterSpec) : Except CompileError Template := do
  let cluster ← Cluster.resolve deployment spec
  let declarations ← cluster.declarations deployment
  Template.ofDeclarations declarations

theorem generate_eq_ok : generate deployment spec = .ok template ↔ ∃ cluster,
    Cluster.resolve deployment spec = .ok cluster ∧ ∃ declarations,
      cluster.declarations deployment = .ok declarations ∧
        Template.ofDeclarations declarations = .ok template := by
  simp only [generate, bind_eq_ok]

/-- What a cluster generates goes round in circles through its alarms only: every edge of a circle joins
two of them, the first of which is that of a step whose description lists the second. If no metric is
described to depend on an alarm of the cluster, then there is no circle. -/
theorem generate_circle (deployment : Deployment) (spec : ClusterSpec) (template : Template)
    (generated : generate deployment spec = .ok template) :
    (∀ source target, template.DependsOn source target →
      Relation.ReflTransGen template.DependsOn target source →
        template.AlarmDependsOn source target ∧ spec.ListsDependency deployment source target) ∧
    ((∀ service ∈ spec.services, ∀ target ∈ service.metricDependsOn, ¬template.HasAlarm target) →
      ∀ key, ¬Relation.TransGen template.DependsOn key key) := by
  obtain ⟨cluster, resolved, declarations, declared, made⟩ := generate_eq_ok.mp generated
  have settled := Cluster.settled_of_resolve resolved
  have founded := settled.isFounded_of_ofDeclarations declared made
  have named := settled.isNamed declared made
  have edges : ∀ source target, template.DependsOn source target →
      Relation.ReflTransGen template.DependsOn target source →
        template.AlarmDependsOn source target ∧ spec.ListsDependency deployment source target := by
    intro source target depends back
    have alarms := founded.alarmDependsOn_of_circle named depends back
    exact ⟨alarms, settled.listsDependency declared made alarms⟩
  refine ⟨edges, fun unlisted key circle => ?_⟩
  obtain ⟨next, depends, back⟩ := Relation.TransGen.head'_iff.mp circle
  obtain ⟨⟨_, other, -, there, -, kind, -⟩, lists⟩ := edges key next depends back
  obtain ⟨service, member, listed⟩ := lists.exists_metricDependsOn
  exact unlisted service member next listed ⟨other, there, kind⟩

/-- A cluster with two services, each of which scales on a metric that depends on the other's alarm. -/
def entangledServices : ClusterSpec :=
  .minimal "main" [
    (ServiceSpec.minimal "web" "nginx").scalingIn ["ShopMainJobsAutoScalingAlarmInDev"],
    (ServiceSpec.minimal "jobs" "nginx").scalingIn ["ShopMainWebAutoScalingAlarmInDev"]]

/-- The alarms of the two services go round in a circle, and their descriptions say so. A service that
scales on a metric of a queue brings no circle with it. -/
theorem generate_circle_entangledServices :
    (∃ template, generate (.ofService "dev" "shop") entangledServices = .ok template ∧
      template.DependsOn "ShopMainWebAutoScalingAlarmInDev" "ShopMainJobsAutoScalingAlarmInDev" ∧
        entangledServices.ListsDependency (.ofService "dev" "shop") "ShopMainWebAutoScalingAlarmInDev"
          "ShopMainJobsAutoScalingAlarmInDev") ∧
    ∃ template, generate (.ofService "dev" "shop")
        (.minimal "main" [(ServiceSpec.minimal "web" "nginx").scalingIn ["Queue"]]) = .ok template ∧
      template.HasAlarm "ShopMainWebAutoScalingAlarmInDev" ∧
        ∀ key, ¬Relation.TransGen template.DependsOn key key := by
  constructor
  · obtain ⟨template, generated, both⟩ : ∃ template,
        generate (.ofService "dev" "shop") entangledServices = .ok template ∧
          (template.links "ShopMainWebAutoScalingAlarmInDev" "ShopMainJobsAutoScalingAlarmInDev" &&
            template.links "ShopMainJobsAutoScalingAlarmInDev" "ShopMainWebAutoScalingAlarmInDev") = true :=
      exists_of_passes (by decide +kernel)
    rw [Bool.and_eq_true] at both
    have there := (Template.alarmDependsOn_of_links both.1).dependsOn
    have back := (Template.alarmDependsOn_of_links both.2).dependsOn
    have edges := (generate_circle _ _ template generated).1
    exact ⟨template, generated, there, (edges _ _ there (.single back)).2⟩
  · obtain ⟨template, generated, listed⟩ : ∃ template, generate (.ofService "dev" "shop")
        (.minimal "main" [(ServiceSpec.minimal "web" "nginx").scalingIn ["Queue"]]) = .ok template ∧
          ((template.resources.get? "ShopMainWebAutoScalingAlarmInDev").any (·.kind == .alarm) &&
            (template.resources.get? "Queue").isNone) = true :=
      exists_of_passes (by decide +kernel)
    rw [Bool.and_eq_true, Option.isNone_iff_eq_none] at listed
    obtain ⟨alarm, found, kind⟩ := (Option.any_eq_true _ _).mp listed.1
    refine ⟨template, generated, ⟨alarm, Registry.get?_eq_some.mp found, by simpa using kind⟩, ?_⟩
    apply (generate_circle _ _ template generated).2
    intro service member target depends
    obtain rfl := List.mem_singleton.mp member
    obtain rfl : target = "Queue" := List.mem_singleton.mp depends
    intro hasAlarm
    obtain ⟨other, present, -⟩ := hasAlarm
    rw [Registry.get?_eq_some.mpr present] at listed
    cases listed.2

end ClusterStack
