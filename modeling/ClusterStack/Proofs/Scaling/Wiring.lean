import ClusterStack.Proofs.Compile.Closure
import ClusterStack.Proofs.Service.Inventory

/-!
# Wiring of scaling

Scaling is refused only where it neither has steps nor can track a metric. Its resources go together: the
target takes on the role, every policy scales the target, and the alarm of a direction triggers the policy of
that direction.
-/

set_option autoImplicit false

namespace ClusterStack

open Declaration (keysOf owned?)

/-- The resources of a kind, in the order in which they were entered. -/
def Template.ofKind (template : Template) (kind : ResourceKind) : List (String × Resource) :=
  template.resources.entries.filter (·.2.kind = kind)

namespace StepScalingSpec

/-- Missing data points of the metric are to be filled. -/
def FillRequested (step : StepScalingSpec) : Prop :=
  ∃ value, step.fillupMissingData = some value ∧ value ≠ .flag false

/-- The settings by which an alarm names its metric itself. -/
def plainMetric (step : StepScalingSpec) : List (String × Value) :=
  [("MetricName", .string step.metricName), ("Namespace", .string step.metricNamespace),
    ("Statistic", .string step.aggregation.text), ("Period", .ofNat (step.metricPeriod.getD 120)),
    ("Dimensions", step.dimensions)]

theorem fillRequested_iff {step : StepScalingSpec} :
    step.FillRequested ↔ ∃ amount, step.fillupMissingData.bind FillValue.text? = some amount := by
  unfold FillRequested
  cases step.fillupMissingData with
  | none => simp
  | some value =>
    cases value with
    | number value => simp [FillValue.text?]
    | flag set => cases set <;> simp [FillValue.text?, FillValue.fill?]

end StepScalingSpec

/-- The policy that scales in this direction by what the step says. -/
structure ScalingScope.IsStepPolicy (scope : ScalingScope) (step : Direction × StepScalingSpec)
    (policy : String × Resource) : Prop where
  key : policy.1 = scope.id step.1.policyRole
  type : policy.2.property? "PolicyType" = some (.string "StepScaling")
  adjusts : ∃ configuration, policy.2.property? "StepScalingPolicyConfiguration" = some configuration ∧
    configuration.get? "StepAdjustments" = some (.list [step.2.adjustment step.1])

/-- The alarm on the metric of the step, which triggers the policy of the same direction. -/
structure ScalingScope.IsStepAlarm (scope : ScalingScope) (step : Direction × StepScalingSpec)
    (alarm : String × Resource) : Prop where
  key : alarm.1 = scope.id step.1.alarmRole
  actions : alarm.2.property? "AlarmActions" = some (.list [.ref (scope.id step.1.policyRole)])
  dependsOn : alarm.2.dependsOn = step.2.dependencies ++ [scope.id step.1.policyRole]
  filled : step.2.FillRequested → (alarm.2.property? "Metrics").isSome = true ∧
    ∀ setting ∈ step.2.plainMetric, alarm.2.property? setting.1 = none
  plain : ¬step.2.FillRequested → alarm.2.property? "Metrics" = none ∧
    ∀ setting ∈ step.2.plainMetric, alarm.2.property? setting.1 = some setting.2

/-- How the resources of a template that scales by these steps, or tracks a metric if there are none, go
together. -/
structure ScalingScope.Wires (scope : ScalingScope) (steps : List (Direction × StepScalingSpec))
    (template : Template) : Prop where
  common : ∃ role target, template.ofKind .iamRole = [role] ∧ template.ofKind .scalableTarget = [target] ∧
    target.2.property? "RoleARN" = some (.attribute role.1 "Arn") ∧
    ∀ policy ∈ template.ofKind .scalingPolicy,
      policy.2.property? "ScalingTargetId" = some (.ref target.1)
  tracking : steps = [] → ∃ policy, template.ofKind .scalingPolicy = [policy] ∧
    policy.2.property? "PolicyType" = some (.string "TargetTrackingScaling") ∧ template.ofKind .alarm = []
  policies : steps ≠ [] → List.Forall₂ scope.IsStepPolicy steps (template.ofKind .scalingPolicy)
  alarms : List.Forall₂ scope.IsStepAlarm steps (template.ofKind .alarm)

namespace ScalingScope

variable (scope : ScalingScope) (direction : Direction) (step : StepScalingSpec)

@[simp] theorem kind_roleResource : scope.roleResource.kind = .iamRole := rfl

@[simp] theorem kind_targetResource (scaling : Scaling) :
    (scope.targetResource scaling).kind = .scalableTarget := rfl

@[simp] theorem kind_trackingResource (metric : MetricType) (targetValue : Real64)
    (cooldownIn cooldownOut : Nat) :
    (scope.trackingResource metric targetValue cooldownIn cooldownOut).kind = .scalingPolicy := rfl

@[simp] theorem kind_stepPolicyResource :
    (scope.stepPolicyResource direction step).kind = .scalingPolicy := rfl

@[simp] theorem kind_alarmResource : (scope.alarmResource direction step).kind = .alarm := rfl

theorem isStepPolicy_stepPolicyResource : scope.IsStepPolicy (direction, step)
    (scope.id direction.policyRole, scope.stepPolicyResource direction step) where
  key := rfl
  type := rfl
  adjusts := by
    refine ⟨_, rfl, ?_⟩
    rw [Value.get?_present (by simp)]
    rfl

theorem isStepAlarm_alarmResource : scope.IsStepAlarm (direction, step)
    (scope.id direction.alarmRole, scope.alarmResource direction step) where
  key := rfl
  actions := rfl
  dependsOn := rfl
  filled := by
    intro requested
    obtain ⟨amount, given⟩ := StepScalingSpec.fillRequested_iff.mp requested
    simp only [alarmResource, StepScalingSpec.metricProperties, given]
    exact ⟨rfl, by simp [StepScalingSpec.plainMetric, Resource.property?, Resource.make, Entries.get?]⟩
  plain := by
    intro unrequested
    have given : step.fillupMissingData.bind FillValue.text? = none := by
      rw [StepScalingSpec.fillRequested_iff] at unrequested
      exact Option.eq_none_iff_forall_ne_some.mpr fun amount given => unrequested ⟨amount, given⟩
    simp only [alarmResource, StepScalingSpec.metricProperties, given]
    exact ⟨rfl, by simp [StepScalingSpec.plainMetric, Resource.property?, Resource.make, Entries.get?]⟩

end ScalingScope

theorem AutoScaleSpec.length_steps (spec : AutoScaleSpec) : spec.steps.length = spec.directions := by
  simp [steps, directions]

namespace Scaling

variable {scaling : Scaling} {scope : ScalingScope} {serviceName : String} {spec : AutoScaleSpec}

/-- The resources that scaling is made of, step by step. -/
theorem owned_declarations : (scaling.declarations scope).filterMap owned? =
    (scope.id .scalingRole, scope.roleResource) ::
      (scope.id .scalingTarget, scope.targetResource scaling) ::
        match scaling.policy with
        | .targetTracking metric targetValue cooldownIn cooldownOut =>
          [(scope.id .scalingPolicy, scope.trackingResource metric targetValue cooldownIn cooldownOut)]
        | .steps _ _ => scaling.steps.flatMap fun step =>
          [(scope.id step.1.policyRole, scope.stepPolicyResource step.1 step.2),
            (scope.id step.1.alarmRole, scope.alarmResource step.1 step.2)] := by
  cases kind : scaling.policy with
  | targetTracking _ _ _ _ => simp [declarations, kind, owned?]
  | steps _ _ =>
    simp [declarations, kind, owned?, List.filterMap_flatMap, ScalingScope.stepDeclarations]

theorem nodup_ownKeys : (keysOf owned? (scaling.declarations scope)).Nodup := by
  rw [ownKeys_declarations]
  have isPlain : ∀ label ∈ scaling.labels scope.servicePrefix, label.IsPlain := fun label member =>
    (scaling.belongs_labels scope.servicePrefix label member).isPlain (by decide)
  exact (scaling.nodup_labels scope.servicePrefix).map_on fun a here b there =>
    Label.eq_of_idOf_eq (isPlain a here) (isPlain b there)

theorem exists_template (scaling : Scaling) (scope : ScalingScope) :
    ∃ template, Template.ofDeclarations (scaling.declarations scope) = .ok template ∧
      template.resources.entries = (scaling.declarations scope).filterMap owned? := by
  refine Template.exists_ofDeclarations ?_ nodup_ownKeys
  intro declaration member
  rcases mem_declarations.mp member with rfl | rfl | ⟨_, _, _, _, -, rfl⟩ | ⟨step, -, ofStep⟩
  · exact ⟨_, _, rfl⟩
  · exact ⟨_, _, rfl⟩
  · exact ⟨_, _, rfl⟩
  · simp only [ScalingScope.stepDeclarations, List.mem_cons, List.not_mem_nil, or_false] at ofStep
    cases ofStep with
    | inl policy => exact ⟨_, _, policy⟩
    | inr alarm => exact ⟨_, _, alarm⟩

section Kinds

variable {template : Template}
  (entries : template.resources.entries = (scaling.declarations scope).filterMap owned?)

include entries

theorem ofKind_iamRole : template.ofKind .iamRole = [(scope.id .scalingRole, scope.roleResource)] := by
  rw [Template.ofKind, entries, owned_declarations]
  cases scaling.policy <;> simp [List.filter_flatMap]

theorem ofKind_scalableTarget :
    template.ofKind .scalableTarget = [(scope.id .scalingTarget, scope.targetResource scaling)] := by
  rw [Template.ofKind, entries, owned_declarations]
  cases scaling.policy <;> simp [List.filter_flatMap]

theorem ofKind_scalingPolicy_of_tracking {metric : MetricType} {targetValue : Real64}
    {cooldownIn cooldownOut : Nat}
    (tracking : scaling.policy = .targetTracking metric targetValue cooldownIn cooldownOut) :
    template.ofKind .scalingPolicy =
      [(scope.id .scalingPolicy, scope.trackingResource metric targetValue cooldownIn cooldownOut)] := by
  rw [Template.ofKind, entries, owned_declarations, tracking]
  simp

theorem ofKind_scalingPolicy_of_steps {scaleIn scaleOut : Option StepScalingSpec}
    (stepped : scaling.policy = .steps scaleIn scaleOut) :
    template.ofKind .scalingPolicy = scaling.steps.map fun step =>
      (scope.id step.1.policyRole, scope.stepPolicyResource step.1 step.2) := by
  rw [Template.ofKind, entries, owned_declarations, stepped]
  simp [List.filter_flatMap, List.map_eq_flatMap]

theorem ofKind_alarm : template.ofKind .alarm = scaling.steps.map fun step =>
    (scope.id step.1.alarmRole, scope.alarmResource step.1 step.2) := by
  rw [Template.ofKind, entries, owned_declarations]
  cases kind : scaling.policy with
  | targetTracking _ _ _ _ => simp [steps, kind]
  | steps _ _ => simp [List.filter_flatMap, List.map_eq_flatMap]

end Kinds

theorem resolve_eq_error_iff : (∃ reason, resolve serviceName spec = .error reason) ↔
    spec.scaleIn = none ∧ spec.scaleOut = none ∧ (spec.metric = none ∨ spec.targetValue = none) := by
  have accepted : (∃ scaling, resolve serviceName spec = .ok scaling) ↔ _ := exists_resolve_iff
  have refused : (∃ reason, resolve serviceName spec = .error reason) ↔
      ¬∃ scaling, resolve serviceName spec = .ok scaling := by
    cases resolve serviceName spec <;> simp
  rw [refused, accepted]
  cases spec.scaleIn <;> cases spec.scaleOut <;> cases spec.metric <;> cases spec.targetValue <;> simp

/-- The resources of scaling fit together. -/
theorem wires_of_resolve (resolved : resolve serviceName spec = .ok scaling) {template : Template}
    (entries : template.resources.entries = (scaling.declarations scope).filterMap owned?) :
    scope.Wires spec.steps template := by
  have described := steps_of_resolve resolved
  have role := ofKind_iamRole entries
  have target := ofKind_scalableTarget entries
  have alarms := ofKind_alarm entries
  rw [described] at alarms
  rcases steps_or_tracking resolved with ⟨directed, policy⟩ | ⟨undirected, metric, targetValue, cooldownIn,
    cooldownOut, policy⟩
  · rw [← AutoScaleSpec.length_steps, Ne, List.length_eq_zero_iff] at directed
    have policies := ofKind_scalingPolicy_of_steps entries policy
    rw [described] at policies
    constructor
    case common =>
      refine ⟨_, _, role, target, rfl, ?_⟩
      intro policy member
      rw [policies] at member
      obtain ⟨step, -, rfl⟩ := List.mem_map.mp member
      rfl
    case tracking => exact fun none => absurd none directed
    case policies =>
      intro _
      rw [policies, List.forall₂_map_right_iff, List.forall₂_same]
      exact fun step _ => scope.isStepPolicy_stepPolicyResource step.1 step.2
    case alarms =>
      rw [alarms, List.forall₂_map_right_iff, List.forall₂_same]
      exact fun step _ => scope.isStepAlarm_alarmResource step.1 step.2
  · rw [← AutoScaleSpec.length_steps, List.length_eq_zero_iff] at undirected
    have policies := ofKind_scalingPolicy_of_tracking entries policy
    rw [undirected] at alarms ⊢
    constructor
    case common =>
      refine ⟨_, _, role, target, rfl, ?_⟩
      intro policy member
      rw [policies] at member
      obtain rfl := List.mem_singleton.mp member
      rfl
    case tracking => exact fun _ => ⟨_, policies, rfl, alarms⟩
    case policies => exact fun some => absurd rfl some
    case alarms =>
      rw [alarms]
      exact .nil

/-- Scaling is refused exactly if it has no steps and lacks the metric to track or its target. Whatever its
resources are attached to, they make a template, in which they fit together. -/
theorem resolve_wires (serviceName : String) (spec : AutoScaleSpec) :
    ((∃ reason, resolve serviceName spec = .error reason) ↔
      spec.scaleIn = none ∧ spec.scaleOut = none ∧ (spec.metric = none ∨ spec.targetValue = none)) ∧
    ∀ scaling, resolve serviceName spec = .ok scaling → ∀ scope : ScalingScope,
      ∃ template, Template.ofDeclarations (scaling.declarations scope) = .ok template ∧
        scope.Wires spec.steps template := by
  refine ⟨resolve_eq_error_iff, ?_⟩
  intro scaling resolved scope
  obtain ⟨template, made, entries⟩ := exists_template scaling scope
  exact ⟨template, made, wires_of_resolve resolved entries⟩

end Scaling

end ClusterStack
