import ClusterStack.Cluster.Basic

/-!
# Plain descriptions

There are several ways to write the same thing: a setting that is left out, a single value in place of a
list, routing by one path in place of a list of rules, security groups that are still to be split. Here
each is written in one way. Everything else stays as it is.
-/

set_option autoImplicit false

namespace ClusterStack

/-- The ways to leave a setting out. -/
inductive IsAbsent : Option Json → Prop where
  | missing : IsAbsent none
  | null : IsAbsent (some .null)
  | word : IsAbsent (some (.string "null"))
  | empty : IsAbsent (some (.string ""))

theorem IsAbsent.provided? {setting : Option Json} (absent : IsAbsent setting) :
    provided? setting = none := by
  cases absent <;> rfl

theorem absent_or_provided (setting : Option Json) : IsAbsent setting ∨ provided? setting = setting := by
  unfold provided?
  split
  · exact .inl .missing
  · exact .inl .null
  · exact .inl .word
  · exact .inl .empty
  · exact .inr rfl

@[simp] theorem provided?_provided? (setting : Option Json) :
    provided? (provided? setting) = provided? setting := by
  cases absent_or_provided setting with
  | inl absent => rw [absent.provided?]; rfl
  | inr given => rw [given, given]

/-- A single value is a list of one. -/
def OneOrMany.plain {α : Type} (values : OneOrMany α) : OneOrMany α :=
  .many values.toList

@[simp] theorem OneOrMany.toList_plain {α : Type} (values : OneOrMany α) :
    values.plain.toList = values.toList := rfl

/-- A rule is written with its priority, and with a method only if it is for that method alone. -/
def RouteRule.toSpec (rule : RouteRule) : PathRuleSpec :=
  .rule rule.path rule.method (some rule.priority)

def HeaderMatchSpec.plain (header : HeaderMatchSpec) : HeaderMatchSpec :=
  { header with value := header.value.plain }

def StepScalingSpec.plain (step : StepScalingSpec) : StepScalingSpec :=
  { step with metricDependsOn := step.metricDependsOn.map .plain }

def AutoScaleSpec.plain (spec : AutoScaleSpec) : AutoScaleSpec :=
  { spec with
    scaleIn := spec.scaleIn.map .plain
    scaleOut := spec.scaleOut.map .plain }

/-- Routing is by a list of rules, each with a priority of its own. -/
def ServiceSpec.plain (spec : ServiceSpec) : ServiceSpec :=
  { spec with
    path := some (.rules ((Routing.rulesOfSpec spec).map RouteRule.toSpec))
    priority := none
    hostname := spec.hostname.map .plain
    limitSourceIps := spec.limitSourceIps.map .plain
    limitHeaders := spec.limitHeaders.map .plain
    taskRoleArn := provided? spec.taskRoleArn
    autoScale := spec.autoScale.map .plain
    schedulerInput := provided? spec.schedulerInput }

/-- A list of security groups is written as one, unless it is an expression that only the deployment
resolves. -/
def SecurityGroups.plainInput : Json → Json
  | .string group => .array [.string group]
  | .object members =>
    match splitArguments? members with
    | some (delimiter, source) => .array ((pieces delimiter source).map .string)
    | none => .object members
  | other => other

def NetworkSpec.plain (spec : NetworkSpec) : NetworkSpec :=
  { spec with
    vpcId := provided? spec.vpcId
    securityGroupIds := (provided? spec.securityGroupIds).map SecurityGroups.plainInput
    subnetIds := provided? spec.subnetIds
    albSubnetIds := provided? spec.albSubnetIds }

/-- The references to a shared cluster are left out one by one. -/
def ClusterSpec.plain (spec : ClusterSpec) : ClusterSpec :=
  { spec with
    albListenerArn := provided? spec.albListenerArn
    clusterArns := some {
      ecsClusterArn := provided? (spec.clusterArns.bind (·.ecsClusterArn))
      ecsIngressSecGroupId := provided? (spec.clusterArns.bind (·.ecsIngressSecGroupId)) }
    services := spec.services.map .plain
    executionRoleArn := provided? spec.executionRoleArn
    vpc := spec.vpc.map .plain }

namespace Routing

theorem restrictingMethod_of_mem {rule : RouteRule} {spec : ServiceSpec} (member : rule ∈ rulesOfSpec spec) :
    rule.method.filter restrictingMethod = rule.method := by
  have unrestricted : ∀ {path priority}, rule ∈ [(⟨path, none, priority⟩ : RouteRule)] →
      rule.method.filter restrictingMethod = rule.method := by
    intro path priority single
    rw [List.mem_singleton.mp single]
    rfl
  unfold rulesOfSpec at member
  split at member
  · exact unrestricted member
  · exact unrestricted member
  · obtain ⟨given, -, rfl⟩ := List.mem_map.mp member
    cases given with
    | path _ => rfl
    | rule _ method _ => simp [ruleOfSpec, Option.filter_filter]

theorem rulesOfSpec_plain (spec : ServiceSpec) : rulesOfSpec spec.plain = rulesOfSpec spec := by
  change ((rulesOfSpec spec).map RouteRule.toSpec).map ruleOfSpec = rulesOfSpec spec
  have each : ∀ rule ∈ rulesOfSpec spec, ruleOfSpec rule.toSpec = rule := by
    intro rule member
    rw [RouteRule.toSpec, ruleOfSpec, restrictingMethod_of_mem member]
    rfl
  rw [List.map_map]
  exact (List.map_congr_left each).trans (List.map_id' _)

theorem ofSpec_plain (spec : ServiceSpec) : ofSpec spec.plain = ofSpec spec := by
  rw [ofSpec, rulesOfSpec_plain, ofSpec]
  simp [ServiceSpec.plain, HeaderMatchSpec.plain, Function.comp_def]

end Routing

@[simp] theorem StepScalingSpec.dependencies_plain (step : StepScalingSpec) :
    step.plain.dependencies = step.dependencies := by
  simp [dependencies, plain, Function.comp_def]

/-- The security groups as they are given when those that are to be split have been. -/
def SecurityGroups.plain : SecurityGroups → SecurityGroups
  | .split delimiter source => .list ((pieces delimiter source).map .string)
  | groups => groups

theorem Value.ofInputs_strings (texts : List String) :
    Value.ofInputs (texts.map .string) = texts.map .string := by
  induction texts with
  | nil => rfl
  | cons first rest ih => rw [List.map_cons, Value.ofInputs, ih]; rfl

theorem SecurityGroups.ofInput_plainInput (input : Json) :
    ofInput (plainInput input) = (ofInput input).plain := by
  cases input with
  | string group => rfl
  | object members =>
    simp only [plainInput, ofInput]
    cases arguments : splitArguments? members with
    | some texts => simp only [plain, Value.ofInputs_strings]
    | none => simp only [arguments, plain]
  | null | bool _ | number _ | array _ => rfl

theorem SecurityGroups.provided?_plainInput {input : Json} (given : provided? (some input) = some input) :
    provided? (some (plainInput input)) = some (plainInput input) := by
  cases input with
  | string group => rfl
  | object members =>
    simp only [plainInput]
    cases splitArguments? members <;> rfl
  | null | bool _ | number _ | array _ => exact given

@[simp] theorem SecurityGroups.toList?_plain (groups : SecurityGroups) :
    groups.plain.toList? = groups.toList? := by
  cases groups <;> rfl

@[simp] theorem SecurityGroups.toValue_plain (groups : SecurityGroups) :
    groups.plain.toValue = groups.toValue := by
  cases groups <;> rfl

theorem NetworkSpec.provided?_plain (spec : NetworkSpec) : provided? spec.plain.securityGroupIds =
    (provided? spec.securityGroupIds).map SecurityGroups.plainInput := by
  change provided? ((provided? spec.securityGroupIds).map SecurityGroups.plainInput) = _
  cases given : provided? spec.securityGroupIds with
  | none => rfl
  | some input =>
    have again : provided? (some input) = some input := by rw [← given, provided?_provided?]
    exact SecurityGroups.provided?_plainInput again

theorem BalancerMode.ofSpec_plain (spec : ClusterSpec) : ofSpec spec.plain = ofSpec spec := by
  simp [ofSpec, ClusterSpec.plain]

theorem ClusterHome.ofSpec_plain (name : String) (spec : ClusterSpec) :
    ofSpec name spec.plain = ofSpec name spec := by
  have shared : shared? spec.plain = shared? spec := by
    cases given : spec.clusterArns with
    | none => simp [shared?, ClusterSpec.plain, given, provided?]
    | some arns => simp [shared?, ClusterSpec.plain, given]
  rw [ofSpec, shared, ofSpec]

theorem Cluster.executionRoleOf_plain (name : String) (spec : ClusterSpec) :
    executionRoleOf name spec.plain = executionRoleOf name spec := by
  simp [executionRoleOf, ClusterSpec.plain]

end ClusterStack
