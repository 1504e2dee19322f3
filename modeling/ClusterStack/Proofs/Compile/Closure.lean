import ClusterStack.Compile
import ClusterStack.Proofs.Cluster.Foundation
import ClusterStack.Proofs.Cluster.Validation
import ClusterStack.Proofs.Dependency.Check
import ClusterStack.Proofs.Spec.Minimal

/-!
# Closure of references

A cluster that compiles refers to its own resources only, to pseudo parameters, and to what its
metrics are said to depend on; and no reference is ever the reason for refusing it.
-/

set_option autoImplicit false

namespace ClusterStack

variable {deployment : Deployment} {spec : ClusterSpec} {cluster : Cluster} {template : Template}

/-- The resources that the metrics of a service are said to depend on. -/
def ServiceSpec.metricDependsOn (spec : ServiceSpec) : List String :=
  spec.autoScale.toList.flatMap fun scale =>
    (scale.scaleIn.toList ++ scale.scaleOut.toList).flatMap (·.dependencies)

/-- The steps that are described, each with its direction. -/
def AutoScaleSpec.steps (spec : AutoScaleSpec) : List (Direction × StepScalingSpec) :=
  spec.scaleIn.toList.map (.scaleIn, ·) ++ spec.scaleOut.toList.map (.scaleOut, ·)

theorem AutoScaleSpec.map_steps (spec : AutoScaleSpec) :
    spec.steps.map (·.2) = spec.scaleIn.toList ++ spec.scaleOut.toList := by
  simp [steps, Function.comp_def]

theorem Scaling.steps_of_resolve {serviceName : String} {spec : AutoScaleSpec} {scaling : Scaling}
    (resolved : Scaling.resolve serviceName spec = .ok scaling) : scaling.steps = spec.steps := by
  rw [Scaling.resolve, map_eq_ok] at resolved
  obtain ⟨policy, resolved, rfl⟩ := resolved
  simp only [Scaling.resolvePolicy] at resolved
  split at resolved
  · cases resolved
    rfl
  · rename_i absent
    simp only [Bool.or_eq_true, not_or, Bool.not_eq_true, Option.isSome_eq_false_iff,
      Option.isNone_iff_eq_none] at absent
    split at resolved <;> cases resolved
    simp [Scaling.steps, AutoScaleSpec.steps, absent.1, absent.2]

theorem Scaling.metricDependencies_of_resolve {serviceName : String} {spec : AutoScaleSpec}
    {scaling : Scaling} (resolved : Scaling.resolve serviceName spec = .ok scaling) :
    scaling.metricDependencies =
      (spec.scaleIn.toList ++ spec.scaleOut.toList).flatMap (·.dependencies) := by
  rw [Scaling.metricDependencies, steps_of_resolve resolved, ← spec.map_steps, List.flatMap_map]

theorem Service.Settled.metricDependencies {clusterPrefix : String} {albDisabled : Bool}
    {service : Service} (settled : service.Settled deployment clusterPrefix albDisabled) :
    service.metricDependencies = service.spec.metricDependsOn := by
  rcases optionMapM_eq_ok.mp settled.scaling with ⟨absent, none⟩ | ⟨scale, scaling, given, resolved, some⟩
  · simp [Service.metricDependencies, ServiceSpec.metricDependsOn, absent, none]
  · simp [Service.metricDependencies, ServiceSpec.metricDependsOn, given, some,
      Scaling.metricDependencies_of_resolve resolved]

theorem Cluster.Settled.exists_metricDependsOn (settled : cluster.Settled deployment spec)
    {target : String} (listed : target ∈ cluster.externalDependencies) :
    ∃ service ∈ spec.services, target ∈ service.metricDependsOn := by
  obtain ⟨service, member, depends⟩ := List.mem_flatMap.mp listed
  obtain ⟨given, settles⟩ := settled.service member
  exact ⟨service.spec, given, settles.metricDependencies ▸ depends⟩

theorem Cluster.Settled.listenerArn_ne_error (settled : cluster.Settled deployment spec)
    {service : Service} (member : service ∈ cluster.services) {listener : Listener}
    (attached : listener ∈ service.attachedListeners) (reason : CompileError) :
    cluster.balancer.listenerArn service.name listener.port ≠ .error reason := by
  obtain ⟨listed, isAttached⟩ := Service.mem_attachedListeners.mp attached
  have settles := (settled.service member).2.listeners listener listed
  obtain ⟨protocol, declares⟩ := settles.exists_protocol isAttached
  have enabled : cluster.balancer.mode.isDisabled = false := by
    rw [settles.isAttached, Bool.and_eq_true] at isAttached
    simpa [Cluster.isDisabled_eq_albDisabled settled] using isAttached.1
  obtain ⟨port, -, found, -⟩ := (settled.balancer.listeners enabled).find?
    (Balancer.mem_serviceListeners.mpr ⟨member, listed⟩) declares
  unfold Balancer.listenerArn
  split
  · simp
  · simp [found]
  · simp [found]

theorem Cluster.Settled.exists_declarations (settled : cluster.Settled deployment spec) :
    ∃ declarations, cluster.declarations deployment = .ok declarations := by
  cases outcome : cluster.declarations deployment with
  | ok declarations => exact ⟨declarations, rfl⟩
  | error reason =>
    simp only [Cluster.declarations, bind_eq_error] at outcome
    rcases outcome with refused | ⟨services, -, impossible⟩
    · obtain ⟨service, member, refused⟩ := mapM_eq_error refused
      simp only [Service.declarations, bind_eq_error] at refused
      rcases refused with refused | ⟨attached, -, impossible⟩
      · obtain ⟨listener, attached, refused⟩ := mapM_eq_error refused
        simp only [Service.listenerDeclarations, bind_eq_error] at refused
        rcases refused with refused | ⟨arn, -, impossible⟩
        · exact absurd refused (settled.listenerArn_ne_error member attached reason)
        · cases impossible
      · cases impossible
    · cases impossible

/-- The template of a cluster, if there is one, is made of its declarations and has passed its check. -/
theorem Cluster.compile_eq_ok :
    cluster.compile deployment = .ok template ↔
      ∃ declarations, cluster.declarations deployment = .ok declarations ∧
        Template.ofDeclarations declarations = .ok template ∧
          template.checkReferences cluster.externalDependencies = .ok () := by
  simp only [Cluster.compile, bind_eq_ok, pure_eq_ok]
  constructor
  · rintro ⟨declarations, declared, made, entered, _, checked, rfl⟩
    exact ⟨declarations, declared, entered, checked⟩
  · rintro ⟨declarations, declared, entered, checked⟩
    exact ⟨declarations, declared, template, entered, _, checked, rfl⟩

/-- A cluster is refused because of its declarations, or because their template does not pass. -/
theorem Cluster.compile_eq_error_iff {declarations : List Declaration}
    (declared : cluster.declarations deployment = .ok declarations) {reason : CompileError} :
    cluster.compile deployment = .error reason ↔ Template.ofDeclarations declarations = .error reason ∨
      ∃ template, Template.ofDeclarations declarations = .ok template ∧
        template.checkReferences cluster.externalDependencies = .error reason := by
  simp only [Cluster.compile, declared, bind_eq_error, reduceCtorEq, Except.ok.injEq, false_or,
    exists_eq_left']
  refine or_congr_right (exists_congr fun template => and_congr_right fun _ => ?_)
  constructor
  · intro refused
    cases refused with
    | inl checked => exact checked
    | inr passed =>
      obtain ⟨_, -, impossible⟩ := passed
      cases impossible
  · exact .inl

theorem compile_eq_ok :
    compile deployment spec = .ok template ↔
      ∃ cluster, Cluster.resolve deployment spec = .ok cluster ∧
        cluster.compile deployment = .ok template := by
  simp only [compile, bind_eq_ok]

theorem exists_declarations_of_compile (resolved : Cluster.resolve deployment spec = .ok cluster)
    (compiled : compile deployment spec = .ok template) :
    ∃ declarations, cluster.declarations deployment = .ok declarations ∧
      Template.ofDeclarations declarations = .ok template := by
  obtain ⟨other, alsoResolved, compiled⟩ := compile_eq_ok.mp compiled
  obtain rfl : cluster = other := Except.ok.inj (resolved.symm.trans alsoResolved)
  obtain ⟨declarations, declared, made, -⟩ := Cluster.compile_eq_ok.mp compiled
  exact ⟨declarations, declared, made⟩

theorem Cluster.Settled.isFounded_of_ofDeclarations (settled : cluster.Settled deployment spec)
    {declarations : List Declaration} (declared : cluster.declarations deployment = .ok declarations)
    (made : Template.ofDeclarations declarations = .ok template) :
    template.IsFounded cluster.externalDependencies :=
  Template.isFounded_of_ofDeclarations made
    (Cluster.isFounded declared (List.Subset.refl _) settled (List.Subset.refl _))

theorem isPseudoParameter_region : DependencyGraph.isPseudoParameter "AWS::Region" = true := by
  decide +kernel

theorem isPseudoParameter_noValue : DependencyGraph.isPseudoParameter "AWS::NoValue" = true := by
  decide +kernel

private theorem IsBelow.closed {level : Nat} {target : String}
    (below : IsBelow template.resources.entries level target) :
    target ∈ template.resources.keys ∨ DependencyGraph.isPseudoParameter target = true := by
  rcases below with rfl | rfl | ⟨kind, ⟨definition, member, -⟩, -⟩
  · exact .inr isPseudoParameter_region
  · exact .inr isPseudoParameter_noValue
  · exact .inl (Registry.mem_keys.mpr ⟨definition, member⟩)

theorem Template.IsFounded.closed {metrics : List String} (founded : template.IsFounded metrics)
    {source target : String} (targets : template.Targets source target) :
    target ∈ template.resources.keys ∨ DependencyGraph.isPseudoParameter target = true ∨
      target ∈ metrics := by
  rcases targets with ⟨resource, member, refers | depends⟩ | ⟨output, member, refers⟩
  · rcases ((founded.resources source resource member).references target refers).closed with inside | pseudo
    · exact .inl inside
    · exact .inr (.inl pseudo)
  · rcases (founded.resources source resource member).dependsOn target depends with below | ⟨-, metric⟩
    · rcases below.closed with inside | pseudo
      · exact .inl inside
      · exact .inr (.inl pseudo)
    · exact .inr (.inr metric)
  · rcases ((founded.outputs source output member) target refers).closed with inside | pseudo
    · exact .inl inside
    · exact .inr (.inl pseudo)

/-- What is wrong with a cluster that has been settled: two of its resources or outputs have one
key, or they go round in circles. -/
theorem Cluster.Settled.compile_eq_error (settled : cluster.Settled deployment spec) {reason : CompileError}
    (refused : cluster.compile deployment = .error reason) :
    (∃ key, reason = .duplicateResource key) ∨ (∃ key, reason = .duplicateOutput key) ∨
      reason = .dependencyCycle := by
  obtain ⟨declarations, declared⟩ := settled.exists_declarations
  cases (Cluster.compile_eq_error_iff declared).mp refused with
  | inl refused =>
    obtain ⟨_, declaration, _, -, clash⟩ := Template.clash_of_declareAll_eq_error refused
    cases clash with
    | resource _ => exact .inl ⟨_, rfl⟩
    | sharedResource _ _ => exact .inl ⟨_, rfl⟩
    | output _ => exact .inr (.inl ⟨_, rfl⟩)
  | inr unchecked =>
    obtain ⟨template, made, refused⟩ := unchecked
    have founded := settled.isFounded_of_ofDeclarations declared made
    rcases Template.checkReferences_eq_error refused with ⟨source, target, rfl⟩ | cycle
    · obtain ⟨source, target, targets, outside, proper, undeclared⟩ :=
        Template.checkReferences_eq_danglingReference.mp ⟨source, target, refused⟩
      rcases founded.closed targets with inside | pseudo | metric
      · exact absurd inside outside
      · rw [pseudo] at proper
        cases proper
      · exact absurd metric undeclared
    · exact .inr (.inr cycle)

/-- References are closed: a cluster is never refused for a reference that is not resolved, nor for a
rule without a listener; and whatever the resources and outputs of its template refer to or depend on
is a resource of the template, a pseudo parameter, or listed as what a service's metric depends on. -/
theorem compile_closed (deployment : Deployment) (spec : ClusterSpec) :
    (∀ source target, compile deployment spec ≠ .error (.danglingReference source target)) ∧
    (∀ service port, compile deployment spec ≠ .error (.unknownListenerPort service port)) ∧
    ∀ template, compile deployment spec = .ok template →
      ∀ source target, template.Targets source target →
        target ∈ template.resources.keys ∨ target.startsWith "AWS::" = true ∨
          ∃ service ∈ spec.services, target ∈ service.metricDependsOn := by
  have other : ∀ reason, compile deployment spec = .error reason →
      reason.isInvariantViolation = false ∨ (∃ key, reason = .duplicateResource key) ∨
        (∃ key, reason = .duplicateOutput key) ∨ reason = .dependencyCycle := by
    intro reason refused
    rw [compile, bind_eq_error] at refused
    rcases refused with fault | ⟨cluster, resolved, refused⟩
    · exact .inl (Cluster.fault_of_resolve fault)
    · exact .inr ((Cluster.settled_of_resolve resolved).compile_eq_error refused)
  refine ⟨fun source target refused => ?_, fun service port refused => ?_, ?_⟩
  · simpa [CompileError.isInvariantViolation] using other _ refused
  · simpa [CompileError.isInvariantViolation] using other _ refused
  · intro template compiled source target targets
    obtain ⟨cluster, resolved, compiled⟩ := compile_eq_ok.mp compiled
    have settled := Cluster.settled_of_resolve resolved
    obtain ⟨declarations, declared, made, -⟩ := Cluster.compile_eq_ok.mp compiled
    rcases (settled.isFounded_of_ofDeclarations declared made).closed targets with
      inside | pseudo | metric
    · exact .inl inside
    · exact .inr (.inl pseudo)
    · exact .inr (.inr (settled.exists_metricDependsOn metric))

/-- The alarm of a service may depend on a queue that is not generated. -/
theorem compile_closed_queue : ∃ template,
    compile (.ofService "dev" "shop")
        (.minimal "main" [(ServiceSpec.minimal "web" "nginx").scalingIn ["Queue"]]) = .ok template ∧
      template.Targets "ShopMainWebAutoScalingAlarmInDev" "Queue" ∧
        ("Queue" ∈ template.resources.keys ∨ "Queue".startsWith "AWS::" = true ∨
          ∃ service ∈ [(ServiceSpec.minimal "web" "nginx").scalingIn ["Queue"]],
            "Queue" ∈ service.metricDependsOn) := by
  obtain ⟨template, compiled, listed⟩ : ∃ template,
      compile (.ofService "dev" "shop")
          (.minimal "main" [(ServiceSpec.minimal "web" "nginx").scalingIn ["Queue"]]) = .ok template ∧
        (template.resources.get? "ShopMainWebAutoScalingAlarmInDev").any
          (·.dependsOn.contains "Queue") = true :=
    exists_of_passes (by decide +kernel)
  have targets : template.Targets "ShopMainWebAutoScalingAlarmInDev" "Queue" := by
    obtain ⟨alarm, found, depends⟩ := (Option.any_eq_true _ _).mp listed
    exact .inl ⟨alarm, Registry.get?_eq_some.mp found, .inr (by simpa using depends)⟩
  exact ⟨template, compiled, targets, (compile_closed _ _).2.2 template compiled _ _ targets⟩

end ClusterStack
