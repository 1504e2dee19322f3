import ClusterStack.Proofs.Compile.LogGroups
import ClusterStack.Proofs.Listener.Agreement

/-!
# Registered target groups

A service registers with the target group of each of its attached listeners, and waits for their rules,
one for each entry of its routing. So it waits for a rule that forwards to the target group, as long as the
routing has an entry: it has one if the path is left out, but not if the list of paths is empty.
-/

set_option autoImplicit false

namespace ClusterStack

/-- How a service is connected to target groups. -/
def Resource.registrations (service : Resource) : List Value :=
  ((service.property? "LoadBalancers").bind Value.asList?).getD []

/-- The resource is a listener rule that forwards to the target group. -/
def Resource.IsRuleFor (rule : Resource) (group : String) : Prop :=
  rule.kind = .listenerRule ∧ ∃ action ∈ rule.actions "Actions", action.ForwardsTo group

/-- Of the rules that the service depends on, one forwards to the target group. -/
def Template.Routes (template : Template) (service : Resource) (group : String) : Prop :=
  ∃ key rule, (key, rule) ∈ template.resources.entries ∧ rule.IsRuleFor group ∧ key ∈ service.dependsOn

theorem Routing.rulesOfSpec_eq_nil {spec : ServiceSpec} :
    rulesOfSpec spec = [] ↔ spec.path = some (.rules []) := by
  unfold rulesOfSpec
  cases spec.path with
  | none => simp
  | some path => cases path <;> simp

namespace Service

theorem registrations_serviceResource (service : Service) (scope : ServiceScope) :
    (service.serviceResource scope).registrations = service.attachedListeners.map service.targetEntry := by
  have given : (service.serviceResource scope).property? "LoadBalancers" =
      Value.listOf? service.attachedListeners service.targetEntry := by
    rw [serviceResource, Resource.property?_make]
    · rfl
    · cases service.launchType <;> simp [LaunchType.placementProperties]
  rw [Resource.registrations, given]
  cases service.attachedListeners with
  | nil => rfl
  | cons listener rest => rfl

end Service

section Compiled

variable {deployment : Deployment} {spec : ClusterSpec} {cluster : Cluster} {template : Template}
  {declarations : List Declaration} {service : Service} {listener : Listener}

theorem CompiledCluster.Compiles.service_of_mem {part : CompiledCluster}
    (compiles : part.Compiles deployment spec) {key : String} {resource : Resource}
    (member : (key, resource) ∈ part.template.resources.entries) (kind : resource.kind = .ecsService) :
    ∃ service ∈ part.cluster.services, key = service.logicalId ∧
      resource = service.serviceResource (part.cluster.serviceScope deployment) := by
  obtain ⟨service, present, core⟩ := compiles.exists_core member (by rw [kind]; decide)
  rcases Service.mem_coreDeclarations.mp core with same | same | same | ⟨_, _, same⟩ <;> cases same
  · exact ⟨service, present, rfl, rfl⟩
  · cases kind
  · cases kind
  · cases kind

namespace Cluster.Settled

theorem routes_of_rules (declared : cluster.declarations deployment = .ok declarations)
    (made : Template.ofDeclarations declarations = .ok template) (member : service ∈ cluster.services)
    (attached : listener ∈ service.attachedListeners) (rules : service.routing.rules ≠ [])
    (scope : ServiceScope) : template.Routes (service.serviceResource scope) listener.targetGroup := by
  obtain ⟨arn, -, -, entered⟩ := exists_entries declared made member attached
  have bound : 0 < service.routing.rules.length := List.length_pos_iff.mpr rules
  have present := entered 0 _ (List.getElem?_eq_getElem bound)
  have routes := listener.routesTo_ruleResource service.routing arn service.routing.rules[0]
  exact ⟨listener.ruleName 0, _, present, ⟨routes.kind, routes.forwards⟩,
    Service.mem_ruleNames.mpr ⟨listener, attached, 0, bound, rfl⟩⟩

/-- Only the rules of a listener forward to its target group. -/
theorem ruleName_of_isRuleFor (settled : cluster.Settled deployment spec)
    (declared : cluster.declarations deployment = .ok declarations)
    (made : Template.ofDeclarations declarations = .ok template) (member : service ∈ cluster.services)
    (listed : listener ∈ service.listeners) {key : String} {rule : Resource}
    (present : (key, rule) ∈ template.resources.entries) (isRule : rule.IsRuleFor listener.targetGroup) :
    ∃ index < service.routing.rules.length, key = listener.ruleName index := by
  obtain ⟨kind, action, among, forwards⟩ := isRule
  obtain ⟨declaration, given, entry⟩ := Template.exists_declaration_of_mem made present
  have ruleKind : declaration.kind? = some .listenerRule := by
    rw [Declaration.kind?, entry, Option.map_some, kind]
  obtain ⟨owner, ownerMember, ruled, attached, arn, -, index, bound, rfl⟩ :=
    listenerRule_of_mem declared given ruleKind
  cases entry
  rw [Listener.actions_ruleResource] at among
  have same := Listener.eq_of_forwardsTo among forwards
  have ruledListed := (Service.mem_attachedListeners.mp attached).1
  obtain ⟨rfl, rfl⟩ := settled.eq_of_targetGroup_eq member ownerMember listed ruledListed same
  exact ⟨index, bound, rfl⟩

theorem rules_of_isRuleFor (settled : cluster.Settled deployment spec)
    (declared : cluster.declarations deployment = .ok declarations)
    (made : Template.ofDeclarations declarations = .ok template) (member : service ∈ cluster.services)
    (listed : listener ∈ service.listeners) {key : String} {rule : Resource}
    (present : (key, rule) ∈ template.resources.entries) (isRule : rule.IsRuleFor listener.targetGroup) :
    service.routing.rules ≠ [] := by
  obtain ⟨index, bound, -⟩ := settled.ruleName_of_isRuleFor declared made member listed present isRule
  exact List.ne_nil_of_length_pos (Nat.lt_of_le_of_lt (Nat.zero_le index) bound)

end Cluster.Settled

/-- Where a service registers with a target group, it waits for a rule that forwards to this, unless the
list of its paths is empty. In this case it waits for nothing, and no rule at all forwards there. -/
theorem compile_routes_iff (compiled : compile deployment spec = .ok template) {key : String}
    {resource : Resource} (present : (key, resource) ∈ template.resources.entries)
    (kind : resource.kind = .ecsService) {entry : Value} (registered : entry ∈ resource.registrations) :
    ∃ described ∈ spec.services, ∃ group,
      key = deployment.logicalId (spec.clusterPrefix deployment ++ normalizeName described.name) .service ∧
      entry.get? "TargetGroupArn" = some (.ref group) ∧
      (template.Routes resource group ↔ described.path ≠ some (.rules [])) ∧
      (described.path = some (.rules []) → resource.dependsOn = [] ∧
        ∀ name rule, (name, rule) ∈ template.resources.entries → ¬rule.IsRuleFor group) := by
  obtain ⟨cluster, resolved, clusterCompiled⟩ := compile_eq_ok.mp compiled
  obtain ⟨declarations, declared, made, -⟩ := Cluster.compile_eq_ok.mp clusterCompiled
  have settled := Cluster.settled_of_resolve resolved
  have compiles : CompiledCluster.Compiles deployment spec ⟨cluster, template⟩ :=
    ⟨resolved, clusterCompiled⟩
  obtain ⟨service, member, rfl, rfl⟩ := compiles.service_of_mem present kind
  rw [Service.registrations_serviceResource] at registered
  obtain ⟨listener, attached, rfl⟩ := List.mem_map.mp registered
  obtain ⟨described, given, ofSpec⟩ := exists_of_forall₂_right settled.specs member
  have describes := Service.describes_of_resolve ofSpec
  have rules : service.routing.rules = [] ↔ described.path = some (.rules []) := by
    rw [describes.routing]
    exact Routing.rulesOfSpec_eq_nil
  have listed := (Service.mem_attachedListeners.mp attached).1
  refine ⟨described, given, listener.targetGroup, ?_, rfl, ⟨?_, ?_⟩, ?_⟩
  · rw [(settled.service member).2.logicalId, describes.servicePrefix, settled.clusterPrefix,
      deployment.logicalId_eq_idOf]
    rfl
  · intro routes
    obtain ⟨name, rule, inside, isRule, -⟩ := routes
    exact rules.not.mp (settled.rules_of_isRuleFor declared made member listed inside isRule)
  · intro routed
    exact Cluster.Settled.routes_of_rules declared made member attached (rules.not.mpr routed) _
  · intro unrouted
    have none := rules.mpr unrouted
    refine ⟨?_, fun name rule inside isRule => ?_⟩
    · change service.ruleNames = []
      simp [Service.ruleNames, Listener.ruleNames, none]
    · exact settled.rules_of_isRuleFor declared made member listed inside isRule none

end Compiled

/-- Two services that share a port of the load balancer. The second has a list of paths, which is empty. -/
def unroutedCluster : ClusterSpec :=
  .minimal "api" [
    (ServiceSpec.minimal "web" "nginx").listening [.minimal .http],
    { (ServiceSpec.minimal "docs" "nginx").listening [.minimal .http] with path := some (.rules []) }]

/-- The service under the key registers with the target group, and depends on this many resources. -/
private def Template.registersWith (template : Template) (key group : String) (dependencies : Nat) : Bool :=
  (template.resources.get? key).any fun service =>
    service.kind == .ecsService && (service.dependsOn.length == dependencies &&
      service.registrations.any fun entry =>
        match entry.get? "TargetGroupArn" with
        | some (.ref target) => target == group
        | _ => false)

private theorem exists_registration {template : Template} {key group : String} {dependencies : Nat}
    (registers : template.registersWith key group dependencies = true) :
    ∃ service entry, (key, service) ∈ template.resources.entries ∧ service.kind = .ecsService ∧
      service.dependsOn.length = dependencies ∧ entry ∈ service.registrations ∧
      entry.get? "TargetGroupArn" = some (.ref group) := by
  obtain ⟨service, present, holds⟩ := (Option.any_eq_true _ _).mp registers
  simp only [Bool.and_eq_true, beq_iff_eq, List.any_eq_true] at holds
  obtain ⟨kind, length, entry, registered, target⟩ := holds
  refine ⟨service, entry, Registry.get?_eq_some.mp present, kind, length, registered, ?_⟩
  split at target
  · rename_i found
    rw [found, beq_iff_eq.mp target]
  · cases target

private theorem compile_unroutedCluster : ∃ template,
    compile (.ofService "dev" "my-app") unroutedCluster = .ok template ∧
    template.registersWith "MyappApiWebServiceDev" "MyappApiWebTargetGroupDev80" 1 = true ∧
    template.registersWith "MyappApiDocsServiceDev" "MyappApiDocsTargetGroupDev80" 0 = true := by
  obtain ⟨template, compiled, registers⟩ : ∃ template,
      compile (.ofService "dev" "my-app") unroutedCluster = .ok template ∧
        (template.registersWith "MyappApiWebServiceDev" "MyappApiWebTargetGroupDev80" 1 &&
          template.registersWith "MyappApiDocsServiceDev" "MyappApiDocsTargetGroupDev80" 0) = true :=
    exists_of_passes (by decide +kernel)
  exact ⟨template, compiled, Bool.and_eq_true_iff.mp registers⟩

/-- The second service registers with a target group, and no rule that it waits for forwards there. -/
theorem compile_unrouted : ∃ template service entry,
    compile (.ofService "dev" "my-app") unroutedCluster = .ok template ∧
    ("MyappApiDocsServiceDev", service) ∈ template.resources.entries ∧ service.kind = .ecsService ∧
    entry ∈ service.registrations ∧
    entry.get? "TargetGroupArn" = some (.ref "MyappApiDocsTargetGroupDev80") ∧
    ¬template.Routes service "MyappApiDocsTargetGroupDev80" := by
  obtain ⟨template, compiled, -, registers⟩ := compile_unroutedCluster
  obtain ⟨service, entry, present, kind, length, registered, target⟩ := exists_registration registers
  refine ⟨template, service, entry, compiled, present, kind, registered, target, ?_⟩
  intro routes
  obtain ⟨name, rule, -, -, depends⟩ := routes
  rw [List.length_eq_zero_iff.mp length] at depends
  cases depends

/-- The first service waits for the rule that forwards to its own target group. -/
theorem compile_routes_iff_unroutedCluster : ∃ template service entry,
    compile (.ofService "dev" "my-app") unroutedCluster = .ok template ∧
    ("MyappApiWebServiceDev", service) ∈ template.resources.entries ∧ service.kind = .ecsService ∧
    entry ∈ service.registrations ∧
    entry.get? "TargetGroupArn" = some (.ref "MyappApiWebTargetGroupDev80") ∧
    template.Routes service "MyappApiWebTargetGroupDev80" := by
  obtain ⟨template, compiled, registers, -⟩ := compile_unroutedCluster
  obtain ⟨service, entry, present, kind, -, registered, target⟩ := exists_registration registers
  obtain ⟨described, given, group, key, alsoTarget, routes, -⟩ :=
    compile_routes_iff compiled present kind registered
  have same : "MyappApiWebTargetGroupDev80" = group := by
    rw [target, Option.some.injEq, Value.ref.injEq] at alsoTarget
    exact alsoTarget
  -- Of the two services described, the key is that of the first, which has no list of paths.
  have paths : ∀ service ∈ unroutedCluster.services, "MyappApiWebServiceDev" =
      (Deployment.ofService "dev" "my-app").logicalId
        (unroutedCluster.clusterPrefix (.ofService "dev" "my-app") ++ normalizeName service.name) .service →
      service.path ≠ some (.rules []) := by decide +kernel
  exact ⟨template, service, entry, compiled, present, kind, registered, target,
    same ▸ routes.mpr (paths described given key)⟩

end ClusterStack
