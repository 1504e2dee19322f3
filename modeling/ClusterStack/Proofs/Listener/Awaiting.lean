import ClusterStack.Proofs.Balancer.Access
import ClusterStack.Proofs.Listener.Registration

/-!
# Awaited rules

A service waits for its own listener rules: for each of its attached listeners in turn, for the rules of its
routing in turn. These are all the rules that forward to the target groups with which it registers, and no rule
is named twice, since the names of two rules are different whatever their ports and places are.
-/

set_option autoImplicit false

namespace ClusterStack

/-- One of the registrations of the service is with this target group. -/
def Resource.RegistersWith (service : Resource) (group : String) : Prop :=
  ∃ entry ∈ service.registrations, entry.get? "TargetGroupArn" = some (.ref group)

namespace Service

variable {service : Service} {scope : ServiceScope}

theorem registersWith_serviceResource {group : String} :
    (service.serviceResource scope).RegistersWith group ↔
      ∃ listener ∈ service.attachedListeners, listener.targetGroup = group := by
  have registered : ∀ listener, (service.targetEntry listener).get? "TargetGroupArn" =
      some (.ref listener.targetGroup) := fun _ => rfl
  simp [Resource.RegistersWith, registrations_serviceResource, registered]

end Service

/-- The resource of the service waits for its rules: for each of them once, in this order, and for no others. -/
structure Template.Awaits (template : Template) (deployment : Deployment) (spec : ClusterSpec)
    (service : ServiceSpec) (resource : Resource) : Prop where
  distinct : resource.dependsOn.Nodup
  own : ∀ name, name ∈ resource.dependsOn ↔
    ∃ rule group, (name, rule) ∈ template.resources.entries ∧ resource.RegistersWith group ∧
      rule.IsRuleFor group
  registered : ∀ group, resource.RegistersWith group ↔ ∃ listener port protocol,
    spec.Attaches service listener port protocol ∧ spec.targetGroupId deployment service port = group
  inOrder : resource.dependsOn = spec.ruleIds deployment service
  rules : ∀ listener port protocol, spec.Attaches service listener port protocol →
    ∀ index < service.ruleCount, ∃ route rule, service.Routes index route ∧
      (spec.ruleId deployment service port protocol index, rule) ∈ template.resources.entries ∧
      rule.Implements service listener route (spec.targetGroupId deployment service port)

private theorem flatMap_filterMap {α β γ : Type} {f : α → Option β} {g : β → List γ} {h : α → List γ}
    {items : List α} (each : ∀ item ∈ items, ∃ result, f item = some result ∧ h item = g result) :
    items.flatMap h = (items.filterMap f).flatMap g := by
  induction items with
  | nil => rfl
  | cons item rest ih =>
    obtain ⟨⟨result, found, same⟩, others⟩ := List.forall_mem_cons.mp each
    rw [List.flatMap_cons, List.filterMap_cons_some found, List.flatMap_cons, same, ih others]

section Compiled

variable {deployment : Deployment} {spec : ClusterSpec} {cluster : Cluster} {template : Template}
  {declarations : List Declaration} {service other : Service} {listener otherListener : Listener}

namespace Cluster.Settled

variable (settled : cluster.Settled deployment spec)

include settled

/-- Rules of one name are the same rule: their names tell the service, the port and the place. -/
theorem eq_of_ruleName_eq (member : service ∈ cluster.services) (otherMember : other ∈ cluster.services)
    (attached : listener ∈ service.attachedListeners)
    (otherAttached : otherListener ∈ other.attachedListeners) {index otherIndex : Nat}
    (same : listener.ruleName index = otherListener.ruleName otherIndex) :
    service = other ∧ listener = otherListener ∧ index = otherIndex := by
  obtain ⟨listed, isAttached⟩ := Service.mem_attachedListeners.mp attached
  obtain ⟨otherListed, otherIsAttached⟩ := Service.mem_attachedListeners.mp otherAttached
  have ofListener := (settled.service member).2.listeners listener listed
  have ofOther := (settled.service otherMember).2.listeners otherListener otherListed
  obtain ⟨protocol, declares⟩ := ofListener.exists_protocol isAttached
  obtain ⟨otherProtocol, otherDeclares⟩ := ofOther.exists_protocol otherIsAttached
  rw [ofListener.ruleName protocol declares, ofOther.ruleName otherProtocol otherDeclares] at same
  have plain : ∀ owner protocol port index,
      (⟨owner, .listenerRule, .rule protocol port index⟩ : Label).IsPlain :=
    fun _ _ _ _ => ⟨trivial, by simp⟩
  have labels := Label.eq_of_idOf_eq (plain _ _ _ _) (plain _ _ _ _) same
  simp only [Label.mk.injEq, Mark.rule.injEq, true_and] at labels
  obtain ⟨prefixes, -, ports, indices⟩ := labels
  obtain ⟨services, listeners⟩ :=
    settled.eq_of_port_eq member otherMember listed otherListed prefixes ports
  exact ⟨services, listeners, indices⟩

theorem nodup_ruleNames (member : service ∈ cluster.services) : service.ruleNames.Nodup := by
  have listeners : service.attachedListeners.Nodup :=
    (List.Nodup.of_map _ (settled.service member).2.ports).sublist List.filter_sublist
  -- The rules of one listener differ in their places, and two listeners of a service in their ports.
  refine List.nodup_flatMap.mpr ⟨?_, ?_⟩
  · intro listener attached
    refine List.nodup_range.map fun index otherIndex same => ?_
    exact (settled.eq_of_ruleName_eq member member attached attached same).2.2
  · refine listeners.imp_of_mem fun attached otherAttached different name here there => ?_
    obtain ⟨index, -, rfl⟩ := List.mem_map.mp here
    obtain ⟨otherIndex, -, same⟩ := List.mem_map.mp there
    exact different (settled.eq_of_ruleName_eq member member otherAttached attached same).2.1.symm

/-- The rules of a service have the names that its description tells, in the same order. -/
theorem ruleNames_eq (member : service ∈ cluster.services) :
    service.ruleNames = spec.ruleIds deployment service.spec := by
  have describes := settled.describes member
  have each := (settled.service member).2.listeners
  unfold ClusterSpec.ruleIds
  split
  case isTrue disabled =>
    have unattached : service.attachedListeners = [] := by
      refine List.filter_eq_nil_iff.mpr fun listener listed => ?_
      simp [(each listener listed).isAttached, disabled]
    rw [Service.ruleNames, unattached]
    rfl
  case isFalse enabled =>
    have demands : service.attachedListeners.filterMap (·.demand?) = service.spec.demands := by
      rw [← describes.demands, Service.attachedListeners, List.filterMap_filter]
      refine List.filterMap_congr fun listener listed => ?_
      rw [(each listener listed).isAttached, Bool.eq_false_iff.mpr enabled]
      cases declared : listener.protocol <;> simp [Listener.demand?, declared]
    rw [← demands]
    refine flatMap_filterMap fun listener attached => ?_
    obtain ⟨given, port, protocol, -, realizes⟩ := settled.exists_attaches member attached
    refine ⟨(port, protocol), by rw [Listener.demand?, realizes.declares, realizes.onPort]; rfl, ?_⟩
    rw [Listener.ruleNames, describes.routing, Routing.length_rules]
    exact List.map_congr_left fun index _ => realizes.ruleName index

theorem registersWith_iff (member : service ∈ cluster.services) (scope : ServiceScope) {group : String} :
    (service.serviceResource scope).RegistersWith group ↔ ∃ listener port protocol,
      spec.Attaches service.spec listener port protocol ∧
        spec.targetGroupId deployment service.spec port = group := by
  rw [Service.registersWith_serviceResource]
  constructor
  · intro registered
    obtain ⟨listener, attached, rfl⟩ := registered
    obtain ⟨given, port, protocol, attaches, realizes⟩ := settled.exists_attaches member attached
    exact ⟨given, port, protocol, attaches, realizes.targetGroup.symm⟩
  · intro described
    obtain ⟨given, port, protocol, attaches, rfl⟩ := described
    obtain ⟨owner, ownerMember, listener, attached, same, realizes⟩ := settled.exists_attached attaches
    obtain rfl := settled.eq_of_spec_eq ownerMember member same
    exact ⟨listener, attached, realizes.targetGroup⟩

theorem awaits (declared : cluster.declarations deployment = .ok declarations)
    (made : Template.ofDeclarations declarations = .ok template) (member : service ∈ cluster.services)
    (scope : ServiceScope) :
    template.Awaits deployment spec service.spec (service.serviceResource scope) := by
  have names : (service.serviceResource scope).dependsOn = service.ruleNames := rfl
  constructor
  case distinct =>
    rw [names]
    exact settled.nodup_ruleNames member
  case own =>
    intro name
    rw [names, Service.mem_ruleNames]
    simp only [Service.registersWith_serviceResource]
    constructor
    · intro listed
      obtain ⟨listener, attached, index, bound, rfl⟩ := listed
      obtain ⟨arn, -, -, entered⟩ := exists_entries declared made member attached
      have routes := listener.routesTo_ruleResource service.routing arn service.routing.rules[index]
      exact ⟨_, _, entered index _ (List.getElem?_eq_getElem bound), ⟨listener, attached, rfl⟩,
        routes.kind, routes.forwards⟩
    · intro forwards
      obtain ⟨rule, group, present, ⟨listener, attached, rfl⟩, isRule⟩ := forwards
      have listed := (Service.mem_attachedListeners.mp attached).1
      obtain ⟨index, bound, rfl⟩ :=
        settled.ruleName_of_isRuleFor declared made member listed present isRule
      exact ⟨listener, attached, index, bound, rfl⟩
  case registered => exact fun group => settled.registersWith_iff member scope
  case inOrder => exact settled.ruleNames_eq member
  case rules =>
    intro given port protocol attaches index bound
    obtain ⟨owner, ownerMember, listener, attached, same, realizes⟩ := settled.exists_attached attaches
    obtain rfl := settled.eq_of_spec_eq ownerMember member same
    obtain ⟨arn, -, serves⟩ := settled.exists_serves declared made member attached realizes
    obtain ⟨route, routes⟩ := ServiceSpec.exists_routes bound
    obtain ⟨rule, present, leads, -⟩ := serves.rules index route routes
    exact ⟨route, rule, routes, present, leads⟩

end Cluster.Settled

/-- Every service of a template waits for its own rules, and never for one of another service. -/
theorem compile_awaits (compiled : compile deployment spec = .ok template) {described : ServiceSpec}
    (given : described ∈ spec.services) :
    ∃ resource, (spec.serviceId deployment described, resource) ∈ template.resources.entries ∧
      resource.kind = .ecsService ∧ template.Awaits deployment spec described resource ∧
      ∀ other ∈ spec.services, other ≠ described → ∀ listener port protocol,
        spec.Attaches other listener port protocol →
          ∀ index, spec.ruleId deployment other port protocol index ∉ resource.dependsOn := by
  obtain ⟨cluster, resolved, compiled⟩ := compile_eq_ok.mp compiled
  obtain ⟨declarations, declared, made, -⟩ := Cluster.compile_eq_ok.mp compiled
  have settled := Cluster.settled_of_resolve resolved
  obtain ⟨service, member, resolves⟩ := exists_of_forall₂_left settled.specs given
  obtain rfl := (Service.describes_of_resolve resolves).given
  have core := Cluster.coreDeclarations_subset declared member
    (Service.mem_coreDeclarations.mpr (.inl rfl))
  refine ⟨service.serviceResource (cluster.serviceScope deployment), ?_, rfl,
    settled.awaits declared made member _, ?_⟩
  · rw [← settled.serviceId_eq member]
    exact Template.mem_of_resource made core
  · intro other _ different listener port protocol attaches index named
    obtain ⟨owner, ownerMember, ruled, attached, rfl, realizes⟩ := settled.exists_attached attaches
    obtain ⟨own, ownAttached, place, -, same⟩ := Service.mem_ruleNames.mp named
    rw [← realizes.ruleName] at same
    exact different (congrArg _ (settled.eq_of_ruleName_eq ownerMember member attached ownAttached same).1)

end Compiled

/-- A service on two ports, of which one begins with the digits of the other. -/
def sharedDigitsService : ServiceSpec :=
  { ServiceSpec.minimal "web" "nginx" with
    listeners := [{ ListenerSpec.minimal .http with port := some 80 },
      { ListenerSpec.minimal .http with port := some 801 }]
    path := some (.rules [.path "/a", .path "/b"]) }

def sharedDigitsCluster : ClusterSpec :=
  .minimal "api" [sharedDigitsService]

/-- Its rules, in the order in which it waits for them. -/
def sharedDigitsRules : List String :=
  ["MyappApiWebALBListenerRuleDevHTTP80Rule0", "MyappApiWebALBListenerRuleDevHTTP80Rule1",
    "MyappApiWebALBListenerRuleDevHTTP801Rule0", "MyappApiWebALBListenerRuleDevHTTP801Rule1"]

/-- The service waits for its four rules. -/
theorem compile_awaits_sharedDigitsCluster : ∃ template resource,
    compile (.ofService "dev" "my-app") sharedDigitsCluster = .ok template ∧
      ("MyappApiWebServiceDev", resource) ∈ template.resources.entries ∧
      template.Awaits (.ofService "dev" "my-app") sharedDigitsCluster sharedDigitsService resource ∧
      resource.dependsOn = sharedDigitsRules := by
  obtain ⟨template, compiled⟩ : ∃ template,
      compile (.ofService "dev" "my-app") sharedDigitsCluster = .ok template :=
    exists_of_isOk (by decide +kernel)
  obtain ⟨resource, present, -, awaits, -⟩ := compile_awaits compiled (.head _)
  have named : sharedDigitsCluster.serviceId (.ofService "dev" "my-app") sharedDigitsService =
      "MyappApiWebServiceDev" := by decide +kernel
  have ids : sharedDigitsCluster.ruleIds (.ofService "dev" "my-app") sharedDigitsService =
      sharedDigitsRules := by decide +kernel
  rw [named] at present
  exact ⟨template, resource, compiled, present, awaits, awaits.inOrder.trans ids⟩

end ClusterStack
