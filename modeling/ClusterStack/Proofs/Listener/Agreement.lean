import ClusterStack.Proofs.Listener.Gating

/-!
# What is generated for an attached listener

The rules of a listener forward to its target group, which has the port of the container. They belong
to the one listener of the load balancer on the port, or to that which the description supplies; and
the address at which the listener is reached is that of the former.
-/

set_option autoImplicit false

namespace ClusterStack

/-- The rule forwards what it matches to this target group, and to no other. -/
structure Resource.RoutesTo (rule : Resource) (target : String) : Prop where
  kind : rule.kind = .listenerRule
  forwards : ∃ action ∈ rule.actions "Actions", action.ForwardsTo target
  only : ∀ action ∈ rule.actions "Actions", ∀ other, action.ForwardsTo other → other = target

/-- The rule matches what a rule of the description asks for, and forwards it to this target group. -/
structure Resource.Implements (rule : Resource) (service : ServiceSpec) (listener : ListenerSpec)
    (route : RouteRule) (target : String) : Prop extends rule.RoutesTo target where
  priority : rule.property? "Priority" = some (.ofNat route.priority)
  conditions : rule.property? "Conditions" = some (.list (service.conditions listener route))

namespace Template

/-- The listener of the load balancer under the key has the port, which no other has, and the protocol. -/
structure ListensOn (template : Template) (port : UInt16) (protocol : AlbProtocol) (key : String) :
    Prop where
  present : ∃ resource, (key, resource) ∈ template.resources.entries ∧
    resource.kind = .loadBalancerListener ∧
    resource.property? "Port" = some (.ofNat port.toNat) ∧
    resource.property? "Protocol" = some (.string protocol.text)
  alone : ∀ other resource, (other, resource) ∈ template.resources.entries →
    resource.kind = .loadBalancerListener → resource.property? "Port" = some (.ofNat port.toNat) →
      other = key

/-- There are a target group for the described listener, on its port of the container, and a rule for each that
the description gives, which belongs to the listener with this ARN. -/
structure Serves (template : Template) (deployment : Deployment) (spec : ClusterSpec) (service : ServiceSpec)
    (listener : ListenerSpec) (port : UInt16) (protocol : AlbProtocol) (arn : Value) : Prop where
  targetGroup : ∃ group,
    (spec.targetGroupId deployment service port, group) ∈ template.resources.entries ∧
      group.kind = .targetGroup ∧
      group.property? "Port" = some (.ofNat (listener.containerPort.getD port).toNat)
  rules : ∀ index route, service.Routes index route → ∃ rule,
    (spec.ruleId deployment service port protocol index, rule) ∈ template.resources.entries ∧
      rule.Implements service listener route (spec.targetGroupId deployment service port) ∧
      rule.property? "ListenerArn" = some arn

end Template

theorem Listener.routesTo_ruleResource (listener : Listener) (routing : Routing) (arn : Value)
    (rule : RouteRule) : (listener.ruleResource routing arn rule).RoutesTo listener.targetGroup := by
  refine ⟨rfl, ?_, fun action member other forwards => eq_of_forwardsTo member forwards⟩
  rw [actions_ruleResource, Listener.actions]
  cases listener.gate? with
  | none => exact ⟨_, .head _, forwardsTo_forwardAction.mpr rfl⟩
  | some authorizer => exact ⟨_, .tail _ (.head _), forwardsTo_forwardAction.mpr rfl⟩

/-- The conditions of a rule are told by the description. -/
theorem Listener.conditions_eq {listener : Listener} {given : ListenerSpec}
    (gate : listener.gate? = given.gate?) (service : ServiceSpec) (rule : RouteRule) :
    listener.conditions (.ofSpec service) rule = service.conditions given rule := by
  simp only [conditions, ServiceSpec.conditions, gate, Routing.ofSpec, List.cons_append, List.nil_append,
    Option.toList_map, List.map_map]
  rfl

theorem Service.port_targetGroupResource (service : Service) (scope : ServiceScope) (listener : Listener) :
    (service.targetGroupResource scope listener).property? "Port" =
      some (.ofNat listener.containerPort.toNat) := by
  rw [targetGroupResource, Resource.property?_make (by simp)]
  rfl

namespace Balancer

variable {balancer : Balancer}

theorem port_listenerResource (balancer : Balancer) (listener : PortListener) :
    (balancer.listenerResource listener).property? "Port" = some (.ofNat listener.port.toNat) := by
  rw [listenerResource, Resource.property?_make (by simp)]
  rfl

theorem protocol_listenerResource (balancer : Balancer) (listener : PortListener) :
    (balancer.listenerResource listener).property? "Protocol" = some (.string listener.protocol.text) := by
  rw [listenerResource, Resource.property?_make (by simp)]
  rfl

theorem port_eq_of_property? {listener : PortListener} {port : UInt16}
    (given : (balancer.listenerResource listener).property? "Port" = some (.ofNat port.toNat)) :
    listener.port = port := by
  rw [port_listenerResource, Option.some.injEq, Value.ofNat, Value.ofNat, Value.int.injEq, Int.natCast_inj,
    UInt16.toNat_inj] at given
  exact given

theorem listenerArn_of_external {supplied : Value} (mode : balancer.mode = .external supplied)
    (service : String) (port : UInt16) : balancer.listenerArn service port = .ok supplied := by
  rw [listenerArn, mode]

end Balancer

namespace Cluster.Settled

variable {deployment : Deployment} {spec : ClusterSpec} {cluster : Cluster} {template : Template}
  {declarations : List Declaration}

/-- A generated load balancer listens once on the port of every listener that declares a protocol. -/
theorem exists_listensOn (settled : cluster.Settled deployment spec)
    (declared : cluster.declarations deployment = .ok declarations)
    (made : Template.ofDeclarations declarations = .ok template)
    (managed : cluster.balancer.mode = .managed) {service : Service} (member : service ∈ cluster.services)
    {listener : Listener} (listed : listener ∈ service.listeners) {protocol : AlbProtocol}
    (declares : listener.protocol = some protocol) :
    ∃ key, cluster.balancer.listenerArn service.name listener.port = .ok (.ref key) ∧
      template.ListensOn listener.port protocol key := by
  have isManaged : cluster.balancer.isManaged = true := by rw [Balancer.isManaged, managed]; rfl
  have collected := settled.balancer.listeners (Balancer.isDisabled_of_isManaged isManaged)
  have entry := Balancer.mem_serviceListeners.mpr ⟨member, listed⟩
  obtain ⟨port, opened, found, samePort, agrees⟩ := collected.find? entry declares
  refine ⟨port.name, by rw [Balancer.listenerArn, managed]; simp only [found], ?_, ?_⟩
  · have ofBalancer : .resource port.name (cluster.balancer.listenerResource port) ∈ declarations :=
      balancerDeclarations_subset declared (Balancer.listener_mem_declarations isManaged opened)
    refine ⟨_, Template.mem_of_resource made ofBalancer, rfl, ?_, ?_⟩
    · rw [Balancer.port_listenerResource, samePort]
    · rw [Balancer.protocol_listenerResource, agrees]
  · intro other resource present kind onPort
    obtain ⟨declaration, given, asResource⟩ := Template.exists_declaration_of_mem made present
    have portKind : declaration.kind? = some .loadBalancerListener := by
      rw [Declaration.kind?, asResource, Option.map_some, kind]
    obtain ⟨-, second, secondOpened, rfl⟩ := loadBalancerListener_of_mem declared given portKind
    cases asResource
    have secondPort := Balancer.port_eq_of_property? onPort
    rw [List.inj_on_of_nodup_map collected.distinct secondOpened opened (secondPort.trans samePort.symm)]

theorem exists_entries (declared : cluster.declarations deployment = .ok declarations)
    (made : Template.ofDeclarations declarations = .ok template) {service : Service}
    (member : service ∈ cluster.services) {listener : Listener}
    (attached : listener ∈ service.attachedListeners) :
    ∃ arn, cluster.balancer.listenerArn service.name listener.port = .ok arn ∧
      (listener.targetGroup, service.targetGroupResource (cluster.serviceScope deployment) listener) ∈
        template.resources.entries ∧
      ∀ index rule, service.routing.rules[index]? = some rule →
        (listener.ruleName index, listener.ruleResource service.routing arn rule) ∈
          template.resources.entries := by
  obtain ⟨part, partDeclared, within⟩ := exists_service_declarations declared member
  obtain ⟨arn, found⟩ := Service.exists_listenerArn partDeclared attached
  have inside : ∀ declaration, declaration ∈ listener.ruleDeclarations service.routing arn ∨
      declaration = .resource listener.targetGroup
        (service.targetGroupResource (cluster.serviceScope deployment) listener) →
          declaration ∈ declarations := by
    intro declaration ofListener
    exact within ((Service.mem_declarations partDeclared).mpr
      (.inr (.inl ⟨listener, attached, arn, found, ofListener⟩)))
  refine ⟨arn, found, Template.mem_of_resource made (inside _ (.inr rfl)), ?_⟩
  intro index rule placed
  obtain ⟨bound, rfl⟩ := List.getElem?_eq_some_iff.mp placed
  exact Template.mem_of_resource made (inside _ (.inl (Listener.mem_ruleDeclarations.mpr
    ⟨(Service.mem_attachedListeners.mp attached).2, index, bound, rfl⟩)))

theorem exists_serves (settled : cluster.Settled deployment spec)
    (declared : cluster.declarations deployment = .ok declarations)
    (made : Template.ofDeclarations declarations = .ok template) {service : Service}
    (member : service ∈ cluster.services) {listener : Listener}
    (attached : listener ∈ service.attachedListeners) {given : ListenerSpec} {port : UInt16}
    {protocol : AlbProtocol}
    (realizes : listener.Realizes deployment spec service.spec given port protocol) :
    ∃ arn, cluster.balancer.listenerArn service.name port = .ok arn ∧
      template.Serves deployment spec service.spec given port protocol arn := by
  obtain rfl := realizes.onPort
  obtain ⟨arn, found, group, rules⟩ := exists_entries declared made member attached
  have routing := (settled.describes member).routing
  refine ⟨arn, found, ?_, ?_⟩
  · rw [← realizes.targetGroup, ← realizes.containerPort]
    exact ⟨_, group, rfl, service.port_targetGroupResource _ listener⟩
  · intro index route routes
    have placed : service.routing.rules[index]? = some route := by
      rw [routing]
      exact ServiceSpec.routes_iff.mp routes
    rw [← realizes.ruleName, ← realizes.targetGroup]
    refine ⟨_, rules index route placed, ⟨listener.routesTo_ruleResource _ _ _, rfl, ?_⟩, rfl⟩
    rw [← Listener.conditions_eq realizes.gate, ← routing]
    rfl

theorem loadBalancerId_eq (settled : cluster.Settled deployment spec) :
    cluster.balancer.name = spec.loadBalancerId deployment := by
  rw [settled.balancer.name, settled.clusterPrefix, ← Deployment.logicalId_eq_idOf]
  rfl

theorem mem_outputs (declared : cluster.declarations deployment = .ok declarations)
    (made : Template.ofDeclarations declarations = .ok template)
    (managed : cluster.balancer.mode = .managed) {service : Service} (member : service ∈ cluster.services)
    {listener : Listener} (attached : listener ∈ service.attachedListeners) {protocol : AlbProtocol}
    (declares : listener.protocol = some protocol) :
    ∃ output, (listener.outputKey, output) ∈ template.outputs.entries ∧
      output.value = .join "" [.string protocol.scheme, .string "://", cluster.balancer.dnsName,
        .string ":", .ofNat listener.port.toNat] := by
  obtain ⟨part, partDeclared, within⟩ := exists_service_declarations declared member
  obtain ⟨listed, isAttached⟩ := Service.mem_attachedListeners.mp attached
  have isManaged : cluster.balancer.isManaged = true := by rw [Balancer.isManaged, managed]; rfl
  let output : Output := ⟨"Elastic load balancer service endpoint",
    .join "" [.string protocol.scheme, .string "://", cluster.balancer.dnsName, .string ":",
      .ofNat listener.port.toNat], listener.outputKey⟩
  have ofListener : .output listener.outputKey output ∈
      service.outputDeclarations (cluster.serviceScope deployment) := by
    rw [Service.outputDeclarations, serviceScope, if_pos isManaged]
    refine List.mem_flatMap.mpr ⟨listener, listed, ?_⟩
    rw [Listener.outputDeclarations, declares, isAttached]
    exact .head _
  have inside := within ((Service.mem_declarations partDeclared).mpr
    (.inr (.inr (.inr (.inr ofListener)))))
  rw [Template.outputs_of_ofDeclarations made]
  exact ⟨output, List.mem_filterMap.mpr ⟨_, inside, rfl⟩, rfl⟩

end Cluster.Settled

theorem AlbProtocol.scheme_eq_toLower (protocol : AlbProtocol) : protocol.scheme = protocol.text.toLower := by
  cases protocol <;> decide +kernel

section Compiled

variable {deployment : Deployment} {spec : ClusterSpec} {template : Template} {service : ServiceSpec}
  {listener : ListenerSpec} {port : UInt16} {protocol : AlbProtocol}

/-- For an attached listener there are its target group, and a rule for every routing rule of its
service. The rules belong to the listener that the description supplies, or else to the one listener
of the generated load balancer on the port, which has the protocol. In this case there is an output
with that protocol and that port. -/
theorem compile_agrees (compiled : compile deployment spec = .ok template)
    (attaches : spec.Attaches service listener port protocol) :
    ∃ arn, template.Serves deployment spec service listener port protocol arn ∧
      (∀ supplied, provided? spec.albListenerArn = some supplied → arn = .ofInput supplied) ∧
      (provided? spec.albListenerArn = none → ∃ key output,
        arn = .ref key ∧ template.ListensOn port protocol key ∧
        (spec.endpointKey deployment service port protocol, output) ∈ template.outputs.entries ∧
        output.value = .join "" [.string protocol.text.toLower, .string "://",
          .attribute (spec.loadBalancerId deployment) "DNSName", .string ":", .ofNat port.toNat]) := by
  obtain ⟨cluster, resolved, compiled⟩ := compile_eq_ok.mp compiled
  obtain ⟨declarations, declared, made, -⟩ := Cluster.compile_eq_ok.mp compiled
  have settled := Cluster.settled_of_resolve resolved
  obtain ⟨owner, member, settles, attached, rfl, realizes⟩ := settled.exists_attached attaches
  have listed := (Service.mem_attachedListeners.mp attached).1
  obtain ⟨arn, found, serves⟩ := settled.exists_serves declared made member attached realizes
  refine ⟨arn, serves, ?_, ?_⟩
  · intro supplied given
    rw [Balancer.listenerArn_of_external (settled.mode_eq_external attaches.enabled given)] at found
    exact (Except.ok.inj found).symm
  · intro unsupplied
    have managed := settled.mode_eq_managed attaches.enabled unsupplied
    obtain ⟨key, arnFound, listens⟩ :=
      settled.exists_listensOn declared made managed member listed realizes.declares
    obtain ⟨output, present, value⟩ :=
      Cluster.Settled.mem_outputs declared made managed member attached realizes.declares
    rw [realizes.onPort] at arnFound listens value
    rw [realizes.outputKey] at present
    rw [protocol.scheme_eq_toLower, Balancer.dnsName, settled.loadBalancerId_eq] at value
    obtain rfl := Except.ok.inj (found.symm.trans arnFound)
    exact ⟨key, output, rfl, listens, present, value⟩

end Compiled

def listedPathsListener : ListenerSpec :=
  { ListenerSpec.minimal .http with port := some 8080, containerPort := some 3000 }

/-- A service with two paths, which listens on another port than its container does. -/
def listedPathsService : ServiceSpec :=
  { (ServiceSpec.minimal "web" "nginx").listening [listedPathsListener] with
    path := some (.rules [.path "/a", .rule "/b" (some "GET") (some 7)]) }

def listedPathsCluster : ClusterSpec :=
  .minimal "api" [listedPathsService]

private theorem ids_listedPathsService :
    let deployment : Deployment := .ofService "dev" "my-app"
    listedPathsCluster.targetGroupId deployment listedPathsService 8080 = "MyappApiWebTargetGroupDev8080" ∧
      listedPathsCluster.ruleId deployment listedPathsService 8080 .http 0 =
        "MyappApiWebALBListenerRuleDevHTTP8080Rule0" ∧
      listedPathsCluster.ruleId deployment listedPathsService 8080 .http 1 =
        "MyappApiWebALBListenerRuleDevHTTP8080Rule1" ∧
      listedPathsCluster.endpointKey deployment listedPathsService 8080 .http =
        "MyappApiWebServiceDevHTTP8080" ∧
      listedPathsCluster.loadBalancerId deployment = "MyappApiALBDev" := by
  decide +kernel

/-- Both rules lead to the target group, which has the port of the container, and belong to the listener of
the load balancer on the other port. -/
theorem compile_agrees_listedPathsCluster : ∃ template group first second key output,
    compile (.ofService "dev" "my-app") listedPathsCluster = .ok template ∧
      listedPathsCluster.Attaches listedPathsService listedPathsListener 8080 .http ∧
      ("MyappApiWebTargetGroupDev8080", group) ∈ template.resources.entries ∧
      group.property? "Port" = some (.ofNat 3000) ∧
      ("MyappApiWebALBListenerRuleDevHTTP8080Rule0", first) ∈ template.resources.entries ∧
      first.Implements listedPathsService listedPathsListener ⟨"/a", none, 1⟩
        "MyappApiWebTargetGroupDev8080" ∧
      first.property? "ListenerArn" = some (.ref key) ∧
      ("MyappApiWebALBListenerRuleDevHTTP8080Rule1", second) ∈ template.resources.entries ∧
      second.Implements listedPathsService listedPathsListener ⟨"/b", some "GET", 7⟩
        "MyappApiWebTargetGroupDev8080" ∧
      second.property? "ListenerArn" = some (.ref key) ∧
      template.ListensOn 8080 .http key ∧
      ("MyappApiWebServiceDevHTTP8080", output) ∈ template.outputs.entries ∧
      output.value = .join "" [.string (AlbProtocol.text .http).toLower, .string "://",
        .attribute "MyappApiALBDev" "DNSName", .string ":", .ofNat 8080] := by
  obtain ⟨template, compiled⟩ : ∃ template,
      compile (.ofService "dev" "my-app") listedPathsCluster = .ok template :=
    exists_of_isOk (by decide +kernel)
  have attaches : listedPathsCluster.Attaches listedPathsService listedPathsListener 8080 .http :=
    ⟨rfl, .head _, .head _, rfl⟩
  obtain ⟨targetGroup, firstRule, secondRule, endpoint, balancer⟩ := ids_listedPathsService
  obtain ⟨arn, serves, -, generated⟩ := compile_agrees compiled attaches
  obtain ⟨key, output, rfl, listens, presentOutput, value⟩ := generated rfl
  obtain ⟨group, presentGroup, -, containerPort⟩ := serves.targetGroup
  obtain ⟨first, presentFirst, leads, ofFirst⟩ := serves.rules 0 _ (.path rfl rfl)
  obtain ⟨second, presentSecond, alsoLeads, ofSecond⟩ := serves.rules 1 _ (.rule rfl rfl)
  rw [targetGroup] at presentGroup leads alsoLeads
  rw [firstRule] at presentFirst
  rw [secondRule] at presentSecond
  rw [endpoint] at presentOutput
  rw [balancer] at value
  exact ⟨template, group, first, second, key, output, compiled, attaches, presentGroup, containerPort,
    presentFirst, leads, ofFirst, presentSecond, alsoLeads, ofSecond, listens, presentOutput, value⟩

end ClusterStack
