import ClusterStack.Proofs.Listener.Described
import ClusterStack.Proofs.Spec.Minimal

/-!
# Gating

A listener with an authorizer is gated: its rules ask for authentication before they forward. The load
balancer's own listener does not. It forwards what no rule matches to the target group of the first
listener on the port, and does so whether that listener is gated or not.
-/

set_option autoImplicit false

namespace ClusterStack

/-- The action forwards to a target group that is given by a reference to the target. -/
def Value.ForwardsTo (action : Value) (target : String) : Prop :=
  action.get? "Type" = some (.string "forward") ∧
    ∃ group, action.get? "TargetGroupArn" = some group ∧ target ∈ group.references

def Value.Authenticates (action : Value) : Prop :=
  action.get? "Type" = some (.string "authenticate-cognito")

def Resource.actions (resource : Resource) (property : String) : List Value :=
  ((resource.property? property).bind Value.asList?).getD []

/-- Whatever forwards to the target comes after an action that asks for authentication. -/
def IsGated (actions : List Value) (target : String) : Prop :=
  ∀ before action after, actions = before ++ action :: after → action.ForwardsTo target →
    ∃ earlier ∈ before, earlier.Authenticates

namespace Listener

theorem forwardsTo_forwardAction {listener : Listener} {order : Option Int} {target : String} :
    (listener.forwardAction order).ForwardsTo target ↔ target = listener.targetGroup := by
  cases order <;>
    simp [forwardAction, Value.ForwardsTo, Value.present, Value.get?, Entries.get?, Value.references]

theorem authenticates_authenticateAction (authorizer : AuthorizerSpec) :
    (authenticateAction authorizer).Authenticates := rfl

theorem not_forwardsTo_authenticateAction {authorizer : AuthorizerSpec} {target : String} :
    ¬(authenticateAction authorizer).ForwardsTo target := by
  simp [authenticateAction, Value.ForwardsTo, Value.get?, Entries.get?]

theorem actions_ruleResource {listener : Listener} {routing : Routing} {arn : Value} {rule : RouteRule} :
    (listener.ruleResource routing arn rule).actions "Actions" = listener.actions := rfl

theorem eq_of_forwardsTo {listener : Listener} {action : Value} (member : action ∈ listener.actions)
    {target : String} (forwards : action.ForwardsTo target) : target = listener.targetGroup := by
  unfold Listener.actions at member
  split at member
  · simp only [List.mem_cons, List.not_mem_nil, or_false] at member
    rcases member with rfl | rfl
    · exact absurd forwards not_forwardsTo_authenticateAction
    · exact forwardsTo_forwardAction.mp forwards
  · obtain rfl := List.mem_singleton.mp member
    exact forwardsTo_forwardAction.mp forwards

theorem isGated_actions {listener : Listener} {authorizer : AuthorizerSpec}
    (gated : listener.gate? = some authorizer) (target : String) : IsGated listener.actions target := by
  intro before action after split forwards
  simp only [Listener.actions, gated] at split
  cases before with
  | nil =>
    obtain ⟨rfl, -⟩ := List.cons.inj split
    exact absurd forwards not_forwardsTo_authenticateAction
  | cons first rest =>
    obtain ⟨rfl, -⟩ := List.cons.inj split
    exact ⟨_, .head _, authenticates_authenticateAction authorizer⟩

theorem isGated_of_ne {listener : Listener} {target : String} (other : target ≠ listener.targetGroup) :
    IsGated listener.actions target := by
  intro before action after split forwards
  have member : action ∈ listener.actions := by simp [split]
  exact absurd (eq_of_forwardsTo member forwards) other

end Listener

/-- A listener of the load balancer has one action, which forwards without asking. -/
theorem Balancer.isGated_defaultActions_iff {balancer : Balancer} {port : PortListener} {target : String} :
    IsGated ((balancer.listenerResource port).actions "DefaultActions") target ↔
      target ≠ port.defaultTargetGroup := by
  let action : Value := .map [("TargetGroupArn", .ref port.defaultTargetGroup), ("Type", .string "forward")]
  have actions : (balancer.listenerResource port).actions "DefaultActions" = [action] := rfl
  have forwards : action.ForwardsTo target ↔ target = port.defaultTargetGroup := by
    simp [action, Value.ForwardsTo, Value.get?, Entries.get?, Value.references]
  rw [actions]
  constructor
  · intro gated same
    obtain ⟨_, none, _⟩ := gated [] action [] rfl (forwards.mpr same)
    cases none
  · intro other before last after split forwarding
    have member : last ∈ [action] := by simp [split]
    obtain rfl := List.mem_singleton.mp member
    exact absurd (forwards.mp forwarding) other

section Compiled

variable {deployment : Deployment} {spec : ClusterSpec} {cluster : Cluster} {template : Template}

theorem Cluster.Settled.eq_of_targetGroup_eq (settled : cluster.Settled deployment spec)
    {service other : Service} (member : service ∈ cluster.services) (otherMember : other ∈ cluster.services)
    {listener otherListener : Listener} (listed : listener ∈ service.listeners)
    (otherListed : otherListener ∈ other.listeners)
    (same : listener.targetGroup = otherListener.targetGroup) :
    service = other ∧ listener = otherListener := by
  rw [((settled.service member).2.listeners listener listed).targetGroup,
    ((settled.service otherMember).2.listeners otherListener otherListed).targetGroup] at same
  have plain : ∀ owner port, (⟨owner, .targetGroup, .number port⟩ : Label).IsPlain :=
    fun _ _ => ⟨trivial, by simp⟩
  have labels := Label.eq_of_idOf_eq (plain _ _) (plain _ _) same
  simp only [Label.mk.injEq, Mark.number.injEq, UInt16.toNat_inj, true_and] at labels
  exact settled.eq_of_port_eq member otherMember listed otherListed labels.1 labels.2

theorem Cluster.Settled.isGated_listenerRule (settled : cluster.Settled deployment spec)
    {declarations : List Declaration} (declared : cluster.declarations deployment = .ok declarations)
    (made : Template.ofDeclarations declarations = .ok template) {service : Service}
    (member : service ∈ cluster.services) {listener : Listener} (listed : listener ∈ service.listeners)
    {authorizer : AuthorizerSpec} (gated : listener.gate? = some authorizer) {key : String}
    {rule : Resource} (present : (key, rule) ∈ template.resources.entries)
    (kind : rule.kind = .listenerRule) : IsGated (rule.actions "Actions") listener.targetGroup := by
  obtain ⟨declaration, given, entry⟩ := Template.exists_declaration_of_mem made present
  have ruleKind : declaration.kind? = some .listenerRule := by
    rw [Declaration.kind?, entry, Option.map_some, kind]
  obtain ⟨owner, ownerMember, ruled, attached, arn, -, index, bound, rfl⟩ :=
    listenerRule_of_mem declared given ruleKind
  cases entry
  rw [Listener.actions_ruleResource]
  by_cases same : listener.targetGroup = ruled.targetGroup
  · obtain ⟨-, rfl⟩ := settled.eq_of_targetGroup_eq member ownerMember listed
      (Service.mem_attachedListeners.mp attached).1 same
    exact Listener.isGated_actions gated _
  · exact Listener.isGated_of_ne same

/-- The load balancer forwards without asking to the target groups of those listeners that open a port. -/
theorem Cluster.Settled.exists_not_isGated_iff (settled : cluster.Settled deployment spec)
    {declarations : List Declaration} (declared : cluster.declarations deployment = .ok declarations)
    (made : Template.ofDeclarations declarations = .ok template) {service : Service}
    (member : service ∈ cluster.services) {listener : Listener} (listed : listener ∈ service.listeners) :
    (∃ key port, (key, port) ∈ template.resources.entries ∧ port.kind = .loadBalancerListener ∧
      ¬IsGated (port.actions "DefaultActions") listener.targetGroup) ↔
    cluster.balancer.isManaged = true ∧
      Balancer.Opens (Balancer.serviceListeners cluster.services) (service, listener) := by
  constructor
  · intro forwards
    obtain ⟨key, resource, present, kind, ungated⟩ := forwards
    obtain ⟨declaration, given, entry⟩ := Template.exists_declaration_of_mem made present
    have portKind : declaration.kind? = some .loadBalancerListener := by
      rw [Declaration.kind?, entry, Option.map_some, kind]
    obtain ⟨managed, port, opened, rfl⟩ := loadBalancerListener_of_mem declared given portKind
    cases entry
    have target := not_not.mp (Balancer.isGated_defaultActions_iff.not.mp ungated)
    obtain ⟨⟨owner, opener⟩, protocol, opens, -, rfl⟩ :=
      (settled.balancer.listeners (Balancer.isDisabled_of_isManaged managed)).opened port opened
    obtain ⟨ownerMember, openerListed⟩ := Balancer.mem_serviceListeners.mp opens.mem
    obtain ⟨rfl, rfl⟩ := settled.eq_of_targetGroup_eq member ownerMember listed openerListed target
    exact ⟨managed, opens⟩
  · intro opening
    obtain ⟨managed, opens⟩ := opening
    have collected := settled.balancer.listeners (Balancer.isDisabled_of_isManaged managed)
    have declares : listener.protocol.isSome = true := by
      obtain ⟨_, _, _, declares, _⟩ := opens
      exact declares
    obtain ⟨protocol, declares⟩ := Option.isSome_iff_exists.mp declares
    obtain ⟨port, opened, samePort, -⟩ := collected.joined (service, listener) opens.mem protocol declares
    obtain ⟨entry, _, entryOpens, _, made_⟩ := collected.opened port opened
    have entry_eq : (service, listener) = entry := by
      refine opens.unique entryOpens ?_
      rw [← samePort, made_]
      rfl
    subst entry_eq
    have ofBalancer : .resource port.name (cluster.balancer.listenerResource port) ∈ declarations :=
      balancerDeclarations_subset declared (Balancer.listener_mem_declarations managed opened)
    refine ⟨port.name, _, Template.mem_of_resource made ofBalancer, rfl,
      Balancer.isGated_defaultActions_iff.not.mpr (not_not.mpr ?_)⟩
    rw [made_]
    rfl

section Described

variable {service : ServiceSpec} {listener : ListenerSpec} {port : UInt16} {protocol : AlbProtocol}

theorem isGated_of_compile (compiled : compile deployment spec = .ok template)
    (attaches : spec.Attaches service listener port .https) {authorizer : AuthorizerSpec}
    (authorized : listener.authorizer = some authorizer) {key : String} {rule : Resource}
    (present : (key, rule) ∈ template.resources.entries) (kind : rule.kind = .listenerRule) :
    IsGated (rule.actions "Actions") (spec.targetGroupId deployment service port) := by
  obtain ⟨cluster, resolved, compiled⟩ := compile_eq_ok.mp compiled
  obtain ⟨declarations, declared, made, -⟩ := Cluster.compile_eq_ok.mp compiled
  have settled := Cluster.settled_of_resolve resolved
  obtain ⟨owner, member, settles, attached, -, realizes⟩ := settled.exists_attached attaches
  have gated : settles.gate? = some authorizer := by
    obtain ⟨_, declares, same⟩ := Option.map_eq_some_iff.mp attaches.demand
    cases same
    rw [realizes.gate, ListenerSpec.gate?, if_pos declares, authorized]
  rw [← realizes.targetGroup]
  exact settled.isGated_listenerRule declared made member (Service.mem_attachedListeners.mp attached).1 gated
    present kind

theorem exists_ungated_iff (compiled : compile deployment spec = .ok template)
    (attaches : spec.Attaches service listener port protocol) :
    (∃ key resource, (key, resource) ∈ template.resources.entries ∧
      resource.kind = .loadBalancerListener ∧
      ¬IsGated (resource.actions "DefaultActions") (spec.targetGroupId deployment service port)) ↔
    spec.IsManaged ∧ spec.opener? port = some (service, listener) := by
  obtain ⟨cluster, resolved, compiled⟩ := compile_eq_ok.mp compiled
  obtain ⟨declarations, declared, made, -⟩ := Cluster.compile_eq_ok.mp compiled
  have settled := Cluster.settled_of_resolve resolved
  obtain ⟨owner, member, settles, attached, rfl, realizes⟩ := settled.exists_attached attaches
  have listed := (Service.mem_attachedListeners.mp attached).1
  rw [← realizes.targetGroup, settled.exists_not_isGated_iff declared made member listed,
    settled.isManaged_iff, settled.opens_iff member listed attaches realizes]

/-- Where a template forwards to the target group of an attached HTTPS listener with an authorizer:
its rules do after they have asked for authentication. The load balancer's own listener on the port
forwards there without asking, exactly if the load balancer is generated and the listener is the
first, by service and then by place, that declares a protocol on the port. -/
theorem compile_gates (compiled : compile deployment spec = .ok template)
    (attaches : spec.Attaches service listener port .https) {authorizer : AuthorizerSpec}
    (authorized : listener.authorizer = some authorizer) :
    (∀ key rule, (key, rule) ∈ template.resources.entries → rule.kind = .listenerRule →
      IsGated (rule.actions "Actions") (spec.targetGroupId deployment service port)) ∧
    ((∃ key resource, (key, resource) ∈ template.resources.entries ∧
        resource.kind = .loadBalancerListener ∧
        ¬IsGated (resource.actions "DefaultActions") (spec.targetGroupId deployment service port)) ↔
      spec.IsManaged ∧ spec.opener? port = some (service, listener)) :=
  ⟨fun _ _ present kind => isGated_of_compile compiled attaches authorized present kind,
    exists_ungated_iff compiled attaches⟩

end Described

end Compiled

def guardingPool : AuthorizerSpec :=
  { poolArn := "pool", clientId := "client", poolDomain := "domain" }

def guardedListener : ListenerSpec :=
  .guarded "certificate" guardingPool

def guardedService : ServiceSpec :=
  (ServiceSpec.minimal "web" "nginx").listening [guardedListener]

/-- A cluster with one service, the listener of which is gated. -/
def guardedCluster : ClusterSpec :=
  .minimal "api" [guardedService]

private theorem attaches_guardedListener :
    guardedCluster.Attaches guardedService guardedListener 443 .https :=
  ⟨rfl, .head _, .head _, rfl⟩

private theorem targetGroupId_guardedService :
    guardedCluster.targetGroupId (.ofService "dev" "my-app") guardedService 443 =
      "MyappApiWebTargetGroupDev443" := by
  decide +kernel

/-- The load balancer forwards to the target group of the one listener, which is gated, without asking
for authentication. -/
theorem compile_ungated : ∃ template key resource,
    compile (.ofService "dev" "my-app") guardedCluster = .ok template ∧
      guardedCluster.Attaches guardedService guardedListener 443 .https ∧
      guardedListener.authorizer = some guardingPool ∧
      (key, resource) ∈ template.resources.entries ∧ resource.kind = .loadBalancerListener ∧
      ¬IsGated (resource.actions "DefaultActions") "MyappApiWebTargetGroupDev443" := by
  obtain ⟨template, compiled⟩ : ∃ template,
      compile (.ofService "dev" "my-app") guardedCluster = .ok template :=
    exists_of_isOk (by decide +kernel)
  have first : guardedCluster.opener? 443 = some (guardedService, guardedListener) := rfl
  obtain ⟨key, resource, present, kind, ungated⟩ :=
    (exists_ungated_iff compiled attaches_guardedListener).mpr ⟨⟨rfl, rfl⟩, first⟩
  rw [targetGroupId_guardedService] at ungated
  exact ⟨template, key, resource, compiled, attaches_guardedListener, rfl, present, kind, ungated⟩

/-- The rule for the one listener, which has two actions, asks for authentication. -/
theorem compile_gates_rules : ∃ template rule,
    compile (.ofService "dev" "my-app") guardedCluster = .ok template ∧
      guardedCluster.Attaches guardedService guardedListener 443 .https ∧
      guardedListener.authorizer = some guardingPool ∧
      ("MyappApiWebALBListenerRuleDevHTTPS443Rule0", rule) ∈ template.resources.entries ∧
      (rule.actions "Actions").length = 2 ∧
      IsGated (rule.actions "Actions") "MyappApiWebTargetGroupDev443" := by
  obtain ⟨template, compiled, found⟩ : ∃ template,
      compile (.ofService "dev" "my-app") guardedCluster = .ok template ∧
        ((template.resources.get? "MyappApiWebALBListenerRuleDevHTTPS443Rule0").any fun rule =>
          rule.kind == .listenerRule && (rule.actions "Actions").length == 2) = true :=
    exists_of_passes (by decide +kernel)
  obtain ⟨rule, entered, holds⟩ := (Option.any_eq_true _ _).mp found
  simp only [Bool.and_eq_true, beq_iff_eq] at holds
  have present := Registry.get?_eq_some.mp entered
  obtain ⟨gated, -⟩ := compile_gates compiled attaches_guardedListener rfl
  have asks := gated _ rule present holds.1
  rw [targetGroupId_guardedService] at asks
  exact ⟨template, rule, compiled, attaches_guardedListener, rfl, present, holds.2, asks⟩

end ClusterStack
