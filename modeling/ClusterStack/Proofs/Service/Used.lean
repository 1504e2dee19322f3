import ClusterStack.Proofs.Cluster.Declarations
import ClusterStack.Proofs.Service.Described
import ClusterStack.Proofs.Spec.Used

/-!
# Services without what they do not use

Resetting the unused settings of a description and settling it is the same as settling it first. What is
declared for the service does not depend on them.
-/

set_option autoImplicit false

namespace ClusterStack

variable {deployment : Deployment}

namespace Listener

/-- Certificates and authorizers are for attached listeners. -/
def used (listener : Listener) : Listener :=
  { listener with
    certificateArns := if listener.isAttached then listener.certificateArns else []
    authorizer := if listener.isAttached then listener.authorizer else none }

theorem used_of_isAttached {listener : Listener} (attached : listener.isAttached = true) :
    listener.used = listener := by
  rw [used, if_pos attached, if_pos attached]

theorem resolve_used (deployment : Deployment) (owner : ListenerOwner) (index : Nat) (spec : ListenerSpec) :
    resolve deployment owner index (spec.used owner.albDisabled) =
      (resolve deployment owner index spec).map used := by
  cases attached : (!owner.albDisabled && spec.albProtocol.isSome) with
  | true =>
    have same : spec.used owner.albDisabled = spec := by simp [ListenerSpec.used, attached]
    rw [same, resolve]
    split
    · rfl
    · simp [Except.map, used, attached]
  | false =>
    -- Without the load balancer no certificate is asked for.
    have unattached : (!owner.albDisabled && (spec.used owner.albDisabled).albProtocol.isSome) = false :=
      attached
    simp only [resolve, attached, unattached, Bool.false_and, Bool.false_eq_true, if_false, Except.map, used]
    simp [ListenerSpec.used, attached, resolvePort]

end Listener

/-- How the load balancer is set up matters where there is one. -/
def Balancer.used (balancer : Balancer) : Balancer :=
  { balancer with
    isPrivate := !balancer.mode.isDisabled && balancer.isPrivate
    idleTimeout := if balancer.mode.isDisabled then 30 else balancer.idleTimeout }

/-- What the services see of their cluster when it is reset. -/
def ServiceScope.used (scope : ServiceScope) : ServiceScope :=
  { scope with balancer := scope.balancer.used }

namespace Service

variable {clusterPrefix : String} {albDisabled : Bool} {spec : ServiceSpec} {service : Service}

/-- What is left of a service when its description is reset. -/
def used (albDisabled : Bool) (service : Service) : Service :=
  { service with
    spec := service.spec.used albDisabled
    listeners := service.listeners.map (·.used)
    routing := .ofSpec (service.spec.used albDisabled) }

theorem resolveListeners_used (deployment : Deployment) (clusterPrefix token : String) (albDisabled : Bool)
    (spec : ServiceSpec) :
    resolveListeners deployment (owner clusterPrefix token albDisabled (spec.used albDisabled))
        (spec.used albDisabled) =
      (resolveListeners deployment (owner clusterPrefix token albDisabled spec) spec).map
        (List.map (·.used)) := by
  have places : (spec.used albDisabled).listeners.zipIdx =
      spec.listeners.zipIdx.map (Prod.map (·.used albDisabled) id) := by
    rw [ServiceSpec.used, List.zipIdx_map]
  rw [resolveListeners, places, resolveListeners]
  exact mapM_map_adapt fun entry _ =>
    Listener.resolve_used deployment (owner clusterPrefix token albDisabled spec) entry.2 entry.1

theorem checkPorts_used (spec : ServiceSpec) (listeners : List Listener) :
    checkPorts (spec.used albDisabled) (listeners.map (·.used)) = checkPorts spec listeners := by
  rw [checkPorts, List.map_map]
  rfl

theorem resolve_used (deployment : Deployment) (clusterPrefix : String) (albDisabled : Bool)
    (spec : ServiceSpec) :
    resolve deployment clusterPrefix albDisabled (spec.used albDisabled) =
      (resolve deployment clusterPrefix albDisabled spec).map (used albDisabled) := by
  simp only [resolve, map_bind]
  refine bind_congr fun token => bind_congr fun image => ?_
  rw [resolveListeners_used, bind_map]
  refine bind_congr fun listeners => ?_
  rw [checkPorts_used, LaunchType.ofSpec_used]
  exact bind_congr fun _ => bind_congr fun scaling => rfl

theorem attachedListeners_used (service : Service) (albDisabled : Bool) :
    (service.used albDisabled).attachedListeners = service.attachedListeners := by
  have same : ∀ listener ∈ service.attachedListeners, listener.used = listener :=
    fun listener member => Listener.used_of_isAttached (mem_attachedListeners.mp member).2
  calc (service.used albDisabled).attachedListeners
      = service.attachedListeners.map (·.used) := by
        rw [attachedListeners, used, List.filter_map]
        rfl
    _ = service.attachedListeners := by rw [List.map_congr_left same, List.map_id']

section Declarations

variable {listener : Listener}

/-- A service has an attached listener only if one is described and there is a load balancer. -/
theorem isAttached_of_mem (resolved : resolve deployment clusterPrefix albDisabled spec = .ok service)
    (attached : listener ∈ service.attachedListeners) : spec.isAttached albDisabled = true := by
  obtain ⟨listed, isAttached⟩ := mem_attachedListeners.mp attached
  obtain ⟨given, present, describes⟩ := exists_of_forall₂_right (listeners_of_resolve resolved) listed
  rw [((settled_of_resolve resolved).2.listeners listener listed).isAttached, describes.protocol,
    Bool.and_eq_true] at isAttached
  rw [ServiceSpec.isAttached, Bool.and_eq_true, List.any_eq_true]
  exact ⟨isAttached.1, given, present, isAttached.2⟩

/-- The routing of a service stays the same if some listener is attached. -/
theorem routing_used (resolved : resolve deployment clusterPrefix albDisabled spec = .ok service)
    (attached : listener ∈ service.attachedListeners) :
    (service.used albDisabled).routing = service.routing := by
  have describes := describes_of_resolve resolved
  rw [used, describes.given, describes.routing, Routing.ofSpec_used (isAttached_of_mem resolved attached)]

theorem ruleNames_used (resolved : resolve deployment clusterPrefix albDisabled spec = .ok service) :
    (service.used albDisabled).ruleNames = service.ruleNames := by
  rw [ruleNames, attachedListeners_used, ruleNames]
  exact List.flatMap_congr fun listener attached => by rw [routing_used resolved attached]

theorem containerDefinition_used (service : Service) (albDisabled : Bool) :
    (service.used albDisabled).containerDefinition = service.containerDefinition := by
  have ports : ∀ listeners : List Listener,
      (Value.listOf? (listeners.map (·.used)) fun listener => .map [
        ("ContainerPort", .ofNat listener.containerPort.toNat)]) =
      Value.listOf? listeners fun listener => .map [
        ("ContainerPort", .ofNat listener.containerPort.toNat)] := by
    intro listeners
    rw [Value.listOf?, Value.listOf?, List.isEmpty_map, List.map_map]
    rfl
  rw [containerDefinition, containerDefinition, ← ports service.listeners]
  rfl

theorem coreDeclarations_used (resolved : resolve deployment clusterPrefix albDisabled spec = .ok service)
    (scope : ServiceScope) :
    (service.used albDisabled).coreDeclarations scope.used = service.coreDeclarations scope := by
  have itself : (service.used albDisabled).serviceResource scope.used = service.serviceResource scope := by
    rw [serviceResource, serviceResource, attachedListeners_used, ruleNames_used resolved]
    rfl
  have task : (service.used albDisabled).taskResource scope.used = service.taskResource scope := by
    rw [taskResource, taskResource, containerDefinition_used]
    rfl
  rw [coreDeclarations, coreDeclarations, itself, task]
  rfl

theorem listenerDeclarations_used
    (resolved : resolve deployment clusterPrefix albDisabled spec = .ok service) (scope : ServiceScope)
    (attached : listener ∈ service.attachedListeners) :
    (service.used albDisabled).listenerDeclarations scope.used listener =
      service.listenerDeclarations scope listener := by
  have group : (service.used albDisabled).targetGroupResource scope.used listener =
      service.targetGroupResource scope listener := by
    obtain ⟨rfl, -⟩ := settled_of_resolve resolved
    simp only [targetGroupResource, used, ServiceSpec.used, isAttached_of_mem resolved attached, if_true]
    rfl
  rw [listenerDeclarations, listenerDeclarations, routing_used resolved attached, group]
  rfl

theorem outputDeclarations_used (service : Service) (albDisabled : Bool) (scope : ServiceScope) :
    (service.used albDisabled).outputDeclarations scope.used = service.outputDeclarations scope := by
  have listeners : (service.used albDisabled).listeners.flatMap
      (·.outputDeclarations scope.balancer.dnsName) =
        service.listeners.flatMap (·.outputDeclarations scope.balancer.dnsName) := by
    rw [used, List.flatMap_map]
    rfl
  rw [outputDeclarations, outputDeclarations, ← listeners]
  rfl

/-- A service declares the same when its description and that of its cluster are reset. -/
theorem declarations_used (resolved : resolve deployment clusterPrefix albDisabled spec = .ok service)
    (scope : ServiceScope) :
    (service.used albDisabled).declarations scope.used = service.declarations scope := by
  rw [declarations, attachedListeners_used, mapM_congr fun listener attached =>
    listenerDeclarations_used resolved scope attached, coreDeclarations_used resolved,
    outputDeclarations_used]
  rfl

end Declarations

end Service

end ClusterStack
