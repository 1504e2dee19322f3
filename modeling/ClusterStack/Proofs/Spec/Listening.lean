import ClusterStack.Listener.Resources
import ClusterStack.Proofs.Service.Inventory

/-!
# Described listeners

Which listeners a description attaches to the load balancer, by which rules requests reach them, and what the
ids of their resources are, said of the description alone.
-/

set_option autoImplicit false

namespace ClusterStack

/-- A listener of the service that asks for this port of the load balancer with this protocol. -/
structure ClusterSpec.Attaches (spec : ClusterSpec) (service : ServiceSpec) (listener : ListenerSpec)
    (port : UInt16) (protocol : AlbProtocol) : Prop where
  enabled : spec.albDisabled = false
  member : service ∈ spec.services
  listed : listener ∈ service.listeners
  demand : listener.demand? = some (port, protocol)

/-- The authorizer that requests pass first. One that is given without HTTPS is not asked. -/
def ListenerSpec.gate? (spec : ListenerSpec) : Option AuthorizerSpec :=
  if spec.albProtocol = some .https then spec.authorizer else none

namespace ServiceSpec

/-- The rule that the description gives in this place: the one for everything, the one for a single path, or an
entry of a list. The priority of the service is that of a rule which is not listed. -/
inductive Routes (spec : ServiceSpec) : Nat → RouteRule → Prop where
  | everything (unrestricted : spec.path = none) : Routes spec 0 ⟨"*", none, spec.priority.getD 1⟩
  | single {path : String} (given : spec.path = some (.single path)) :
      Routes spec 0 ⟨path, none, spec.priority.getD 1⟩
  | path {entries : List PathRuleSpec} {index : Nat} {path : String}
      (given : spec.path = some (.rules entries)) (placed : entries[index]? = some (.path path)) :
      Routes spec index ⟨path, none, 1⟩
  | rule {entries : List PathRuleSpec} {index : Nat} {path : String} {method : Option String}
      {priority : Option Nat} (given : spec.path = some (.rules entries))
      (placed : entries[index]? = some (.rule path method priority)) :
      Routes spec index ⟨path, method.filter Routing.restrictingMethod, priority.getD 1⟩

/-- What a rule for a listener of the service asks of a request: the path, the method, that it is authorized
where the listener has an authorizer, and what the service asks of every request. -/
def conditions (spec : ServiceSpec) (listener : ListenerSpec) (rule : RouteRule) : List Value :=
  let condition (field configuration : String) (values : List String) : Value :=
    .map [("Field", .string field), (configuration, .map [("Values", .strings values)])]
  [.map [("Field", .string "path-pattern"), ("Values", .strings [rule.path])]] ++
    (rule.method.toList.map fun method => condition "http-request-method" "HttpRequestMethodConfig" [method]) ++
    (listener.gate?.toList.map fun _ => Listener.headerCondition "authorization" ["*"]) ++
    (spec.hostname.toList.map fun names => condition "host-header" "HostHeaderConfig" names.toList) ++
    (spec.limitSourceIps.toList.map fun ranges => condition "source-ip" "SourceIpConfig" ranges.toList) ++
    spec.limitHeaders.map fun header => Listener.headerCondition header.name header.value.toList

end ServiceSpec

namespace ClusterSpec

/-- The first listener that declares a protocol on the port. -/
def opener? (spec : ClusterSpec) (port : UInt16) : Option (ServiceSpec × ListenerSpec) :=
  spec.listeners.find? fun entry => entry.2.demand?.any (·.1 == port)

section Ids

variable (deployment : Deployment) (spec : ClusterSpec) (service : ServiceSpec) (port : UInt16)
  (protocol : AlbProtocol)

def targetGroupId : String :=
  deployment.idOf
    ⟨spec.clusterPrefix deployment ++ normalizeName service.name, .targetGroup, .number port.toNat⟩

def ruleId (index : Nat) : String :=
  deployment.idOf ⟨spec.clusterPrefix deployment ++ normalizeName service.name, .listenerRule,
    .rule protocol port index⟩

/-- The key of the output with the address of a listener. -/
def endpointKey : String :=
  deployment.idOf
    ⟨spec.clusterPrefix deployment ++ normalizeName service.name, .service, .endpoint protocol port⟩

def loadBalancerId : String :=
  deployment.logicalId (spec.clusterPrefix deployment) .loadBalancer

/-- The ids of the rules for the listeners of a service: listener by listener, and for each in the order of
the routing. -/
def ruleIds : List String :=
  if spec.albDisabled then []
  else service.demands.flatMap fun (port, protocol) =>
    (List.range service.ruleCount).map (spec.ruleId deployment service port protocol)

end Ids

end ClusterSpec

private theorem eq_of_getElem?_singleton {α : Type} {only value : α} {index : Nat}
    (placed : [only][index]? = some value) : index = 0 ∧ only = value := by
  cases index with
  | zero => exact ⟨rfl, Option.some.inj placed⟩
  | succ index => cases placed

namespace ServiceSpec

variable {spec : ServiceSpec} {index : Nat}

theorem routes_iff {rule : RouteRule} :
    spec.Routes index rule ↔ (Routing.rulesOfSpec spec)[index]? = some rule := by
  constructor
  · intro routes
    cases routes with
    | everything given => simp [Routing.rulesOfSpec, given]
    | single given => simp [Routing.rulesOfSpec, given]
    | path given placed => simp [Routing.rulesOfSpec, given, placed, Routing.ruleOfSpec]
    | rule given placed => simp [Routing.rulesOfSpec, given, placed, Routing.ruleOfSpec]
  · intro placed
    cases given : spec.path with
    | none =>
      rw [Routing.rulesOfSpec, given] at placed
      obtain ⟨rfl, rfl⟩ := eq_of_getElem?_singleton placed
      exact .everything given
    | some path =>
      rw [Routing.rulesOfSpec, given] at placed
      cases path with
      | single path =>
        obtain ⟨rfl, rfl⟩ := eq_of_getElem?_singleton placed
        exact .single given
      | rules entries =>
        simp only [List.getElem?_map, Option.map_eq_some_iff] at placed
        obtain ⟨entry, placed, rfl⟩ := placed
        cases entry with
        | path path => exact .path given placed
        | rule path method priority => exact .rule given placed

theorem exists_routes (bound : index < spec.ruleCount) : ∃ rule, spec.Routes index rule := by
  simp only [routes_iff]
  rw [← Routing.length_rules] at bound
  exact ⟨_, List.getElem?_eq_getElem bound⟩

end ServiceSpec

end ClusterStack
