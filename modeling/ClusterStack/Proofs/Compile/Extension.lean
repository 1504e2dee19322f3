import ClusterStack.Proofs.Cluster.Keys
import ClusterStack.Proofs.Compile.Closure
import ClusterStack.Proofs.Spec.Minimal
import ClusterStack.Proofs.Template.Extension
import Mathlib.Data.List.Flatten

/-!
# Further services

Services that are added at the end of a description leave what is generated for the others as it is. They
open further ports of the load balancer and add to its security groups; the ports that are open keep
their listeners, so that the rules of the others still find them.
-/

set_option autoImplicit false

namespace ClusterStack

variable {deployment : Deployment}

namespace Balancer

/-- The load balancer with further ports and groups. -/
structure ExtendedBy (balancer larger : Balancer) : Prop where
  name : larger.name = balancer.name
  mode : larger.mode = balancer.mode
  isPrivate : larger.isPrivate = balancer.isPrivate
  idleTimeout : larger.idleTimeout = balancer.idleTimeout
  listeners : balancer.listeners <+: larger.listeners
  serviceGroups : balancer.serviceGroups <+: larger.serviceGroups

variable {owner : String} {balancer larger : Balancer}

theorem prefix_of_register {ports more : List PortListener} {entry : Service × Listener}
    (registered : register deployment owner ports entry = .ok more) : ports <+: more := by
  cases register_eq_ok registered with
  | inl joins => exact joins.1 ▸ List.prefix_rfl
  | inr opens =>
    obtain ⟨protocol, -, -, rfl⟩ := opens
    exact List.prefix_append _ _

theorem prefix_of_collectPorts {services added : List Service} {ports more : List PortListener}
    (collects : collectPorts deployment owner services = .ok ports)
    (collectsMore : collectPorts deployment owner (services ++ added) = .ok more) : ports <+: more := by
  rw [collectPorts, serviceListeners, List.flatMap_append, List.foldlM_append, bind_eq_ok] at collectsMore
  obtain ⟨first, alsoCollects, rest⟩ := collectsMore
  obtain rfl : first = ports := Except.ok.inj (alsoCollects.symm.trans collects)
  refine foldlM_preserves rest (fun _ state => first <+: state) List.prefix_rfl ?_
  intro _ entry state next _ begins registered
  exact begins.trans (prefix_of_register registered)

theorem extendedBy_of_resolve {spec : ClusterSpec} {services added : List Service}
    (resolved : resolve deployment owner spec services = .ok balancer)
    (resolvedMore : resolve deployment owner spec (services ++ added) = .ok larger) :
    balancer.ExtendedBy larger := by
  simp only [resolve, bind_eq_ok, pure_eq_ok] at resolved resolvedMore
  obtain ⟨ports, collects, rfl⟩ := resolved
  obtain ⟨more, collectsMore, rfl⟩ := resolvedMore
  refine ⟨rfl, rfl, rfl, rfl, ?_, ?_⟩
  · simp only
    split
    · exact List.prefix_rfl
    · exact prefix_of_collectPorts collects collectsMore
  · simp only
    split
    · exact List.prefix_rfl
    · rw [planGroups, planGroups, List.filter_append, List.map_append]
      exact List.prefix_append _ _

namespace ExtendedBy

variable (extended : balancer.ExtendedBy larger)

include extended

theorem isManaged : larger.isManaged = balancer.isManaged := by
  rw [Balancer.isManaged, extended.mode, Balancer.isManaged]

theorem dnsName : larger.dnsName = balancer.dnsName := by
  rw [Balancer.dnsName, extended.name, Balancer.dnsName]

theorem listenerArn {service : String} {port : UInt16} {arn : Value}
    (found : balancer.listenerArn service port = .ok arn) : larger.listenerArn service port = .ok arn := by
  have further : ∀ listener, balancer.listeners.find? (·.port == port) = some listener →
      larger.listeners.find? (·.port == port) = some listener := by
    obtain ⟨more, listeners⟩ := extended.listeners
    intro listener first
    rw [← listeners, List.find?_append, first, Option.some_or]
  rw [Balancer.listenerArn] at found ⊢
  rw [extended.mode]
  split at found
  · exact found
  all_goals
    split at found
    · rename_i listener first
      rw [further listener first]
      exact found
    · cases found

theorem listenerResource (listener : PortListener) :
    larger.listenerResource listener = balancer.listenerResource listener := by
  rw [Balancer.listenerResource, extended.name, Balancer.listenerResource]

theorem keptAs_resource (tags : Tags) (network : Network) (containerGroup : Option Value) :
    (balancer.resource tags network containerGroup).KeptAs
      (larger.resource tags network containerGroup) := by
  refine ⟨fun other => absurd rfl other, rfl, rfl, ?_, rfl⟩
  rw [resource, resource, Resource.propertiesBut_make, Resource.propertiesBut_make, extended.name,
    extended.isPrivate, extended.idleTimeout]
  rfl

/-- What is declared for the load balancer is kept: its groups and its listeners are among the new ones. -/
theorem keptIn_declarations (tags : Tags) (network : Network) (containerGroup : Option Value) :
    KeptIn ((balancer.declarations tags network containerGroup).filterMap Declaration.owned?)
      ((larger.declarations tags network containerGroup).filterMap Declaration.owned?) := by
  have groups : KeptIn
      ((balancer.serviceGroups.flatMap (groupDeclarations tags network containerGroup)).filterMap
        Declaration.owned?)
      ((larger.serviceGroups.flatMap (groupDeclarations tags network containerGroup)).filterMap
        Declaration.owned?) :=
    .of_sublist ((extended.serviceGroups.sublist.flatMap _).filterMap _)
  cases kind : balancer.mode with
  | disabled =>
    rw [declarations, kind]
    exact .of_sublist (List.nil_sublist _)
  | external _ =>
    rw [declarations, declarations, extended.mode, kind]
    exact groups
  | managed =>
    have itself : KeptIn [(balancer.name, balancer.resource tags network containerGroup)]
        [(larger.name, larger.resource tags network containerGroup)] :=
      ⟨_, .cons ⟨extended.name, extended.keptAs_resource tags network containerGroup⟩ .nil,
        List.Sublist.refl _⟩
    have listeners : KeptIn
        (balancer.listeners.map fun listener => (listener.name, balancer.listenerResource listener))
        (larger.listeners.map fun listener => (listener.name, larger.listenerResource listener)) := by
      simp only [extended.listenerResource]
      exact .of_sublist (extended.listeners.sublist.map _)
    have together := groups.append (itself.append listeners)
    simpa [declarations, extended.mode, kind, List.filterMap_map, Function.comp_def,
      Declaration.owned?] using together

end ExtendedBy

end Balancer

/-- A service declares the same with a load balancer that has further ports. -/
theorem Service.declarations_of_extendedBy {service : Service} {scope : ServiceScope} {larger : Balancer}
    (extended : scope.balancer.ExtendedBy larger) {part : List Declaration}
    (declared : service.declarations scope = .ok part) :
    service.declarations { scope with balancer := larger } = .ok part := by
  obtain ⟨attached, related, rfl⟩ := declarations_eq_ok.mp declared
  refine declarations_eq_ok.mpr ⟨attached, related.imp fun listener part partDeclared => ?_, ?_⟩
  · obtain ⟨arn, found, made⟩ := listenerDeclarations_eq_ok.mp partDeclared
    exact listenerDeclarations_eq_ok.mpr ⟨arn, extended.listenerArn found, made⟩
  · have outputs : service.outputDeclarations { scope with balancer := larger } =
        service.outputDeclarations scope := by
      rw [outputDeclarations, outputDeclarations, extended.isManaged, extended.dnsName]
    rw [outputs]
    rfl

namespace Cluster

variable {spec : ClusterSpec} {cluster larger : Cluster} {declarations : List Declaration}

/-- On top of what is there at first, the common declarations are entered one by one. -/
theorem entries_of_common {template : Template}
    (made : Template.ofDeclarations cluster.commonDeclarations = .ok template) :
    template.resources.entries = cluster.commonDeclarations.filterMap Declaration.owned? := by
  refine (Template.entries_of_declareAll made fun key definition member => ?_).trans (List.nil_append _)
  obtain ⟨_, _, other⟩ := exists_resource_of_common member
  cases other

/-- The role that is shared is not among what is declared for all services together. -/
theorem Settled.not_mem_common_of_shared (settled : cluster.Settled deployment spec)
    {rest : List Declaration}
    (declared : cluster.declarations deployment = .ok (cluster.commonDeclarations ++ rest))
    {key : String} {definition : Resource} (member : .sharedResource key definition ∈ rest) :
    key ∉ Entries.keys (cluster.commonDeclarations.filterMap Declaration.owned?) := by
  have absent := settled.not_mem_ownKeys_of_shared declared (List.mem_append_right _ member)
  rw [Declaration.keysOf_append, List.mem_append] at absent
  exact fun common => absent (.inl common)

/-- The cluster with further services and a larger load balancer. -/
structure ExtendedBy (cluster larger : Cluster) : Prop where
  balancer : cluster.balancer.ExtendedBy larger.balancer
  services : ∃ added, larger =
    { cluster with services := cluster.services ++ added, balancer := larger.balancer }

theorem extendedBy_of_resolve {added : List ServiceSpec}
    (resolved : resolve deployment spec = .ok cluster)
    (resolvedMore : resolve deployment { spec with services := spec.services ++ added } = .ok larger) :
    cluster.ExtendedBy larger := by
  simp only [resolve, bind_eq_ok, List.mapM_append, pure_eq_ok] at resolved resolvedMore
  obtain ⟨token, tokenResolved, networkSpec, given, network, networkResolved, services, servicesResolved,
    _, -, balancer, balancerResolved, rfl⟩ := resolved
  obtain ⟨_, sameToken, _, sameGiven, _, sameNetwork, _, ⟨_, sameServices, more, -, rfl⟩, _, -, balancerMore,
    balancerMoreResolved, rfl⟩ := resolvedMore
  obtain rfl := Except.ok.inj (tokenResolved.symm.trans sameToken)
  obtain rfl := Except.ok.inj (given.symm.trans sameGiven)
  obtain rfl := Except.ok.inj (networkResolved.symm.trans sameNetwork)
  obtain rfl := Except.ok.inj (servicesResolved.symm.trans sameServices)
  exact ⟨Balancer.extendedBy_of_resolve balancerResolved balancerMoreResolved, more, rfl⟩

namespace ExtendedBy

variable (extended : cluster.ExtendedBy larger)

include extended

theorem keptIn_commonDeclarations :
    KeptIn (cluster.commonDeclarations.filterMap Declaration.owned?)
      (larger.commonDeclarations.filterMap Declaration.owned?) := by
  obtain ⟨added, same⟩ := extended.services
  have ofBalancer := extended.balancer.keptIn_declarations cluster.tags cluster.network cluster.ingressGroup
  have before : KeptIn
      ((cluster.network.declarations cluster.tags ++ cluster.ownDeclarations).filterMap Declaration.owned?)
      ((cluster.network.declarations cluster.tags ++ cluster.ownDeclarations).filterMap Declaration.owned?) :=
    .of_sublist (List.Sublist.refl _)
  have together := before.append ofBalancer
  rw [← List.filterMap_append, ← List.filterMap_append] at together
  rw [same]
  exact together

/-- The services declare what they did, and the further ones more. -/
theorem exists_declarations {moreDeclarations : List Declaration}
    (declared : cluster.declarations deployment = .ok declarations)
    (declaredMore : larger.declarations deployment = .ok moreDeclarations) :
    ∃ ofServices further, declarations = cluster.commonDeclarations ++ ofServices ∧
      moreDeclarations = larger.commonDeclarations ++ (ofServices ++ further) := by
  obtain ⟨parts, related, rfl⟩ := declarations_eq_ok.mp declared
  obtain ⟨added, same⟩ := extended.services
  have again : cluster.services.mapM (·.declarations (larger.serviceScope deployment)) = .ok parts := by
    rw [mapM_eq_ok, same]
    exact related.imp fun service part partDeclared =>
      Service.declarations_of_extendedBy extended.balancer partDeclared
  have services : larger.services = cluster.services ++ added := by rw [same]
  simp only [Cluster.declarations, services, List.mapM_append, bind_eq_ok, pure_eq_ok] at declaredMore
  obtain ⟨_, ⟨_, alsoAgain, further, -, rfl⟩, rfl⟩ := declaredMore
  obtain rfl := Except.ok.inj (again.symm.trans alsoAgain)
  exact ⟨parts.flatten, further.flatten, rfl, by rw [List.flatten_append]; rfl⟩

end ExtendedBy

end Cluster

/-- Services that are added at the end of a description leave all outputs and resources of the others
as they are, and in their order, but for the security groups of the load balancer. -/
theorem compile_extends {spec : ClusterSpec} {added : List ServiceSpec} {old new : Template}
    (compiled : compile deployment spec = .ok old)
    (compiledMore : compile deployment { spec with services := spec.services ++ added } = .ok new) :
    old.ExtendedBy new := by
  obtain ⟨cluster, resolved, clusterCompiled⟩ := compile_eq_ok.mp compiled
  obtain ⟨larger, resolvedMore, largerCompiled⟩ := compile_eq_ok.mp compiledMore
  obtain ⟨_, declared, made, -⟩ := Cluster.compile_eq_ok.mp clusterCompiled
  obtain ⟨_, declaredMore, madeMore, -⟩ := Cluster.compile_eq_ok.mp largerCompiled
  have extended := Cluster.extendedBy_of_resolve resolved resolvedMore
  obtain ⟨ofServices, further, rfl, rfl⟩ := extended.exists_declarations declared declaredMore
  have outputs : old.outputs.entries.Sublist new.outputs.entries := by
    rw [Template.outputs_of_ofDeclarations made, Template.outputs_of_ofDeclarations madeMore]
    simp only [List.filterMap_append, Cluster.output_commonDeclarations, List.nil_append]
    exact List.sublist_append_left _ _
  have resources : KeptIn old.resources.entries new.resources.entries := by
    obtain ⟨common, commonMade, made⟩ := Template.declareAll_append_eq_ok.mp made
    obtain ⟨commonMore, commonMoreMade, madeMore⟩ := Template.declareAll_append_eq_ok.mp madeMore
    obtain ⟨between, betweenMade, madeMore⟩ := Template.declareAll_append_eq_ok.mp madeMore
    have commonEntries := Cluster.entries_of_common commonMade
    have commonMoreEntries := Cluster.entries_of_common commonMoreMade
    -- Neither template has the role yet when the services come, so that they enter it in both.
    have alike : ∀ key definition, .sharedResource key definition ∈ ofServices →
        (key ∈ common.resources.keys ↔ key ∈ commonMore.resources.keys) := by
      intro key definition member
      rw [Registry.keys, commonEntries, Registry.keys, commonMoreEntries]
      refine iff_of_false ?_ ?_
      · exact (Cluster.settled_of_resolve resolved).not_mem_common_of_shared declared member
      · exact (Cluster.settled_of_resolve resolvedMore).not_mem_common_of_shared declaredMore
          (List.mem_append_left _ member)
    obtain ⟨same, entries, entriesMore⟩ := Template.exists_added made betweenMade alike
    obtain ⟨rest, restEntries, -⟩ := (Template.grown_of_declareAll madeMore).resources
    rw [entries, restEntries, entriesMore, commonEntries, commonMoreEntries, List.append_assoc]
    exact extended.keptIn_commonDeclarations.append (.of_sublist (List.sublist_append_left _ _))
  exact ⟨outputs, fun key before member => resources.exists_of_mem member, resources.keys_sublist⟩

/-- A cluster with one service, which listens on one port. -/
def oneServiceCluster : ClusterSpec :=
  .minimal "main" [(ServiceSpec.minimal "web" "nginx").listening [.minimal .http]]

/-- A service with a listener on the same port and one on a port of its own. -/
def joiningService : ServiceSpec :=
  (ServiceSpec.minimal "api" "nginx").listening [
    .minimal .http, { ListenerSpec.minimal .http with port := some 8080 }]

/-- The load balancer gets a second security group and a second listener. -/
theorem compile_extends_joiningService : ∃ old new,
    compile (.ofService "dev" "shop") oneServiceCluster = .ok old ∧
    compile (.ofService "dev" "shop")
      { oneServiceCluster with services := oneServiceCluster.services ++ [joiningService] } = .ok new ∧
    old.resources.size = 18 ∧ new.resources.size = 28 ∧ old.ExtendedBy new := by
  obtain ⟨old, compiled, size⟩ : ∃ old, compile (.ofService "dev" "shop") oneServiceCluster = .ok old ∧
      (old.resources.size == 18) = true := exists_of_passes (by decide +kernel)
  obtain ⟨new, compiledMore, newSize⟩ : ∃ new, compile (.ofService "dev" "shop")
      { oneServiceCluster with services := oneServiceCluster.services ++ [joiningService] } = .ok new ∧
        (new.resources.size == 28) = true := exists_of_passes (by decide +kernel)
  exact ⟨old, new, compiled, compiledMore, eq_of_beq size, eq_of_beq newSize,
    compile_extends compiled compiledMore⟩

end ClusterStack
