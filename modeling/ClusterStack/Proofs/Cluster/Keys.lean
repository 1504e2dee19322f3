import ClusterStack.Proofs.Cluster.Distinctness
import ClusterStack.Proofs.Cluster.Kinds
import ClusterStack.Proofs.Template.Same

/-!
# Keys of a cluster

A template has the resources of a cluster under the ids of their labels, and its outputs under ids
that are never confused. Where two resources have one id, one of them is a group that admits everyone
to a service; only then is there no template for the reason that a resource is there already.
-/

set_option autoImplicit false

namespace ClusterStack

open Declaration (keysOf owned? output?)

namespace Cluster

variable {deployment : Deployment} {spec : ClusterSpec} {cluster : Cluster}

/-- The only resource that is shared is the role under which tasks are started. -/
theorem sharedResource_of_mem {declarations : List Declaration}
    (declared : cluster.declarations deployment = .ok declarations) {key : String} {definition : Resource}
    (member : .sharedResource key definition ∈ declarations) :
    cluster.executionRole = .generated key ∧ cluster.services ≠ [] ∧
      definition = ExecutionRole.resource key cluster.tags := by
  obtain ⟨parts, related, rfl⟩ := declarations_eq_ok.mp declared
  rcases List.mem_append.mp member with common | ofServices
  · have common : .sharedResource key definition ∈ cluster.commonDeclarations := common
    obtain ⟨_, _, other⟩ := exists_resource_of_common common
    cases other
  · obtain ⟨part, listed, ofService⟩ := List.mem_flatten.mp ofServices
    obtain ⟨service, present, partDeclared⟩ := exists_of_forall₂_right related listed
    rcases (Service.mem_declarations partDeclared).mp ofService with core |
      ⟨listener, -, arn, -, ofRule | target⟩ | ofScaling | ofRole | ofOutput
    · exact absurd rfl ((Service.isOwned_coreDeclarations core).ne_sharedResource key definition)
    · obtain ⟨-, _, _, made⟩ := Listener.mem_ruleDeclarations.mp ofRule
      cases made
    · cases target
    · exact absurd rfl ((Service.isOwned_scalingDeclarations ofScaling).ne_sharedResource key definition)
    · change _ ∈ cluster.executionRole.declarations cluster.tags at ofRole
      cases kind : cluster.executionRole <;> rw [kind] at ofRole
      · cases ofRole
      · have same := List.mem_singleton.mp ofRole
        cases same
        exact ⟨rfl, List.ne_nil_of_mem present, rfl⟩
    · obtain ⟨_, _, made⟩ := service.exists_output_of_mem ofOutput
      cases made

/-- Every service declares the role, where it is generated. -/
theorem mem_sharedResource {declarations : List Declaration}
    (declared : cluster.declarations deployment = .ok declarations) {key : String}
    (generated : cluster.executionRole = .generated key) (nonempty : cluster.services ≠ []) :
    .sharedResource key (ExecutionRole.resource key cluster.tags) ∈ declarations := by
  obtain ⟨service, present⟩ := List.exists_mem_of_ne_nil _ nonempty
  obtain ⟨part, partDeclared, within⟩ := exists_service_declarations declared present
  refine within ((Service.mem_declarations partDeclared).mpr (.inr (.inr (.inr (.inl ?_)))))
  change _ ∈ cluster.executionRole.declarations cluster.tags
  rw [generated]
  exact .head _

theorem Settled.generated_eq (settled : cluster.Settled deployment spec) {key : String}
    (generated : cluster.executionRole = .generated key) :
    key = deployment.idOf ⟨cluster.clusterPrefix, .executionRole, .single⟩ := by
  rcases executionRole_cases settled with labelled | ⟨arn, supplied⟩
  · rw [labelled, ExecutionRole.generated.injEq] at generated
    exact generated.symm
  · rw [supplied] at generated
    cases generated

theorem Settled.exists_label (settled : cluster.Settled deployment spec) {declarations : List Declaration}
    (declared : cluster.declarations deployment = .ok declarations) {key : String} {definition : Resource}
    (member : (key, definition) ∈ declarations.filterMap Declaration.resource?) :
    ∃ label ∈ cluster.labels, deployment.idOf label = key := by
  obtain ⟨declaration, present, given⟩ := List.mem_filterMap.mp member
  cases declaration with
  | resource _ _ =>
    cases given
    have own : key ∈ keysOf owned? declarations :=
      Entries.mem_keys_of_mem (List.mem_filterMap.mpr ⟨_, present, rfl⟩)
    obtain ⟨label, listed, told⟩ :=
      List.mem_map.mp ((ownKeys_declarations settled declared).mem_iff.mp own)
    exact ⟨label, List.mem_append_left _ listed, told⟩
  | sharedResource _ _ =>
    cases given
    obtain ⟨generated, nonempty, -⟩ := sharedResource_of_mem declared present
    refine ⟨_, List.mem_append_right _ (mem_roleLabels.mpr ⟨⟨key, generated⟩, nonempty, rfl⟩), ?_⟩
    exact (settled.generated_eq generated).symm
  | output _ _ => cases given

/-- The keys of the resources in a template are the ids of the labels of the cluster. -/
theorem Settled.mem_keys_iff (settled : cluster.Settled deployment spec) {declarations : List Declaration}
    (declared : cluster.declarations deployment = .ok declarations) {template : Template}
    (made : Template.ofDeclarations declarations = .ok template) {key : String} :
    key ∈ template.resources.keys ↔ ∃ label ∈ cluster.labels, deployment.idOf label = key := by
  constructor
  · intro member
    obtain ⟨resource, present⟩ := Registry.mem_keys.mp member
    exact settled.exists_label declared
      (List.mem_filterMap.mpr (Template.exists_declaration_of_mem made present))
  · rintro ⟨label, member, rfl⟩
    rcases List.mem_append.mp member with own | role
    · have declaredKey : deployment.idOf label ∈ keysOf owned? declarations :=
        (ownKeys_declarations settled declared).mem_iff.mpr (List.mem_map_of_mem own)
      obtain ⟨added, entries, least, -⟩ := (Template.grown_of_ofDeclarations made).resources
      obtain ⟨resource, present⟩ := Entries.mem_keys.mp declaredKey
      refine Registry.mem_keys.mpr ⟨resource, ?_⟩
      rw [entries]
      exact List.mem_append_right _ (least.subset present)
    · obtain ⟨⟨key, generated⟩, nonempty, rfl⟩ := mem_roleLabels.mp role
      obtain ⟨existing, present, -⟩ :=
        (Template.grown_of_ofDeclarations made).shared _ _ (mem_sharedResource declared generated nonempty)
      rw [← settled.generated_eq generated]
      exact Registry.mem_keys.mpr ⟨existing, present⟩

end Cluster

section Outputs

variable {deployment : Deployment}

/-- The label of the address at which an attached listener is reached. -/
def Listener.outputLabels (owner : String) (listener : Listener) : List Label :=
  if listener.isAttached then
    listener.protocol.toList.map fun protocol => ⟨owner, .service, .endpoint protocol listener.port⟩
  else []

def Cluster.outputLabels (cluster : Cluster) : List Label :=
  if cluster.balancer.isManaged then
    cluster.services.flatMap fun service =>
      service.listeners.flatMap (Listener.outputLabels service.servicePrefix)
  else []

/-- The labels of all addresses, whether or not there are outputs for them. -/
def Cluster.endpointLabels (cluster : Cluster) : List Label :=
  cluster.services.flatMap fun service =>
    service.listeners.flatMap (Listener.outputLabels service.servicePrefix)

theorem Listener.outputKeys_outputDeclarations {listener : Listener} {owner : String} {albDisabled : Bool}
    (settled : listener.Settled deployment owner albDisabled) (dnsName : Value) :
    keysOf output? (listener.outputDeclarations dnsName) =
      (listener.outputLabels owner).map deployment.idOf := by
  cases declares : listener.protocol with
  | none => simp [outputDeclarations, outputLabels, declares]
  | some protocol =>
    cases attached : listener.isAttached <;>
      simp [outputDeclarations, outputLabels, declares, attached, settled.outputKey protocol declares]

theorem Service.outputKeys_declarations {service : Service} {scope : ServiceScope}
    {clusterPrefix : String} {albDisabled : Bool}
    (settled : service.Settled scope.deployment clusterPrefix albDisabled)
    {declarations : List Declaration} (declared : service.declarations scope = .ok declarations) :
    keysOf output? declarations =
      if scope.balancer.isManaged then
        (service.listeners.flatMap (Listener.outputLabels service.servicePrefix)).map scope.deployment.idOf
      else [] := by
  obtain ⟨attached, related, rfl⟩ := declarations_eq_ok.mp declared
  have core : keysOf output? (service.coreDeclarations scope) = [] :=
    Declaration.keysOf_eq_nil fun _ member =>
      (isOwned_coreDeclarations member).output?_eq_none
  have listeners : keysOf output? attached.flatten = [] := by
    refine Declaration.keysOf_eq_nil fun declaration member => ?_
    obtain ⟨part, listed, member⟩ := List.mem_flatten.mp member
    obtain ⟨listener, -, partDeclared⟩ := exists_of_forall₂_right related listed
    obtain ⟨arn, -, rfl⟩ := listenerDeclarations_eq_ok.mp partDeclared
    rcases List.mem_append.mp member with rule | target
    · obtain ⟨-, _, _, rfl⟩ := Listener.mem_ruleDeclarations.mp rule
      rfl
    · obtain rfl := List.mem_singleton.mp target
      rfl
  have scaling : keysOf output? (service.scalingDeclarations scope) = [] :=
    Declaration.keysOf_eq_nil fun _ member =>
      (isOwned_scalingDeclarations member).output?_eq_none
  have role : keysOf output? (scope.executionRole.declarations scope.tags) = [] := by
    cases kind : scope.executionRole <;> rfl
  simp only [Declaration.keysOf_append, core, listeners, scaling, role, List.nil_append, outputDeclarations]
  split
  · rw [Declaration.keysOf_flatMap, List.map_flatMap]
    exact List.flatMap_congr fun listener listed =>
      Listener.outputKeys_outputDeclarations (settled.listeners listener listed) _
  · rfl

theorem Cluster.outputKeys_declarations {spec : ClusterSpec} {cluster : Cluster}
    (settled : cluster.Settled deployment spec) {declarations : List Declaration}
    (declared : cluster.declarations deployment = .ok declarations) :
    keysOf output? declarations = cluster.outputLabels.map deployment.idOf := by
  obtain ⟨parts, related, rfl⟩ := declarations_eq_ok.mp declared
  have common : keysOf output? (cluster.network.declarations cluster.tags ++ cluster.ownDeclarations ++
      cluster.balancer.declarations cluster.tags cluster.network cluster.ingressGroup) = [] :=
    congrArg Entries.keys cluster.output_commonDeclarations
  let scope := cluster.serviceScope deployment
  have services := Declaration.keysOf_flatten related fun service member part partDeclared =>
    @Service.outputKeys_declarations service scope _ _ (settled.service member).2 _ partDeclared
  rw [Declaration.keysOf_append, common, List.nil_append, services, outputLabels]
  change (cluster.services.flatMap fun service => if cluster.balancer.isManaged then
    (service.listeners.flatMap (Listener.outputLabels service.servicePrefix)).map deployment.idOf else []) = _
  split
  · rw [List.map_flatMap]
  · simp

theorem Listener.mem_outputLabels {listener : Listener} {owner : String} {label : Label}
    (member : label ∈ listener.outputLabels owner) :
    ∃ protocol, label = ⟨owner, .service, .endpoint protocol listener.port⟩ := by
  unfold outputLabels at member
  split at member
  · obtain ⟨protocol, -, rfl⟩ := List.mem_map.mp member
    exact ⟨protocol, rfl⟩
  · cases member

theorem Service.belongs_outputLabels (service : Service) :
    ∀ label ∈ service.listeners.flatMap (Listener.outputLabels service.servicePrefix),
      label.Belongs service.servicePrefix [.service] := by
  intro label member
  obtain ⟨listener, -, member⟩ := List.mem_flatMap.mp member
  obtain ⟨protocol, rfl⟩ := Listener.mem_outputLabels member
  exact ⟨rfl, by simp, trivial⟩

theorem Cluster.isPlain_endpointLabels (cluster : Cluster) :
    ∀ label ∈ cluster.endpointLabels, label.IsPlain := by
  intro label member
  obtain ⟨service, -, member⟩ := List.mem_flatMap.mp member
  exact (service.belongs_outputLabels label member).isPlain (by decide)

/-- The ports of a service are distinct, and so are the prefixes of the services. -/
theorem Cluster.Settled.nodup_endpointLabels {spec : ClusterSpec} {cluster : Cluster}
    (settled : cluster.Settled deployment spec) : cluster.endpointLabels.Nodup := by
  refine List.nodup_flatMap.mpr ⟨fun service member => List.nodup_flatMap.mpr ⟨?_, ?_⟩, ?_⟩
  · intro listener _
    unfold Listener.outputLabels
    split
    · cases listener.protocol <;> simp
    · exact List.nodup_nil
  · have ports := (settled.service member).2.ports
    rw [List.nodup_iff_pairwise_ne, List.pairwise_map] at ports
    refine ports.imp fun different label here there => ?_
    obtain ⟨_, rfl⟩ := Listener.mem_outputLabels here
    obtain ⟨_, same⟩ := Listener.mem_outputLabels there
    simp only [Label.mk.injEq, Mark.endpoint.injEq] at same
    exact different same.2.2.2
  · have prefixes := settled.servicePrefixes
    rw [List.nodup_iff_pairwise_ne, List.pairwise_map] at prefixes
    exact prefixes.imp fun different =>
      Label.disjoint_of_owners (Service.belongs_outputLabels _) (Service.belongs_outputLabels _) different

theorem Cluster.Settled.nodup_endpointIds {spec : ClusterSpec} {cluster : Cluster}
    (settled : cluster.Settled deployment spec) : (cluster.endpointLabels.map deployment.idOf).Nodup :=
  settled.nodup_endpointLabels.map_on fun a here b there =>
    Label.eq_of_idOf_eq (cluster.isPlain_endpointLabels a here) (cluster.isPlain_endpointLabels b there)

theorem Cluster.outputLabels_sublist (cluster : Cluster) :
    cluster.outputLabels.Sublist cluster.endpointLabels := by
  unfold outputLabels
  split
  · exact List.Sublist.refl _
  · exact List.nil_sublist _

theorem Cluster.Settled.nodup_outputKeys {spec : ClusterSpec} {cluster : Cluster}
    (settled : cluster.Settled deployment spec) {declarations : List Declaration}
    (declared : cluster.declarations deployment = .ok declarations) :
    (keysOf output? declarations).Nodup := by
  rw [outputKeys_declarations settled declared]
  exact settled.nodup_endpointIds.sublist (cluster.outputLabels_sublist.map _)

end Outputs

namespace Cluster

variable {deployment : Deployment} {spec : ClusterSpec} {cluster : Cluster}

/-- A group that admits everyone to a service of the one cluster has the id of something else in the
other, or in the same. -/
def Confuses (deployment : Deployment) (cluster other : Cluster) : Prop :=
  ∃ group ∈ cluster.groupLabels, ∃ label ∈ other.labels,
    group ≠ label ∧ deployment.idOf group = deployment.idOf label

/-- The role under which tasks are started has an id of its own. -/
theorem idOf_group_ne_role {group label : Label} (listed : group ∈ cluster.groupLabels)
    (role : label ∈ cluster.roleLabels) : deployment.idOf group ≠ deployment.idOf label := by
  intro same
  obtain ⟨-, -, rfl⟩ := mem_roleLabels.mp role
  obtain ⟨service, -, rfl | rfl⟩ := mem_groupLabels listed
  all_goals
    have tags := Label.tags_comparable same rfl
    simp only at tags
    exact absurd tags (by decide)

/-- Of the labels of a cluster, only those of groups are ever confused with others. -/
theorem confuses_of_idOf_eq {a b : Label} (here : a ∈ cluster.labels) {other : Cluster}
    (there : b ∈ other.labels) (different : a ≠ b) (same : deployment.idOf a = deployment.idOf b) :
    Confuses deployment cluster other ∨ Confuses deployment other cluster := by
  rcases isPlain_of_mem_labels here with group | aPlain
  · exact .inl ⟨a, group, b, there, different, same⟩
  · rcases isPlain_of_mem_labels there with group | bPlain
    · exact .inr ⟨b, group, a, here, different.symm, same.symm⟩
    · exact absurd (Label.eq_of_idOf_eq aPlain bPlain same) different

/-- The resources that are not shared have distinct keys exactly if no group is confused with one. -/
theorem Settled.nodup_ownKeys_iff (settled : cluster.Settled deployment spec)
    {declarations : List Declaration} (declared : cluster.declarations deployment = .ok declarations) :
    (keysOf owned? declarations).Nodup ↔ ¬Confuses deployment cluster cluster := by
  have keys := ownKeys_declarations settled declared
  rw [keys.nodup_iff]
  constructor
  · rintro distinct ⟨group, listed, label, member, different, same⟩
    rcases List.mem_append.mp member with own | role
    · exact different (List.inj_on_of_nodup_map distinct (List.mem_append_left _ listed) own same)
    · exact idOf_group_ne_role listed role same
  · intro apart
    refine settled.nodup_unsharedLabels.map_on fun a here b there same => ?_
    by_contra different
    rcases confuses_of_idOf_eq (List.mem_append_left _ here) (List.mem_append_left _ there) different
      same with confused | confused <;> exact apart confused

/-- A role that is shared has its key for itself. -/
theorem Settled.not_mem_ownKeys_of_shared (settled : cluster.Settled deployment spec)
    {declarations : List Declaration} (declared : cluster.declarations deployment = .ok declarations)
    {key : String} {definition : Resource} (member : .sharedResource key definition ∈ declarations) :
    key ∉ keysOf owned? declarations := by
  intro own
  obtain ⟨generated, nonempty, -⟩ := sharedResource_of_mem declared member
  have role := mem_roleLabels.mpr ⟨⟨key, generated⟩, nonempty, rfl⟩
  obtain ⟨label, listed, same⟩ := List.mem_map.mp ((ownKeys_declarations settled declared).mem_iff.mp own)
  rw [settled.generated_eq generated] at same
  rcases List.mem_append.mp listed with group | plain
  · exact idOf_group_ne_role group role same
  · obtain ⟨isPlain, other, -⟩ := cluster.belongs_plainLabels label plain
    refine other (congrArg Label.role (Label.eq_of_idOf_eq isPlain ?_ same))
    exact ⟨trivial, by simp⟩

/-- Resources of a cluster are refused for one that is there already exactly if a group that admits
everyone has the id of something else. -/
theorem Settled.ofDeclarations_eq_duplicateResource (settled : cluster.Settled deployment spec)
    {declarations : List Declaration} (declared : cluster.declarations deployment = .ok declarations) :
    (∃ key, Template.ofDeclarations declarations = .error (.duplicateResource key)) ↔
      Confuses deployment cluster cluster := by
  rw [← not_iff_not, ← settled.nodup_ownKeys_iff declared]
  constructor
  · intro accepted
    cases outcome : Template.ofDeclarations declarations with
    | ok template =>
      obtain ⟨added, entries, least, -⟩ := (Template.grown_of_ofDeclarations outcome).resources
      have distinct := template.resources.distinct
      rw [entries] at distinct
      exact distinct.sublist (least.map Prod.fst)
    | error reason =>
      obtain ⟨before, declaration, after, split, clash⟩ := Template.clash_of_declareAll_eq_error outcome
      cases clash with
      | resource _ => exact absurd ⟨_, outcome⟩ accepted
      | sharedResource _ _ => exact absurd ⟨_, outcome⟩ accepted
      | output _ =>
        have distinct : (Entries.keys (Template.empty.outputs.entries ++
            declarations.filterMap output?)).Nodup := settled.nodup_outputKeys declared
        exact absurd outcome (Template.declareAll_ne_duplicateOutput distinct _)
  · rintro distinct ⟨key, refused⟩
    have apart : (Entries.keys (Template.empty.resources.entries ++
        declarations.filterMap owned?)).Nodup := distinct
    refine Template.declareAll_ne_duplicateResource apart ?_ key refused
    intro key definition member
    refine ⟨settled.not_mem_ownKeys_of_shared declared member, ?_⟩
    obtain ⟨-, -, rfl⟩ := sharedResource_of_mem declared member
    rintro existing (present | present)
    · cases present
    · obtain ⟨-, -, rfl⟩ := sharedResource_of_mem declared present
      exact Resource.same_self _

end Cluster

end ClusterStack
