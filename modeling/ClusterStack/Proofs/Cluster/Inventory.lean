import ClusterStack.Proofs.Cluster.Described
import ClusterStack.Proofs.Compile.Closure
import ClusterStack.Proofs.Service.Inventory

/-!
# Inventories of templates

A template has as many resources of each kind as its description asks for. What a cluster declares is
counted part by part; the role that all services share is there once.
-/

set_option autoImplicit false

namespace ClusterStack

open Declaration (owned? kindsOf)

variable {deployment : Deployment}

theorem Network.kindsOf_declarations {owner : String} {spec : NetworkSpec} {network : Network}
    (resolved : resolve deployment owner spec = .ok network) (tags : Tags) :
    kindsOf (network.declarations tags) = spec.kinds := by
  rcases existing_or_dedicated resolved with ⟨existing, found, rfl⟩ | ⟨dedicated, found, rfl, length⟩
  · rw [NetworkSpec.kinds, if_pos existing]
    rfl
  · have subnets : kindsOf (found.subnets.mapIdx (found.subnetDeclarations tags)).flatten =
        repeatKinds (found.subnets.mapIdx (found.subnetDeclarations tags)).length
          [.subnet, .subnetRouteTableAssociation] := by
      refine Declaration.kindsOf_flatten_of_forall fun part member => ?_
      obtain ⟨index, bound, rfl⟩ := List.mem_mapIdx.mp member
      rfl
    rw [NetworkSpec.kinds, if_neg dedicated, declarations, DedicatedNetwork.declarations,
      Declaration.kindsOf_append, subnets, List.length_mapIdx, length]
    rfl

section Attached

variable {spec : ClusterSpec}

theorem ClusterSpec.map_ports_attached (enabled : spec.albDisabled = false) :
    (spec.attached.map fun entry => entry.2.1) = spec.demands.map (·.1) := by
  rw [attached, enabled, if_neg Bool.false_ne_true, demands, List.map_flatMap, List.map_flatMap]
  exact List.flatMap_congr fun service _ => List.map_map

theorem ClusterHome.shared_or_created (name : String) :
    (spec.IsShared ∧ ∃ arn ingressGroup, ofSpec name spec = .shared arn ingressGroup) ∨
      (¬spec.IsShared ∧ ofSpec name spec = .created name) := by
  rw [ClusterSpec.IsShared, ofSpec, shared?]
  cases spec.clusterArns with
  | none => simp
  | some arns =>
    cases cluster : provided? arns.ecsClusterArn <;> cases group : provided? arns.ecsIngressSecGroupId <;>
      simp [cluster, group]

end Attached

namespace Cluster

variable {spec : ClusterSpec} {cluster : Cluster}

theorem dedicated_or_existing (resolved : resolve deployment spec = .ok cluster) :
    (spec.IsDedicated ∧ cluster.network.isExisting = false) ∨
      (¬spec.IsDedicated ∧ cluster.network.isExisting = true) := by
  obtain ⟨network, given, networkResolved⟩ := exists_network resolved
  have dedicated : spec.IsDedicated ↔ ¬network.IsExisting := by simp [ClusterSpec.IsDedicated, given]
  rw [dedicated, ← Network.isExisting_of_resolve networkResolved]
  cases cluster.network.isExisting <;> simp

theorem Settled.isManaged_iff (settled : cluster.Settled deployment spec) :
    cluster.balancer.isManaged = true ↔ spec.IsManaged := by
  rw [ClusterSpec.IsManaged, Balancer.isManaged]
  cases enabled : spec.albDisabled with
  | true => simp [settled.mode_eq_disabled enabled, BalancerMode.isManaged]
  | false =>
    cases given : provided? spec.albListenerArn with
    | some supplied => simp [settled.mode_eq_external enabled given, BalancerMode.isManaged]
    | none => simp [settled.mode_eq_managed enabled given, BalancerMode.isManaged]

theorem Settled.kindsOf_ownDeclarations (settled : cluster.Settled deployment spec)
    (resolved : resolve deployment spec = .ok cluster) :
    kindsOf cluster.ownDeclarations = spec.ownKinds := by
  rw [ClusterSpec.ownKinds, ownDeclarations, settled.home]
  rcases ClusterHome.shared_or_created (deployment.idOf ⟨cluster.clusterPrefix, .cluster, .single⟩) with
    ⟨shared, arn, ingressGroup, home⟩ | ⟨unshared, home⟩
  · rw [home, if_pos shared]
    rfl
  · rw [home, if_neg unshared]
    rcases dedicated_or_existing resolved with ⟨dedicated, generated⟩ | ⟨undedicated, existing⟩
    · rw [if_pos dedicated, generated]
      rfl
    · rw [if_neg undedicated, existing]
      rfl

theorem Settled.exists_ingressGroup (settled : cluster.Settled deployment spec)
    (dedicated : cluster.network.isExisting = false) : ∃ group, cluster.ingressGroup = some group := by
  rcases home_cases settled with created | ⟨arn, group, shared⟩
  · exact ⟨.ref cluster.containerGroup, ingressGroup_eq created dedicated⟩
  · refine ⟨.ofInput group, ?_⟩
    rw [ingressGroup, shared]

theorem Settled.length_serviceGroups (settled : cluster.Settled deployment spec) :
    cluster.balancer.serviceGroups.length = spec.admitted := by
  rw [settled.balancer.serviceGroups, isDisabled_eq_albDisabled settled, settled.balancer.isPrivate,
    ClusterSpec.admitted, Bool.or_comm]
  split
  · rfl
  · rename_i isPublic
    simp only [Bool.or_eq_true, not_or, Bool.not_eq_true] at isPublic
    rw [Balancer.planGroups, List.length_map, ← List.countP_eq_length_filter,
      ← specs_of_services settled.specs, List.countP_map]
    refine List.countP_congr fun service member => ?_
    have length := Service.length_attachedListeners (settled.service member).2 (settled.describes member)
    rw [isPublic.2, if_neg Bool.false_ne_true] at length
    rw [Service.hasAttachedListener_iff, length]
    simp

theorem Settled.kindsOf_groups (settled : cluster.Settled deployment spec)
    (resolved : resolve deployment spec = .ok cluster) :
    kindsOf (cluster.balancer.serviceGroups.flatMap
      (Balancer.groupDeclarations cluster.tags cluster.network cluster.ingressGroup)) = spec.groupKinds := by
  rw [ClusterSpec.groupKinds, ← settled.length_serviceGroups]
  refine Declaration.kindsOf_flatMap_of_forall fun group _ => ?_
  rcases dedicated_or_existing resolved with ⟨dedicated, generated⟩ | ⟨undedicated, existing⟩
  · obtain ⟨container, given⟩ := settled.exists_ingressGroup generated
    rw [if_pos dedicated, Balancer.groupDeclarations, generated, given]
    rfl
  · rw [if_neg undedicated, Balancer.groupDeclarations, existing]
    rfl

theorem Settled.length_listeners (settled : cluster.Settled deployment spec)
    (enabled : spec.albDisabled = false) :
    cluster.balancer.listeners.length = (spec.attached.map fun entry => entry.2.1).dedup.length := by
  have collected := settled.balancer.listeners ((isDisabled_eq_albDisabled settled).trans enabled)
  rw [← List.length_map (·.port), ClusterSpec.map_ports_attached enabled, ← demands_of_services settled.specs]
  apply List.Perm.length_eq
  refine (List.perm_ext_iff_of_nodup collected.distinct (List.nodup_dedup _)).mpr fun port => ?_
  rw [List.mem_dedup]
  exact collected.mem_ports_iff

theorem Settled.kindsOf_balancer (settled : cluster.Settled deployment spec)
    (resolved : resolve deployment spec = .ok cluster) :
    kindsOf (cluster.balancer.declarations cluster.tags cluster.network cluster.ingressGroup) =
      spec.groupKinds ++ spec.balancerKinds := by
  have groups := settled.kindsOf_groups resolved
  cases enabled : spec.albDisabled with
  | true =>
    have unmanaged : ¬spec.IsManaged := fun managed => Bool.false_ne_true (managed.1.symm.trans enabled)
    have none : spec.admitted = 0 := by rw [ClusterSpec.admitted, enabled, Bool.or_true, if_pos rfl]
    rw [Balancer.declarations, settled.mode_eq_disabled enabled, ClusterSpec.balancerKinds, if_neg unmanaged,
      ClusterSpec.groupKinds, none]
    rfl
  | false =>
    cases given : provided? spec.albListenerArn with
    | some supplied =>
      rw [Balancer.declarations, settled.mode_eq_external enabled given, ClusterSpec.balancerKinds,
        if_neg fun managed => by simp [managed.2] at given, List.append_nil]
      exact groups
    | none =>
      have listeners : kindsOf (cluster.balancer.listeners.map fun listener =>
          .resource listener.name (cluster.balancer.listenerResource listener)) =
            repeatKinds cluster.balancer.listeners.length [.loadBalancerListener] := by
        rw [Declaration.kindsOf_of_forall fun declaration member => ?_, List.length_map]
        obtain ⟨listener, -, rfl⟩ := List.mem_map.mp member
        rfl
      rw [Balancer.declarations, settled.mode_eq_managed enabled given, ClusterSpec.balancerKinds,
        if_pos ⟨enabled, given⟩, Declaration.kindsOf_append, groups, ← settled.length_listeners enabled,
        ← listeners]
      rfl

theorem Settled.kindsOf_declarations (settled : cluster.Settled deployment spec)
    (resolved : resolve deployment spec = .ok cluster) {declarations : List Declaration}
    (declared : cluster.declarations deployment = .ok declarations) :
    kindsOf declarations = spec.vpc.toList.flatMap (·.kinds) ++ spec.ownKinds ++
      (spec.groupKinds ++ spec.balancerKinds) ++ spec.services.flatMap (·.kinds spec.albDisabled) := by
  obtain ⟨parts, related, rfl⟩ := declarations_eq_ok.mp declared
  obtain ⟨network, given, networkResolved⟩ := exists_network resolved
  have each : parts.map kindsOf = cluster.services.map fun service => service.spec.kinds spec.albDisabled :=
    map_eq_of_forall₂ related fun service member part partDeclared =>
      @Service.kindsOf_declarations _ _ _ _ service (cluster.serviceScope deployment)
        (settled.service member).2 (settled.describes member) _ partDeclared
  have services : kindsOf parts.flatten = spec.services.flatMap (·.kinds spec.albDisabled) := by
    rw [Declaration.kindsOf_flatten, each, ← specs_of_services settled.specs, List.flatMap_map,
      List.flatMap_def]
  rw [Declaration.kindsOf_append, Declaration.kindsOf_append, Declaration.kindsOf_append,
    Network.kindsOf_declarations networkResolved, settled.kindsOf_ownDeclarations resolved,
    settled.kindsOf_balancer resolved, services, given, Option.toList_some, List.flatMap_singleton]

/-- The role under which tasks are started, with its key, where it is generated. -/
def roleEntries (cluster : Cluster) : List (String × Resource) :=
  match cluster.executionRole with
  | .supplied _ => []
  | .generated name =>
    if cluster.services.isEmpty then [] else [(name, ExecutionRole.resource name cluster.tags)]

theorem mem_roleEntries {key : String} {definition : Resource} :
    (key, definition) ∈ cluster.roleEntries ↔ cluster.executionRole = .generated key ∧
      cluster.services ≠ [] ∧ definition = ExecutionRole.resource key cluster.tags := by
  rw [roleEntries]
  cases cluster.executionRole with
  | supplied _ => simp
  | generated name =>
    by_cases empty : cluster.services = []
    · simp [empty]
    · simp only [List.isEmpty_iff, empty, if_false, List.mem_singleton, Prod.mk.injEq,
        ExecutionRole.generated.injEq, ne_eq, not_false_eq_true, true_and]
      constructor
      · rintro ⟨same, role⟩
        exact ⟨same.symm, same ▸ role⟩
      · rintro ⟨same, role⟩
        exact ⟨same.symm, same ▸ role⟩

theorem nodup_roleEntries : cluster.roleEntries.Nodup := by
  rw [roleEntries]
  split
  · exact List.nodup_nil
  · split
    · exact List.nodup_nil
    · exact List.nodup_singleton _

theorem Settled.map_kind_roleEntries (settled : cluster.Settled deployment spec) :
    cluster.roleEntries.map (·.2.kind) = spec.roleKinds := by
  have services : spec.services = [] ↔ cluster.services = [] := by
    rw [← specs_of_services settled.specs, List.map_eq_nil_iff]
  rw [roleEntries, settled.executionRole, executionRoleOf, ClusterSpec.roleKinds]
  cases provided? spec.executionRoleArn with
  | some _ => rfl
  | none =>
    by_cases empty : cluster.services = []
    · rw [empty, if_pos (.inr (services.mpr empty))]
      rfl
    · rw [if_neg (by simpa [services] using empty)]
      simp only [List.isEmpty_iff, empty, if_false]
      rfl

section Entries

variable {declarations : List Declaration} {template : Template}

/-- A template has what is declared for one component alone, and the role that services share. -/
theorem Settled.mem_entries_iff (settled : cluster.Settled deployment spec)
    (declared : cluster.declarations deployment = .ok declarations)
    (made : Template.ofDeclarations declarations = .ok template) {key : String} {definition : Resource} :
    (key, definition) ∈ template.resources.entries ↔
      (key, definition) ∈ declarations.filterMap owned? ∨ (key, definition) ∈ cluster.roleEntries := by
  obtain ⟨added, entries, least, -⟩ := (Template.grown_of_ofDeclarations made).resources
  constructor
  · intro present
    obtain ⟨declaration, member, given⟩ := Template.exists_declaration_of_mem made present
    cases declaration with
    | resource _ _ => exact .inl (List.mem_filterMap.mpr ⟨_, member, given⟩)
    | sharedResource _ _ =>
      cases given
      exact .inr (mem_roleEntries.mpr (sharedResource_of_mem declared member))
    | output _ _ => cases given
  · intro listed
    rcases listed with alone | shared
    · rw [entries]
      exact List.mem_append_right _ (least.subset alone)
    · obtain ⟨generated, nonempty, rfl⟩ := mem_roleEntries.mp shared
      have member := mem_sharedResource declared generated nonempty
      obtain ⟨existing, present, -⟩ := (Template.grown_of_ofDeclarations made).shared _ _ member
      -- What stands under the key can only be what is declared as shared.
      obtain ⟨declaration, inside, given⟩ := Template.exists_declaration_of_mem made present
      cases declaration with
      | resource _ _ =>
        cases given
        have alone : (key, existing) ∈ declarations.filterMap owned? :=
          List.mem_filterMap.mpr ⟨_, inside, rfl⟩
        exact absurd (Entries.mem_keys_of_mem alone) (settled.not_mem_ownKeys_of_shared declared member)
      | sharedResource _ _ =>
        cases given
        obtain ⟨-, -, rfl⟩ := sharedResource_of_mem declared inside
        exact present
      | output _ _ => cases given

theorem Settled.entries_perm (settled : cluster.Settled deployment spec)
    (declared : cluster.declarations deployment = .ok declarations)
    (made : Template.ofDeclarations declarations = .ok template) :
    template.resources.entries.Perm (declarations.filterMap owned? ++ cluster.roleEntries) := by
  have distinct : template.resources.entries.Nodup := .of_map _ template.resources.distinct
  have own : (declarations.filterMap owned?).Nodup := by
    obtain ⟨added, entries, least, -⟩ := (Template.grown_of_ofDeclarations made).resources
    rw [entries] at distinct
    exact distinct.sublist least
  have apart : (declarations.filterMap owned?).Disjoint cluster.roleEntries := by
    intro entry alone shared
    obtain ⟨generated, nonempty, -⟩ := mem_roleEntries.mp shared
    exact settled.not_mem_ownKeys_of_shared declared (mem_sharedResource declared generated nonempty)
      (Entries.mem_keys_of_mem alone)
  refine (List.perm_ext_iff_of_nodup distinct (own.append nodup_roleEntries apart)).mpr fun entry => ?_
  rw [List.mem_append]
  exact settled.mem_entries_iff declared made

theorem Settled.kinds_perm (settled : cluster.Settled deployment spec)
    (resolved : resolve deployment spec = .ok cluster)
    (declared : cluster.declarations deployment = .ok declarations)
    (made : Template.ofDeclarations declarations = .ok template) :
    (template.resources.entries.map (·.2.kind)).Perm spec.kinds := by
  have perm := (settled.entries_perm declared made).map (·.2.kind)
  rwa [List.map_append, Declaration.map_kind_owned, settled.kindsOf_declarations resolved declared,
    settled.map_kind_roleEntries] at perm

theorem Settled.length_outputs (settled : cluster.Settled deployment spec)
    (declared : cluster.declarations deployment = .ok declarations)
    (made : Template.ofDeclarations declarations = .ok template) :
    template.outputs.entries.length = if spec.IsManaged then spec.attached.length else 0 := by
  have keys : template.outputs.entries.length = cluster.outputLabels.length := by
    rw [Template.outputs_of_ofDeclarations made, ← List.length_map Prod.fst,
      ← List.length_map deployment.idOf, ← outputKeys_declarations settled declared]
    rfl
  have services : (cluster.services.flatMap fun service =>
      service.listeners.flatMap (Listener.outputLabels service.servicePrefix)).length =
        spec.attached.length := by
    rw [List.length_flatMap, ← ClusterSpec.length_attached, ← specs_of_services settled.specs, List.map_map]
    refine congrArg List.sum (List.map_congr_left fun service member => ?_)
    have settles := (settled.service member).2
    rw [Service.length_outputLabels settles,
      Service.length_attachedListeners settles (settled.describes member)]
    rfl
  rw [keys, outputLabels]
  by_cases managed : spec.IsManaged
  · rw [if_pos (settled.isManaged_iff.mpr managed), if_pos managed, services]
  · rw [if_neg (fun generated => managed (settled.isManaged_iff.mp generated)), if_neg managed]
    rfl

end Entries

end Cluster

/-- The resources of a template are as many of each kind as the inventory of its description says, and
there is an output for each listener that a generated load balancer serves. -/
theorem compile_inventory {spec : ClusterSpec} {template : Template}
    (compiled : compile deployment spec = .ok template) :
    (∀ kind, (template.resources.entries.map (·.2.kind)).count kind = spec.inventory kind) ∧
      template.outputs.entries.length = if spec.IsManaged then spec.attached.length else 0 := by
  obtain ⟨cluster, resolved, -⟩ := compile_eq_ok.mp compiled
  obtain ⟨declarations, declared, made⟩ := exists_declarations_of_compile resolved compiled
  have settled := Cluster.settled_of_resolve resolved
  refine ⟨fun kind => ?_, settled.length_outputs declared made⟩
  rw [(settled.kinds_perm resolved declared made).count_eq, ClusterSpec.count_kinds]

/-- A service that listens, next to one that scales in on a metric: roles for scaling and for starting
tasks, and one rule, one target group and one output for the listener. -/
theorem compile_inventory_listening : ∃ template,
    compile (.ofService "dev" "shop") (.minimal "main" [
      (ServiceSpec.minimal "web" "nginx").listening [.minimal .http],
      (ServiceSpec.minimal "jobs" "nginx").scalingIn ["Queue"]]) = .ok template ∧
    (template.resources.entries.map (·.2.kind)).count .iamRole = 2 ∧
    (template.resources.entries.map (·.2.kind)).count .listenerRule = 1 ∧
    (template.resources.entries.map (·.2.kind)).count .targetGroup = 1 ∧
    (template.resources.entries.map (·.2.kind)).count .alarm = 1 ∧
    template.outputs.entries.length = 1 := by
  obtain ⟨template, compiled⟩ : ∃ template,
      compile (.ofService "dev" "shop") (.minimal "main" [
        (ServiceSpec.minimal "web" "nginx").listening [.minimal .http],
        (ServiceSpec.minimal "jobs" "nginx").scalingIn ["Queue"]]) = .ok template :=
    exists_of_isOk (by decide +kernel)
  obtain ⟨counts, outputs⟩ := compile_inventory compiled
  exact ⟨template, compiled, counts .iamRole, counts .listenerRule, counts .targetGroup, counts .alarm,
    outputs⟩

end ClusterStack
