import ClusterStack.Proofs.Cluster.Described
import ClusterStack.Proofs.Compile.Closure
import ClusterStack.Proofs.Service.WellFormed

/-!
# Well-formed resources of a cluster

What a cluster takes over from an ordered description is ordered, so all that it generates is well formed.
-/

set_option autoImplicit false

namespace ClusterStack

variable {deployment : Deployment}

theorem Tags.isOrdered_ofSpec {tags : List (String × Json)} (ordered : ∀ entry ∈ tags, entry.2.IsOrdered) :
    (Tags.ofSpec tags).IsOrdered := by
  refine List.forall_mem_map.mpr fun entry member => ?_
  have kept := Value.hasOrderedExpressions_ofInput (ordered entry member)
  simp only [valueOfInput]
  split
  · simp
  · simp
  · exact kept

theorem SecurityGroups.hasOrderedExpressions_ofInput {input : Json} (ordered : input.IsOrdered) :
    (SecurityGroups.ofInput input).toValue.HasOrderedExpressions := by
  cases input with
  | array items => exact Value.hasOrderedExpressions_ofInput ordered
  | string group => simp [ofInput, toValue, toList?]
  | object members =>
    simp only [ofInput]
    split
    · simp [toValue, toList?]
    · exact .expression ordered
  | null | bool _ | number _ => exact .expression ordered

namespace Network

variable {owner : String} {spec : NetworkSpec}

theorem isOrdered_of_existing? (ordered : spec.IsOrdered) {network : ExistingNetwork}
    (existing : existing? spec = some network) : (Network.existing network).IsOrdered := by
  simp only [existing?, Option.bind_eq_bind, Option.bind_eq_some_iff, Option.pure_def,
    Option.some.injEq] at existing
  obtain ⟨vpcId, vpc, securityGroups, groups, subnetIds, subnets, rfl⟩ := existing
  have subnets := Value.hasOrderedExpressions_ofInput (forall_mem_provided? ordered.subnetIds subnetIds subnets)
  constructor
  · exact Value.hasOrderedExpressions_ofInput (forall_mem_provided? ordered.vpcId vpcId vpc)
  · exact subnets
  · rw [albSubnets]
    cases own : provided? spec.albSubnetIds with
    | none => exact subnets
    | some ids => exact Value.hasOrderedExpressions_ofInput (forall_mem_provided? ordered.albSubnetIds ids own)
  · intro given supplied
    cases supplied
    exact SecurityGroups.hasOrderedExpressions_ofInput
      (forall_mem_provided? ordered.securityGroupIds securityGroups groups)

theorem isOrdered_dedicated (network : DedicatedNetwork) : (Network.dedicated network).IsOrdered := by
  constructor <;> simp [vpcRef, albSubnets, subnets, securityGroups?]

theorem isOrdered_of_resolve (ordered : spec.IsOrdered) {network : Network}
    (resolved : resolve deployment owner spec = .ok network) : network.IsOrdered := by
  rcases existing_or_dedicated resolved with ⟨existing, found, rfl⟩ | ⟨-, found, rfl, -⟩
  · obtain ⟨given, existing⟩ := Option.isSome_iff_exists.mp (isSome_existing?_iff.mpr existing)
    rw [resolve, existing] at resolved
    cases resolved
    exact isOrdered_of_existing? ordered existing
  · exact isOrdered_dedicated found

end Network

theorem DedicatedNetwork.isWellFormed {network : DedicatedNetwork} {tags : Tags} (ordered : tags.IsOrdered) :
    ∀ declaration ∈ network.declarations tags, declaration.IsWellFormed := by
  intro declaration member
  rcases List.mem_append.mp member with own | ofSubnet
  · simp only [List.mem_cons, List.not_mem_nil, or_false] at own
    rcases own with rfl | rfl | rfl | rfl | rfl
    · exact Resource.isWellFormed_make (by simp) (by simpa using ordered.toValue?)
    · exact Resource.isWellFormed_make (by simp) (by simpa using ordered.toValue?)
    · exact Resource.isWellFormed_make (by simp) (by simp)
    · exact Resource.isWellFormed_make (by simp) (by simpa using ordered.toValue?)
    · exact Resource.isWellFormed_make (by simp) (by simp)
  · obtain ⟨declarations, listed, member⟩ := List.mem_flatten.mp ofSubnet
    obtain ⟨index, bound, rfl⟩ := List.mem_mapIdx.mp listed
    simp only [subnetDeclarations, List.mem_cons, List.not_mem_nil, or_false] at member
    rcases member with rfl | rfl
    · exact Resource.isWellFormed_make (by simp) (by simpa using ordered.toValue?)
    · exact Resource.isWellFormed_make (by simp) (by simp)

theorem Network.isWellFormed {network : Network} {tags : Tags} (ordered : tags.IsOrdered) :
    ∀ declaration ∈ network.declarations tags, declaration.IsWellFormed := by
  cases network with
  | dedicated network => exact DedicatedNetwork.isWellFormed ordered
  | existing network => simp [declarations]

namespace Balancer

variable {balancer : Balancer} {tags : Tags} {network : Network} {containerGroup : Option Value}

theorem isWellFormed_groupDeclarations (ordered : tags.IsOrdered) (networkOrdered : network.IsOrdered)
    (container : ∀ group ∈ containerGroup, group.HasOrderedExpressions) (group : ServiceGroup) :
    ∀ declaration ∈ groupDeclarations tags network containerGroup group, declaration.IsWellFormed := by
  intro declaration member
  rcases List.mem_cons.mp member with rfl | member
  · exact Resource.isWellFormed_make (by simp) (by simpa [networkOrdered.vpcRef] using ordered.toValue?)
  · obtain ⟨enclosing, given, rfl⟩ := List.mem_map.mp member
    have kept : enclosing.HasOrderedExpressions := by
      refine container enclosing ?_
      split at given
      · cases given
      · exact Option.mem_toList.mp given
    exact Resource.isWellFormed_make (by simp) (by simp [kept])

theorem hasOrderedExpressions_securityGroups (ordered : network.IsOrdered)
    (container : ∀ group ∈ containerGroup, group.HasOrderedExpressions) :
    ∀ group ∈ balancer.securityGroups network containerGroup, group.HasOrderedExpressions := by
  simp only [securityGroups, List.forall_mem_append, List.forall_mem_map]
  refine ⟨⟨by simp, ?_⟩, ?_⟩
  · split
    · exact fun group member => container group (Option.mem_toList.mp member)
    · simp
  · cases supplied : network.securityGroups? with
    | none => simp
    | some groups =>
      have whole := ordered.securityGroups groups supplied
      cases listed : groups.toList? with
      | none => simpa [listed] using whole
      | some items =>
        simpa [listed] using SecurityGroups.hasOrderedExpressions_of_mem whole listed

theorem isWellFormed_resource (ordered : tags.IsOrdered) (networkOrdered : network.IsOrdered)
    (container : ∀ group ∈ containerGroup, group.HasOrderedExpressions) :
    (balancer.resource tags network containerGroup).IsWellFormed := by
  have groups : ∀ value : Value, (if (balancer.securityGroups network containerGroup).isEmpty then none
      else some (.list (balancer.securityGroups network containerGroup))) = some value →
        value.HasOrderedExpressions := by
    split
    · simp
    · simpa using hasOrderedExpressions_securityGroups networkOrdered container
  refine Resource.isWellFormed_make (by simp) ?_
  simpa [networkOrdered.albSubnets] using And.intro ordered.toValue? groups

theorem isWellFormed_listenerResource (port : PortListener) : (balancer.listenerResource port).IsWellFormed := by
  refine Resource.isWellFormed_make (by simp) ?_
  simp

theorem isWellFormed (ordered : tags.IsOrdered) (networkOrdered : network.IsOrdered)
    (container : ∀ group ∈ containerGroup, group.HasOrderedExpressions) :
    ∀ declaration ∈ balancer.declarations tags network containerGroup, declaration.IsWellFormed := by
  intro declaration member
  rcases mem_declarations.mp member with ⟨-, group, -, ofGroup⟩ | ⟨-, rfl | ⟨port, -, rfl⟩⟩
  · exact isWellFormed_groupDeclarations ordered networkOrdered container group declaration ofGroup
  · exact isWellFormed_resource ordered networkOrdered container
  · exact isWellFormed_listenerResource port

end Balancer

theorem AutoScaleSpec.IsOrdered.steps {spec : AutoScaleSpec} (ordered : spec.IsOrdered) :
    ∀ step ∈ spec.steps, step.2.IsOrdered := by
  simp only [AutoScaleSpec.steps, List.forall_mem_append, List.forall_mem_map, Option.mem_toList]
  exact ⟨ordered.scaleIn, ordered.scaleOut⟩

theorem Service.Settled.isOrdered_steps {clusterPrefix : String} {albDisabled : Bool} {service : Service}
    (settled : service.Settled deployment clusterPrefix albDisabled) (described : service.spec.IsOrdered) :
    ∀ scaling ∈ service.scaling, ∀ step ∈ scaling.steps, step.2.IsOrdered := by
  intro scaling given
  rcases optionMapM_eq_ok.mp settled.scaling with ⟨-, absent⟩ | ⟨scale, found, present, resolved, same⟩
  · rw [absent] at given
    cases given
  · rw [same] at given
    cases given
    rw [Scaling.steps_of_resolve resolved]
    exact (described.autoScale scale present).steps

namespace Cluster

variable {spec : ClusterSpec} {cluster : Cluster}

section Ordered

variable (ordered : spec.IsOrdered) (settled : cluster.Settled deployment spec)

include ordered settled

/-- A cluster that exists elsewhere is given by what the description supplies. -/
theorem hasOrderedExpressions_of_shared {arn ingressGroup : Value}
    (shared : cluster.home = .shared arn ingressGroup) :
    arn.HasOrderedExpressions ∧ ingressGroup.HasOrderedExpressions := by
  rw [settled.home, ClusterHome.ofSpec] at shared
  cases given : ClusterHome.shared? spec with
  | none =>
    rw [given] at shared
    cases shared
  | some home =>
    rw [given] at shared
    cases shared
    simp only [ClusterHome.shared?, Option.bind_eq_bind, Option.bind_eq_some_iff, Option.pure_def,
      Option.some.injEq] at given
    obtain ⟨arns, supplied, cluster, ofCluster, group, ofGroup, same⟩ := given
    cases same
    have kept := ordered.clusterArns arns supplied
    exact ⟨Value.hasOrderedExpressions_ofInput (forall_mem_provided? kept.cluster cluster ofCluster),
      Value.hasOrderedExpressions_ofInput (forall_mem_provided? kept.ingressGroup group ofGroup)⟩

theorem hasOrderedExpressions_ingressGroup :
    ∀ group ∈ cluster.ingressGroup, group.HasOrderedExpressions := by
  intro group given
  cases home : cluster.home with
  | created name =>
    simp only [ingressGroup, home] at given
    split at given
    · cases given
    · cases given
      exact .ref _
  | shared arn ingressGroup =>
    simp only [Cluster.ingressGroup, home, Option.mem_some_iff] at given
    subst given
    exact (hasOrderedExpressions_of_shared ordered settled home).2

theorem hasOrderedExpressions_of_external {supplied : Value}
    (external : cluster.balancer.mode = .external supplied) :
    supplied.HasOrderedExpressions := by
  rw [settled.balancer.mode, BalancerMode.ofSpec] at external
  split at external
  · cases external
  · cases given : provided? spec.albListenerArn with
    | none =>
      rw [given] at external
      cases external
    | some arn =>
      rw [given] at external
      cases external
      exact Value.hasOrderedExpressions_ofInput (forall_mem_provided? ordered.albListenerArn arn given)

theorem hasOrderedExpressions_listenerArn {service : String} {port : UInt16} {arn : Value}
    (found : cluster.balancer.listenerArn service port = .ok arn) : arn.HasOrderedExpressions := by
  cases mode : cluster.balancer.mode with
  | external supplied =>
    simp only [Balancer.listenerArn, mode, Except.ok.injEq] at found
    exact found ▸ hasOrderedExpressions_of_external ordered settled mode
  | disabled | managed =>
    simp only [Balancer.listenerArn, mode] at found
    split at found
    · cases found
      exact .ref _
    · cases found

theorem hasOrderedExpressions_executionRole : cluster.executionRole.arn.HasOrderedExpressions := by
  rw [settled.executionRole, executionRoleOf]
  split
  · rename_i given
    exact Value.hasOrderedExpressions_ofInput (forall_mem_provided? ordered.executionRoleArn _ given)
  · exact .ref _

end Ordered

section Declared

variable (ordered : spec.IsOrdered) (resolved : Cluster.resolve deployment spec = .ok cluster)

include ordered resolved

theorem isOrdered_network : cluster.network.IsOrdered := by
  obtain ⟨given, supplied, networkResolved⟩ := exists_network resolved
  exact Network.isOrdered_of_resolve (ordered.vpc given supplied) networkResolved

theorem isOrdered_tags : cluster.tags.IsOrdered := by
  rw [(settled_of_resolve resolved).tags]
  exact Tags.isOrdered_ofSpec ordered.tags

/-- What the services of a cluster take from it is ordered. -/
theorem isOrdered_serviceScope : (cluster.serviceScope deployment).IsOrdered := by
  have settled := settled_of_resolve resolved
  have own : cluster.clusterRef.HasOrderedExpressions ∧ cluster.clusterArn.HasOrderedExpressions := by
    cases home : cluster.home with
    | created name => simp [clusterRef, clusterArn, home]
    | shared arn ingressGroup =>
      have kept := (hasOrderedExpressions_of_shared ordered settled home).1
      simp [clusterRef, clusterArn, home, kept]
  exact {
    tags := isOrdered_tags ordered resolved
    network := isOrdered_network ordered resolved
    clusterRef := own.1
    clusterArn := own.2
    ingressGroup := hasOrderedExpressions_ingressGroup ordered settled
    executionRole := hasOrderedExpressions_executionRole ordered settled
    listenerArn := fun _ _ _ found => hasOrderedExpressions_listenerArn ordered settled found }

theorem isWellFormed_resource (name : String) : (cluster.resource name).IsWellFormed := by
  have settings : ∀ value : Value, (if cluster.containerInsights then some (.list [.map [
      ("Name", .string "containerInsights"), ("Value", .string "enabled")]]) else none) = some value →
        value.HasOrderedExpressions := by
    split <;> simp
  refine Resource.isWellFormed_make (by simp) ?_
  simpa using And.intro (isOrdered_tags ordered resolved).toValue? settings

theorem isWellFormed_ownDeclarations : ∀ declaration ∈ cluster.ownDeclarations, declaration.IsWellFormed := by
  intro declaration member
  unfold ownDeclarations at member
  split at member
  · cases member
  · rcases List.mem_cons.mp member with rfl | ofGroup
    · exact isWellFormed_resource ordered resolved _
    · split at ofGroup
      · cases ofGroup
      · simp only [containerGroupDeclarations, List.mem_cons, List.not_mem_nil, or_false] at ofGroup
        rcases ofGroup with rfl | rfl
        · refine Resource.isWellFormed_make (by simp) ?_
          simpa [(isOrdered_network ordered resolved).vpcRef] using (isOrdered_tags ordered resolved).toValue?
        · exact Resource.isWellFormed_make (by simp) (by simp)

/-- Everything that a cluster generates is well formed. -/
theorem isWellFormed {declarations : List Declaration}
    (declared : cluster.declarations deployment = .ok declarations) :
    ∀ declaration ∈ declarations, declaration.IsWellFormed := by
  have settled := settled_of_resolve resolved
  have tags := isOrdered_tags ordered resolved
  intro declaration member
  rcases (mem_declarations declared).mp member with ofNetwork | own | ofBalancer |
    ⟨service, present, part, partDeclared, ofService⟩
  · exact Network.isWellFormed tags declaration ofNetwork
  · exact isWellFormed_ownDeclarations ordered resolved declaration own
  · exact Balancer.isWellFormed tags (isOrdered_network ordered resolved)
      (hasOrderedExpressions_ingressGroup ordered settled) declaration ofBalancer
  · obtain ⟨given, settles⟩ := settled.service present
    have described := ordered.services service.spec given
    exact Service.isWellFormed (isOrdered_serviceScope ordered resolved) described
      (settles.isOrdered_steps described) partDeclared declaration ofService

end Declared

end Cluster

end ClusterStack
