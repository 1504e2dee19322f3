import ClusterStack.Proofs.Cluster.Inventory
import ClusterStack.Proofs.Spec.Minimal

/-!
# Access through security groups

A public load balancer has a security group for each service with an attached listener, which lets
everyone in; nothing else does. The containers are in a group of their own, which is entered from these
groups, or, where the load balancer is private, from the group itself.
-/

set_option autoImplicit false

namespace ClusterStack

variable {deployment : Deployment} {spec : ClusterSpec} {cluster : Cluster} {template : Template}
  {declarations : List Declaration}

namespace ClusterSpec

/-- The security group of the containers. -/
def containerGroup (deployment : Deployment) (spec : ClusterSpec) : String :=
  deployment.logicalId (spec.clusterPrefix deployment) .containerSecurityGroup

/-- The security group of the load balancer that is for one service. -/
def serviceGroup (deployment : Deployment) (spec : ClusterSpec) (service : ServiceSpec) : String :=
  deployment.numberedId (spec.clusterPrefix deployment) .loadBalancerSecurityGroup
    (normalizeName service.name)

def serviceId (deployment : Deployment) (spec : ClusterSpec) (service : ServiceSpec) : String :=
  deployment.logicalId (spec.clusterPrefix deployment ++ normalizeName service.name) .service

end ClusterSpec

theorem Balancer.mem_planGroups {owner : String} {services : List Service} {group : ServiceGroup} :
    group ∈ planGroups deployment owner services ↔
      ∃ service ∈ services, service.hasAttachedListener = true ∧ group = {
        name := deployment.numberedId owner .loadBalancerSecurityGroup service.token
        ingress := deployment.numberedId owner .loadBalancerIngress service.token
        service := service.logicalId } := by
  simp only [planGroups, List.mem_map, List.mem_filter, and_assoc, eq_comm]

theorem Service.launchType_of_resolve {clusterPrefix : String} {albDisabled : Bool} {spec : ServiceSpec}
    {service : Service} (resolved : resolve deployment clusterPrefix albDisabled spec = .ok service) :
    service.launchType = .ofSpec spec := by
  simp only [resolve, bind_eq_ok] at resolved
  obtain ⟨_, -, _, -, _, -, _, -, _, -, made⟩ := resolved
  cases made
  rfl

theorem Cluster.isExisting_eq_false (resolved : Cluster.resolve deployment spec = .ok cluster)
    (dedicated : spec.IsDedicated) : cluster.network.isExisting = false := by
  cases dedicated_or_existing resolved with
  | inl generated => exact generated.2
  | inr existing => exact absurd dedicated existing.1

namespace Cluster.Settled

theorem containerGroup_eq (settled : cluster.Settled deployment spec) :
    cluster.containerGroup = spec.containerGroup deployment := by
  rw [settled.containerGroup, settled.clusterPrefix, ← Deployment.logicalId_eq_idOf]
  rfl

theorem serviceId_eq (settled : cluster.Settled deployment spec) {service : Service}
    (member : service ∈ cluster.services) :
    service.logicalId = spec.serviceId deployment service.spec := by
  rw [(settled.service member).2.logicalId, (settled.describes member).servicePrefix,
    settled.clusterPrefix, ← Deployment.logicalId_eq_idOf]
  rfl

theorem exists_home (settled : cluster.Settled deployment spec) (unshared : ¬spec.IsShared) :
    ∃ home, cluster.home = .created home := by
  rw [settled.home]
  cases ClusterHome.shared_or_created (deployment.idOf ⟨cluster.clusterPrefix, .cluster, .single⟩) with
  | inl shared => exact absurd shared.1 unshared
  | inr created => exact ⟨_, created.2⟩

theorem exists_fargate (settled : cluster.Settled deployment spec) {service : Service}
    (member : service ∈ cluster.services) (fargate : service.spec.ec2LaunchType = false) :
    ∃ assignPublicIp, service.launchType = .fargate assignPublicIp := by
  obtain ⟨given, -, resolved⟩ := exists_of_forall₂_right settled.specs member
  have launchType := Service.launchType_of_resolve resolved
  rw [← (Service.describes_of_resolve resolved).given, LaunchType.ofSpec, fargate] at launchType
  exact ⟨_, launchType⟩

theorem hasAttachedListener_iff (settled : cluster.Settled deployment spec) {service : Service}
    (member : service ∈ cluster.services) : service.hasAttachedListener = true ↔
      spec.albDisabled = false ∧ service.spec.demands ≠ [] := by
  rw [Service.hasAttachedListener_iff,
    Service.length_attachedListeners (settled.service member).2 (settled.describes member)]
  cases spec.albDisabled <;> simp

/-- The services with an attached listener are those that are described with one. -/
theorem exists_attached_iff (settled : cluster.Settled deployment spec) {described : ServiceSpec} :
    (∃ service ∈ cluster.services, service.spec = described ∧ service.hasAttachedListener = true) ↔
      ∃ port protocol, (described, port, protocol) ∈ spec.attached := by
  constructor
  · intro settles
    obtain ⟨service, member, rfl, attached⟩ := settles
    obtain ⟨enabled, demands⟩ := (settled.hasAttachedListener_iff member).mp attached
    obtain ⟨⟨port, protocol⟩, demanded⟩ := List.exists_mem_of_ne_nil _ demands
    refine ⟨port, protocol, ?_⟩
    rw [ClusterSpec.attached, enabled, if_neg Bool.false_ne_true]
    exact List.mem_flatMap.mpr ⟨_, (settled.service member).1, List.mem_map_of_mem demanded⟩
  · intro demands
    obtain ⟨port, protocol, listed⟩ := demands
    unfold ClusterSpec.attached at listed
    split at listed
    · cases listed
    · rename_i enabled
      obtain ⟨given, present, demanded⟩ := List.mem_flatMap.mp listed
      obtain ⟨demand, inside, same⟩ := List.mem_map.mp demanded
      cases same
      rw [← Cluster.specs_of_services settled.specs] at present
      obtain ⟨service, member, rfl⟩ := List.mem_map.mp present
      refine ⟨service, member, rfl, (settled.hasAttachedListener_iff member).mpr ⟨?_, ?_⟩⟩
      · simpa using enabled
      · exact List.ne_nil_of_mem inside

/-- A public load balancer has a group for each service with an attached listener. -/
theorem exists_serviceGroup_iff (settled : cluster.Settled deployment spec) {name : String} :
    (∃ group ∈ cluster.balancer.serviceGroups, group.name = name) ↔
      spec.albPrivate = false ∧ ∃ service port protocol, (service, port, protocol) ∈ spec.attached ∧
        name = spec.serviceGroup deployment service := by
  have named : ∀ service ∈ cluster.services,
      deployment.numberedId cluster.clusterPrefix .loadBalancerSecurityGroup service.token =
        spec.serviceGroup deployment service.spec := by
    intro service member
    rw [(settled.describes member).token, settled.clusterPrefix]
    rfl
  rw [settled.balancer.serviceGroups, Cluster.isDisabled_eq_albDisabled settled, settled.balancer.isPrivate]
  constructor
  · intro planned
    obtain ⟨group, listed, rfl⟩ := planned
    split at listed
    · cases listed
    · rename_i isPublic
      simp only [Bool.or_eq_true, not_or, Bool.not_eq_true] at isPublic
      obtain ⟨service, member, attached, rfl⟩ := Balancer.mem_planGroups.mp listed
      obtain ⟨port, protocol, described⟩ := settled.exists_attached_iff.mp ⟨service, member, rfl, attached⟩
      exact ⟨isPublic.2, service.spec, port, protocol, described, named service member⟩
  · intro demanded
    obtain ⟨isPublic, described, port, protocol, listed, rfl⟩ := demanded
    obtain ⟨service, member, rfl, attached⟩ := settled.exists_attached_iff.mpr ⟨port, protocol, listed⟩
    have enabled : spec.albDisabled = false := by
      by_contra disabled
      rw [ClusterSpec.attached, if_pos (by simpa using disabled)] at listed
      cases listed
    rw [isPublic, enabled]
    exact ⟨_, Balancer.mem_planGroups.mpr ⟨service, member, attached, rfl⟩, named service member⟩

end Cluster.Settled

section Exposure

/-- A rule lets a range of addresses in, if it names one, or may do so. -/
def Value.admitsRange : Value → Bool
  | .map entries => (Entries.keys entries).any fun key => key == "CidrIp" || key == "CidrIpv6"
  | _ => true

/-- A security group lets a range of addresses in by one of its rules, and leave to enter a group is a
rule by itself. -/
def Resource.admitsRange (resource : Resource) : Bool :=
  match resource.kind with
  | .securityGroup =>
    match resource.property? "SecurityGroupIngress" with
    | none => false
    | some (.list rules) => rules.any Value.admitsRange
    | some _ => true
  | .securityGroupIngress => Value.admitsRange (.map resource.properties)
  | _ => false

def Template.AdmitsRange (template : Template) (key : String) : Prop :=
  ∃ resource, (key, resource) ∈ template.resources.entries ∧ resource.admitsRange = true

theorem Resource.kind_of_admitsRange {resource : Resource} (admits : resource.admitsRange = true) :
    resource.kind = .securityGroup ∨ resource.kind = .securityGroupIngress := by
  unfold admitsRange at admits
  split at admits
  case h_1 kind => exact .inl kind
  case h_2 kind => exact .inr kind
  case h_3 => cases admits

theorem Cluster.admitsRange_ownDeclarations {key : String} {resource : Resource}
    (member : .resource key resource ∈ cluster.ownDeclarations) : resource.admitsRange = false := by
  unfold ownDeclarations at member
  split at member
  · cases member
  · cases List.mem_cons.mp member with
    | inl itself =>
      cases itself
      rfl
    | inr member =>
      split at member
      · cases member
      · simp only [containerGroupDeclarations, List.mem_cons, Declaration.resource.injEq, List.not_mem_nil,
          or_false] at member
        cases member with
        | inl group =>
          have rules : resource.property? "SecurityGroupIngress" = none := by
            rw [group.2, Resource.property?_make (by simp)]
            rfl
          rw [Resource.admitsRange, group.2, Resource.kind_make, ← group.2, rules]
        | inr selfIngress =>
          rw [selfIngress.2]
          simp [Resource.admitsRange, Value.admitsRange, Resource.make]

/-- The rule of a group that everyone may enter. -/
def Value.everyone : Value :=
  .map [("CidrIp", .string "0.0.0.0/0"), ("IpProtocol", .int (-1))]

namespace Balancer

variable {tags : Tags} {network : Network} {container : Option Value} {group : ServiceGroup}

theorem exists_group_groupDeclarations (tags : Tags) (network : Network) (container : Option Value)
    (group : ServiceGroup) : ∃ resource,
      .resource group.name resource ∈ groupDeclarations tags network container group ∧
        resource.kind = .securityGroup ∧
          resource.property? "SecurityGroupIngress" = some (.list [.everyone]) := by
  refine ⟨_, .head _, rfl, ?_⟩
  rw [Resource.property?_make (by simp)]
  rfl

/-- Of a group and its leave to enter the containers, only the group lets a range of addresses in. -/
theorem eq_of_admitsRange {key : String} {resource : Resource}
    (member : .resource key resource ∈ groupDeclarations tags network container group)
    (admits : resource.admitsRange = true) :
    key = group.name ∧ resource.kind = .securityGroup ∧
      resource.property? "SecurityGroupIngress" = some (.list [.everyone]) := by
  cases List.mem_cons.mp member with
  | inl itself =>
    cases itself
    refine ⟨rfl, rfl, ?_⟩
    rw [Resource.property?_make (by simp)]
    rfl
  | inr leave =>
    obtain ⟨entered, -, made⟩ := List.mem_map.mp leave
    cases made
    simp [Resource.admitsRange, Value.admitsRange, Resource.make] at admits

end Balancer

theorem Component.own_or_serviceGroup {component : Component}
    (among : .securityGroup ∈ component.kinds ∨ .securityGroupIngress ∈ component.kinds) :
    component = .own ∨ component = .serviceGroup := by
  revert among
  cases component <;> decide

theorem Cluster.Settled.isDisabled_of_serviceGroup (settled : cluster.Settled deployment spec)
    {group : ServiceGroup} (listed : group ∈ cluster.balancer.serviceGroups) :
    cluster.balancer.mode.isDisabled = false := by
  cases disabled : cluster.balancer.mode.isDisabled with
  | false => rfl
  | true =>
    rw [settled.balancer.serviceGroups, disabled] at listed
    cases listed

theorem Cluster.mem_declarations_of_serviceGroup (settled : cluster.Settled deployment spec)
    (declared : cluster.declarations deployment = .ok declarations) {group : ServiceGroup}
    (listed : group ∈ cluster.balancer.serviceGroups) {declaration : Declaration}
    (member : declaration ∈
      Balancer.groupDeclarations cluster.tags cluster.network cluster.ingressGroup group) :
    declaration ∈ declarations := by
  have enabled := settled.isDisabled_of_serviceGroup listed
  exact balancerDeclarations_subset declared
    (Balancer.mem_declarations.mpr (.inl ⟨enabled, group, listed, member⟩))

section Declared

variable (declared : cluster.declarations deployment = .ok declarations)
  (made : Template.ofDeclarations declarations = .ok template)

include declared made

theorem Cluster.exists_serviceGroup_of_admitsRange {key : String} {resource : Resource}
    (present : (key, resource) ∈ template.resources.entries) (admits : resource.admitsRange = true) :
    (∃ group ∈ cluster.balancer.serviceGroups, group.name = key) ∧ resource.kind = .securityGroup ∧
      resource.property? "SecurityGroupIngress" = some (.list [.everyone]) := by
  obtain ⟨declaration, member, entry⟩ := Template.exists_declaration_of_mem made present
  have kind : declaration.kind? = some resource.kind := by
    rw [Declaration.kind?, entry, Option.map_some]
  obtain ⟨component, among, declares⟩ := exists_component_of_kind declared member kind
  have either : .securityGroup ∈ component.kinds ∨ .securityGroupIngress ∈ component.kinds := by
    cases resource.kind_of_admitsRange admits with
    | inl group => exact .inl (group ▸ among)
    | inr leave => exact .inr (leave ▸ among)
  cases Component.own_or_serviceGroup either with
  | inl own =>
    subst own
    obtain ⟨_, _, rfl, -⟩ := isOwned_ownDeclarations declares
    cases entry
    rw [admitsRange_ownDeclarations declares] at admits
    cases admits
  | inr ofGroup =>
    subst ofGroup
    obtain ⟨group, listed, ofGroup⟩ := declares
    obtain ⟨_, _, rfl, -⟩ := Balancer.isOwned_groupDeclarations ofGroup
    cases entry
    obtain ⟨named, exact⟩ := Balancer.eq_of_admitsRange ofGroup admits
    exact ⟨⟨group, listed, named.symm⟩, exact⟩

theorem Cluster.Settled.admitsRange_iff (settled : cluster.Settled deployment spec) {key : String} :
    template.AdmitsRange key ↔ ∃ group ∈ cluster.balancer.serviceGroups, group.name = key := by
  constructor
  · intro admitted
    obtain ⟨resource, present, admits⟩ := admitted
    exact (Cluster.exists_serviceGroup_of_admitsRange declared made present admits).1
  · intro planned
    obtain ⟨group, listed, rfl⟩ := planned
    obtain ⟨resource, member, kind, rules⟩ := Balancer.exists_group_groupDeclarations cluster.tags
      cluster.network cluster.ingressGroup group
    have given := Cluster.mem_declarations_of_serviceGroup settled declared listed member
    refine ⟨resource, Template.mem_of_resource made given, ?_⟩
    rw [Resource.admitsRange, kind, rules]
    rfl

end Declared

theorem ClusterSpec.containerGroup_ne_serviceGroup (deployment : Deployment) (spec : ClusterSpec)
    (service : ServiceSpec) : spec.containerGroup deployment ≠ spec.serviceGroup deployment service := by
  intro same
  rw [containerGroup, Deployment.logicalId_eq_idOf] at same
  have tags := @Label.tags_comparable deployment
    ⟨spec.clusterPrefix deployment, .containerSecurityGroup, .single⟩
    ⟨spec.clusterPrefix deployment, .loadBalancerSecurityGroup, .word (normalizeName service.name)⟩ same rfl
  simp only at tags
  exact absurd tags (by decide)

/-- The groups that let a range of addresses in are those of a public load balancer for the services
with an attached listener, and they let everyone in. Without a public load balancer there are none; the
group of the containers is none of them, and no leave to enter a group lets a range of addresses in. -/
theorem compile_exposes (deployment : Deployment) (spec : ClusterSpec) (template : Template)
    (compiled : compile deployment spec = .ok template) :
    (∀ key, template.AdmitsRange key ↔ spec.albPrivate = false ∧
      ∃ service port protocol, (service, port, protocol) ∈ spec.attached ∧
        key = spec.serviceGroup deployment service) ∧
    (∀ key resource, (key, resource) ∈ template.resources.entries → resource.admitsRange = true →
      resource.kind = .securityGroup ∧
        resource.property? "SecurityGroupIngress" = some (.list [.everyone])) ∧
    (spec.albPrivate = true ∨ spec.albDisabled = true → ∀ key, ¬template.AdmitsRange key) ∧
    ¬template.AdmitsRange (spec.containerGroup deployment) ∧
    ∀ key ingress, (key, ingress) ∈ template.resources.entries → ingress.kind = .securityGroupIngress →
      ingress.admitsRange = false := by
  obtain ⟨cluster, resolved, -⟩ := compile_eq_ok.mp compiled
  obtain ⟨declarations, declared, made⟩ := exists_declarations_of_compile resolved compiled
  have settled := Cluster.settled_of_resolve resolved
  have exactly : ∀ key, template.AdmitsRange key ↔ spec.albPrivate = false ∧
      ∃ service port protocol, (service, port, protocol) ∈ spec.attached ∧
        key = spec.serviceGroup deployment service :=
    fun key => (settled.admitsRange_iff declared made).trans settled.exists_serviceGroup_iff
  have openToAll : ∀ key resource, (key, resource) ∈ template.resources.entries →
      resource.admitsRange = true → resource.kind = .securityGroup ∧
        resource.property? "SecurityGroupIngress" = some (.list [.everyone]) :=
    fun key resource present admits =>
      (Cluster.exists_serviceGroup_of_admitsRange declared made present admits).2
  refine ⟨exactly, openToAll, ?_, ?_, ?_⟩
  · intro closed key admitted
    obtain ⟨isPublic, service, port, protocol, attached, -⟩ := (exactly key).mp admitted
    cases closed with
    | inl isPrivate =>
      rw [isPublic] at isPrivate
      cases isPrivate
    | inr disabled =>
      rw [ClusterSpec.attached, if_pos disabled] at attached
      cases attached
  · intro admitted
    obtain ⟨-, service, _, _, -, same⟩ := (exactly _).mp admitted
    exact spec.containerGroup_ne_serviceGroup deployment service same
  · intro key ingress present kind
    by_contra admits
    have group := (openToAll key ingress present (by simpa using admits)).1
    rw [kind] at group
    cases group

/-- A cluster with a service that has a listener and one that has none. -/
def halfListening : ClusterSpec :=
  .minimal "main" [(ServiceSpec.minimal "web" "nginx").listening [.minimal .http], .minimal "jobs" "nginx"]

/-- Everyone may enter the group of the service with a listener, and no one else's. -/
theorem compile_exposes_halfListening : ∃ template,
    compile (.ofService "dev" "shop") halfListening = .ok template ∧
      (∀ key, template.AdmitsRange key ↔ key = "ShopMainALBSecGroupDevWeb") ∧
        ¬template.AdmitsRange "ShopMainContainerSecGroupDev" := by
  obtain ⟨template, compiled⟩ : ∃ template,
      compile (.ofService "dev" "shop") halfListening = .ok template := exists_of_isOk (by decide +kernel)
  obtain ⟨exactly, -, -, container, -⟩ := compile_exposes _ _ template compiled
  have attached : halfListening.attached =
      [((ServiceSpec.minimal "web" "nginx").listening [.minimal .http], 80, .http)] := rfl
  have group : halfListening.serviceGroup (.ofService "dev" "shop")
      ((ServiceSpec.minimal "web" "nginx").listening [.minimal .http]) = "ShopMainALBSecGroupDevWeb" := by
    decide +kernel
  have containers : halfListening.containerGroup (.ofService "dev" "shop") =
      "ShopMainContainerSecGroupDev" := by
    decide +kernel
  refine ⟨template, compiled, fun key => ?_, containers ▸ container⟩
  rw [exactly key]
  constructor
  · intro admitted
    obtain ⟨-, service, port, protocol, listed, rfl⟩ := admitted
    rw [attached] at listed
    cases List.mem_singleton.mp listed
    exact group
  · intro same
    exact ⟨rfl, _, 80, .http, attached ▸ .head _, same.trans group.symm⟩

end Exposure

section Reachability

def Resource.groups (resource : Resource) : List Value :=
  ((resource.property? "SecurityGroups").bind Value.asList?).getD []

/-- The security groups that the tasks of a service are in. -/
def Resource.taskGroups (resource : Resource) : List Value :=
  let configuration := (resource.property? "NetworkConfiguration").bind (·.get? "AwsvpcConfiguration")
  ((configuration.bind (·.get? "SecurityGroups")).bind Value.asList?).getD []

/-- Members of the one group may enter the other, by whatever protocol. -/
structure Resource.Enters (ingress : Resource) (source target : String) : Prop where
  kind : ingress.kind = .securityGroupIngress
  target : ingress.property? "GroupId" = some (.ref target)
  source : ingress.property? "SourceSecurityGroupId" = some (.ref source)
  protocol : ingress.property? "IpProtocol" = some (.int (-1))

def Template.Enters (template : Template) (source target : String) : Prop :=
  ∃ key ingress, (key, ingress) ∈ template.resources.entries ∧ ingress.Enters source target

theorem Service.taskGroups_serviceResource {service : Service} {scope : ServiceScope} {assignPublicIp : Bool}
    (fargate : service.launchType = .fargate assignPublicIp) :
    (service.serviceResource scope).taskGroups = (scope.securityGroups.asList?).getD [] := by
  have configuration : (service.serviceResource scope).property? "NetworkConfiguration" =
      service.launchType.networkConfiguration? scope.securityGroups scope.network.subnets := by
    rw [serviceResource, fargate, LaunchType.placementProperties, List.append_nil,
      Resource.property?_make (by simp)]
    rfl
  rw [Resource.taskGroups, configuration, fargate]
  rfl

namespace Balancer

theorem groups_resource (balancer : Balancer) (tags : Tags) (network : Network)
    (container : Option Value) : (balancer.resource tags network container).groups =
      balancer.securityGroups network container := by
  have given : (balancer.resource tags network container).property? "SecurityGroups" =
      if (balancer.securityGroups network container).isEmpty then none
      else some (.list (balancer.securityGroups network container)) := by
    rw [resource, Resource.property?_make (by simp)]
    rfl
  rw [Resource.groups, given]
  cases balancer.securityGroups network container <;> rfl

/-- Where the containers of a dedicated network are in a group, that of a service may enter it. -/
theorem enters_groupDeclarations {tags : Tags} {network : Network} {container : String}
    (dedicated : network.isExisting = false) (group : ServiceGroup) :
    ∃ ingress, .resource group.ingress ingress ∈
        groupDeclarations tags network (some (.ref container)) group ∧
      ingress.Enters group.name container := by
  rw [groupDeclarations, dedicated]
  refine ⟨_, .tail _ (.head _), rfl, ?_, ?_, ?_⟩
  all_goals
    rw [Resource.property?_make (by simp)]
    rfl

end Balancer

theorem Cluster.enters_containerGroupDeclarations (cluster : Cluster) :
    ∃ ingress, .resource cluster.selfIngress ingress ∈ cluster.containerGroupDeclarations ∧
      ingress.Enters cluster.containerGroup cluster.containerGroup := by
  refine ⟨_, .tail _ (.head _), rfl, ?_, ?_, ?_⟩
  all_goals
    rw [Resource.property?_make (by simp)]
    rfl

theorem Cluster.securityGroups_eq (deployment : Deployment) {home : String}
    (created : cluster.home = .created home) (dedicated : cluster.network.isExisting = false) :
    (cluster.serviceScope deployment).securityGroups = .list [.ref cluster.containerGroup] := by
  cases network : cluster.network with
  | existing _ =>
    rw [network] at dedicated
    cases dedicated
  | dedicated found =>
    have none : (cluster.serviceScope deployment).network.securityGroups? = none := by
      rw [serviceScope, network]
      rfl
    have container : (cluster.serviceScope deployment).ingressGroup =
        some (.ref cluster.containerGroup) := cluster.ingressGroup_eq created dedicated
    rw [ServiceScope.securityGroups, none, container]
    rfl

section Declared

variable (declared : cluster.declarations deployment = .ok declarations)
  (made : Template.ofDeclarations declarations = .ok template)

include declared made

theorem Cluster.mem_entries_of_service {service : Service} (member : service ∈ cluster.services) :
    (service.logicalId, service.serviceResource (cluster.serviceScope deployment)) ∈
      template.resources.entries :=
  Template.mem_of_resource made (coreDeclarations_subset declared member (.head _))

theorem Cluster.mem_entries_of_balancer (managed : cluster.balancer.isManaged = true) :
    (cluster.balancer.name, cluster.balancer.resource cluster.tags cluster.network cluster.ingressGroup) ∈
      template.resources.entries :=
  Template.mem_of_resource made
    (balancerDeclarations_subset declared (Balancer.itself_mem_declarations managed))

theorem Cluster.exists_containerGroup {home : String} (created : cluster.home = .created home)
    (dedicated : cluster.network.isExisting = false) :
    ∃ group, (cluster.containerGroup, group) ∈ template.resources.entries ∧ group.kind = .securityGroup := by
  have own := containerGroupDeclarations_subset created dedicated (.head _)
  exact ⟨_, Template.mem_of_resource made (ownDeclarations_subset declared own), rfl⟩

/-- Members of the group of the containers may reach one another. -/
theorem Cluster.enters_containerGroup {home : String} (created : cluster.home = .created home)
    (dedicated : cluster.network.isExisting = false) :
    template.Enters cluster.containerGroup cluster.containerGroup := by
  obtain ⟨ingress, member, enters⟩ := cluster.enters_containerGroupDeclarations
  have own := containerGroupDeclarations_subset created dedicated member
  exact ⟨_, ingress, Template.mem_of_resource made (ownDeclarations_subset declared own), enters⟩

theorem Cluster.enters_of_serviceGroup (settled : cluster.Settled deployment spec) {home : String}
    (created : cluster.home = .created home) (dedicated : cluster.network.isExisting = false)
    {group : ServiceGroup} (listed : group ∈ cluster.balancer.serviceGroups) :
    template.Enters group.name cluster.containerGroup := by
  obtain ⟨ingress, member, enters⟩ := @Balancer.enters_groupDeclarations cluster.tags cluster.network
    cluster.containerGroup dedicated group
  rw [← ingressGroup_eq created dedicated] at member
  have given := mem_declarations_of_serviceGroup settled declared listed member
  exact ⟨_, ingress, Template.mem_of_resource made given, enters⟩

end Declared

/-- The load balancer reaches the tasks of every service that it fronts. They are in the group of the
containers. A public load balancer is in a group of the service which may enter it, and a private one is
in the group of the containers itself, whose members may reach one another. -/
theorem compile_reaches (deployment : Deployment) (spec : ClusterSpec) (template : Template)
    (compiled : compile deployment spec = .ok template) (unshared : ¬spec.IsShared)
    (dedicated : spec.IsDedicated) (managed : spec.IsManaged) (service : ServiceSpec)
    (listening : ∃ port protocol, (service, port, protocol) ∈ spec.attached)
    (fargate : service.ec2LaunchType = false) :
    (∃ group, (spec.containerGroup deployment, group) ∈ template.resources.entries ∧
      group.kind = .securityGroup) ∧
    (∃ resource, (spec.serviceId deployment service, resource) ∈ template.resources.entries ∧
      resource.kind = .ecsService ∧ .ref (spec.containerGroup deployment) ∈ resource.taskGroups) ∧
    ∃ balancer, (deployment.logicalId (spec.clusterPrefix deployment) .loadBalancer, balancer) ∈
        template.resources.entries ∧ balancer.kind = .loadBalancer ∧
      if spec.albPrivate then
        .ref (spec.containerGroup deployment) ∈ balancer.groups ∧
          template.Enters (spec.containerGroup deployment) (spec.containerGroup deployment)
      else
        .ref (spec.serviceGroup deployment service) ∈ balancer.groups ∧
          (∃ group, (spec.serviceGroup deployment service, group) ∈ template.resources.entries ∧
            group.kind = .securityGroup) ∧
          template.Enters (spec.serviceGroup deployment service) (spec.containerGroup deployment) := by
  obtain ⟨cluster, resolved, -⟩ := compile_eq_ok.mp compiled
  obtain ⟨declarations, declared, made⟩ := exists_declarations_of_compile resolved compiled
  have settled := Cluster.settled_of_resolve resolved
  have isManaged := settled.isManaged_iff.mpr managed
  obtain ⟨home, created⟩ := settled.exists_home unshared
  have generated := Cluster.isExisting_eq_false resolved dedicated
  rw [← settled.containerGroup_eq]
  refine ⟨Cluster.exists_containerGroup declared made created generated, ?_, ?_⟩
  · obtain ⟨settles, member, rfl, -⟩ := settled.exists_attached_iff.mpr listening
    refine ⟨_, settled.serviceId_eq member ▸ Cluster.mem_entries_of_service declared made member, rfl, ?_⟩
    obtain ⟨assignPublicIp, launchType⟩ := settled.exists_fargate member fargate
    rw [Service.taskGroups_serviceResource launchType, Cluster.securityGroups_eq deployment created generated]
    exact .head _
  · have name : cluster.balancer.name =
        deployment.logicalId (spec.clusterPrefix deployment) .loadBalancer := by
      rw [settled.balancer.name, settled.clusterPrefix, ← Deployment.logicalId_eq_idOf]
      rfl
    refine ⟨_, name ▸ Cluster.mem_entries_of_balancer declared made isManaged, rfl, ?_⟩
    rw [Balancer.groups_resource, Balancer.securityGroups, Cluster.ingressGroup_eq created generated]
    split
    · rename_i isPrivate
      refine ⟨?_, Cluster.enters_containerGroup declared made created generated⟩
      have container : .ref cluster.containerGroup ∈
          if cluster.balancer.isPrivate && !cluster.network.isExisting then
            (some (Value.ref cluster.containerGroup)).toList else [] := by
        rw [settled.balancer.isPrivate, isPrivate, generated]
        exact .head _
      exact List.mem_append_left _ (List.mem_append_right _ container)
    · rename_i isPublic
      obtain ⟨port, protocol, attached⟩ := listening
      obtain ⟨group, listed, named⟩ := settled.exists_serviceGroup_iff.mpr
        ⟨by simpa using isPublic, service, port, protocol, attached, rfl⟩
      rw [← named]
      refine ⟨?_, ?_, Cluster.enters_of_serviceGroup declared made settled created generated listed⟩
      · exact List.mem_append_left _ (List.mem_append_left _ (List.mem_map_of_mem listed))
      · obtain ⟨resource, member, kind, -⟩ := Balancer.exists_group_groupDeclarations cluster.tags
          cluster.network cluster.ingressGroup group
        have given := Cluster.mem_declarations_of_serviceGroup settled declared listed member
        exact ⟨resource, Template.mem_of_resource made given, kind⟩

/-- The load balancer reaches the service with a listener by the group of that service, or, if it is
private, as a member of the group of the containers. -/
theorem compile_reaches_halfListening :
    (∃ template, compile (.ofService "dev" "shop") halfListening = .ok template ∧
      template.Enters "ShopMainALBSecGroupDevWeb" "ShopMainContainerSecGroupDev" ∧
      ∃ resource, ("ShopMainWebServiceDev", resource) ∈ template.resources.entries ∧
        .ref "ShopMainContainerSecGroupDev" ∈ resource.taskGroups) ∧
    ∃ template, compile (.ofService "dev" "shop") { halfListening with albPrivate := true } = .ok template ∧
      ∃ balancer, ("ShopMainALBDev", balancer) ∈ template.resources.entries ∧
        .ref "ShopMainContainerSecGroupDev" ∈ balancer.groups := by
  let web := (ServiceSpec.minimal "web" "nginx").listening [.minimal .http]
  have listening : ∃ port protocol, (web, port, protocol) ∈ halfListening.attached :=
    ⟨80, .http, .head _⟩
  constructor
  · obtain ⟨template, compiled⟩ : ∃ template,
        compile (.ofService "dev" "shop") halfListening = .ok template := exists_of_isOk (by decide +kernel)
    obtain ⟨-, ⟨resource, present, -, member⟩, _, -, -, -, -, enters⟩ := compile_reaches _ _ template compiled
      (by decide) (by decide) (by decide) web listening rfl
    have group : halfListening.serviceGroup (.ofService "dev" "shop") web = "ShopMainALBSecGroupDevWeb" := by
      decide +kernel
    have containers : halfListening.containerGroup (.ofService "dev" "shop") =
        "ShopMainContainerSecGroupDev" := by
      decide +kernel
    have named : halfListening.serviceId (.ofService "dev" "shop") web = "ShopMainWebServiceDev" := by
      decide +kernel
    exact ⟨template, compiled, group ▸ containers ▸ enters, resource, named ▸ present, containers ▸ member⟩
  · obtain ⟨template, compiled⟩ : ∃ template,
        compile (.ofService "dev" "shop") { halfListening with albPrivate := true } = .ok template :=
      exists_of_isOk (by decide +kernel)
    obtain ⟨-, -, balancer, present, -, member, -⟩ := compile_reaches _ _ template compiled
      (by decide) (by decide) (by decide) web listening rfl
    exact ⟨template, compiled, balancer, present, member⟩

end Reachability

end ClusterStack
