import ClusterStack.Proofs.Cluster.Labels

/-!
# Distinctness of labels

No two resources of a cluster have one label: the roles of its components are different, and so are
the prefixes of its services, their ports and their tokens.
-/

set_option autoImplicit false

namespace ClusterStack

variable {deployment : Deployment}

/-- The label is a plain one of this owner, in one of these roles. -/
structure Label.Belongs (owner : String) (roles : List Role) (label : Label) : Prop where
  owner : label.owner = owner
  role : label.role ∈ roles
  mark : label.mark.IsPlain

theorem Label.disjoint_of_roles {owner other : String} {roles others : List Role}
    {front back : List Label} (inFront : ∀ label ∈ front, label.Belongs owner roles)
    (inBack : ∀ label ∈ back, label.Belongs other others) (apart : ∀ role ∈ roles, role ∉ others) :
    front.Disjoint back :=
  fun label here there => apart label.role (inFront label here).role (inBack label there).role

theorem Label.disjoint_of_owners {owner other : String} {roles others : List Role}
    {front back : List Label} (inFront : ∀ label ∈ front, label.Belongs owner roles)
    (inBack : ∀ label ∈ back, label.Belongs other others) (apart : owner ≠ other) :
    front.Disjoint back :=
  fun label here there => apart ((inFront label here).owner.symm.trans (inBack label there).owner)

theorem Label.Belongs.mono {owner : String} {roles more : List Role} {label : Label}
    (belongs : label.Belongs owner roles) (within : roles ⊆ more) : label.Belongs owner more :=
  ⟨belongs.owner, within belongs.role, belongs.mark⟩

theorem Label.Belongs.role_ne {owner : String} {roles : List Role} {label : Label} {role : Role}
    (belongs : label.Belongs owner roles) (other : role ∉ roles) : label.role ≠ role :=
  fun same => other (same ▸ belongs.role)

theorem Label.Belongs.isPlain {owner : String} {roles : List Role} {label : Label}
    (belongs : label.Belongs owner roles) (other : .loadBalancerIngress ∉ roles) : label.IsPlain :=
  ⟨belongs.mark, belongs.role_ne other⟩

section Network

theorem Network.belongs_labels (owner : String) (network : Network) :
    ∀ label ∈ network.labels owner, label.Belongs owner [.vpc, .internetGateway, .gatewayAttachment,
      .routeTable, .route, .subnet, .routeTableAssociation] := by
  intro label member
  cases network with
  | existing _ => cases member
  | dedicated network =>
    rcases List.mem_append.mp member with fixed | numbered
    · simp only [List.mem_cons, List.not_mem_nil, or_false] at fixed
      rcases fixed with rfl | rfl | rfl | rfl | rfl <;> exact ⟨rfl, by simp, trivial⟩
    · obtain ⟨index, -, numbered⟩ := List.mem_flatMap.mp numbered
      simp only [List.mem_cons, List.not_mem_nil, or_false] at numbered
      rcases numbered with rfl | rfl <;> exact ⟨rfl, by simp, trivial⟩

theorem Network.nodup_labels (owner : String) (network : Network) : (network.labels owner).Nodup := by
  cases network with
  | existing _ => exact List.nodup_nil
  | dedicated network =>
    refine List.Nodup.append (by simp) ?_ ?_
    · refine List.nodup_flatMap.mpr ⟨by simp, ?_⟩
      refine List.nodup_range.imp fun different => ?_
      simp [Function.onFun, different.symm]
    · intro label fixed numbered
      obtain ⟨index, -, numbered⟩ := List.mem_flatMap.mp numbered
      simp only [List.mem_cons, List.not_mem_nil, or_false] at numbered
      rcases numbered with rfl | rfl <;> simp at fixed

end Network

theorem Cluster.belongs_ownLabels (cluster : Cluster) :
    ∀ label ∈ cluster.ownLabels, label.Belongs cluster.clusterPrefix
      [.cluster, .containerSecurityGroup, .selfIngress] := by
  intro label member
  unfold ownLabels at member
  split at member
  · cases member
  · rcases List.mem_cons.mp member with rfl | member
    · exact ⟨rfl, by simp, trivial⟩
    · split at member
      · cases member
      · simp only [List.mem_cons, List.not_mem_nil, or_false] at member
        rcases member with rfl | rfl <;> exact ⟨rfl, by simp, trivial⟩

theorem Cluster.nodup_ownLabels (cluster : Cluster) : cluster.ownLabels.Nodup := by
  unfold ownLabels
  split
  · exact List.nodup_nil
  · split <;> simp

namespace Balancer

theorem belongs_labels (owner : String) (balancer : Balancer) :
    ∀ label ∈ balancer.labels owner, label.Belongs owner [.loadBalancer, .loadBalancerListener] := by
  intro label member
  unfold labels at member
  split at member
  · rcases List.mem_cons.mp member with rfl | member
    · exact ⟨rfl, by simp, trivial⟩
    · obtain ⟨listener, -, rfl⟩ := List.mem_map.mp member
      exact ⟨rfl, by simp, trivial⟩
  · cases member

theorem nodup_labels {spec : ClusterSpec} {services : List Service} {balancer : Balancer} {owner : String}
    (settled : balancer.Settled deployment owner spec services) : (balancer.labels owner).Nodup := by
  unfold labels
  split
  · rename_i managed
    have ports := (settled.listeners (isDisabled_of_isManaged managed)).distinct
    refine List.nodup_cons.mpr ⟨by simp, ?_⟩
    rw [List.nodup_iff_pairwise_ne, List.pairwise_map] at ports ⊢
    exact ports.imp fun different same => different (by simpa [UInt16.toNat_inj] using same)
  · exact List.nodup_nil

end Balancer

namespace Scaling

theorem belongs_labels (owner : String) (scaling : Scaling) :
    ∀ label ∈ scaling.labels owner, label.Belongs owner [.scalingRole, .scalingTarget, .scalingPolicy,
      .scalingPolicyIn, .scalingPolicyOut, .scalingAlarmIn, .scalingAlarmOut] := by
  intro label member
  rcases List.mem_append.mp member with common | member
  · simp only [List.mem_cons, List.not_mem_nil, or_false] at common
    rcases common with rfl | rfl <;> exact ⟨rfl, by simp, trivial⟩
  · split at member
    · obtain rfl := List.mem_singleton.mp member
      exact ⟨rfl, by simp, trivial⟩
    · obtain ⟨⟨direction, step⟩, -, member⟩ := List.mem_flatMap.mp member
      simp only [List.mem_cons, List.not_mem_nil, or_false] at member
      rcases member with rfl | rfl <;> cases direction <;>
        exact ⟨rfl, by simp [Direction.policyRole, Direction.alarmRole], trivial⟩

theorem nodup_labels (scaling : Scaling) (owner : String) : (scaling.labels owner).Nodup := by
  unfold labels
  cases kind : scaling.policy with
  | targetTracking _ _ _ _ => simp
  | steps scaleIn scaleOut =>
    cases scaleIn <;> cases scaleOut <;>
      simp [steps, kind, Direction.policyRole, Direction.alarmRole]

end Scaling

namespace Service

variable {service : Service} {clusterPrefix : String} {albDisabled : Bool}

theorem belongs_coreLabels (service : Service) :
    ∀ label ∈ service.coreLabels, label.Belongs service.servicePrefix
      [.service, .taskDefinition, .logGroup, .schedulerRule] := by
  intro label member
  simp only [coreLabels, List.cons_append, List.nil_append, List.mem_cons, List.mem_map] at member
  rcases member with rfl | rfl | rfl | ⟨_, -, rfl⟩ <;> exact ⟨rfl, by simp, trivial⟩

theorem nodup_coreLabels (service : Service) : service.coreLabels.Nodup := by
  unfold coreLabels
  cases service.spec.schedulerRate <;> simp

theorem mem_listenerLabels {listener : Listener} {label : Label} :
    label ∈ service.listenerLabels listener ↔
      (∃ protocol, listener.protocol = some protocol ∧ ∃ index < service.routing.rules.length,
        label = ⟨service.servicePrefix, .listenerRule, .rule protocol listener.port index⟩) ∨
      label = ⟨service.servicePrefix, .targetGroup, .number listener.port.toNat⟩ := by
  simp only [listenerLabels, List.mem_append, List.mem_flatMap, List.mem_map, List.mem_range,
    Option.mem_toList, List.mem_singleton, eq_comm]

theorem belongs_listenerLabels (service : Service) (listener : Listener) :
    ∀ label ∈ service.listenerLabels listener, label.Belongs service.servicePrefix
      [.listenerRule, .targetGroup] := by
  intro label member
  rcases mem_listenerLabels.mp member with ⟨_, -, _, -, rfl⟩ | rfl <;> exact ⟨rfl, by simp, trivial⟩

theorem nodup_listenerLabels (service : Service) (listener : Listener) :
    (service.listenerLabels listener).Nodup := by
  unfold listenerLabels
  refine List.Nodup.append ?_ (by simp) ?_
  · cases listener.protocol with
    | none => simp
    | some protocol =>
      simp only [Option.toList_some, List.flatMap_cons, List.flatMap_nil, List.append_nil]
      refine List.nodup_range.map fun i j same => ?_
      simpa using same
  · intro label rule target
    obtain rfl := List.mem_singleton.mp target
    simp at rule

theorem belongs_labels (service : Service) :
    ∀ label ∈ service.labels, label.Belongs service.servicePrefix [.service, .taskDefinition, .logGroup,
      .schedulerRule, .listenerRule, .targetGroup, .scalingRole, .scalingTarget, .scalingPolicy,
      .scalingPolicyIn, .scalingPolicyOut, .scalingAlarmIn, .scalingAlarmOut] := by
  intro label member
  simp only [labels, List.mem_append] at member
  rcases member with (core | listeners) | scaling
  · exact (service.belongs_coreLabels label core).mono (by decide)
  · obtain ⟨listener, -, inside⟩ := List.mem_flatMap.mp listeners
    exact (service.belongs_listenerLabels listener label inside).mono (by decide)
  · obtain ⟨described, -, inside⟩ := List.mem_flatMap.mp scaling
    exact (described.belongs_labels service.servicePrefix label inside).mono (by decide)

/-- The labels of a service are distinct, because its ports are. -/
theorem nodup_labels (settled : service.Settled deployment clusterPrefix albDisabled) :
    service.labels.Nodup := by
  have ports : service.attachedListeners.Pairwise fun left right => left.port ≠ right.port := by
    have distinct := settled.ports
    rw [List.nodup_iff_pairwise_ne, List.pairwise_map] at distinct
    exact distinct.sublist List.filter_sublist
  have listeners : (service.attachedListeners.flatMap service.listenerLabels).Nodup := by
    refine List.nodup_flatMap.mpr ⟨fun listener _ => service.nodup_listenerLabels listener, ?_⟩
    refine ports.imp fun different label here there => ?_
    rcases mem_listenerLabels.mp here with ⟨_, -, _, -, rfl⟩ | rfl <;>
      rcases mem_listenerLabels.mp there with ⟨_, -, _, -, same⟩ | same
    · simp only [Label.mk.injEq, Mark.rule.injEq] at same
      exact different same.2.2.2.1
    · simp at same
    · simp at same
    · simp only [Label.mk.injEq, Mark.number.injEq, UInt16.toNat_inj] at same
      exact different same.2.2
  have ofListeners : ∀ label ∈ service.attachedListeners.flatMap service.listenerLabels,
      label.Belongs service.servicePrefix [.listenerRule, .targetGroup] := by
    intro label member
    obtain ⟨listener, -, inside⟩ := List.mem_flatMap.mp member
    exact service.belongs_listenerLabels listener label inside
  unfold labels
  cases described : service.scaling with
  | none =>
    simp only [Option.toList_none, List.flatMap_nil, List.append_nil]
    exact service.nodup_coreLabels.append listeners
      (Label.disjoint_of_roles service.belongs_coreLabels ofListeners (by decide))
  | some scaling =>
    simp only [Option.toList_some, List.flatMap_cons, List.flatMap_nil, List.append_nil]
    refine (service.nodup_coreLabels.append listeners
      (Label.disjoint_of_roles service.belongs_coreLabels ofListeners (by decide))).append
        (scaling.nodup_labels _) (List.disjoint_append_left.mpr ⟨?_, ?_⟩)
    · exact Label.disjoint_of_roles service.belongs_coreLabels (scaling.belongs_labels _) (by decide)
    · exact Label.disjoint_of_roles ofListeners (scaling.belongs_labels _) (by decide)

end Service

namespace Cluster

variable {spec : ClusterSpec} {cluster : Cluster}

theorem Settled.servicePrefix_ne (settled : cluster.Settled deployment spec) {service : Service}
    (member : service ∈ cluster.services) : cluster.clusterPrefix ≠ service.servicePrefix := by
  have settles := (settled.service member).2
  rw [settles.servicePrefix]
  intro same
  have lengths := congrArg String.length same
  rw [String.length_append] at lengths
  have empty : service.token.length = 0 := by omega
  exact settles.token (String.length_eq_zero_iff.mp empty)

theorem Settled.servicePrefixes (settled : cluster.Settled deployment spec) :
    (cluster.services.map (·.servicePrefix)).Nodup := by
  have tokens := settled.tokens
  rw [List.nodup_iff_pairwise_ne, List.pairwise_map] at tokens ⊢
  refine tokens.imp_of_mem fun leftMember rightMember different same => different ?_
  rw [(settled.service leftMember).2.servicePrefix, (settled.service rightMember).2.servicePrefix] at same
  exact String.append_right_inj _ |>.mp same

theorem belongs_sharedLabels (cluster : Cluster) :
    ∀ label ∈ cluster.network.labels cluster.clusterPrefix ++ cluster.ownLabels ++
        cluster.balancer.labels cluster.clusterPrefix,
      label.Belongs cluster.clusterPrefix [.vpc, .internetGateway, .gatewayAttachment, .routeTable, .route,
        .subnet, .routeTableAssociation, .cluster, .containerSecurityGroup, .selfIngress, .loadBalancer,
        .loadBalancerListener] := by
  intro label member
  simp only [List.mem_append] at member
  rcases member with (network | own) | balancer
  · exact (cluster.network.belongs_labels _ label network).mono (by decide)
  · exact (cluster.belongs_ownLabels label own).mono (by decide)
  · exact (cluster.balancer.belongs_labels _ label balancer).mono (by decide)

theorem belongs_plainLabels (cluster : Cluster) : ∀ label ∈ cluster.plainLabels, label.IsPlain ∧
    label.role ≠ .executionRole ∧ (label.owner = cluster.clusterPrefix ∨
      ∃ service ∈ cluster.services, label.owner = service.servicePrefix) := by
  intro label member
  rcases List.mem_append.mp member with shared | services
  · have belongs := cluster.belongs_sharedLabels label shared
    exact ⟨belongs.isPlain (by decide), belongs.role_ne (by decide), .inl belongs.owner⟩
  · obtain ⟨service, present, inside⟩ := List.mem_flatMap.mp services
    have belongs := service.belongs_labels label inside
    exact ⟨belongs.isPlain (by decide), belongs.role_ne (by decide), .inr ⟨service, present, belongs.owner⟩⟩

theorem Settled.nodup_plainLabels (settled : cluster.Settled deployment spec) :
    cluster.plainLabels.Nodup := by
  have network := cluster.network.belongs_labels cluster.clusterPrefix
  have own := cluster.belongs_ownLabels
  have balancer := cluster.balancer.belongs_labels cluster.clusterPrefix
  have shared : (cluster.network.labels cluster.clusterPrefix ++ cluster.ownLabels ++
      cluster.balancer.labels cluster.clusterPrefix).Nodup := by
    refine ((cluster.network.nodup_labels _).append cluster.nodup_ownLabels ?_).append
      (Balancer.nodup_labels settled.balancer) (List.disjoint_append_left.mpr ⟨?_, ?_⟩)
    · exact Label.disjoint_of_roles network own (by decide)
    · exact Label.disjoint_of_roles network balancer (by decide)
    · exact Label.disjoint_of_roles own balancer (by decide)
  refine shared.append (List.nodup_flatMap.mpr ⟨?_, ?_⟩) ?_
  · exact fun service member => Service.nodup_labels (settled.service member).2
  · have prefixes := settled.servicePrefixes
    rw [List.nodup_iff_pairwise_ne, List.pairwise_map] at prefixes
    exact prefixes.imp fun different =>
      Label.disjoint_of_owners (Service.belongs_labels _) (Service.belongs_labels _) different
  · intro label here there
    obtain ⟨service, member, inside⟩ := List.mem_flatMap.mp there
    exact Label.disjoint_of_owners cluster.belongs_sharedLabels service.belongs_labels
      (settled.servicePrefix_ne member) here inside

theorem mem_serviceGroupLabels {service : Service} {label : Label}
    (member : label ∈ cluster.serviceGroupLabels service) :
    label = ⟨cluster.clusterPrefix, .loadBalancerSecurityGroup, .word service.token⟩ ∨
      label = ⟨cluster.clusterPrefix, .loadBalancerIngress, .word service.token⟩ := by
  rcases List.mem_cons.mp member with first | member
  · exact .inl first
  · split at member
    · cases member
    · exact .inr (List.mem_singleton.mp member)

theorem mem_groupLabels {label : Label} (member : label ∈ cluster.groupLabels) :
    ∃ service ∈ cluster.services,
      label = ⟨cluster.clusterPrefix, .loadBalancerSecurityGroup, .word service.token⟩ ∨
        label = ⟨cluster.clusterPrefix, .loadBalancerIngress, .word service.token⟩ := by
  unfold groupLabels at member
  split at member
  · cases member
  · obtain ⟨service, present, member⟩ := List.mem_flatMap.mp member
    exact ⟨service, (List.mem_filter.mp present).1, mem_serviceGroupLabels member⟩

/-- The labels of the groups are distinct, because the tokens of the services are. -/
theorem Settled.nodup_groupLabels (settled : cluster.Settled deployment spec) :
    cluster.groupLabels.Nodup := by
  unfold groupLabels
  split
  · exact List.nodup_nil
  · refine List.nodup_flatMap.mpr ⟨fun service _ => ?_, ?_⟩
    · unfold serviceGroupLabels
      split <;> simp
    · have tokens := settled.tokens
      rw [List.nodup_iff_pairwise_ne, List.pairwise_map] at tokens
      refine (tokens.sublist List.filter_sublist).imp fun different label here there => different ?_
      rcases mem_serviceGroupLabels here with rfl | rfl <;>
        rcases mem_serviceGroupLabels there with same | same
      · simpa using same
      · simp at same
      · simp at same
      · simpa using same

theorem Settled.nodup_unsharedLabels (settled : cluster.Settled deployment spec) :
    (cluster.groupLabels ++ cluster.plainLabels).Nodup := by
  refine settled.nodup_groupLabels.append settled.nodup_plainLabels fun label group plain => ?_
  obtain ⟨⟨mark, -⟩, -⟩ := cluster.belongs_plainLabels label plain
  obtain ⟨service, -, rfl | rfl⟩ := mem_groupLabels group <;> exact mark

theorem mem_labels_of_mem_groupLabels {label : Label} (member : label ∈ cluster.groupLabels) :
    label ∈ cluster.labels :=
  List.mem_append_left _ (List.mem_append_left _ member)

theorem mem_roleLabels {label : Label} : label ∈ cluster.roleLabels ↔
    (∃ key, cluster.executionRole = .generated key) ∧ cluster.services ≠ [] ∧
      label = ⟨cluster.clusterPrefix, .executionRole, .single⟩ := by
  cases kind : cluster.executionRole with
  | supplied _ => simp [roleLabels, kind]
  | generated key => cases services : cluster.services <;> simp [roleLabels, kind, services]

theorem isPlain_of_mem_labels {label : Label} (member : label ∈ cluster.labels) :
    label ∈ cluster.groupLabels ∨ label.IsPlain := by
  rcases List.mem_append.mp member with member | role
  · rcases List.mem_append.mp member with group | plain
    · exact .inl group
    · exact .inr (cluster.belongs_plainLabels label plain).1
  · obtain ⟨-, -, rfl⟩ := mem_roleLabels.mp role
    exact .inr ⟨trivial, by simp⟩

theorem owner_mem_prefixes {label : Label} (member : label ∈ cluster.labels) :
    label.owner ∈ Entries.keys cluster.prefixes := by
  have ofCluster : cluster.clusterPrefix ∈ Entries.keys cluster.prefixes := .head _
  rcases List.mem_append.mp member with member | role
  · rcases List.mem_append.mp member with group | plain
    · obtain ⟨service, -, rfl | rfl⟩ := mem_groupLabels group <;> exact ofCluster
    · obtain ⟨-, -, owner | ⟨service, present, owner⟩⟩ := cluster.belongs_plainLabels label plain
      · exact owner ▸ ofCluster
      · rw [owner]
        exact List.mem_cons_of_mem _ (List.mem_map.mpr ⟨_, List.mem_map_of_mem present, rfl⟩)
  · obtain ⟨-, -, rfl⟩ := mem_roleLabels.mp role
    exact ofCluster

end Cluster

end ClusterStack
