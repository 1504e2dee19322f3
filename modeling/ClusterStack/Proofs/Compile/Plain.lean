import ClusterStack.Compile
import ClusterStack.Proofs.Cluster.Settled
import ClusterStack.Proofs.Service.Plain

/-!
# Compiling plain descriptions

A description compiles to the same template, or is refused for the same reason, when it is written
plainly. So descriptions that are plainly the same compile to the same.
-/

set_option autoImplicit false

namespace ClusterStack

variable {deployment : Deployment}

namespace Balancer

variable {owner : String}

theorem collectPorts_plain (services : List Service) :
    collectPorts deployment owner (services.map .plain) = collectPorts deployment owner services := by
  have listeners : serviceListeners (services.map .plain) =
      (serviceListeners services).map (Prod.map .plain id) :=
    serviceListeners_map fun service => (List.map_id service.listeners).symm
  have each : (fun ports entry => register deployment owner ports (Prod.map Service.plain id entry)) =
      register deployment owner := rfl
  rw [collectPorts, listeners, List.foldlM_map, each, collectPorts]

theorem resolve_plain (spec : ClusterSpec) (services : List Service) :
    resolve deployment owner spec.plain (services.map .plain) = resolve deployment owner spec services := by
  have groups : planGroups deployment owner (services.map .plain) = planGroups deployment owner services :=
    planGroups_map (fun _ => rfl) (fun _ => rfl) fun _ => rfl
  rw [resolve, collectPorts_plain, groups, BalancerMode.ofSpec_plain, resolve]
  rfl

theorem declarations_plain (balancer : Balancer) (tags : Tags) (network : Network)
    (containerGroup : Option Value) :
    balancer.declarations tags network.plain containerGroup =
      balancer.declarations tags network containerGroup := by
  have groups : groupDeclarations tags network.plain containerGroup =
      groupDeclarations tags network containerGroup := by
    funext group
    simp only [groupDeclarations, Network.isExisting_plain, Network.vpcRef_plain]
  have inside : balancer.securityGroups network.plain containerGroup =
      balancer.securityGroups network containerGroup := by
    rw [securityGroups, securityGroups, Network.isExisting_plain, Network.securityGroups?_plain]
    cases network.securityGroups? <;> simp
  have itself : balancer.resource tags network.plain containerGroup =
      balancer.resource tags network containerGroup := by
    rw [resource, inside, Network.albSubnets_plain, resource]
  rw [declarations, groups, itself, declarations]

end Balancer

namespace Cluster

def plain (cluster : Cluster) : Cluster :=
  { cluster with
    network := cluster.network.plain
    services := cluster.services.map .plain }

theorem resolve_plain (deployment : Deployment) (spec : ClusterSpec) :
    resolve deployment spec.plain = (resolve deployment spec).map plain := by
  have services : ∀ clusterPrefix,
      spec.plain.services.mapM (Service.resolve deployment clusterPrefix spec.plain.albDisabled) =
        (spec.services.mapM (Service.resolve deployment clusterPrefix spec.albDisabled)).map
          (List.map .plain) := fun clusterPrefix =>
    mapM_map_adapt fun service _ => Service.resolve_plain deployment clusterPrefix spec.albDisabled service
  have network : requireNetwork spec.plain = (requireNetwork spec).map .plain := by
    cases given : spec.vpc with
    | none => simp [requireNetwork, ClusterSpec.plain, given, Except.map, context]
    | some network => simp [requireNetwork, ClusterSpec.plain, given, Except.map]
  simp only [resolve, map_bind]
  refine bind_congr fun token => ?_
  rw [network, bind_map]
  refine bind_congr fun networkSpec => ?_
  rw [Network.resolve_plain, bind_map]
  refine bind_congr fun network => ?_
  rw [services, bind_map]
  refine bind_congr fun settled => ?_
  have tokens : checkTokens spec.plain (settled.map .plain) = checkTokens spec settled :=
    checkTokens_map .plain (fun _ => rfl) (fun _ => rfl) rfl settled
  rw [tokens, Balancer.resolve_plain]
  refine bind_congr fun _ => bind_congr fun balancer => ?_
  rw [ClusterHome.ofSpec_plain, executionRoleOf_plain]
  rfl

theorem ingressGroup_plain (cluster : Cluster) : cluster.plain.ingressGroup = cluster.ingressGroup := by
  have existing : cluster.plain.network.isExisting = cluster.network.isExisting :=
    cluster.network.isExisting_plain
  rw [ingressGroup, existing, ingressGroup]
  rfl

theorem serviceScope_plain (cluster : Cluster) :
    cluster.plain.serviceScope deployment = (cluster.serviceScope deployment).plain := by
  rw [serviceScope, ingressGroup_plain]
  rfl

theorem ownDeclarations_plain (cluster : Cluster) :
    cluster.plain.ownDeclarations = cluster.ownDeclarations := by
  have group : cluster.plain.containerGroupDeclarations = cluster.containerGroupDeclarations := by
    have vpc : cluster.plain.network.vpcRef = cluster.network.vpcRef := cluster.network.vpcRef_plain
    rw [containerGroupDeclarations, vpc, containerGroupDeclarations]
    rfl
  have existing : cluster.plain.network.isExisting = cluster.network.isExisting :=
    cluster.network.isExisting_plain
  rw [ownDeclarations, group, existing, ownDeclarations]
  rfl

/-- A cluster declares the same however it was written. -/
theorem declarations_plain (cluster : Cluster) :
    cluster.plain.declarations deployment = cluster.declarations deployment := by
  have services : cluster.plain.services.mapM (·.declarations (cluster.plain.serviceScope deployment)) =
      cluster.services.mapM (·.declarations (cluster.serviceScope deployment)) := by
    rw [serviceScope_plain, plain, List.mapM_map]
    exact mapM_congr fun service _ => service.declarations_plain (cluster.serviceScope deployment)
  have network := cluster.network.declarations_plain cluster.tags
  have balancer := cluster.balancer.declarations_plain cluster.tags cluster.network cluster.ingressGroup
  rw [declarations, services, ownDeclarations_plain, ingressGroup_plain, declarations, ← network, ← balancer]
  rfl

theorem compile_plain (cluster : Cluster) :
    cluster.plain.compile deployment = cluster.compile deployment := by
  have external : cluster.plain.externalDependencies = cluster.externalDependencies := by
    rw [externalDependencies, plain, List.flatMap_map, externalDependencies]
    exact List.flatMap_congr fun service _ => service.metricDependencies_plain
  rw [compile, declarations_plain, external, compile]

end Cluster

/-- Writing a description plainly changes nothing. -/
theorem compile_plain (deployment : Deployment) (spec : ClusterSpec) :
    compile deployment spec.plain = compile deployment spec := by
  rw [compile, Cluster.resolve_plain, bind_map, compile]
  exact bind_congr fun cluster => cluster.compile_plain

end ClusterStack
