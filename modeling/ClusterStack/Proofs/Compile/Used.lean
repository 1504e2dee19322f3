import ClusterStack.Proofs.Compile.Closure
import ClusterStack.Proofs.Service.Used
import ClusterStack.Proofs.Spec.Minimal

/-!
# Unused settings

A description compiles to the same template, or is refused for the same reason, when the settings that it
does not use are reset. So descriptions that differ in nothing else compile to the same.
-/

set_option autoImplicit false

namespace ClusterStack

variable {deployment : Deployment}

namespace Balancer

variable {owner : String} {albDisabled : Bool} {services : List Service}

/-- Where there is no load balancer, its ports need no certificates. -/
def usedPort (albDisabled : Bool) (port : PortListener) : PortListener :=
  { port with certificateArns := if albDisabled then [] else port.certificateArns }

theorem usedPort_enabled : usedPort false = id := rfl

theorem register_used (service : Service) {listener : Listener}
    (attached : listener.isAttached = (!albDisabled && listener.protocol.isSome)) (ports : List PortListener) :
    register deployment owner (ports.map (usedPort albDisabled)) (service.used albDisabled, listener.used) =
      (register deployment owner ports (service, listener)).map (List.map (usedPort albDisabled)) := by
  cases declared : listener.protocol with
  | none =>
    have usedDeclared : listener.used.protocol = none := declared
    simp only [register, declared, usedDeclared, Except.map]
  | some protocol =>
    have usedDeclared : listener.used.protocol = some protocol := declared
    have found : (ports.map (usedPort albDisabled)).find? (·.port == listener.used.port) =
        (ports.find? (·.port == listener.port)).map (usedPort albDisabled) := by
      rw [List.find?_map]
      rfl
    simp only [register, declared, usedDeclared, found]
    cases ports.find? (·.port == listener.port) with
    | some existing =>
      simp only [Option.map_some, usedPort]
      by_cases same : existing.protocol = protocol
      · rw [if_pos same, if_pos same]
        rfl
      · rw [if_neg same, if_neg same]
        rfl
    | none =>
      have certificates : listener.used.certificateArns =
          if albDisabled then [] else listener.certificateArns := by
        rw [Listener.used, attached, declared]
        cases albDisabled <;> rfl
      rw [certificates]
      simp only [Option.map_none, Except.map, List.map_append]
      rfl

theorem collectPorts_used
    (attached : ∀ service ∈ services, ∀ listener ∈ service.listeners,
      listener.isAttached = (!albDisabled && listener.protocol.isSome)) :
    collectPorts deployment owner (services.map (·.used albDisabled)) =
      (collectPorts deployment owner services).map (List.map (usedPort albDisabled)) := by
  have each : ∀ entry ∈ serviceListeners services, ∀ ports,
      register deployment owner (ports.map (usedPort albDisabled))
          (Prod.map (·.used albDisabled) (·.used) entry) =
        (register deployment owner ports entry).map (List.map (usedPort albDisabled)) := by
    rintro ⟨service, listener⟩ member ports
    obtain ⟨present, listed⟩ := mem_serviceListeners.mp member
    exact register_used service (attached service present listener listed) ports
  have listeners : serviceListeners (services.map (·.used albDisabled)) =
      (serviceListeners services).map (Prod.map (·.used albDisabled) (·.used)) :=
    serviceListeners_map fun _ => rfl
  rw [collectPorts, listeners, List.foldlM_map]
  exact foldlM_adapt rfl each

theorem planGroups_used (services : List Service) :
    planGroups deployment owner (services.map (·.used albDisabled)) =
      planGroups deployment owner services := by
  refine planGroups_map (fun _ => rfl) (fun _ => rfl) fun service => ?_
  rw [Service.hasAttachedListener, Service.used, List.any_map]
  rfl

theorem used_of_enabled {balancer : Balancer} (enabled : balancer.mode.isDisabled = false) :
    balancer.used = balancer := by
  simp [used, enabled]

theorem resolve_used {spec : ClusterSpec}
    (attached : ∀ service ∈ services, ∀ listener ∈ service.listeners,
      listener.isAttached = (!spec.albDisabled && listener.protocol.isSome)) :
    resolve deployment owner spec.used (services.map (·.used spec.albDisabled)) =
      (resolve deployment owner spec services).map used := by
  rw [resolve, collectPorts_used attached, bind_map, resolve, map_bind]
  refine bind_congr fun ports => ?_
  simp only [BalancerMode.ofSpec_used, planGroups_used, pure, Except.pure, Except.map, used,
    BalancerMode.isDisabled_ofSpec]
  cases disabled : spec.albDisabled <;> simp [disabled, ClusterSpec.used, usedPort_enabled]

theorem declarations_used (balancer : Balancer) (tags : Tags) (network : Network)
    (containerGroup : Option Value) :
    balancer.used.declarations tags network containerGroup =
      balancer.declarations tags network containerGroup := by
  cases kind : balancer.mode with
  | disabled =>
    have usedKind : balancer.used.mode = .disabled := kind
    rw [declarations, declarations, kind, usedKind]
  | external _ => rw [used_of_enabled (by rw [kind]; rfl)]
  | managed => rw [used_of_enabled (by rw [kind]; rfl)]

end Balancer

namespace Cluster

variable {cluster : Cluster} {spec : ClusterSpec}

/-- What is left of a cluster when its description is reset. -/
def used (albDisabled : Bool) (cluster : Cluster) : Cluster :=
  { cluster with
    services := cluster.services.map (·.used albDisabled)
    balancer := cluster.balancer.used }

theorem resolve_used (deployment : Deployment) (spec : ClusterSpec) :
    resolve deployment spec.used = (resolve deployment spec).map (used spec.albDisabled) := by
  have services : ∀ clusterPrefix,
      spec.used.services.mapM (Service.resolve deployment clusterPrefix spec.albDisabled) =
        (spec.services.mapM (Service.resolve deployment clusterPrefix spec.albDisabled)).map
          (List.map (·.used spec.albDisabled)) := fun clusterPrefix =>
    mapM_map_adapt fun service _ => Service.resolve_used deployment clusterPrefix spec.albDisabled service
  simp only [resolve, map_bind]
  refine bind_congr fun token => bind_congr fun networkSpec => bind_congr fun network => ?_
  -- Resetting keeps whether there is a load balancer, which `rw` does not see.
  change (spec.used.services.mapM
    (Service.resolve deployment (deployment.servicePrefix ++ token) spec.albDisabled) >>= _) = _
  rw [services]
  cases resolved : spec.services.mapM
      (Service.resolve deployment (deployment.servicePrefix ++ token) spec.albDisabled) with
  | error _ => rfl
  | ok settled =>
    have attached : ∀ service ∈ settled, ∀ listener ∈ service.listeners,
        listener.isAttached = (!spec.albDisabled && listener.protocol.isSome) := by
      intro service member listener listed
      obtain ⟨_, -, resolves⟩ := exists_of_forall₂_right (mapM_eq_ok.mp resolved) member
      exact ((Service.settled_of_resolve resolves).2.listeners listener listed).isAttached
    have balancer : Balancer.resolve deployment (deployment.servicePrefix ++ token) spec.used
        (settled.map (·.used spec.albDisabled)) =
          (Balancer.resolve deployment (deployment.servicePrefix ++ token) spec settled).map Balancer.used :=
      Balancer.resolve_used attached
    have tokens : checkTokens spec.used (settled.map (·.used spec.albDisabled)) = checkTokens spec settled :=
      checkTokens_map (Service.used spec.albDisabled) (fun _ => rfl) (fun _ => rfl) rfl settled
    simp only [Except.map, bind, Except.bind, tokens, balancer]
    cases checkTokens spec settled with
    | error _ => rfl
    | ok _ =>
      cases Balancer.resolve deployment (deployment.servicePrefix ++ token) spec settled <;> rfl

theorem declarations_used (resolved : resolve deployment spec = .ok cluster) :
    (cluster.used spec.albDisabled).declarations deployment = cluster.declarations deployment := by
  have settled := settled_of_resolve resolved
  have services : (cluster.used spec.albDisabled).services.mapM
      (·.declarations (cluster.serviceScope deployment).used) =
        cluster.services.mapM (·.declarations (cluster.serviceScope deployment)) := by
    rw [used, List.mapM_map]
    refine mapM_congr fun service member => ?_
    obtain ⟨_, -, resolves⟩ := exists_of_forall₂_right settled.specs member
    exact Service.declarations_used resolves _
  have balancer := cluster.balancer.declarations_used cluster.tags cluster.network cluster.ingressGroup
  rw [declarations, declarations, ← services, ← balancer]
  rfl

theorem compile_used (resolved : resolve deployment spec = .ok cluster) :
    (cluster.used spec.albDisabled).compile deployment = cluster.compile deployment := by
  have external : (cluster.used spec.albDisabled).externalDependencies = cluster.externalDependencies := by
    rw [externalDependencies, used, List.flatMap_map]
    rfl
  rw [compile, declarations_used resolved, external]
  rfl

end Cluster

/-- Resetting what is not used changes nothing. -/
theorem compile_used (deployment : Deployment) (spec : ClusterSpec) :
    compile deployment spec.used = compile deployment spec := by
  rw [compile, Cluster.resolve_used, bind_map, compile]
  cases resolved : Cluster.resolve deployment spec with
  | error _ => rfl
  | ok cluster => exact Cluster.compile_used resolved

/-- Descriptions that differ only in settings they do not use compile to the same, be it a template or a
fault. -/
theorem compile_ignores {a b : ClusterSpec} (same : a.used = b.used) :
    compile deployment a = compile deployment b := by
  rw [← compile_used deployment a, same, compile_used]

/-- A service that nothing is attached to, and one on hosts of its own. -/
def plainCluster : ClusterSpec :=
  .minimal "main" [
    (ServiceSpec.minimal "jobs" "worker").listening [
      { ListenerSpec.minimal .http with albProtocol := none, port := some 9000 }],
    { ServiceSpec.minimal "agent" "probe" with ec2LaunchType := true }]

/-- The same with settings that neither of them uses. -/
def clutteredCluster : ClusterSpec :=
  .minimal "main" [
    { (ServiceSpec.minimal "jobs" "worker").listening [
        { ListenerSpec.minimal .http with
          albProtocol := none
          port := some 9000
          certificateArns := some ["certificate"] }] with
      daemonEc2Type := true
      path := some (.single "/jobs")
      priority := some 7
      healthCheckUri := some "/up" },
    { ServiceSpec.minimal "agent" "probe" with ec2LaunchType := true, disablePublicIpAssign := true }]

/-- Without a load balancer, it does not matter either how it would be set up. -/
theorem compile_ignores_clutteredCluster : ∃ template bare,
    compile (.ofService "dev" "shop") plainCluster = .ok template ∧
    compile (.ofService "dev" "shop") clutteredCluster = .ok template ∧
    compile (.ofService "dev" "shop") { plainCluster with albDisabled := true } = .ok bare ∧
    compile (.ofService "dev" "shop") { clutteredCluster with
      albDisabled := true, albPrivate := true, timeout := some 5 } = .ok bare := by
  obtain ⟨template, compiled⟩ : ∃ template,
      compile (.ofService "dev" "shop") plainCluster = .ok template :=
    exists_of_isOk (by decide +kernel)
  obtain ⟨bare, bareCompiled⟩ : ∃ bare,
      compile (.ofService "dev" "shop") { plainCluster with albDisabled := true } = .ok bare :=
    exists_of_isOk (by decide +kernel)
  have same : plainCluster.used = clutteredCluster.used := rfl
  have bareSame : { plainCluster with albDisabled := true : ClusterSpec }.used =
      { clutteredCluster with
        albDisabled := true, albPrivate := true, timeout := some 5 : ClusterSpec }.used := rfl
  exact ⟨template, bare, compiled, (compile_ignores same).symm.trans compiled, bareCompiled,
    (compile_ignores bareSame).symm.trans bareCompiled⟩

end ClusterStack
