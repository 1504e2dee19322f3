import ClusterStack.Proofs.Listener.Agreement

/-!
# Certificates

The load balancer presents on a port what the first listener brings that declares a protocol there. A
listener with HTTPS is refused without certificates when it is attached, so that a port with HTTPS never
lacks them.
-/

set_option autoImplicit false

namespace ClusterStack

variable {deployment : Deployment} {spec : ClusterSpec}

/-- The listener of the load balancer is secured by the certificates of the described one, in their
order, or speaks HTTP and has none. -/
inductive Resource.Secures (resource : Resource) (listener : ListenerSpec) : Prop where
  | secure {arns : List String} (declares : listener.albProtocol = some .https)
      (protocol : resource.property? "Protocol" = some (.string "HTTPS"))
      (given : listener.certificateArns = some arns) (nonempty : arns ≠ [])
      (presents : resource.property? "Certificates" =
        some (.list (arns.map fun arn => .map [("CertificateArn", .string arn)])))
  | clear (declares : listener.albProtocol = some .http)
      (protocol : resource.property? "Protocol" = some (.string "HTTP"))
      (bare : resource.property? "Certificates" = none)

/-- The listener of the load balancer on the port has one action, which forwards to the target group
of the described listener. -/
structure Template.ForwardsOn (template : Template) (resource : Resource) (port : UInt16)
    (listener : ListenerSpec) (target : String) : Prop where
  onPort : resource.property? "Port" = some (.ofNat port.toNat)
  action : resource.property? "DefaultActions" =
    some (.list [.map [("TargetGroupArn", .ref target), ("Type", .string "forward")]])
  targetGroup : ∃ group, (target, group) ∈ template.resources.entries ∧ group.kind = .targetGroup ∧
    group.property? "Port" = some (.ofNat (listener.containerPort.getD port).toNat)

namespace Balancer

theorem certificates_listenerResource (balancer : Balancer) (listener : PortListener) :
    (balancer.listenerResource listener).property? "Certificates" =
      if listener.protocol = .https then
        some (.list (listener.certificateArns.map fun arn => .map [("CertificateArn", .string arn)]))
      else none := by
  rw [listenerResource, Resource.property?_make (by simp)]
  rfl

theorem secures_listenerResource (balancer : Balancer) {port : PortListener} {spec : ListenerSpec}
    (declares : spec.albProtocol = some port.protocol)
    (certificates : port.certificateArns = spec.certificateArns.getD [])
    (secured : port.protocol = .https → port.certificateArns ≠ []) :
    (balancer.listenerResource port).Secures spec := by
  have text := balancer.protocol_listenerResource port
  have presents := balancer.certificates_listenerResource port
  cases protocol : port.protocol with
  | http =>
    rw [protocol] at declares text presents
    exact .clear declares text presents
  | https =>
    have nonempty := secured protocol
    rw [protocol] at declares text presents
    cases given : spec.certificateArns with
    | none =>
      rw [given] at certificates
      exact absurd certificates nonempty
    | some arns =>
      obtain rfl : port.certificateArns = arns := by rw [certificates, given, Option.getD_some]
      exact .secure declares text given nonempty presents

end Balancer

/-- Every listener of the load balancer has been opened by the first listener of the description that
declares a protocol on its port: it forwards to the target group of that one, and has its certificates
if the protocol is HTTPS. Otherwise it has none. -/
theorem compile_secures {template : Template} (compiled : compile deployment spec = .ok template)
    {key : String} {resource : Resource} (present : (key, resource) ∈ template.resources.entries)
    (kind : resource.kind = .loadBalancerListener) :
    ∃ port service listener, spec.opener? port = some (service, listener) ∧
      template.ForwardsOn resource port listener (spec.targetGroupId deployment service port) ∧
      resource.Secures listener := by
  obtain ⟨cluster, resolved, clusterCompiled⟩ := compile_eq_ok.mp compiled
  obtain ⟨declarations, declared, made, -⟩ := Cluster.compile_eq_ok.mp clusterCompiled
  have settled := Cluster.settled_of_resolve resolved
  obtain ⟨declaration, given, entry⟩ := Template.exists_declaration_of_mem made present
  have portKind : declaration.kind? = some .loadBalancerListener := by
    rw [Declaration.kind?, entry, Option.map_some, kind]
  obtain ⟨managed, port, opened, rfl⟩ := Cluster.loadBalancerListener_of_mem declared given portKind
  cases entry
  have enabled := Balancer.isDisabled_of_isManaged managed
  obtain ⟨⟨service, listener⟩, protocol, opens, declares, rfl⟩ :=
    (settled.balancer.listeners enabled).opened port opened
  obtain ⟨given, found, describes⟩ := settled.exists_opener opens
  obtain ⟨member, listed⟩ := Balancer.mem_serviceListeners.mp opens.mem
  have attached := (Cluster.mem_attachedListeners settled enabled member).mpr
    ⟨listed, Option.isSome_iff_exists.mpr ⟨protocol, declares⟩⟩
  have settles := (settled.service member).2.listeners listener listed
  have demand : given.demand? = some (listener.port, protocol) := by
    rw [← describes.demand, Listener.demand?, declares]
    rfl
  have realizes := settled.realizes member listed describes demand
  refine ⟨listener.port, service.spec, given, found, ?_, ?_⟩
  · obtain ⟨arn, -, serves⟩ := settled.exists_serves declared made member attached realizes
    rw [← realizes.targetGroup]
    refine ⟨Balancer.port_listenerResource _ _, rfl, ?_⟩
    rw [realizes.targetGroup]
    exact serves.targetGroup
  · refine Balancer.secures_listenerResource _ (describes.protocol ▸ declares) describes.certificateArns ?_
    intro secure
    exact settles.certificates (Service.mem_attachedListeners.mp attached).2 (secure ▸ declares)

/-- A service with one HTTPS listener. -/
def securedService (name certificate : String) : ServiceSpec :=
  (ServiceSpec.minimal name "nginx").listening [
    { ListenerSpec.minimal .https with certificateArns := some [certificate] }]

/-- Two services with HTTPS on one port, each with a certificate of its own. -/
def sharedPortCluster : ClusterSpec :=
  .minimal "main" [securedService "web" "first", securedService "api" "second"]

/-- The one listener of the load balancer has the certificate of the first service, to which it forwards. -/
theorem compile_secures_sharedPortCluster : ∃ template resource,
    compile (.ofService "dev" "shop") sharedPortCluster = .ok template ∧
    ("ShopMainALBListenerDev443", resource) ∈ template.resources.entries ∧
    resource.kind = .loadBalancerListener ∧ resource.property? "DefaultActions" = some (.list [.map [
      ("TargetGroupArn", .ref "ShopMainWebTargetGroupDev443"), ("Type", .string "forward")]]) ∧
    resource.property? "Protocol" = some (.string "HTTPS") ∧
    resource.property? "Certificates" = some (.list [.map [("CertificateArn", .string "first")]]) := by
  obtain ⟨template, compiled, found⟩ : ∃ template,
      compile (.ofService "dev" "shop") sharedPortCluster = .ok template ∧
        (template.resources.get? "ShopMainALBListenerDev443").any
          (·.kind == .loadBalancerListener) = true := exists_of_passes (by decide +kernel)
  obtain ⟨resource, present, kind⟩ := Option.any_eq_true _ _ |>.mp found
  have member := Registry.get?_eq_some.mp present
  have kind := eq_of_beq kind
  obtain ⟨port, service, listener, opens, forwards, secures⟩ := compile_secures compiled member kind
  have onPort : 443 = port := by
    have every : ∀ entry ∈ sharedPortCluster.listeners, entry.2.demand? = some (443, .https) := by decide
    have asks := List.find?_some opens
    rw [every _ (List.mem_of_find?_eq_some opens)] at asks
    exact eq_of_beq asks
  subst onPort
  cases opens
  cases secures with
  | secure _ protocol given _ presents =>
    cases given
    exact ⟨template, resource, compiled, member, kind, forwards.action, protocol, presents⟩
  | clear declares => cases declares

end ClusterStack
