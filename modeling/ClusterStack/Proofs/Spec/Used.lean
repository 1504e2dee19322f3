import ClusterStack.Balancer.Basic

/-!
# Settings that are used

Some settings of a description have no meaning next to others: what only the load balancer makes use of,
where there is none or nothing is attached to it, and what only the other launch type has. Here they are
reset. Everything else stays as it is.
-/

set_option autoImplicit false

namespace ClusterStack

/-- Certificates and authorizers are for listeners that are attached to the load balancer. -/
def ListenerSpec.used (albDisabled : Bool) (spec : ListenerSpec) : ListenerSpec :=
  let attached := !albDisabled && spec.albProtocol.isSome
  { spec with
    certificateArns := if attached then spec.certificateArns else none
    authorizer := if attached then spec.authorizer else none }

namespace ServiceSpec

/-- There is a load balancer, and a listener of the service asks for it. -/
def isAttached (albDisabled : Bool) (spec : ServiceSpec) : Bool :=
  !albDisabled && spec.listeners.any (·.albProtocol.isSome)

/-- Routing and health checks are for services that are attached to the load balancer, placement is for
hosts of one's own, and public addresses are for all others. -/
def used (albDisabled : Bool) (spec : ServiceSpec) : ServiceSpec :=
  let attached := spec.isAttached albDisabled
  { spec with
    daemonEc2Type := spec.ec2LaunchType && spec.daemonEc2Type
    placementConstraints := if spec.ec2LaunchType then spec.placementConstraints else []
    placementStrategies := if spec.ec2LaunchType then spec.placementStrategies else []
    capacityProviderStrategy := if spec.ec2LaunchType then spec.capacityProviderStrategy else []
    disablePublicIpAssign := !spec.ec2LaunchType && spec.disablePublicIpAssign
    listeners := spec.listeners.map (·.used albDisabled)
    path := if attached then spec.path else none
    priority := if attached then spec.priority else none
    hostname := if attached then spec.hostname else none
    limitSourceIps := if attached then spec.limitSourceIps else none
    limitHeaders := if attached then spec.limitHeaders else []
    healthCheckUri := if attached then spec.healthCheckUri else none
    healthCheckProtocol := if attached then spec.healthCheckProtocol else none
    healthCheckInterval := if attached then spec.healthCheckInterval else none
    healthCheckTimeout := if attached then spec.healthCheckTimeout else none
    healthCheckHealthyCount := if attached then spec.healthCheckHealthyCount else none
    healthCheckUnhealthyCount := if attached then spec.healthCheckUnhealthyCount else none
    healthCheckStatusCode := if attached then spec.healthCheckStatusCode else none
    deregistrationDelay := if attached then spec.deregistrationDelay else none }

end ServiceSpec

/-- How the load balancer is set up matters where there is one. -/
def ClusterSpec.used (spec : ClusterSpec) : ClusterSpec :=
  { spec with
    albPrivate := !spec.albDisabled && spec.albPrivate
    albListenerArn := if spec.albDisabled then none else spec.albListenerArn
    timeout := if spec.albDisabled then none else spec.timeout
    services := spec.services.map (·.used spec.albDisabled) }

theorem LaunchType.ofSpec_used (albDisabled : Bool) (spec : ServiceSpec) :
    LaunchType.ofSpec (spec.used albDisabled) = .ofSpec spec := by
  cases launch : spec.ec2LaunchType <;> simp [ofSpec, ServiceSpec.used, launch]

theorem Routing.ofSpec_used {albDisabled : Bool} {spec : ServiceSpec}
    (attached : spec.isAttached albDisabled = true) :
    Routing.ofSpec (spec.used albDisabled) = .ofSpec spec := by
  simp [ofSpec, rulesOfSpec, ServiceSpec.used, attached]

theorem BalancerMode.ofSpec_used (spec : ClusterSpec) :
    BalancerMode.ofSpec spec.used = .ofSpec spec := by
  cases disabled : spec.albDisabled <;> simp [ofSpec, ClusterSpec.used, disabled]

end ClusterStack
