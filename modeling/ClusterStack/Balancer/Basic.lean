import ClusterStack.Network.Basic
import ClusterStack.Service.Basic

/-!
# Load balancers

The load balancer of a cluster listens once on every port that some service declares with a protocol.
It is generated with the cluster, or its rules go to a listener that is managed elsewhere, or there is
none at all.
-/

set_option autoImplicit false

namespace ClusterStack

/-- Where the rules of a cluster's listeners go. -/
inductive BalancerMode where
  | disabled
  /-- To a listener that is managed elsewhere. -/
  | external (listenerArn : Value)
  /-- To the load balancer that is generated. -/
  | managed
  deriving Repr

/-- A port on which the load balancer listens. -/
structure PortListener where
  name : String
  port : UInt16
  protocol : AlbProtocol
  /-- The target group of the first listener on the port. -/
  defaultTargetGroup : String
  certificateArns : List String
  deriving DecidableEq, Repr

/-- The security group that admits everyone to one service of a public load balancer. -/
structure ServiceGroup where
  name : String
  ingress : String
  service : String
  deriving DecidableEq, Repr

/-- The load balancer of a cluster. -/
structure Balancer where
  name : String
  mode : BalancerMode
  isPrivate : Bool
  idleTimeout : Nat
  listeners : List PortListener
  serviceGroups : List ServiceGroup
  deriving Repr

namespace BalancerMode

def ofSpec (spec : ClusterSpec) : BalancerMode :=
  if spec.albDisabled then .disabled
  else match provided? spec.albListenerArn with
    | some listenerArn => .external (.ofInput listenerArn)
    | none => .managed

def isDisabled : BalancerMode → Bool
  | .disabled => true
  | .external _ | .managed => false

def isManaged : BalancerMode → Bool
  | .managed => true
  | .disabled | .external _ => false

end BalancerMode

namespace Balancer

/-- Takes a listener into the list of ports: it opens its port, or joins the listener that has opened
it with the same protocol. A listener without a protocol is passed over. -/
def register (deployment : Deployment) (owner : String) (ports : List PortListener)
    (entry : Service × Listener) : Except CompileError (List PortListener) :=
  let (service, listener) := entry
  match listener.protocol with
  | none => .ok ports
  | some protocol =>
    match ports.find? (·.port == listener.port) with
    | some existing =>
      if existing.protocol = protocol then .ok ports
      else
        .error (.portProtocolConflict service.name (deployment.logicalId owner .cluster)
          listener.port protocol.text existing.protocol.text)
    | none =>
      .ok (ports ++ [{
        name := deployment.numberedId owner .loadBalancerListener (toString listener.port)
        port := listener.port
        protocol
        defaultTargetGroup := listener.targetGroup
        certificateArns := listener.certificateArns }])

def serviceListeners (services : List Service) : List (Service × Listener) :=
  services.flatMap fun service => service.listeners.map (service, ·)

def collectPorts (deployment : Deployment) (owner : String) (services : List Service) :
    Except CompileError (List PortListener) :=
  (serviceListeners services).foldlM (register deployment owner) []

/-- The groups that admit everyone: one per service on a public load balancer. -/
def planGroups (deployment : Deployment) (owner : String) (services : List Service) :
    List ServiceGroup :=
  (services.filter (·.hasAttachedListener)).map fun service => {
    name := deployment.numberedId owner .loadBalancerSecurityGroup service.token
    ingress := deployment.numberedId owner .loadBalancerIngress service.token
    service := service.logicalId }

/-- The load balancer of a description. Ports are checked even where there is none. -/
def resolve (deployment : Deployment) (owner : String) (spec : ClusterSpec)
    (services : List Service) : Except CompileError Balancer := do
  let ports ← collectPorts deployment owner services
  let mode := BalancerMode.ofSpec spec
  return {
    name := deployment.logicalId owner .loadBalancer
    mode
    isPrivate := spec.albPrivate
    idleTimeout := spec.timeout.getD 30
    listeners := if mode.isDisabled then [] else ports
    serviceGroups :=
      if mode.isDisabled || spec.albPrivate then [] else planGroups deployment owner services }

def isManaged (balancer : Balancer) : Bool :=
  balancer.mode.isManaged

def listenerArn (balancer : Balancer) (service : String) (port : UInt16) :
    Except CompileError Value :=
  match balancer.mode with
  | .external listenerArn => .ok listenerArn
  | .disabled | .managed =>
    match balancer.listeners.find? (·.port == port) with
    | some listener => .ok (.ref listener.name)
    | none => .error (.unknownListenerPort service port)

def dnsName (balancer : Balancer) : Value :=
  .attribute balancer.name "DNSName"

/-- The security groups of the load balancer: one per service on a public one; on a private one
the group of the containers, where the network is dedicated; and those of an existing network. -/
def securityGroups (balancer : Balancer) (network : Network) (containerGroup : Option Value) :
    List Value :=
  let services := balancer.serviceGroups.map fun group => Value.ref group.name
  let containers :=
    if balancer.isPrivate && !network.isExisting then containerGroup.toList else []
  let existing := match network.securityGroups? with
    | none => []
    | some groups => groups.toList?.getD [groups.toValue]
  services ++ containers ++ existing

end Balancer

end ClusterStack
