import ClusterStack.Digest.Sha256
import ClusterStack.Error
import ClusterStack.Listener.Routing
import ClusterStack.Naming.Role

/-!
# Listeners

A listener is one port of a service. When it declares a protocol, and the cluster has a load balancer,
it is attached there: requests reach it by the routing rules of its service. Otherwise it only opens
a port of the container.
-/

set_option autoImplicit false

namespace ClusterStack

/-- The service that a listener belongs to. -/
structure ListenerOwner where
  clusterPrefix : String
  servicePrefix : String
  serviceName : String
  albDisabled : Bool
  deriving DecidableEq, Repr

/-- A listener with its ports and ids settled. -/
structure Listener where
  protocol : Option AlbProtocol
  port : UInt16
  containerPort : UInt16
  certificateArns : List String
  authorizer : Option AuthorizerSpec
  isAttached : Bool
  targetGroup : String
  ruleBase : String
  outputKey : String
  deriving DecidableEq, Repr

namespace Listener

/-- The port of a listener that has neither port nor protocol: derived from its place, and at least
1024 and below 50175. -/
def derivedPort (clusterPrefix serviceName : String) (index : Nat) : UInt16 :=
  let seed := Sha256.leadingWord s!"{clusterPrefix}/{serviceName}/{index}"
  UInt16.ofNat (1024 + seed.toNat % 49151)

/-- The port of a listener: its own, its protocol's, or the derived one. -/
def resolvePort (owner : ListenerOwner) (index : Nat) (spec : ListenerSpec) : UInt16 :=
  match spec.port, spec.albProtocol with
  | some port, _ => port
  | none, some protocol => protocol.defaultPort
  | none, none => derivedPort owner.clusterPrefix owner.serviceName index

/-- Settles the ports and ids of a listener. An attached HTTPS listener must have certificates. -/
def resolve (deployment : Deployment) (owner : ListenerOwner) (index : Nat) (spec : ListenerSpec) :
    Except CompileError Listener :=
  let port := resolvePort owner index spec
  let isAttached := !owner.albDisabled && spec.albProtocol.isSome
  let certificateArns := spec.certificateArns.getD []
  let suffix := (spec.albProtocol.elim "" AlbProtocol.text) ++ toString port
  if isAttached && spec.albProtocol == some .https && certificateArns.isEmpty then
    .error (.missingCertificate owner.serviceName port)
  else
    .ok {
      protocol := spec.albProtocol
      port
      containerPort := spec.containerPort.getD port
      certificateArns
      authorizer := spec.authorizer
      isAttached
      targetGroup := deployment.numberedId owner.servicePrefix .targetGroup (toString port)
      ruleBase := deployment.numberedId owner.servicePrefix .listenerRule suffix
      outputKey := deployment.numberedId owner.servicePrefix .service suffix }

def ruleName (listener : Listener) (index : Nat) : String :=
  listener.ruleBase ++ "Rule" ++ toString index

/-- The ids of the rules of a listener, one per routing rule. -/
def ruleNames (listener : Listener) (routing : Routing) : List String :=
  (List.range routing.rules.length).map listener.ruleName

/-- The authorizer that requests pass first; only an HTTPS listener has one. -/
def gate? (listener : Listener) : Option AuthorizerSpec :=
  if listener.protocol = some .https then listener.authorizer else none

end Listener

end ClusterStack
