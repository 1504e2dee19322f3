import ClusterStack.Listener.Basic
import ClusterStack.Template.Basic

/-!
# Resources of a listener

An attached listener has one rule on the load balancer per routing rule, and an output with the
address at which it is reached.
-/

set_option autoImplicit false

namespace ClusterStack.Listener

def headerCondition (name : String) (values : List String) : Value :=
  .map [
    ("Field", .string "http-header"),
    ("HttpHeaderConfig", .map [
      ("HttpHeaderName", .string name),
      ("Values", .strings values)])]

/-- The action that forwards to the listener's target group, with its place among the actions. -/
def forwardAction (listener : Listener) (order : Option Int) : Value :=
  .present [
    ("TargetGroupArn", some (.ref listener.targetGroup)),
    ("Type", some (.string "forward")),
    ("Order", order.map .int)]

def authenticateAction (authorizer : AuthorizerSpec) : Value :=
  .map [
    ("AuthenticateCognitoConfig", .map [
      ("UserPoolArn", .string authorizer.poolArn),
      ("UserPoolClientId", .string authorizer.clientId),
      ("UserPoolDomain", .string authorizer.poolDomain)]),
    ("Type", .string "authenticate-cognito"),
    ("Order", .int 1)]

def actions (listener : Listener) : List Value :=
  match listener.gate? with
  | some authorizer => [authenticateAction authorizer, listener.forwardAction (some 2)]
  | none => [listener.forwardAction none]

/-- The conditions of a rule: its path and method, a request's authorization where it is asked for,
and the conditions that the rules of a service share. -/
def conditions (listener : Listener) (routing : Routing) (rule : RouteRule) : List Value :=
  let path : Value := .map [
    ("Field", .string "path-pattern"),
    ("Values", .strings [rule.path])]
  let method := rule.method.toList.map fun method => Value.map [
    ("Field", .string "http-request-method"),
    ("HttpRequestMethodConfig", .map [("Values", .strings [method])])]
  let authorization := listener.gate?.toList.map fun _ => headerCondition "authorization" ["*"]
  let hostnames := routing.hostnames.toList.map fun hostnames => Value.map [
    ("Field", .string "host-header"),
    ("HostHeaderConfig", .map [("Values", .strings hostnames)])]
  let sourceIps := routing.sourceIps.toList.map fun addresses => Value.map [
    ("Field", .string "source-ip"),
    ("SourceIpConfig", .map [("Values", .strings addresses)])]
  let headers := routing.headers.map fun (name, values) => headerCondition name values
  path :: method ++ authorization ++ hostnames ++ sourceIps ++ headers

def ruleResource (listener : Listener) (routing : Routing) (listenerArn : Value)
    (rule : RouteRule) : Resource :=
  .make .listenerRule [
    ("Actions", some (.list listener.actions)),
    ("Conditions", some (.list (listener.conditions routing rule))),
    ("ListenerArn", some listenerArn),
    ("Priority", some (.ofNat rule.priority))] []

def ruleDeclarations (listener : Listener) (routing : Routing) (listenerArn : Value) :
    List Declaration :=
  if listener.isAttached then
    routing.rules.mapIdx fun index rule =>
      .resource (listener.ruleName index) (listener.ruleResource routing listenerArn rule)
  else
    []

def outputDeclarations (listener : Listener) (dnsName : Value) : List Declaration :=
  match listener.protocol with
  | some protocol =>
    if listener.isAttached then
      [.output listener.outputKey
        ⟨"Elastic load balancer service endpoint",
          .join "" [.string protocol.scheme, .string "://", dnsName, .string ":",
            .ofNat listener.port.toNat],
          listener.outputKey⟩]
    else
      []
  | none => []

end ClusterStack.Listener
