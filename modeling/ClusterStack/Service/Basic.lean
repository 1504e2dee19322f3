import ClusterStack.Listener.Basic
import ClusterStack.Scaling.Basic

/-!
# Services

A service with everything settled that its description leaves open: its ids, its image, where it
runs, its listeners, how requests reach it, and how it scales.
-/

set_option autoImplicit false

namespace ClusterStack

/-- What the tasks of a service run on. -/
inductive LaunchType where
  | fargate (assignPublicIp : Bool)
  | ec2 (daemon : Bool) (placementConstraints : List PlacementConstraintSpec)
    (placementStrategies : List PlacementStrategySpec)
    (capacityProviderStrategy : List CapacityProviderSpec)
  deriving DecidableEq, Repr

namespace LaunchType

def ofSpec (spec : ServiceSpec) : LaunchType :=
  if spec.ec2LaunchType then
    .ec2 spec.daemonEc2Type spec.placementConstraints spec.placementStrategies
      spec.capacityProviderStrategy
  else
    .fargate (!spec.disablePublicIpAssign)

def name : LaunchType → String
  | .fargate _ => "FARGATE"
  | .ec2 _ _ _ _ => "EC2"

def networkMode : LaunchType → String
  | .fargate _ => "awsvpc"
  | .ec2 _ _ _ _ => "bridge"

def targetType : LaunchType → String
  | .fargate _ => "ip"
  | .ec2 _ _ _ _ => "instance"

def isDaemon : LaunchType → Bool
  | .fargate _ => false
  | .ec2 daemon _ _ _ => daemon

end LaunchType

/-- A service with everything settled. -/
structure Service where
  spec : ServiceSpec
  token : String
  /-- The prefix of the cluster followed by the token. -/
  servicePrefix : String
  logicalId : String
  taskDefinition : String
  container : String
  logGroup : String
  logGroupName : String
  schedulerRule : String
  image : String
  launchType : LaunchType
  listeners : List Listener
  routing : Routing
  scaling : Option Scaling
  deriving Repr

namespace Service

def name (service : Service) : String :=
  service.spec.name

def context (spec : ServiceSpec) : String :=
  s!"service '{spec.name}'"

def resolveToken (spec : ServiceSpec) : Except CompileError String :=
  let token := normalizeName spec.name
  if token.isEmpty then
    .error (.invalidConfig (context spec) "name must contain at least one alphanumeric character")
  else
    .ok token

/-- The image of a service: given as such, or made of a repository, the name and a tag. -/
def resolveImage (spec : ServiceSpec) : Except CompileError String :=
  match spec.image, spec.imageRepository, spec.imageTag with
  | some image, _, _ => .ok image
  | none, some repository, some tag => .ok (repository ++ ":" ++ spec.name ++ "-" ++ tag)
  | none, some repository, none => .ok (repository ++ ":" ++ spec.name)
  | none, none, _ => .error (.missingField (context spec) "image")

def owner (clusterPrefix token : String) (albDisabled : Bool) (spec : ServiceSpec) :
    ListenerOwner :=
  ⟨clusterPrefix, clusterPrefix ++ token, spec.name, albDisabled⟩

def resolveListeners (deployment : Deployment) (owner : ListenerOwner) (spec : ServiceSpec) :
    Except CompileError (List Listener) :=
  spec.listeners.zipIdx.mapM fun (listener, index) =>
    Listener.resolve deployment owner index listener

def repeatedPort? (seen : List UInt16) : List UInt16 → Option UInt16
  | [] => none
  | port :: rest => if seen.contains port then some port else repeatedPort? (port :: seen) rest

def checkPorts (spec : ServiceSpec) (listeners : List Listener) : Except CompileError Unit :=
  match repeatedPort? [] (listeners.map (·.port)) with
  | some port =>
    .error (.invalidConfig (context spec) s!"port {port} is declared by more than one listener")
  | none => .ok ()

def resolve (deployment : Deployment) (clusterPrefix : String) (albDisabled : Bool)
    (spec : ServiceSpec) : Except CompileError Service := do
  let token ← resolveToken spec
  let image ← resolveImage spec
  let listeners ← resolveListeners deployment (owner clusterPrefix token albDisabled spec) spec
  checkPorts spec listeners
  let scaling ← spec.autoScale.mapM (Scaling.resolve spec.name)
  let servicePrefix := clusterPrefix ++ token
  return {
    spec, token, servicePrefix
    logicalId := deployment.logicalId servicePrefix .service
    taskDefinition := deployment.logicalId servicePrefix .taskDefinition
    container := deployment.logicalId servicePrefix .container
    logGroup := deployment.logicalId servicePrefix .logGroup
    logGroupName := "/aws/ecs/" ++ clusterPrefix ++ "/" ++ deployment.stage ++ "/" ++ spec.name
    schedulerRule := deployment.logicalId servicePrefix .schedulerRule
    image
    launchType := .ofSpec spec
    listeners
    routing := .ofSpec spec
    scaling }

def attachedListeners (service : Service) : List Listener :=
  service.listeners.filter (·.isAttached)

def hasAttachedListener (service : Service) : Bool :=
  service.listeners.any (·.isAttached)

/-- The resources that the service's metrics depend on; they need not be part of the template. -/
def metricDependencies (service : Service) : List String :=
  (service.scaling.map Scaling.metricDependencies).getD []

end Service

end ClusterStack
