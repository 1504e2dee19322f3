import ClusterStack.Cluster.Basic

/-!
# Valid descriptions

What a description asks for, said of the description alone: the ports of its listeners and the
protocols that they declare there. A description is valid if what is required is given, its address
ranges are well-formed, and no two of its names or listeners contradict each other.
-/

set_option autoImplicit false

namespace ClusterStack

/-- The port and the protocol with which a listener asks for the load balancer. -/
def ListenerSpec.demand? (spec : ListenerSpec) : Option (UInt16 × AlbProtocol) :=
  spec.albProtocol.map fun protocol => (spec.port.getD protocol.defaultPort, protocol)

namespace ServiceSpec

def demands (spec : ServiceSpec) : List (UInt16 × AlbProtocol) :=
  spec.listeners.filterMap (·.demand?)

/-- The port of each listener; one that gives neither port nor protocol gets a port by its place. -/
def ports (clusterPrefix : String) (spec : ServiceSpec) : List UInt16 :=
  spec.listeners.zipIdx.map fun (listener, index) =>
    match listener.port, listener.albProtocol with
    | some port, _ => port
    | none, some protocol => protocol.defaultPort
    | none, none => Listener.derivedPort clusterPrefix spec.name index

structure IsValid (clusterPrefix : String) (albDisabled : Bool) (spec : ServiceSpec) : Prop where
  name : normalizeName spec.name ≠ ""
  image : spec.image.isSome = true ∨ spec.imageRepository.isSome = true
  ports : (spec.ports clusterPrefix).Nodup
  certificates : albDisabled = false → ∀ listener ∈ spec.listeners,
    listener.albProtocol = some .https → listener.certificateArns.getD [] ≠ []
  /-- Without steps, scaling tracks a metric. -/
  scaling : ∀ scale ∈ spec.autoScale, scale.scaleIn.isNone = true → scale.scaleOut.isNone = true →
    scale.metric.isSome = true ∧ scale.targetValue.isSome = true

end ServiceSpec

namespace NetworkSpec

/-- All three ids of an existing network are provided. -/
def IsExisting (spec : NetworkSpec) : Prop :=
  (provided? spec.vpcId).isSome = true ∧ (provided? spec.securityGroupIds).isSome = true ∧
    (provided? spec.subnetIds).isSome = true

/-- There is an existing network, or address ranges for a dedicated one. -/
def IsValid (spec : NetworkSpec) : Prop :=
  spec.IsExisting ∨ ∃ cidr ∈ spec.cidr, Cidr.check cidr = .ok () ∧
    ∀ subnet ∈ spec.subnets, Cidr.check subnet = .ok ()

end NetworkSpec

namespace ClusterSpec

/-- The listeners of all services, each with its service, by service and then by place. -/
def listeners (spec : ClusterSpec) : List (ServiceSpec × ListenerSpec) :=
  spec.services.flatMap fun service => service.listeners.map (service, ·)

def demands (spec : ClusterSpec) : List (UInt16 × AlbProtocol) :=
  spec.services.flatMap (·.demands)

def clusterPrefix (deployment : Deployment) (spec : ClusterSpec) : String :=
  deployment.servicePrefix ++ normalizeName spec.clusterName

structure IsValid (deployment : Deployment) (spec : ClusterSpec) : Prop where
  name : normalizeName spec.clusterName ≠ ""
  network : ∃ network ∈ spec.vpc, network.IsValid
  services : ∀ service ∈ spec.services,
    service.IsValid (spec.clusterPrefix deployment) spec.albDisabled
  tokens : (spec.services.map fun service => normalizeName service.name).Nodup
  /-- Whether or not there is a load balancer, a port has one protocol. -/
  protocols : ∀ port left right, (port, left) ∈ spec.demands → (port, right) ∈ spec.demands →
    left = right

end ClusterSpec

end ClusterStack
