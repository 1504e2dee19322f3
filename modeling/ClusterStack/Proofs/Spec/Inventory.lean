import ClusterStack.Proofs.Spec.Validity
import ClusterStack.Template.Resource
import Mathlib.Algebra.BigOperators.Group.List.Basic
import Mathlib.Data.List.Dedup
import Mathlib.Tactic.Ring

/-!
# Inventories of descriptions

How many resources of each kind a description asks for, said of the description alone.
-/

set_option autoImplicit false

namespace ClusterStack

/-- The number of directions in which scaling has steps. -/
def AutoScaleSpec.directions (spec : AutoScaleSpec) : Nat :=
  spec.scaleIn.toList.length + spec.scaleOut.toList.length

/-- The number of routing rules: one, unless they are listed. -/
def ServiceSpec.ruleCount (spec : ServiceSpec) : Nat :=
  match spec.path with
  | some (.rules rules) => rules.length
  | some (.single _) | none => 1

instance : DecidablePred NetworkSpec.IsExisting :=
  fun spec => inferInstanceAs (Decidable ((provided? spec.vpcId).isSome = true ∧
    (provided? spec.securityGroupIds).isSome = true ∧ (provided? spec.subnetIds).isSome = true))

namespace ClusterSpec

/-- Both references to a cluster that exists elsewhere are provided. -/
def IsShared (spec : ClusterSpec) : Prop :=
  ∃ arns ∈ spec.clusterArns, (provided? arns.ecsClusterArn).isSome = true ∧
    (provided? arns.ecsIngressSecGroupId).isSome = true

instance : DecidablePred IsShared :=
  fun spec => inferInstanceAs (Decidable (∃ arns ∈ spec.clusterArns,
    (provided? arns.ecsClusterArn).isSome = true ∧ (provided? arns.ecsIngressSecGroupId).isSome = true))

/-- The network is generated with the cluster. -/
def IsDedicated (spec : ClusterSpec) : Prop :=
  ∃ network ∈ spec.vpc, ¬network.IsExisting

instance : DecidablePred IsDedicated :=
  fun spec => inferInstanceAs (Decidable (∃ network ∈ spec.vpc, ¬network.IsExisting))

/-- The load balancer is generated with the cluster. -/
def IsManaged (spec : ClusterSpec) : Prop :=
  spec.albDisabled = false ∧ provided? spec.albListenerArn = none

instance : DecidablePred IsManaged :=
  fun spec => inferInstanceAs (Decidable (spec.albDisabled = false ∧ provided? spec.albListenerArn = none))

/-- The listeners that are attached to the load balancer, each with its service: those that declare a
protocol, unless there is no load balancer. -/
def attached (spec : ClusterSpec) : List (ServiceSpec × UInt16 × AlbProtocol) :=
  if spec.albDisabled then []
  else spec.services.flatMap fun service => service.demands.map (service, ·)

/-- The number of services to which the load balancer admits everyone: those with an attached listener,
unless it is private. -/
def admitted (spec : ClusterSpec) : Nat :=
  if spec.albPrivate || spec.albDisabled then 0
  else spec.services.countP fun service => !service.demands.isEmpty

def scalings (spec : ClusterSpec) : List AutoScaleSpec :=
  spec.services.flatMap (·.autoScale.toList)

/-- The number of resources of a kind that are generated for a description. -/
def inventory (spec : ClusterSpec) : ResourceKind → Nat
  | .ecsCluster => if spec.IsShared then 0 else 1
  | .vpc | .internetGateway | .vpcGatewayAttachment | .routeTable | .route =>
    if spec.IsDedicated then 1 else 0
  | .subnet | .subnetRouteTableAssociation =>
    if spec.IsDedicated then spec.vpc.elim 0 (·.subnets.length) else 0
  | .securityGroup => spec.admitted + if ¬spec.IsShared ∧ spec.IsDedicated then 1 else 0
  | .securityGroupIngress =>
    (if spec.IsDedicated then spec.admitted else 0) +
      if ¬spec.IsShared ∧ spec.IsDedicated then 1 else 0
  | .loadBalancer => if spec.IsManaged then 1 else 0
  | .loadBalancerListener =>
    if spec.IsManaged then (spec.attached.map fun entry => entry.2.1).dedup.length else 0
  | .targetGroup => spec.attached.length
  | .listenerRule => (spec.attached.map fun entry => entry.1.ruleCount).sum
  | .ecsService | .ecsTaskDefinition | .logGroup => spec.services.length
  | .eventsRule => (spec.services.flatMap (·.schedulerRate.toList)).length
  -- Each service that scales has a role of its own; another one starts the tasks of all services.
  | .iamRole =>
    spec.scalings.length +
      if (provided? spec.executionRoleArn).isSome ∨ spec.services = [] then 0 else 1
  | .scalableTarget => spec.scalings.length
  -- Without steps, scaling has one policy, which tracks a metric, and no alarm.
  | .scalingPolicy => (spec.scalings.map fun scaling => max 1 scaling.directions).sum
  | .alarm => (spec.scalings.map (·.directions)).sum

end ClusterSpec

section Kinds

/-!
The kinds of what is generated, part by part and in order.
-/

/-- The same kinds a number of times. -/
def repeatKinds (times : Nat) (kinds : List ResourceKind) : List ResourceKind :=
  (List.replicate times kinds).flatten

def NetworkSpec.kinds (spec : NetworkSpec) : List ResourceKind :=
  if spec.IsExisting then []
  else [.vpc, .internetGateway, .vpcGatewayAttachment, .routeTable, .route] ++
    repeatKinds spec.subnets.length [.subnet, .subnetRouteTableAssociation]

def AutoScaleSpec.kinds (spec : AutoScaleSpec) : List ResourceKind :=
  [.iamRole, .scalableTarget] ++
    if spec.directions = 0 then [.scalingPolicy]
    else repeatKinds spec.directions [.scalingPolicy, .alarm]

def ServiceSpec.kinds (albDisabled : Bool) (spec : ServiceSpec) : List ResourceKind :=
  [.ecsService, .ecsTaskDefinition, .logGroup] ++
    repeatKinds spec.schedulerRate.toList.length [.eventsRule] ++
    repeatKinds (if albDisabled then 0 else spec.demands.length)
      (repeatKinds spec.ruleCount [.listenerRule] ++ [.targetGroup]) ++
    spec.autoScale.toList.flatMap (·.kinds)

namespace ClusterSpec

def ownKinds (spec : ClusterSpec) : List ResourceKind :=
  if spec.IsShared then []
  else [.ecsCluster] ++ if spec.IsDedicated then [.securityGroup, .securityGroupIngress] else []

def groupKinds (spec : ClusterSpec) : List ResourceKind :=
  repeatKinds spec.admitted
    ([.securityGroup] ++ if spec.IsDedicated then [.securityGroupIngress] else [])

def balancerKinds (spec : ClusterSpec) : List ResourceKind :=
  if spec.IsManaged then
    [.loadBalancer] ++
      repeatKinds (spec.attached.map fun entry => entry.2.1).dedup.length [.loadBalancerListener]
  else []

def roleKinds (spec : ClusterSpec) : List ResourceKind :=
  if (provided? spec.executionRoleArn).isSome ∨ spec.services = [] then [] else [.iamRole]

def kinds (spec : ClusterSpec) : List ResourceKind :=
  spec.vpc.toList.flatMap (·.kinds) ++ spec.ownKinds ++ (spec.groupKinds ++ spec.balancerKinds) ++
    spec.services.flatMap (·.kinds spec.albDisabled) ++ spec.roleKinds

end ClusterSpec

theorem count_repeatKinds (times : Nat) (kinds : List ResourceKind) (kind : ResourceKind) :
    (repeatKinds times kinds).count kind = times * kinds.count kind := by
  simp [repeatKinds, List.count_flatten]

namespace ClusterSpec

variable {spec : ClusterSpec} {kind : ResourceKind}

theorem count_scalingKinds (scaling : AutoScaleSpec) : scaling.kinds.count kind =
    [.iamRole, .scalableTarget].count kind + max 1 scaling.directions * [.scalingPolicy].count kind +
      scaling.directions * [.alarm].count kind := by
  rw [AutoScaleSpec.kinds, List.count_append]
  split
  · rename_i none
    rw [none]
    simp
  · rename_i steps
    have atLeast : max 1 scaling.directions = scaling.directions := Nat.max_eq_right (by omega)
    have both : [.scalingPolicy, .alarm].count kind = [.scalingPolicy].count kind + [.alarm].count kind := by
      rw [← List.count_append]
      rfl
    rw [count_repeatKinds, atLeast, both, Nat.mul_add, Nat.add_assoc]

theorem count_networkKinds : (spec.vpc.toList.flatMap (·.kinds)).count kind =
    if spec.IsDedicated then
      [.vpc, .internetGateway, .vpcGatewayAttachment, .routeTable, .route].count kind +
        spec.vpc.elim 0 (·.subnets.length) * [.subnet, .subnetRouteTableAssociation].count kind
    else 0 := by
  cases given : spec.vpc with
  | none => simp [IsDedicated, given]
  | some network =>
    simp only [IsDedicated, given, Option.toList_some, List.flatMap_singleton, NetworkSpec.kinds]
    by_cases existing : network.IsExisting
    · simp [existing]
    · rw [if_neg existing, List.count_append, count_repeatKinds]
      simp [existing]

theorem count_ownKinds : spec.ownKinds.count kind =
    (if spec.IsShared then 0 else [.ecsCluster].count kind) +
      if ¬spec.IsShared ∧ spec.IsDedicated then [.securityGroup, .securityGroupIngress].count kind
      else 0 := by
  unfold ownKinds
  by_cases shared : spec.IsShared
  · simp [shared]
  · rw [if_neg shared, if_neg shared, List.count_append]
    by_cases dedicated : spec.IsDedicated <;> simp [shared, dedicated]

theorem count_groupKinds : spec.groupKinds.count kind =
    spec.admitted * [.securityGroup].count kind +
      if spec.IsDedicated then spec.admitted * [.securityGroupIngress].count kind else 0 := by
  rw [groupKinds, count_repeatKinds, List.count_append, Nat.mul_add]
  split <;> rfl

theorem count_balancerKinds : spec.balancerKinds.count kind =
    if spec.IsManaged then [.loadBalancer].count kind +
      (spec.attached.map fun entry => entry.2.1).dedup.length * [.loadBalancerListener].count kind
    else 0 := by
  unfold balancerKinds
  split
  · rw [List.count_append, count_repeatKinds]
  · rfl

theorem count_serviceKinds (albDisabled : Bool) (service : ServiceSpec) :
    (service.kinds albDisabled).count kind = [.ecsService, .ecsTaskDefinition, .logGroup].count kind +
      service.schedulerRate.toList.length * [.eventsRule].count kind +
      (if albDisabled then 0 else service.demands.length) *
        (service.ruleCount * [.listenerRule].count kind + [.targetGroup].count kind) +
      (service.autoScale.toList.map fun scaling => scaling.kinds.count kind).sum := by
  simp only [ServiceSpec.kinds, List.count_append, count_repeatKinds, List.count_flatMap]
  rfl

theorem count_roleKinds : spec.roleKinds.count kind =
    if (provided? spec.executionRoleArn).isSome ∨ spec.services = [] then 0 else [.iamRole].count kind := by
  unfold roleKinds
  split <;> rfl

theorem sum_scalings (spec : ClusterSpec) (f : AutoScaleSpec → Nat) :
    (spec.services.map fun service => (service.autoScale.toList.map f).sum).sum =
      (spec.scalings.map f).sum := by
  rw [scalings, List.map_flatMap, List.flatMap_def, List.sum_flatten, List.map_map]
  rfl

theorem length_scalings (spec : ClusterSpec) :
    (spec.services.map fun service => service.autoScale.toList.length).sum = spec.scalings.length := by
  rw [scalings, List.length_flatMap]

theorem sum_attached (spec : ClusterSpec) (f : ServiceSpec → Nat) :
    (spec.services.map fun service =>
      if spec.albDisabled then 0 else service.demands.length * f service).sum =
        (spec.attached.map fun entry => f entry.1).sum := by
  unfold attached
  split
  · simp
  · rw [List.map_flatMap, List.flatMap_def, List.sum_flatten, List.map_map]
    simp [Function.comp_def]

theorem length_attached (spec : ClusterSpec) :
    (spec.services.map fun service => if spec.albDisabled then 0 else service.demands.length).sum =
      spec.attached.length := by
  simpa using sum_attached spec fun _ => 1

theorem count_kinds : spec.kinds.count kind = spec.inventory kind := by
  simp only [kinds, List.count_append]
  rw [count_networkKinds, count_ownKinds, count_groupKinds, count_balancerKinds, count_roleKinds,
    List.count_flatMap]
  cases kind <;>
    simp [inventory, Function.comp_def, count_serviceKinds, count_scalingKinds, sum_scalings,
      length_scalings, sum_attached, length_attached, Nat.add_comm]

end ClusterSpec

end Kinds

end ClusterStack
