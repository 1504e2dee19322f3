import ClusterStack.Proofs.Cluster.Described
import ClusterStack.Proofs.Cluster.Kinds
import ClusterStack.Proofs.Compile.Closure
import ClusterStack.Proofs.Compile.Run
import ClusterStack.Proofs.Naming.Alphabet
import ClusterStack.Proofs.Spec.Minimal
import Mathlib.Data.List.Basic

/-!
# Log groups

A log group is named after the prefix of its cluster, the stage and its service, with slashes in between.
Stages and services are written as people like, and may have slashes of their own. Still no two log groups
have one name, and the container of each service writes to a log group that is there.
-/

set_option autoImplicit false

namespace ClusterStack

variable {deployment : Deployment}

def Deployment.logGroupName (deployment : Deployment) (clusterPrefix service : String) : String :=
  "/aws/ecs/" ++ clusterPrefix ++ "/" ++ deployment.stage ++ "/" ++ service

private theorem takeWhile_slash {front : List Char} (plain : '/' ∉ front) (rest : List Char) :
    (front ++ '/' :: rest).takeWhile (· ≠ '/') = front := by
  have noSlash : ∀ c ∈ front, decide (c ≠ '/') = true := by
    intro c member
    exact decide_eq_true fun same => plain (same ▸ member)
  rw [List.takeWhile_append_of_pos noSlash, List.takeWhile_cons_of_neg (by decide), List.append_nil]

/-- Texts that go on with a slash after a part without one have the same parts. -/
theorem append_slash_inj {front other rest more : String} (frontPlain : '/' ∉ front.toList)
    (otherPlain : '/' ∉ other.toList) (same : front ++ ("/" ++ rest) = other ++ ("/" ++ more)) :
    front = other ∧ rest = more := by
  have fronts : front = other := by
    have chars : front.toList ++ '/' :: rest.toList = other.toList ++ '/' :: more.toList := by
      have split := congrArg String.toList same
      rwa [String.toList_append, String.toList_append, String.toList_append, String.toList_append] at split
    apply String.toList_injective
    rw [← takeWhile_slash frontPlain rest.toList, chars, takeWhile_slash otherPlain]
  subst fronts
  rw [String.append_right_inj, String.append_right_inj] at same
  exact ⟨rfl, same⟩

/-- The token of a cluster has no slash, so it ends where the stage begins. -/
theorem Deployment.logGroupName_inj {cluster other service otherService : String}
    (same : deployment.logGroupName (deployment.servicePrefix ++ normalizeName cluster) service =
      deployment.logGroupName (deployment.servicePrefix ++ normalizeName other) otherService) :
    normalizeName cluster = normalizeName other ∧ service = otherService := by
  have noSlash : ∀ name, '/' ∉ (normalizeName name).toList := fun name =>
    (isAlphanumeric_normalizeName name).not_mem (by decide)
  simp only [logGroupName, String.append_assoc, String.append_right_inj] at same
  obtain ⟨tokens, rest⟩ := append_slash_inj (noSlash cluster) (noSlash other) same
  rw [String.append_right_inj, String.append_right_inj] at rest
  exact ⟨tokens, rest⟩

/-- The log group that a container writes to. -/
def Value.logGroup? (container : Value) : Option Value := do
  let configuration ← container.get? "LogConfiguration"
  let options ← configuration.get? "Options"
  options.get? "awslogs-group"

def Resource.containers (resource : Resource) : List Value :=
  ((resource.property? "ContainerDefinitions").bind Value.asList?).getD []

def Template.HasLogGroup (template : Template) (name : Value) : Prop :=
  ∃ key group, (key, group) ∈ template.resources.entries ∧ group.kind = .logGroup ∧
    group.property? "LogGroupName" = some name

/-- The owner has a task with one container, which writes to the owner's log group. -/
structure Template.Logs (deployment : Deployment) (template : Template) (owner : String) (name : Value) :
    Prop where
  task : ∃ task container, template.resources.get? (deployment.logicalId owner .taskDefinition) = some task ∧
    task.kind = .ecsTaskDefinition ∧ task.containers = [container] ∧
      container.get? "Name" = some (.string (deployment.logicalId owner .container)) ∧
        container.logGroup? = some name
  group : ∃ group, template.resources.get? (deployment.logicalId owner .logGroup) = some group ∧
    group.kind = .logGroup ∧ group.property? "LogGroupName" = some name

namespace Service

theorem name_logGroupResource (service : Service) :
    service.logGroupResource.property? "LogGroupName" = some (.string service.logGroupName) := by
  rw [logGroupResource, Resource.property?_make (by simp)]
  rfl

theorem containers_taskResource (service : Service) (scope : ServiceScope) :
    (service.taskResource scope).containers = [service.containerDefinition] := by
  rw [Resource.containers, taskResource, Resource.property?_make (by simp)]
  rfl

theorem name_containerDefinition (service : Service) :
    service.containerDefinition.get? "Name" = some (.string service.container) := by
  rw [containerDefinition, Value.get?_present (by simp)]
  rfl

theorem logGroup?_containerDefinition (service : Service) :
    service.containerDefinition.logGroup? = some (.string service.logGroupName) := by
  have configuration : service.containerDefinition.get? "LogConfiguration" =
      some service.logConfiguration := by
    rw [containerDefinition, Value.get?_present (by simp)]
    rfl
  simp only [Value.logGroup?, configuration, logConfiguration, Option.bind_eq_bind, Option.bind_some]
  change (Value.present _).get? "awslogs-group" = _
  rw [Value.get?_present (by simp)]
  rfl

theorem logs_of_resolve {clusterPrefix : String} {albDisabled : Bool} {spec : ServiceSpec} {service : Service}
    (resolved : resolve deployment clusterPrefix albDisabled spec = .ok service) :
    service.logGroupName = deployment.logGroupName clusterPrefix spec.name ∧
      service.container = deployment.logicalId service.servicePrefix .container := by
  simp only [resolve, bind_eq_ok] at resolved
  obtain ⟨_, -, _, -, _, -, _, -, _, -, made⟩ := resolved
  cases made
  exact ⟨rfl, rfl⟩

end Service

namespace Cluster

variable {spec : ClusterSpec} {cluster : Cluster} {service : Service} {declarations : List Declaration}

theorem Settled.logs (settled : cluster.Settled deployment spec) (member : service ∈ cluster.services) :
    service.logGroupName = deployment.logGroupName cluster.clusterPrefix service.name ∧
      service.container = deployment.logicalId service.servicePrefix .container := by
  obtain ⟨given, -, resolved⟩ := exists_of_forall₂_right settled.specs member
  have logs := Service.logs_of_resolve resolved
  rwa [← (Service.describes_of_resolve resolved).given] at logs

/-- Services, tasks, log groups and schedules are what services have apart from their listeners and
their scaling. -/
theorem core_of_mem (declared : cluster.declarations deployment = .ok declarations)
    {declaration : Declaration} (member : declaration ∈ declarations) {kind : ResourceKind}
    (given : declaration.kind? = some kind) (among : kind ∈ Component.service.kinds) :
    ∃ service ∈ cluster.services,
      declaration ∈ service.coreDeclarations (cluster.serviceScope deployment) := by
  obtain ⟨component, both, declares⟩ := exists_component_of_kind declared member given
  obtain rfl : component = .service := by
    revert both among
    cases component <;> cases kind <;> decide
  exact declares

end Cluster

namespace CompiledCluster.Compiles

variable {spec : ClusterSpec} {part : CompiledCluster} {key : String} {resource : Resource}

theorem exists_core (compiles : part.Compiles deployment spec)
    (member : (key, resource) ∈ part.template.resources.entries)
    (among : resource.kind ∈ Component.service.kinds) :
    ∃ service ∈ part.cluster.services,
      .resource key resource ∈ service.coreDeclarations (part.cluster.serviceScope deployment) := by
  obtain ⟨declarations, declared, made, -⟩ := Cluster.compile_eq_ok.mp compiles.compiled
  obtain ⟨declaration, listed, entered⟩ := Template.exists_declaration_of_mem made member
  have kind : declaration.kind? = some resource.kind := by rw [Declaration.kind?, entered]; rfl
  obtain ⟨service, present, core⟩ := Cluster.core_of_mem declared listed kind among
  obtain ⟨_, _, rfl, -⟩ := Service.isOwned_coreDeclarations core
  cases entered
  exact ⟨service, present, core⟩

theorem logGroup_of_mem (compiles : part.Compiles deployment spec)
    (member : (key, resource) ∈ part.template.resources.entries) (kind : resource.kind = .logGroup) :
    ∃ service ∈ part.cluster.services, key = service.logGroup ∧ resource = service.logGroupResource := by
  obtain ⟨service, present, core⟩ := compiles.exists_core member (by rw [kind]; decide)
  rcases Service.mem_coreDeclarations.mp core with same | same | same | ⟨_, _, same⟩ <;> cases same
  · cases kind
  · cases kind
  · exact ⟨service, present, rfl, rfl⟩
  · cases kind

theorem task_of_mem (compiles : part.Compiles deployment spec)
    (member : (key, resource) ∈ part.template.resources.entries)
    (kind : resource.kind = .ecsTaskDefinition) :
    ∃ service ∈ part.cluster.services,
      resource = service.taskResource (part.cluster.serviceScope deployment) := by
  obtain ⟨service, present, core⟩ := compiles.exists_core member (by rw [kind]; decide)
  rcases Service.mem_coreDeclarations.mp core with same | same | same | ⟨_, _, same⟩ <;> cases same
  · cases kind
  · exact ⟨service, present, rfl⟩
  · cases kind
  · cases kind

theorem mem_of_service (compiles : part.Compiles deployment spec) {service : Service}
    (present : service ∈ part.cluster.services) :
    (service.taskDefinition, service.taskResource (part.cluster.serviceScope deployment)) ∈
        part.template.resources.entries ∧
      (service.logGroup, service.logGroupResource) ∈ part.template.resources.entries := by
  obtain ⟨declarations, declared, made, -⟩ := Cluster.compile_eq_ok.mp compiles.compiled
  have core := Cluster.coreDeclarations_subset declared present
  constructor
  · exact Template.mem_of_resource made (core (.tail _ (.head _)))
  · exact Template.mem_of_resource made (core (.tail _ (.tail _ (.head _))))

end CompiledCluster.Compiles

namespace Compilation

variable {compilation : Compilation} {specs : List ClusterSpec} {parts : List CompiledCluster}
  (related : List.Forall₂ (CompiledCluster.Compiles deployment) specs parts)
  (made : compilation.MadeOf parts)

include related made

/-- A log group has the id and the name of a service of a cluster. -/
theorem exists_name_of_logGroup {key : String} {group : Resource}
    (member : (key, group) ∈ compilation.template.resources.entries) (kind : group.kind = .logGroup) :
    ∃ cluster service, key = deployment.idOf
        ⟨deployment.servicePrefix ++ normalizeName cluster ++ normalizeName service, .logGroup, .single⟩ ∧
      group.property? "LogGroupName" = some (.string
        (deployment.logGroupName (deployment.servicePrefix ++ normalizeName cluster) service)) := by
  obtain ⟨part, listed, inside⟩ := made.mem_resources.mp member
  obtain ⟨spec, -, compiles⟩ := exists_of_forall₂_right related listed
  obtain ⟨service, present, rfl, rfl⟩ := compiles.logGroup_of_mem inside kind
  have settled := Cluster.settled_of_resolve compiles.resolved
  refine ⟨spec.clusterName, service.name, ?_, ?_⟩
  · rw [(settled.service present).2.logGroup, (settled.describes present).servicePrefix,
      settled.clusterPrefix]
    rfl
  · rw [service.name_logGroupResource, (settled.logs present).1, settled.clusterPrefix]

/-- Log groups of one name are those of one prefix and one service, and hence have one key. -/
theorem logGroup_inj {key other : String} {group otherGroup : Resource}
    (member : (key, group) ∈ compilation.template.resources.entries)
    (otherMember : (other, otherGroup) ∈ compilation.template.resources.entries)
    (kind : group.kind = .logGroup) (otherKind : otherGroup.kind = .logGroup)
    (same : group.property? "LogGroupName" = otherGroup.property? "LogGroupName") : key = other := by
  obtain ⟨cluster, service, rfl, named⟩ := exists_name_of_logGroup related made member kind
  obtain ⟨otherCluster, otherService, rfl, otherNamed⟩ :=
    exists_name_of_logGroup related made otherMember otherKind
  rw [named, otherNamed, Option.some.injEq, Value.string.injEq] at same
  obtain ⟨clusters, services⟩ := Deployment.logGroupName_inj same
  rw [clusters, services]

theorem hasLogGroup_of_task {key : String} {task : Resource}
    (member : (key, task) ∈ compilation.template.resources.entries)
    (kind : task.kind = .ecsTaskDefinition) :
    ∃ container name, task.containers = [container] ∧ container.logGroup? = some name ∧
      compilation.template.HasLogGroup name := by
  obtain ⟨part, listed, inside⟩ := made.mem_resources.mp member
  obtain ⟨spec, -, compiles⟩ := exists_of_forall₂_right related listed
  obtain ⟨service, present, rfl⟩ := compiles.task_of_mem inside kind
  have group := made.mem_resources.mpr ⟨part, listed, (compiles.mem_of_service present).2⟩
  exact ⟨_, _, service.containers_taskResource _, service.logGroup?_containerDefinition,
    _, _, group, rfl, service.name_logGroupResource⟩

theorem logs_of_mem {spec : ClusterSpec} (member : spec ∈ specs) {described : ServiceSpec}
    (given : described ∈ spec.services) : compilation.template.Logs deployment
      (spec.clusterPrefix deployment ++ normalizeName described.name)
      (.string (deployment.logGroupName (spec.clusterPrefix deployment) described.name)) := by
  obtain ⟨part, listed, compiles⟩ := exists_of_forall₂_left related member
  have settled := Cluster.settled_of_resolve compiles.resolved
  obtain ⟨service, present, resolved⟩ := exists_of_forall₂_left settled.specs given
  have describes := Service.describes_of_resolve resolved
  have settles := (settled.service present).2
  obtain ⟨task, group⟩ := compiles.mem_of_service present
  have entered : ∀ {entry}, entry ∈ part.template.resources.entries →
      compilation.template.resources.get? entry.1 = some entry.2 := fun inside =>
    Registry.get?_eq_some.mpr (made.mem_resources.mpr ⟨part, listed, inside⟩)
  have owner : service.servicePrefix =
      spec.clusterPrefix deployment ++ normalizeName described.name := by
    rw [describes.servicePrefix, settled.clusterPrefix, ClusterSpec.clusterPrefix]
  have name : service.logGroupName =
      deployment.logGroupName (spec.clusterPrefix deployment) described.name := by
    rw [(Service.logs_of_resolve resolved).1, settled.clusterPrefix, ClusterSpec.clusterPrefix]
  rw [← owner, ← name]
  constructor
  · refine ⟨service.taskResource (part.cluster.serviceScope deployment), service.containerDefinition, ?_, rfl,
      service.containers_taskResource _, ?_, service.logGroup?_containerDefinition⟩
    · rw [deployment.logicalId_eq_idOf, ← settles.taskDefinition]
      exact entered task
    · rw [service.name_containerDefinition, (settled.logs present).2]
  · refine ⟨_, ?_, rfl, service.name_logGroupResource⟩
    rw [deployment.logicalId_eq_idOf, ← settles.logGroup]
    exact entered group

end Compilation

/-- No two log groups of a template have one name. The container of every task writes to a log group of
the template; and each service of a cluster with a network has such a task, and a log group for it. -/
theorem compileAll_logGroups {specs : List ClusterSpec} {template : Template}
    (compiled : compileAll deployment specs = .ok template) :
    (∀ key group other otherGroup, (key, group) ∈ template.resources.entries →
      (other, otherGroup) ∈ template.resources.entries → group.kind = .logGroup →
        otherGroup.kind = .logGroup → key ≠ other →
          group.property? "LogGroupName" ≠ otherGroup.property? "LogGroupName") ∧
    (∀ key task, (key, task) ∈ template.resources.entries → task.kind = .ecsTaskDefinition →
      ∃ container name, task.containers = [container] ∧ container.logGroup? = some name ∧
        template.HasLogGroup name) ∧
    ∀ spec ∈ specs, spec.vpc.isSome = true → ∀ service ∈ spec.services, template.Logs deployment
      (spec.clusterPrefix deployment ++ normalizeName service.name)
      (.string (deployment.logGroupName (spec.clusterPrefix deployment) service.name)) := by
  obtain ⟨compilation, ran, rfl⟩ := compileAll_eq_ok.mp compiled
  obtain ⟨parts, related, made⟩ := Compilation.exists_parts ran
  refine ⟨?_, ?_, ?_⟩
  · intro key group other otherGroup member otherMember kind otherKind different same
    exact different (Compilation.logGroup_inj related made member otherMember kind otherKind same)
  · intro key task member kind
    exact Compilation.hasLogGroup_of_task related made member kind
  · intro spec member network service given
    exact Compilation.logs_of_mem related made (List.mem_filter.mpr ⟨member, network⟩) given

/-- Two clusters with services of one name, which goes on like the stage. -/
def slashedClusters : List ClusterSpec := [
  .minimal "main" [.minimal "a/b" "nginx", .minimal "b" "nginx"],
  .minimal "jobs" [.minimal "a/b" "nginx"]]

theorem compileAll_logGroups_slashedClusters : ∃ template,
    compileAll (.ofService "dev/a" "shop") slashedClusters = .ok template ∧
    (∀ name ∈ ["/aws/ecs/ShopMain/dev/a/a/b", "/aws/ecs/ShopMain/dev/a/b", "/aws/ecs/ShopJobs/dev/a/a/b"],
      template.HasLogGroup (.string name)) ∧
    ∀ key group other otherGroup, (key, group) ∈ template.resources.entries →
      (other, otherGroup) ∈ template.resources.entries → group.kind = .logGroup →
        otherGroup.kind = .logGroup → key ≠ other →
          group.property? "LogGroupName" ≠ otherGroup.property? "LogGroupName" := by
  obtain ⟨template, compiled⟩ : ∃ template,
      compileAll (.ofService "dev/a" "shop") slashedClusters = .ok template :=
    exists_of_isOk (by decide +kernel)
  obtain ⟨differ, -, logs⟩ := compileAll_logGroups compiled
  have names : ["/aws/ecs/ShopMain/dev/a/a/b", "/aws/ecs/ShopMain/dev/a/b", "/aws/ecs/ShopJobs/dev/a/a/b"] =
      slashedClusters.flatMap fun spec => spec.services.map fun service =>
        (Deployment.ofService "dev/a" "shop").logGroupName
          (spec.clusterPrefix (.ofService "dev/a" "shop")) service.name := by
    decide +kernel
  refine ⟨template, compiled, fun name listed => ?_, differ⟩
  rw [names] at listed
  obtain ⟨spec, member, listed⟩ := List.mem_flatMap.mp listed
  obtain ⟨service, given, rfl⟩ := List.mem_map.mp listed
  have network : ∀ spec ∈ slashedClusters, spec.vpc.isSome = true := by decide
  obtain ⟨group, found, kind, named⟩ := (logs spec member (network spec member) service given).group
  exact ⟨_, group, Registry.get?_eq_some.mp found, kind, named⟩

end ClusterStack
