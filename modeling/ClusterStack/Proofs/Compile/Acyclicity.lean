import ClusterStack.Proofs.Cluster.Keys
import ClusterStack.Proofs.Compile.Closure
import ClusterStack.Proofs.Compile.Run
import Mathlib.Logic.Relation

/-!
# Circles among generated resources

What a resource refers to is of a lower level, so resources go round in circles only through alarms
whose metrics depend on one another. Every cluster is checked for such circles on its own, but several
clusters are not checked together.
-/

set_option autoImplicit false

namespace ClusterStack

variable {deployment : Deployment} {specs : List ClusterSpec} {template : Template}

namespace Template

def AlarmDependsOn (template : Template) (source target : String) : Prop :=
  ∃ alarm other, (source, alarm) ∈ template.resources.entries ∧
    (target, other) ∈ template.resources.entries ∧ alarm.kind = .alarm ∧ other.kind = .alarm ∧
      target ∈ alarm.dependsOn

theorem AlarmDependsOn.dependsOn {source target : String}
    (depends : template.AlarmDependsOn source target) : template.DependsOn source target := by
  obtain ⟨alarm, other, here, there, -, -, listed⟩ := depends
  exact ⟨Registry.mem_keys.mpr ⟨other, there⟩, alarm, here, .inr listed⟩

/-- No resource has the name of a pseudo parameter. -/
def IsNamed (template : Template) : Prop :=
  "AWS::Region" ∉ template.resources.keys ∧ "AWS::NoValue" ∉ template.resources.keys

def levelOf (template : Template) (key : String) : Nat :=
  (template.resources.get? key).elim 0 fun resource => resource.kind.level

theorem levelOf_eq {key : String} {resource : Resource}
    (member : (key, resource) ∈ template.resources.entries) :
    template.levelOf key = resource.kind.level := by
  rw [levelOf, Registry.get?_eq_some.mpr member]
  rfl

private theorem levelOf_lt_of_isBelow (named : template.IsNamed) {level : Nat} {target : String}
    (below : IsBelow template.resources.entries level target)
    (inside : target ∈ template.resources.keys) : template.levelOf target < level := by
  rcases below with rfl | rfl | ⟨kind, ⟨definition, member, rfl⟩, lower⟩
  · exact absurd inside named.1
  · exact absurd inside named.2
  · rwa [levelOf_eq member]

theorem eq_alarm_of_level_eq {kind : ResourceKind} (same : kind.level = ResourceKind.alarm.level) :
    kind = .alarm := by
  revert same
  cases kind <;> decide

/-- A step along a dependency leads to a lower level, or from one alarm to another that its metric
depends on. -/
theorem IsFounded.step {metrics : List String} (founded : template.IsFounded metrics)
    (named : template.IsNamed) {source target : String} (depends : template.DependsOn source target) :
    template.levelOf target < template.levelOf source ∨
      template.levelOf target = template.levelOf source ∧ template.AlarmDependsOn source target ∧
        target ∈ metrics := by
  obtain ⟨inside, resource, member, refers | listed⟩ := depends
  · rw [levelOf_eq member]
    exact .inl (levelOf_lt_of_isBelow named
      ((founded.resources source resource member).references target refers) inside)
  · rw [levelOf_eq member]
    rcases (founded.resources source resource member).dependsOn target listed with below | ⟨alarm, metric⟩
    · exact .inl (levelOf_lt_of_isBelow named below inside)
    · obtain ⟨other, present⟩ := Registry.mem_keys.mp inside
      rw [levelOf_eq present, alarm]
      rcases Nat.lt_or_ge other.kind.level ResourceKind.alarm.level with lower | higher
      · exact .inl lower
      · have top : other.kind.level ≤ ResourceKind.alarm.level := Nat.le_of_lt_succ other.kind.level_lt_top
        have same := Nat.le_antisymm top higher
        exact .inr ⟨same, ⟨resource, other, member, present, alarm, eq_alarm_of_level_eq same, listed⟩,
          metric⟩

/-- A path along dependencies leads to a lower level, or goes through alarms only. -/
theorem IsFounded.path {metrics : List String} (founded : template.IsFounded metrics)
    (named : template.IsNamed) {source target : String}
    (path : Relation.TransGen template.DependsOn source target) :
    template.levelOf target < template.levelOf source ∨
      template.levelOf target = template.levelOf source ∧
        Relation.TransGen template.AlarmDependsOn source target := by
  induction path with
  | single depends =>
    rcases founded.step named depends with lower | ⟨same, alarms, -⟩
    · exact .inl lower
    · exact .inr ⟨same, .single alarms⟩
  | tail _ depends ih =>
    rcases founded.step named depends with lower | ⟨same, alarms, -⟩ <;>
      rcases ih with below | ⟨level, through⟩
    · exact .inl (lower.trans below)
    · exact .inl (level ▸ lower)
    · exact .inl (same ▸ below)
    · exact .inr ⟨same.trans level, through.tail alarms⟩

/-- Every circle goes through alarms only. -/
theorem IsFounded.circle_iff {metrics : List String} (founded : template.IsFounded metrics)
    (named : template.IsNamed) {key : String} :
    Relation.TransGen template.DependsOn key key ↔
      Relation.TransGen template.AlarmDependsOn key key := by
  constructor
  · intro circle
    rcases founded.path named circle with lower | ⟨-, alarms⟩
    · exact absurd lower (Nat.lt_irrefl _)
    · exact alarms
  · intro circle
    have within : template.AlarmDependsOn ≤ template.DependsOn :=
      fun _ _ depends => AlarmDependsOn.dependsOn depends
    exact Relation.TransGen.mono within key key circle

end Template

theorem Cluster.Settled.isNamed {spec : ClusterSpec} {cluster : Cluster}
    (settled : cluster.Settled deployment spec) {declarations : List Declaration}
    (declared : cluster.declarations deployment = .ok declarations)
    (made : Template.ofDeclarations declarations = .ok template) : template.IsNamed := by
  constructor
  · intro member
    obtain ⟨label, -, same⟩ := (settled.mem_keys_iff declared made).mp member
    exact (label.idOf_ne_pseudoParameter deployment).1 same
  · intro member
    obtain ⟨label, -, same⟩ := (settled.mem_keys_iff declared made).mp member
    exact (label.idOf_ne_pseudoParameter deployment).2 same

theorem CompiledCluster.Compiles.isFounded {spec : ClusterSpec} {part : CompiledCluster}
    (compiles : part.Compiles deployment spec) :
    part.template.IsFounded part.cluster.externalDependencies ∧ part.template.IsNamed := by
  have settled := Cluster.settled_of_resolve compiles.resolved
  obtain ⟨declarations, declared, made, -⟩ := Cluster.compile_eq_ok.mp compiles.compiled
  exact ⟨settled.isFounded_of_ofDeclarations declared made, settled.isNamed declared made⟩

/-- The templates of several clusters together are founded, but for what any of their metrics depend
on. -/
theorem isFounded_of_compileAll (compiled : compileAll deployment specs = .ok template) :
    ∃ metrics, template.IsFounded metrics ∧ template.IsNamed ∧
      ∀ metric ∈ metrics, ∃ spec ∈ specs, ∃ service ∈ spec.services, metric ∈ service.metricDependsOn := by
  obtain ⟨compilation, ran, rfl⟩ := compileAll_eq_ok.mp compiled
  obtain ⟨parts, related, made⟩ := Compilation.exists_parts ran
  have ofPart : ∀ part ∈ parts, ∃ spec ∈ specs, part.Compiles deployment spec := by
    intro part member
    obtain ⟨spec, given, compiles⟩ := exists_of_forall₂_right related member
    exact ⟨spec, (List.mem_filter.mp given).1, compiles⟩
  have kept : ∀ part ∈ parts, ∀ key definition, (key, definition) ∈ part.template.resources.entries →
      ∃ other, (key, other) ∈ compilation.template.resources.entries ∧ other.kind = definition.kind :=
    fun part member key definition present =>
      ⟨definition, made.mem_resources.mpr ⟨part, member, present⟩, rfl⟩
  have listed : ∀ part ∈ parts,
      part.cluster.externalDependencies ⊆ parts.flatMap (·.cluster.externalDependencies) :=
    fun part member metric depends => List.mem_flatMap.mpr ⟨part, member, depends⟩
  refine ⟨parts.flatMap (·.cluster.externalDependencies), ⟨?_, ?_⟩, ⟨?_, ?_⟩, ?_⟩
  · intro key resource present
    obtain ⟨part, member, present⟩ := made.mem_resources.mp present
    obtain ⟨spec, -, compiles⟩ := ofPart part member
    exact (compiles.isFounded.1.resources key resource present).mono (kept part member)
      (listed part member)
  · intro key output present
    obtain ⟨part, member, present⟩ := made.mem_outputs.mp present
    obtain ⟨spec, -, compiles⟩ := ofPart part member
    exact fun target refers =>
      (compiles.isFounded.1.outputs key output present target refers).mono (kept part member)
  · intro present
    obtain ⟨part, member, present⟩ := made.mem_keys.mp present
    obtain ⟨spec, -, compiles⟩ := ofPart part member
    exact compiles.isFounded.2.1 present
  · intro present
    obtain ⟨part, member, present⟩ := made.mem_keys.mp present
    obtain ⟨spec, -, compiles⟩ := ofPart part member
    exact compiles.isFounded.2.2 present
  · intro metric depends
    obtain ⟨part, member, depends⟩ := List.mem_flatMap.mp depends
    obtain ⟨spec, given, compiles⟩ := ofPart part member
    obtain ⟨service, present, named⟩ :=
      (Cluster.settled_of_resolve compiles.resolved).exists_metricDependsOn depends
    exact ⟨spec, given, service, present, named⟩

/-- The template of several clusters goes round in circles exactly if some alarms do, each of which has
a metric that depends on the next; such a dependency is listed in the description of a service. The
check that every cluster passes on its own does not see it where the alarms are of different clusters. -/
theorem compileAll_circle_iff (compiled : compileAll deployment specs = .ok template) :
    ((∃ key, Relation.TransGen template.DependsOn key key) ↔
      ∃ key, Relation.TransGen template.AlarmDependsOn key key) ∧
    ∀ source target, template.AlarmDependsOn source target →
      ∃ spec ∈ specs, ∃ service ∈ spec.services, target ∈ service.metricDependsOn := by
  obtain ⟨metrics, founded, named, described⟩ := isFounded_of_compileAll compiled
  refine ⟨exists_congr fun key => founded.circle_iff named, ?_⟩
  intro source target depends
  rcases founded.step named depends.dependsOn with lower | ⟨-, -, metric⟩
  · obtain ⟨alarm, other, here, there, isAlarm, otherIsAlarm, -⟩ := depends
    rw [Template.levelOf_eq here, Template.levelOf_eq there, isAlarm, otherIsAlarm] at lower
    exact absurd lower (Nat.lt_irrefl _)
  · exact described target metric

/-- Two clusters, each with a service that scales on a metric that depends on the other's alarm. -/
def entangledClusters : List ClusterSpec := [
  .minimal "a" [(ServiceSpec.minimal "w" "nginx").scalingIn ["MyappBWAutoScalingAlarmInDev"]],
  .minimal "b" [(ServiceSpec.minimal "w" "nginx").scalingIn ["MyappAWAutoScalingAlarmInDev"]]]

/-- Whether an alarm lists another one among its dependencies. -/
def Template.links (source target : String) (template : Template) : Bool :=
  (template.resources.get? source).any fun alarm => alarm.kind == .alarm &&
    (template.resources.get? target).any (·.kind == .alarm) && alarm.dependsOn.contains target

theorem Template.alarmDependsOn_of_links {source target : String}
    (holds : template.links source target = true) : template.AlarmDependsOn source target := by
  obtain ⟨alarm, here, holds⟩ := (Option.any_eq_true _ _).mp holds
  simp only [Bool.and_eq_true, beq_iff_eq, List.contains_eq_mem, decide_eq_true_eq] at holds
  obtain ⟨other, there, isAlarm⟩ := (Option.any_eq_true _ _).mp holds.1.2
  exact ⟨alarm, other, Registry.get?_eq_some.mp here, Registry.get?_eq_some.mp there, holds.1.1,
    by simpa using isAlarm, holds.2⟩

private theorem compileAll_entangledClusters : ∃ template,
    compileAll (.ofService "dev" "my-app") entangledClusters = .ok template ∧
      template.AlarmDependsOn "MyappAWAutoScalingAlarmInDev" "MyappBWAutoScalingAlarmInDev" ∧
        template.AlarmDependsOn "MyappBWAutoScalingAlarmInDev" "MyappAWAutoScalingAlarmInDev" := by
  obtain ⟨template, compiled, both⟩ : ∃ template,
      compileAll (.ofService "dev" "my-app") entangledClusters = .ok template ∧
        (template.links "MyappAWAutoScalingAlarmInDev" "MyappBWAutoScalingAlarmInDev" &&
          template.links "MyappBWAutoScalingAlarmInDev" "MyappAWAutoScalingAlarmInDev") = true :=
    exists_of_passes (by decide +kernel)
  rw [Bool.and_eq_true] at both
  exact ⟨template, compiled, Template.alarmDependsOn_of_links both.1,
    Template.alarmDependsOn_of_links both.2⟩

/-- The two clusters compile to one template, although their alarms depend on one another. -/
theorem compileAll_circle : ∃ template,
    compileAll (.ofService "dev" "my-app") entangledClusters = .ok template ∧
      ∃ key, Relation.TransGen template.DependsOn key key := by
  obtain ⟨template, compiled, there, back⟩ := compileAll_entangledClusters
  exact ⟨template, compiled, _, .tail (.single there.dependsOn) back.dependsOn⟩

/-- The circle of the two clusters is one of alarms. -/
theorem compileAll_circle_of_alarms : ∃ template,
    compileAll (.ofService "dev" "my-app") entangledClusters = .ok template ∧
      ∃ key, Relation.TransGen template.AlarmDependsOn key key := by
  obtain ⟨template, compiled, there, back⟩ := compileAll_entangledClusters
  exact ⟨template, compiled, (compileAll_circle_iff compiled).1.mp
    ⟨_, .tail (.single there.dependsOn) back.dependsOn⟩⟩

end ClusterStack
