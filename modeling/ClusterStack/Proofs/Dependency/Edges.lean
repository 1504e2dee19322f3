import ClusterStack.Dependency.Graph
import ClusterStack.Proofs.Entries

/-!
# Edges of the dependency graph

The graph of a template has an edge for every reference and every listed dependency, and no others.
From this follows what the check of a template finds dangling.
-/

set_option autoImplicit false

namespace ClusterStack

namespace DependencyGraph

variable {graph : DependencyGraph}

/-- No source has two entries. -/
def IsProper (graph : DependencyGraph) : Prop :=
  (Entries.keys graph.edges).Nodup

@[simp] theorem isProper_empty : empty.IsProper := List.nodup_nil

@[simp] theorem dependenciesOf_empty (key : String) : empty.dependenciesOf key = [] := rfl

theorem IsProper.addEdge (proper : graph.IsProper) (source target : String) (kind : DependencyKind) :
    (graph.addEdge source target kind).IsProper := by
  simp only [DependencyGraph.addEdge]
  split
  · exact proper
  · exact Entries.nodup_keys_insert proper _ _

@[simp] theorem nodes_addEdge (graph : DependencyGraph) (source target : String) (kind : DependencyKind) :
    (graph.addEdge source target kind).nodes = graph.nodes := by
  simp only [DependencyGraph.addEdge]
  split <;> rfl

/-- An edge that is added is there, and nothing else is new. -/
theorem mem_dependenciesOf_addEdge {source target key : String} {kind : DependencyKind}
    {dependency : Dependency} :
    dependency ∈ (graph.addEdge source target kind).dependenciesOf key ↔
      dependency ∈ graph.dependenciesOf key ∨ key = source ∧ dependency = ⟨target, kind⟩ := by
  simp only [DependencyGraph.addEdge]
  split
  case isTrue known =>
    refine ⟨.inl, ?_⟩
    rintro (old | ⟨rfl, rfl⟩)
    · exact old
    · exact known
  case isFalse new =>
    simp only [dependenciesOf, Entries.get?_insert]
    by_cases same : key = source
    · simp [same]
    · simp [same]

section Folds

variable {source : String} {kind : DependencyKind} {targets : List String}

theorem mem_dependenciesOf_addEdges {key : String} {dependency : Dependency} :
    dependency ∈ (targets.foldl (fun graph target => graph.addEdge source target kind) graph).dependenciesOf
        key ↔
      dependency ∈ graph.dependenciesOf key ∨
        key = source ∧ dependency.kind = kind ∧ dependency.target ∈ targets := by
  induction targets generalizing graph with
  | nil => simp
  | cons target rest ih =>
    rw [List.foldl_cons, ih, mem_dependenciesOf_addEdge, List.mem_cons]
    cases dependency
    simp only [Dependency.mk.injEq]
    tauto

theorem IsProper.addEdges (proper : graph.IsProper) :
    (targets.foldl (fun graph target => graph.addEdge source target kind) graph).IsProper := by
  induction targets generalizing graph with
  | nil => exact proper
  | cons target rest ih => exact ih (proper.addEdge source target kind)

theorem nodes_addEdges :
    (targets.foldl (fun graph target => graph.addEdge source target kind) graph).nodes = graph.nodes := by
  induction targets generalizing graph with
  | nil => rfl
  | cons target rest ih => rw [List.foldl_cons, ih, nodes_addEdge]

end Folds

/-- The dependency is one of a resource. -/
def OfResource (resource : Resource) (dependency : Dependency) : Prop :=
  dependency.kind = .reference ∧ dependency.target ∈ resource.references ∨
    dependency.kind = .explicit ∧ dependency.target ∈ resource.dependsOn

/-- The dependency is one of an output. -/
def OfOutput (output : Output) (dependency : Dependency) : Prop :=
  dependency.kind = .reference ∧ dependency.target ∈ output.value.references

theorem mem_dependenciesOf_addResource {source key : String} {resource : Resource}
    {dependency : Dependency} :
    dependency ∈ (graph.addResource source resource).dependenciesOf key ↔
      dependency ∈ graph.dependenciesOf key ∨ key = source ∧ OfResource resource dependency := by
  simp only [DependencyGraph.addResource, mem_dependenciesOf_addEdges, OfResource]
  simp only [dependenciesOf]
  tauto

theorem IsProper.addResource (proper : graph.IsProper) (key : String) (resource : Resource) :
    (graph.addResource key resource).IsProper :=
  IsProper.addEdges (IsProper.addEdges proper)

@[simp] theorem nodes_addResource (graph : DependencyGraph) (key : String) (resource : Resource) :
    (graph.addResource key resource).nodes = graph.nodes ++ [key] := by
  simp only [DependencyGraph.addResource, nodes_addEdges]

theorem mem_dependenciesOf_addOutput {source key : String} {output : Output} {dependency : Dependency} :
    dependency ∈ (graph.addOutput source output).dependenciesOf key ↔
      dependency ∈ graph.dependenciesOf key ∨ key = source ∧ OfOutput output dependency := by
  simp only [DependencyGraph.addOutput, mem_dependenciesOf_addEdges, OfOutput]

section Templates

private theorem foldl_addResource (entries : List (String × Resource)) (proper : graph.IsProper) :
    let result := entries.foldl (fun graph entry => graph.addResource entry.1 entry.2) graph
    result.IsProper ∧ result.nodes = graph.nodes ++ Entries.keys entries ∧
      ∀ key dependency, dependency ∈ result.dependenciesOf key ↔
        dependency ∈ graph.dependenciesOf key ∨
          ∃ resource, (key, resource) ∈ entries ∧ OfResource resource dependency := by
  induction entries generalizing graph with
  | nil => exact ⟨proper, by simp, by simp⟩
  | cons entry rest ih =>
    obtain ⟨first, resource⟩ := entry
    obtain ⟨stays, nodes, edges⟩ := ih (proper.addResource first resource)
    refine ⟨stays, ?_, ?_⟩
    · rw [List.foldl_cons, nodes, nodes_addResource, List.append_assoc]
      rfl
    · intro key dependency
      rw [List.foldl_cons, edges, mem_dependenciesOf_addResource]
      simp only [List.mem_cons, Prod.mk.injEq, or_and_right, exists_or, or_assoc]
      refine or_congr_right (or_congr_left ?_)
      constructor
      · rintro ⟨rfl, holds⟩
        exact ⟨resource, ⟨rfl, rfl⟩, holds⟩
      · rintro ⟨other, ⟨same, rfl⟩, holds⟩
        exact ⟨same, holds⟩

private theorem foldl_addOutput (entries : List (String × Output)) (proper : graph.IsProper) :
    let result := entries.foldl (fun graph entry => graph.addOutput entry.1 entry.2) graph
    result.IsProper ∧ result.nodes = graph.nodes ∧
      ∀ key dependency, dependency ∈ result.dependenciesOf key ↔
        dependency ∈ graph.dependenciesOf key ∨
          ∃ output, (key, output) ∈ entries ∧ OfOutput output dependency := by
  induction entries generalizing graph with
  | nil => exact ⟨proper, rfl, by simp⟩
  | cons entry rest ih =>
    obtain ⟨first, output⟩ := entry
    obtain ⟨stays, nodes, edges⟩ := @ih (graph.addOutput first output) proper.addEdges
    refine ⟨stays, nodes.trans nodes_addEdges, ?_⟩
    intro key dependency
    rw [List.foldl_cons, edges, mem_dependenciesOf_addOutput]
    simp only [List.mem_cons, Prod.mk.injEq, or_and_right, exists_or, or_assoc]
    refine or_congr_right (or_congr_left ?_)
    constructor
    · rintro ⟨rfl, holds⟩
      exact ⟨output, ⟨rfl, rfl⟩, holds⟩
    · rintro ⟨other, ⟨same, rfl⟩, holds⟩
      exact ⟨same, holds⟩

variable (template : Template)

theorem isProper_ofTemplate : (ofTemplate template).IsProper :=
  (foldl_addOutput _ (foldl_addResource _ isProper_empty).1).1

/-- The nodes are the resources. -/
theorem nodes_ofTemplate : (ofTemplate template).nodes = template.resources.keys := by
  rw [ofTemplate, (foldl_addOutput _ (foldl_addResource _ isProper_empty).1).2.1,
    (foldl_addResource _ isProper_empty).2.1]
  rfl

/-- The edges are those of the resources and of the outputs. -/
theorem mem_dependenciesOf_ofTemplate {key : String} {dependency : Dependency} :
    dependency ∈ (ofTemplate template).dependenciesOf key ↔
      (∃ resource, (key, resource) ∈ template.resources.entries ∧ OfResource resource dependency) ∨
        ∃ output, (key, output) ∈ template.outputs.entries ∧ OfOutput output dependency := by
  rw [ofTemplate, (foldl_addOutput _ (foldl_addResource _ isProper_empty).1).2.2,
    (foldl_addResource _ isProper_empty).2.2]
  simp

end Templates

/-- A reference dangles if it is neither to a resource nor to a pseudo parameter. -/
theorem mem_danglingReferences (proper : graph.IsProper) {source target : String} :
    (source, target) ∈ graph.danglingReferences ↔
      (∃ dependency ∈ graph.dependenciesOf source, dependency.target = target) ∧
        isPseudoParameter target = false ∧ target ∉ graph.nodes := by
  have stored : ∀ dependency, dependency ∈ graph.dependenciesOf source ↔
      ∃ dependencies, (source, dependencies) ∈ graph.edges ∧ dependency ∈ dependencies := by
    intro dependency
    cases found : Entries.get? graph.edges source with
    | none =>
      have absent := Entries.get?_eq_none.mp found
      simp only [dependenciesOf, found, Option.getD_none, List.not_mem_nil, false_iff]
      rintro ⟨dependencies, listed, -⟩
      exact absent (Entries.mem_keys_of_mem listed)
    | some dependencies =>
      have listed := (Entries.get?_eq_some proper).mp found
      simp only [dependenciesOf, found, Option.getD_some]
      refine ⟨fun member => ⟨dependencies, listed, member⟩, ?_⟩
      rintro ⟨others, alsoListed, member⟩
      rwa [Entries.eq_of_mem_of_mem proper listed alsoListed]
  simp only [danglingReferences, List.mem_mergeSort, List.mem_flatMap, List.mem_filterMap]
  constructor
  · rintro ⟨⟨key, dependencies⟩, listed, dependency, member, selected⟩
    split at selected
    · cases selected
    · rename_i known
      cases selected
      simp only [Bool.or_eq_true, not_or, List.contains_eq_mem, decide_eq_true_eq,
        Bool.not_eq_true] at known
      exact ⟨⟨dependency, (stored dependency).mpr ⟨dependencies, listed, member⟩, rfl⟩, known⟩
  · rintro ⟨⟨dependency, depends, rfl⟩, unknown⟩
    obtain ⟨dependencies, listed, member⟩ := (stored dependency).mp depends
    refine ⟨(source, dependencies), listed, dependency, member, ?_⟩
    simp [unknown.1, unknown.2]

end DependencyGraph

namespace Template

/-- The resource or output under a key refers to the target, or lists it among its dependencies. -/
def Targets (template : Template) (source target : String) : Prop :=
  (∃ resource, (source, resource) ∈ template.resources.entries ∧
    (target ∈ resource.references ∨ target ∈ resource.dependsOn)) ∨
  ∃ output, (source, output) ∈ template.outputs.entries ∧ target ∈ output.value.references

/-- A resource refers to another one, or lists it among its dependencies. -/
def DependsOn (template : Template) (source target : String) : Prop :=
  target ∈ template.resources.keys ∧ ∃ resource, (source, resource) ∈ template.resources.entries ∧
    (target ∈ resource.references ∨ target ∈ resource.dependsOn)

theorem exists_dependency_iff_targets {template : Template} {source target : String} :
    (∃ dependency ∈ (DependencyGraph.ofTemplate template).dependenciesOf source,
      dependency.target = target) ↔ template.Targets source target := by
  simp only [DependencyGraph.mem_dependenciesOf_ofTemplate, DependencyGraph.OfResource,
    DependencyGraph.OfOutput, Targets]
  constructor
  · rintro ⟨dependency, ⟨resource, member, ⟨-, refers⟩ | ⟨-, depends⟩⟩ | ⟨output, member, -, refers⟩, rfl⟩
    · exact .inl ⟨resource, member, .inl refers⟩
    · exact .inl ⟨resource, member, .inr depends⟩
    · exact .inr ⟨output, member, refers⟩
  · rintro (⟨resource, member, refers | depends⟩ | ⟨output, member, refers⟩)
    · exact ⟨⟨target, .reference⟩, .inl ⟨resource, member, .inl ⟨rfl, refers⟩⟩, rfl⟩
    · exact ⟨⟨target, .explicit⟩, .inl ⟨resource, member, .inr ⟨rfl, depends⟩⟩, rfl⟩
    · exact ⟨⟨target, .reference⟩, .inr ⟨output, member, rfl, refers⟩, rfl⟩

/-- A target that is no resource, no pseudo parameter and not declared to be external. -/
def Dangles (template : Template) (external : List String) (source target : String) : Prop :=
  template.Targets source target ∧ target ∉ template.resources.keys ∧
    DependencyGraph.isPseudoParameter target = false ∧ target ∉ external

end Template

end ClusterStack
