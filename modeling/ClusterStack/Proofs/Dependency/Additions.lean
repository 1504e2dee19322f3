import ClusterStack.Proofs.Dependency.Circles
import ClusterStack.Proofs.Dependency.Edges

/-!
# Adding edges

A graph that is built edge by edge has the edges that were added, each of them once, and the sources of
every target beside them. In whatever order its sources are stored, the search finds a circle exactly if
the edges that were added go round in one.
-/

set_option autoImplicit false

namespace ClusterStack

namespace DependencyGraph

variable {graph other : DependencyGraph} {edges : List (String × Dependency)} {source target key : String}
  {kind : DependencyKind}

/-- The graph to which the edges have been added, one after the other. -/
def ofEdges (edges : List (String × Dependency)) : DependencyGraph :=
  edges.foldl (fun graph edge => graph.addEdge edge.1 edge.2.target edge.2.kind) empty

/-- What every addition keeps holds of all graphs that are built edge by edge. -/
theorem ofEdges_induction {motive : DependencyGraph → Prop} (start : motive empty)
    (added : ∀ graph source target kind, motive graph → motive (graph.addEdge source target kind))
    (edges : List (String × Dependency)) : motive (ofEdges edges) :=
  List.foldlRecOn edges _ start fun graph holds _ _ => added graph _ _ _ holds

theorem isProper_ofEdges (edges : List (String × Dependency)) : (ofEdges edges).IsProper :=
  ofEdges_induction isProper_empty
    (fun _ source target kind proper => proper.addEdge source target kind) edges

theorem dependenciesOf_addEdge : (graph.addEdge source target kind).dependenciesOf key =
    if key = source ∧ ⟨target, kind⟩ ∉ graph.dependenciesOf source then
      graph.dependenciesOf key ++ [⟨target, kind⟩]
    else graph.dependenciesOf key := by
  simp only [addEdge]
  split
  · rename_i known
    simp [known]
  · rename_i new
    simp only [dependenciesOf, Entries.get?_insert] at new ⊢
    by_cases same : key = source
    · simp [same, new]
    · simp [same]

theorem dependentsOf_addEdge : (graph.addEdge source target kind).dependentsOf key =
    if key = target ∧ ⟨target, kind⟩ ∉ graph.dependenciesOf source then
      graph.dependentsOf key ++ [source]
    else graph.dependentsOf key := by
  simp only [addEdge]
  split
  · rename_i known
    simp [known]
  · rename_i new
    simp only [dependentsOf, Entries.get?_insert]
    by_cases same : key = target
    · simp [same, new]
    · simp [same]

theorem mem_dependenciesOf_ofEdges {dependency : Dependency} :
    dependency ∈ (ofEdges edges).dependenciesOf key ↔ (key, dependency) ∈ edges := by
  have added : ∀ graph : DependencyGraph, dependency ∈ (edges.foldl (fun graph edge =>
        graph.addEdge edge.1 edge.2.target edge.2.kind) graph).dependenciesOf key ↔
      dependency ∈ graph.dependenciesOf key ∨ (key, dependency) ∈ edges := by
    induction edges with
    | nil => simp
    | cons edge rest ih =>
      intro graph
      rw [List.foldl_cons, ih, mem_dependenciesOf_addEdge, List.mem_cons, or_assoc, Prod.ext_iff]
  rw [ofEdges, added, dependenciesOf_empty]
  simp

/-- No edge is recorded twice, and each is recorded on both sides. -/
structure IsIndexed (graph : DependencyGraph) : Prop where
  nodup : ∀ key, (graph.dependenciesOf key).Nodup
  mirrored : ∀ key target, (graph.dependentsOf target).count key =
    (graph.dependenciesOf key).countP fun dependency => dependency.target = target

theorem isIndexed_empty : empty.IsIndexed where
  nodup _ := List.nodup_nil
  mirrored _ _ := rfl

theorem IsIndexed.addEdge (indexed : graph.IsIndexed) (source target : String) (kind : DependencyKind) :
    (graph.addEdge source target kind).IsIndexed where
  nodup key := by
    rw [dependenciesOf_addEdge]
    split
    · rename_i new
      rw [List.nodup_append_comm]
      exact List.nodup_cons.mpr ⟨new.1 ▸ new.2, indexed.nodup key⟩
    · exact indexed.nodup key
  mirrored key place := by
    rw [dependenciesOf_addEdge, dependentsOf_addEdge]
    have before := indexed.mirrored key place
    by_cases known : ⟨target, kind⟩ ∈ graph.dependenciesOf source
    · simpa [known] using before
    -- A new edge adds one to both counts if it is between these two keys, and nothing to either otherwise.
    by_cases there : place = target
    · subst there
      by_cases here : key = source
      · subst here
        simp [known, before]
      · simp [known, here, Ne.symm here, before]
    · by_cases here : key = source
      · subst here
        simp [known, there, Ne.symm there, before]
      · simp [known, there, here, before]

theorem isIndexed_ofEdges (edges : List (String × Dependency)) : (ofEdges edges).IsIndexed :=
  ofEdges_induction isIndexed_empty
    (fun _ source target kind indexed => indexed.addEdge source target kind) edges

/-- What every addition keeps holds of the graphs of templates as well, if the nodes do not matter to it. -/
theorem ofTemplate_induction {motive : DependencyGraph → Prop} (start : motive empty)
    (known : ∀ (graph : DependencyGraph) nodes, motive graph → motive { graph with nodes := nodes })
    (added : ∀ graph source target kind, motive graph → motive (graph.addEdge source target kind))
    (template : Template) : motive (ofTemplate template) := by
  have targets : ∀ (source : String) (kind : DependencyKind) (list : List String) (graph : DependencyGraph),
      motive graph → motive (list.foldl (fun graph target => graph.addEdge source target kind) graph) := by
    intro source kind list graph holds
    exact List.foldlRecOn list _ holds fun graph holds _ _ => added graph _ _ _ holds
  have resources : motive (template.resources.entries.foldl
      (fun graph entry => graph.addResource entry.1 entry.2) empty) := by
    refine List.foldlRecOn _ _ start fun graph holds entry _ => ?_
    exact targets _ _ _ _ (targets _ _ _ _ (known graph _ holds))
  exact List.foldlRecOn _ _ resources fun graph holds _ _ => targets _ _ _ _ holds

theorem isIndexed_ofTemplate (template : Template) : (ofTemplate template).IsIndexed :=
  ofTemplate_induction isIndexed_empty
    (fun _ _ indexed => ⟨indexed.nodup, indexed.mirrored⟩)
    (fun _ source target kind indexed => indexed.addEdge source target kind) template

section Stored

variable (proper : graph.IsProper) (stored : other.edges.Perm graph.edges)

include proper stored

theorem dependenciesOf_eq_of_perm (key : String) : other.dependenciesOf key = graph.dependenciesOf key := by
  rw [dependenciesOf, dependenciesOf, Entries.get?_eq_of_perm proper stored]

theorem depends_eq_of_perm : other.Depends = graph.Depends := by
  funext source target
  rw [Depends, Depends, dependenciesOf_eq_of_perm proper stored]

end Stored

/-- One of the edges leads from the source to the target. -/
def Joins (edges : List (String × Dependency)) (source target : String) : Prop :=
  ∃ kind, (source, ⟨target, kind⟩) ∈ edges

theorem depends_ofEdges (edges : List (String × Dependency)) : (ofEdges edges).Depends = Joins edges := by
  funext source target
  apply propext
  constructor
  · intro depends
    obtain ⟨dependency, listed, rfl⟩ := depends
    exact ⟨dependency.kind, mem_dependenciesOf_ofEdges.mp listed⟩
  · intro joins
    obtain ⟨kind, listed⟩ := joins
    exact ⟨⟨target, kind⟩, mem_dependenciesOf_ofEdges.mpr listed, rfl⟩

end DependencyGraph

open DependencyGraph

/-- Whatever edges have been added, and in whatever order their sources are stored and searched, the
search finds a circle exactly if there is a way along the edges from some key back to it. -/
theorem hasCycle_ofEdges_iff (edges : List (String × Dependency)) {graph : DependencyGraph}
    (stored : graph.edges.Perm (ofEdges edges).edges) :
    graph.hasCycle = true ↔ ∃ key, Relation.TransGen (Joins edges) key key := by
  rw [hasCycle_iff, depends_eq_of_perm (isProper_ofEdges edges) stored, depends_ofEdges]

/-- An edge that goes back to where it starts, on the way from one key to another. -/
def loopedEdges : List (String × Dependency) :=
  [("A", ⟨"B", .explicit⟩), ("B", ⟨"B", .reference⟩), ("B", ⟨"C", .reference⟩)]

/-- The loop is found from its own end as well, where the search starts if the sources are stored the
other way round. -/
theorem hasCycle_loopedEdges : ∃ graph : DependencyGraph,
    graph.edges = (ofEdges loopedEdges).edges.reverse ∧
    graph.edges.Perm (ofEdges loopedEdges).edges ∧ graph.hasCycle = true ∧
    ∃ key, Relation.TransGen (Joins loopedEdges) key key := by
  let graph : DependencyGraph := { ofEdges loopedEdges with edges := (ofEdges loopedEdges).edges.reverse }
  have stored : graph.edges.Perm (ofEdges loopedEdges).edges := List.reverse_perm _
  have found : graph.hasCycle = true := by decide +kernel
  exact ⟨graph, rfl, stored, found, (hasCycle_ofEdges_iff loopedEdges stored).mp found⟩

end ClusterStack
