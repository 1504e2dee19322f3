import ClusterStack.Template.Basic

/-!
# Dependency graphs

The graph of who depends on whom in a template: resources and outputs depend on what their values
refer to, and resources on what they list besides. A cycle is found by a depth-first search, which
comes upon a node that is on the path it has taken. One search goes on through all sources, and what it
has visited from one of them it does not visit again.
-/

set_option autoImplicit false

namespace ClusterStack

/-- How a dependency came about. -/
inductive DependencyKind where
  /-- A reference in a property or an output. -/
  | reference
  | explicit
  deriving DecidableEq, Repr

/-- A dependency on a target. -/
structure Dependency where
  target : String
  kind : DependencyKind
  deriving DecidableEq, Repr

/-- The dependencies of every source, the sources of every target, and the keys that are resources.
Sources and targets come in the order of their first edge. -/
structure DependencyGraph where
  edges : List (String × List Dependency)
  reverseEdges : List (String × List String)
  nodes : List String
  deriving Repr

namespace DependencyGraph

def empty : DependencyGraph :=
  ⟨[], [], []⟩

def dependenciesOf (graph : DependencyGraph) (key : String) : List Dependency :=
  (Entries.get? graph.edges key).getD []

def dependentsOf (graph : DependencyGraph) (key : String) : List String :=
  (Entries.get? graph.reverseEdges key).getD []

/-- Adds an edge, unless there is one between the same ends of the same kind. -/
def addEdge (graph : DependencyGraph) (source target : String) (kind : DependencyKind) :
    DependencyGraph :=
  let dependency : Dependency := ⟨target, kind⟩
  let known := graph.dependenciesOf source
  if dependency ∈ known then graph
  else
    { graph with
      edges := Entries.insert graph.edges source (known ++ [dependency])
      reverseEdges :=
        Entries.insert graph.reverseEdges target (graph.dependentsOf target ++ [source]) }

def addResource (graph : DependencyGraph) (key : String) (resource : Resource) :
    DependencyGraph :=
  let known : DependencyGraph := { graph with nodes := graph.nodes ++ [key] }
  let referring := resource.references.foldl
    (fun graph target => graph.addEdge key target .reference) known
  resource.dependsOn.foldl (fun graph target => graph.addEdge key target .explicit) referring

/-- Adds the edges of an output. An output is a source only. -/
def addOutput (graph : DependencyGraph) (key : String) (output : Output) : DependencyGraph :=
  output.value.references.foldl (fun graph target => graph.addEdge key target .reference) graph

def ofTemplate (template : Template) : DependencyGraph :=
  let resources := template.resources.entries.foldl
    (fun graph entry => graph.addResource entry.1 entry.2) empty
  template.outputs.entries.foldl (fun graph entry => graph.addOutput entry.1 entry.2) resources

def pairLe (a b : String × String) : Bool :=
  a.1 < b.1 || (a.1 == b.1 && !(b.2 < a.2))

def isPseudoParameter (target : String) : Bool :=
  target.startsWith "AWS::"

/-- The edges whose target is neither a resource nor a pseudo parameter, as ordered pairs of source
and target. -/
def danglingReferences (graph : DependencyGraph) : List (String × String) :=
  let pairs := graph.edges.flatMap fun (source, dependencies) =>
    dependencies.filterMap fun dependency =>
      if isPseudoParameter dependency.target || graph.nodes.contains dependency.target then none
      else some (source, dependency.target)
  pairs.mergeSort pairLe

/-- How far a search has come: the nodes it has visited, and which of them are on its present path. -/
structure Search where
  visited : List String
  path : List String
  deriving Repr

namespace Search

def start : Search :=
  ⟨[], []⟩

def enter (search : Search) (node : String) : Search :=
  ⟨node :: search.visited, node :: search.path⟩

def leave (search : Search) (node : String) : Search :=
  { search with path := search.path.erase node }

end Search

/-- The number of edges that leave nodes not visited yet. -/
def edgesAhead (visited : List String) : List (String × List Dependency) → Nat
  | [] => 0
  | (source, dependencies) :: rest =>
    (if source ∈ visited then 0 else dependencies.length) + edgesAhead visited rest

theorem edgesAhead_le {visited later : List String} (kept : visited ⊆ later)
    (edges : List (String × List Dependency)) : edgesAhead later edges ≤ edgesAhead visited edges := by
  induction edges with
  | nil => exact Nat.le_refl 0
  | cons entry rest ih =>
    simp only [edgesAhead]
    by_cases before : entry.1 ∈ visited
    · simpa [before, kept before] using ih
    · rw [if_neg before]
      split <;> omega

/-- A node that is visited takes its own edges along. -/
theorem edgesAhead_enter {visited : List String} {node : String} (unvisited : node ∉ visited)
    (edges : List (String × List Dependency)) :
    edgesAhead (node :: visited) edges + ((Entries.get? edges node).getD []).length ≤
      edgesAhead visited edges := by
  induction edges with
  | nil => exact Nat.le_refl 0
  | cons entry rest ih =>
    have fewer := edgesAhead_le (List.subset_cons_self node visited) rest
    by_cases same : entry.1 = node
    · have own : Entries.get? (entry :: rest) node = some entry.2 := by simp [Entries.get?, same]
      simp only [own, edgesAhead, same, List.mem_cons, true_or, if_true, unvisited, if_false,
        Option.getD_some]
      omega
    · have other : Entries.get? (entry :: rest) node = Entries.get? rest node := by
        simp [Entries.get?, same]
      simp only [other, edgesAhead, List.mem_cons, same, false_or]
      omega

/-- Searches on from the targets, one after the other, and from each as deep as there is something new. The
result is how far the search has come; there is none if it has come upon a node of its own path. -/
def explore (graph : DependencyGraph) (targets : List String) (search : Search) :
    Option { later : Search // search.visited ⊆ later.visited } :=
  match targets with
  | [] => some ⟨search, fun _ visited => visited⟩
  | node :: rest =>
    if node ∈ search.path then none
    else if node ∈ search.visited then graph.explore rest search
    else
      match graph.explore ((graph.dependenciesOf node).map (·.target)) (search.enter node) with
      | none => none
      | some ⟨inner, kept⟩ =>
        (graph.explore rest (inner.leave node)).map fun later =>
          ⟨later.1, fun _ visited => later.2 (kept (.tail _ visited))⟩
-- Every edge is gone along once: it is ahead as long as its source is not visited, and then a target.
termination_by edgesAhead search.visited graph.edges + targets.length
decreasing_by
  · simp only [List.length_cons]
    omega
  · rename_i unvisited
    have fewer := edgesAhead_enter unvisited graph.edges
    simp only [Search.enter, dependenciesOf, List.length_map, List.length_cons]
    omega
  · have entered := edgesAhead_le (List.subset_cons_self node search.visited) graph.edges
    have left := edgesAhead_le kept graph.edges
    simp only [Search.enter, Search.leave, List.length_cons] at left ⊢
    omega

def hasCycle (graph : DependencyGraph) : Bool :=
  (graph.explore (Entries.keys graph.edges) .start).isNone

/-- The least of the dangling references, but for those to declared external targets. -/
def firstDangling (graph : DependencyGraph) (external : List String) : Option (String × String) :=
  graph.danglingReferences.find? fun pair => !external.contains pair.2

/-- Checks that every reference is resolved, except for declared external targets, and that nothing
goes round in circles. Of several dangling references the least is reported. -/
def check (graph : DependencyGraph) (external : List String) : Except CompileError Unit :=
  match graph.firstDangling external with
  | some (source, target) => .error (.danglingReference source target)
  | none => if graph.hasCycle then .error .dependencyCycle else .ok ()

end DependencyGraph

def Template.checkReferences (template : Template) (external : List String) :
    Except CompileError Unit :=
  (DependencyGraph.ofTemplate template).check external

end ClusterStack
