import ClusterStack.Proofs.Dependency.Additions
import ClusterStack.Proofs.Dependency.Outputs
import Mathlib.Data.Prod.Lex
import Mathlib.Data.String.Basic
import Mathlib.Order.Bounds.Basic

/-!
# What the check of references decides

Dangling references are sorted before one of them is reported, so it is the least, in whatever order the
graph is stored. Only if there is none does a circle count. Both are read off the edges and the nodes as
sets, and these off what the keys of the template stand for.
-/

set_option autoImplicit false

namespace ClusterStack

namespace DependencyGraph

variable {graph other : DependencyGraph} {external alsoExternal : List String} {pair : String × String}
  {source target : String}

/-- An edge to a target that is no node, no pseudo parameter and not declared to be external. -/
def Dangles (graph : DependencyGraph) (external : List String) (source target : String) : Prop :=
  graph.Depends source target ∧ target ∉ graph.nodes ∧ isPseudoParameter target = false ∧ target ∉ external

/-- The edges that dangle, in the order of their sources, and under each source in that of their targets. -/
def danglingPairs (graph : DependencyGraph) (external : List String) : Set (String ×ₗ String) :=
  { pair | graph.Dangles external (ofLex pair).1 (ofLex pair).2 }

theorem mem_danglingPairs (proper : graph.IsProper) : toLex pair ∈ graph.danglingPairs external ↔
    pair ∈ graph.danglingReferences ∧ (!external.contains pair.2) = true := by
  rw [mem_danglingReferences proper]
  simp only [danglingPairs, Dangles, Depends, Set.mem_ofPred_eq, ofLex_toLex, List.contains_eq_mem,
    Bool.not_eq_true', decide_eq_false_iff_not]
  tauto

theorem pairLe_iff {a b : String × String} : pairLe a b = true ↔ toLex a ≤ toLex b := by
  simp only [pairLe, Bool.or_eq_true, Bool.and_eq_true, decide_eq_true_eq, beq_iff_eq, Bool.not_eq_true',
    decide_eq_false_iff_not, not_lt, Prod.Lex.toLex_le_toLex]

theorem pairwise_danglingReferences (graph : DependencyGraph) :
    graph.danglingReferences.Pairwise fun a b => toLex a ≤ toLex b := by
  have trans : ∀ a b c, pairLe a b = true → pairLe b c = true → pairLe a c = true := fun a b c => by
    simpa only [pairLe_iff] using le_trans
  have total : ∀ a b, (pairLe a b || pairLe b a) = true := fun a b => by
    simpa only [Bool.or_eq_true, pairLe_iff] using le_total (toLex a) (toLex b)
  exact (List.pairwise_mergeSort trans total _).imp pairLe_iff.mp

/-- In a sorted list, what is found first is the least that could be found. -/
theorem toLex_le_of_find? {pairs : List (String × String)} {selects : String × String → Bool}
    (sorted : pairs.Pairwise fun a b => toLex a ≤ toLex b) (found : pairs.find? selects = some pair) :
    ∀ candidate ∈ pairs, selects candidate = true → toLex pair ≤ toLex candidate := by
  intro candidate listed selected
  induction sorted with
  | nil => cases listed
  | @cons first rest before _ ih =>
    rw [List.find?_cons] at found
    cases chosen : selects first with
    | true =>
      rw [chosen] at found
      cases found
      cases List.mem_cons.mp listed with
      | inl same => exact le_of_eq (congrArg toLex same.symm)
      | inr later => exact before candidate later
    | false =>
      -- What is passed over is not the candidate, so the search goes on with the candidate ahead.
      rw [chosen] at found
      have different : candidate ≠ first := by
        intro same
        rw [same, chosen] at selected
        cases selected
      exact ih found ((List.mem_cons.mp listed).resolve_left different)

theorem firstDangling_eq_some (proper : graph.IsProper) : graph.firstDangling external = some pair ↔
      IsLeast (graph.danglingPairs external) (toLex pair) := by
  have least : ∀ first, graph.firstDangling external = some first →
      IsLeast (graph.danglingPairs external) (toLex first) := by
    intro first found
    have selected := List.find?_some found
    refine ⟨(mem_danglingPairs proper).mpr ⟨List.mem_of_find?_eq_some found, selected⟩, ?_⟩
    intro candidate dangles
    obtain ⟨listed, outside⟩ : ofLex candidate ∈ graph.danglingReferences ∧ _ :=
      (mem_danglingPairs proper).mp dangles
    exact toLex_le_of_find? graph.pairwise_danglingReferences found _ listed outside
  constructor
  · exact least pair
  · intro isLeast
    obtain ⟨listed, outside⟩ := (mem_danglingPairs proper).mp isLeast.1
    cases found : graph.firstDangling external with
    | none => exact absurd outside (List.find?_eq_none.mp found _ listed)
    | some first => rw [toLex.injective ((least first found).unique isLeast)]

theorem firstDangling_eq_none (proper : graph.IsProper) :
    graph.firstDangling external = none ↔ graph.danglingPairs external = ∅ := by
  rw [firstDangling, List.find?_eq_none, Set.eq_empty_iff_forall_notMem]
  constructor
  · intro none candidate dangles
    obtain ⟨listed, outside⟩ : ofLex candidate ∈ graph.danglingReferences ∧ _ :=
      (mem_danglingPairs proper).mp dangles
    exact none _ listed outside
  · intro empty candidate listed outside
    exact empty (toLex candidate) ((mem_danglingPairs proper).mpr ⟨listed, outside⟩)

theorem check_eq_danglingReference (proper : graph.IsProper) :
    graph.check external = .error (.danglingReference source target) ↔
      IsLeast (graph.danglingPairs external) (toLex (source, target)) := by
  rw [← firstDangling_eq_some proper, check]
  split
  · rename_i found
    simp [found]
  · rename_i found
    simp only [found, reduceCtorEq, iff_false]
    split <;> simp

theorem check_eq_dependencyCycle (proper : graph.IsProper) :
    graph.check external = .error .dependencyCycle ↔
      graph.danglingPairs external = ∅ ∧ ∃ node, Relation.TransGen graph.Depends node node := by
  rw [← firstDangling_eq_none proper, ← hasCycle_iff, check]
  split
  · rename_i found
    simp [found]
  · rename_i found
    simp [found]

theorem check_eq_ok (proper : graph.IsProper) :
    graph.check external = .ok () ↔
      graph.danglingPairs external = ∅ ∧ ¬∃ node, Relation.TransGen graph.Depends node node := by
  rw [← firstDangling_eq_none proper, ← hasCycle_iff, check]
  split
  · rename_i found
    simp [found]
  · rename_i found
    simp [found]

theorem exists_danglingReference_iff (proper : graph.IsProper) :
    (∃ source target, graph.check external = .error (.danglingReference source target)) ↔
      (graph.danglingPairs external).Nonempty := by
  constructor
  · intro refused
    obtain ⟨source, target, refused⟩ := refused
    exact ⟨_, ((check_eq_danglingReference proper).mp refused).1⟩
  · intro dangling
    have found := (firstDangling_eq_none proper).not.mpr dangling.ne_empty
    obtain ⟨pair, first⟩ := Option.ne_none_iff_exists'.mp found
    exact ⟨pair.1, pair.2, by simp only [check, first]⟩

theorem check_eq_error {reason : CompileError} (refused : graph.check external = .error reason) :
    (∃ source target, reason = .danglingReference source target) ∨ reason = .dependencyCycle := by
  simp only [check] at refused
  split at refused
  · cases refused
    exact .inl ⟨_, _, rfl⟩
  · split at refused
    · cases refused
      exact .inr rfl
    · cases refused

/-- The check sees nothing of a graph but what dangles and what depends on what. -/
theorem check_congr (proper : graph.IsProper) (alsoProper : other.IsProper)
    (pairs : other.danglingPairs alsoExternal = graph.danglingPairs external)
    (depends : other.Depends = graph.Depends) : other.check alsoExternal = graph.check external := by
  have first : other.firstDangling alsoExternal = graph.firstDangling external := by
    ext pair
    rw [firstDangling_eq_some alsoProper, firstDangling_eq_some proper, pairs]
  have circle : other.hasCycle = graph.hasCycle := by
    rw [Bool.eq_iff_iff, hasCycle_iff, hasCycle_iff, depends]
  rw [check, check, first, circle]

theorem danglingPairs_congr (depends : other.Depends = graph.Depends)
    (nodes : ∀ key, key ∈ other.nodes ↔ key ∈ graph.nodes)
    (names : ∀ name, name ∈ alsoExternal ↔ name ∈ external) :
    other.danglingPairs alsoExternal = graph.danglingPairs external := by
  ext pair
  simp only [danglingPairs, Dangles, Set.mem_ofPred_eq, depends, nodes, names]

theorem check_eq_of_perm (proper : graph.IsProper) (stored : other.edges.Perm graph.edges)
    (nodes : other.nodes.Perm graph.nodes) : other.check external = graph.check external := by
  have alsoProper : other.IsProper := (stored.map _).nodup_iff.mpr proper
  have depends := depends_eq_of_perm proper stored
  have pairs := danglingPairs_congr depends (fun _ => nodes.mem_iff) fun name => Iff.refl (name ∈ external)
  exact check_congr proper alsoProper pairs depends

end DependencyGraph

namespace Template

variable {template other : Template} {external alsoExternal : List String}

/-- The references that dangle, in the order of their sources, and under each source in that of their
targets. -/
def danglingPairs (template : Template) (external : List String) : Set (String ×ₗ String) :=
  { pair | template.Dangles external (ofLex pair).1 (ofLex pair).2 }

theorem danglingPairs_ofTemplate (template : Template) (external : List String) :
    (DependencyGraph.ofTemplate template).danglingPairs external = template.danglingPairs external := by
  simp only [DependencyGraph.danglingPairs, DependencyGraph.Dangles, depends_ofTemplate,
    DependencyGraph.nodes_ofTemplate, danglingPairs, Dangles]

/-- A template is refused for a dangling reference exactly if there is one. -/
theorem checkReferences_eq_danglingReference :
    (∃ source target, template.checkReferences external = .error (.danglingReference source target)) ↔
      ∃ source target, template.Dangles external source target := by
  rw [checkReferences, DependencyGraph.exists_danglingReference_iff
    (DependencyGraph.isProper_ofTemplate template), danglingPairs_ofTemplate]
  constructor
  · intro nonempty
    obtain ⟨pair, dangles⟩ := nonempty
    exact ⟨_, _, dangles⟩
  · intro dangling
    obtain ⟨source, target, dangles⟩ := dangling
    exact ⟨toLex (source, target), dangles⟩

/-- A template is refused for a dangling reference or for going round in circles. -/
theorem checkReferences_eq_error {reason : CompileError}
    (refused : template.checkReferences external = .error reason) :
    (∃ source target, reason = .danglingReference source target) ∨ reason = .dependencyCycle :=
  DependencyGraph.check_eq_error refused

/-- What the keys stand for determines what they target, in whatever order they were entered. -/
theorem targets_congr (resources : ∀ key, other.resources.get? key = template.resources.get? key)
    (outputs : ∀ key, other.outputs.get? key = template.outputs.get? key) :
    other.Targets = template.Targets := by
  funext source target
  simp only [Targets, ← Registry.get?_eq_some, resources, outputs]

theorem mem_keys_congr (resources : ∀ key, other.resources.get? key = template.resources.get? key)
    (key : String) : key ∈ other.resources.keys ↔ key ∈ template.resources.keys := by
  simp only [Registry.mem_keys, ← Registry.get?_eq_some, resources]

theorem checkReferences_congr (resources : ∀ key, other.resources.get? key = template.resources.get? key)
    (outputs : ∀ key, other.outputs.get? key = template.outputs.get? key)
    (names : ∀ name, name ∈ alsoExternal ↔ name ∈ external) :
    other.checkReferences alsoExternal = template.checkReferences external := by
  have depends : (DependencyGraph.ofTemplate other).Depends =
      (DependencyGraph.ofTemplate template).Depends := by
    rw [depends_ofTemplate, depends_ofTemplate, targets_congr resources outputs]
  have nodes : ∀ key, key ∈ (DependencyGraph.ofTemplate other).nodes ↔
      key ∈ (DependencyGraph.ofTemplate template).nodes := by
    simpa only [DependencyGraph.nodes_ofTemplate] using mem_keys_congr resources
  have pairs := DependencyGraph.danglingPairs_congr depends nodes names
  exact DependencyGraph.check_congr (DependencyGraph.isProper_ofTemplate template)
    (DependencyGraph.isProper_ofTemplate other) pairs depends

end Template

open DependencyGraph

/-- A template is refused for the least of its dangling references, if it has any; for a circle, if nothing
dangles but something depends on itself; and not at all otherwise. Neither the order in which its graph is
stored matters, nor that of its own entries, nor that of the external targets. -/
theorem checkReferences_decides (template : Template) (external : List String) :
    (∀ source target, template.checkReferences external = .error (.danglingReference source target) ↔
      IsLeast (template.danglingPairs external) (toLex (source, target))) ∧
    ((∃ source target, template.checkReferences external = .error (.danglingReference source target)) ↔
      ∃ source target, template.Dangles external source target) ∧
    (template.checkReferences external = .error .dependencyCycle ↔
      template.danglingPairs external = ∅ ∧ ∃ key, Relation.TransGen template.Targets key key) ∧
    (template.checkReferences external = .ok () ↔
      template.danglingPairs external = ∅ ∧ ¬∃ key, Relation.TransGen template.Targets key key) ∧
    (∀ graph : DependencyGraph, graph.edges.Perm (ofTemplate template).edges →
      graph.nodes.Perm (ofTemplate template).nodes →
      graph.check external = template.checkReferences external) ∧
    ∀ (other : Template) (alsoExternal : List String),
      (∀ key, other.resources.get? key = template.resources.get? key) →
      (∀ key, other.outputs.get? key = template.outputs.get? key) →
      (∀ name, name ∈ alsoExternal ↔ name ∈ external) →
      other.checkReferences alsoExternal = template.checkReferences external := by
  have proper := isProper_ofTemplate template
  rw [← template.danglingPairs_ofTemplate, ← template.depends_ofTemplate]
  refine ⟨fun source target => ?_, ?_, ?_, ?_, fun graph stored nodes => ?_, ?_⟩
  · exact check_eq_danglingReference proper
  · exact Template.checkReferences_eq_danglingReference
  · exact check_eq_dependencyCycle proper
  · exact check_eq_ok proper
  · exact check_eq_of_perm proper stored nodes
  · intro other alsoExternal resources outputs names
    exact Template.checkReferences_congr resources outputs names

/-- Two log groups that depend on each other, and each on something that is not there. -/
def tangledGroups : Template where
  resources := ⟨[("B", .make .logGroup [] ["A", "Absent"]), ("A", .make .logGroup [] ["B", "Missing"])],
    by decide⟩
  outputs := .empty

/-- The same two, entered the other way round. -/
def tangledGroupsReversed : Template where
  resources := ⟨tangledGroups.resources.entries.reverse, by decide⟩
  outputs := .empty

private theorem danglingReferences_tangledGroups : (ofTemplate tangledGroups).danglingReferences =
    [("A", "Missing"), ("B", "Absent")] := by
  have unsorted : (ofTemplate tangledGroups).danglingReferences =
      [("B", "Absent"), ("A", "Missing")].mergeSort pairLe :=
    congrArg (List.mergeSort · pairLe) (by decide +kernel)
  have later : pairLe ("B", "Absent") ("A", "Missing") = false := by decide +kernel
  rw [unsorted]
  simp [List.mergeSort, later]

/-- Both are refused for the same reason, which is not the circle and not the reference that comes first. -/
theorem checkReferences_tangledGroups :
    tangledGroups.checkReferences ["Elsewhere", "Outside"] = .error (.danglingReference "A" "Missing") ∧
    tangledGroupsReversed.checkReferences ["Outside", "Elsewhere"] =
      .error (.danglingReference "A" "Missing") := by
  have refused : tangledGroups.checkReferences ["Elsewhere", "Outside"] =
      .error (.danglingReference "A" "Missing") := by
    rw [Template.checkReferences, check, firstDangling, danglingReferences_tangledGroups]
    rfl
  obtain ⟨-, -, -, -, -, agree⟩ := checkReferences_decides tangledGroups ["Elsewhere", "Outside"]
  have resources : ∀ key, tangledGroupsReversed.resources.get? key = tangledGroups.resources.get? key :=
    Entries.get?_eq_of_perm tangledGroups.resources.distinct (List.reverse_perm _)
  have names : ∀ name, name ∈ ["Outside", "Elsewhere"] ↔ name ∈ ["Elsewhere", "Outside"] := fun name =>
    (List.Perm.swap "Elsewhere" "Outside" []).mem_iff
  exact ⟨refused, (agree _ _ resources (fun _ => rfl) names).trans refused⟩

end ClusterStack
