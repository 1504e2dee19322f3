import ClusterStack.Dependency.Graph
import ClusterStack.Proofs.Entries
import Mathlib.Logic.Relation

/-!
# Circles of the dependency graph

The search leaves a node after it has left everything the node leads to. So no node that it has left is
on a circle, and if it comes back it has left all of them. If it does not, it has come upon a node to
which its own path leads.
-/

set_option autoImplicit false

namespace ClusterStack

namespace DependencyGraph

variable {graph : DependencyGraph} {search later : Search} {targets : List String} {node other : String}

/-- The source depends on the target, in whatever way. -/
def Depends (graph : DependencyGraph) (source target : String) : Prop :=
  ∃ dependency ∈ graph.dependenciesOf source, dependency.target = target

theorem depends_iff_mem {source target : String} :
    graph.Depends source target ↔ target ∈ (graph.dependenciesOf source).map (·.target) :=
  List.mem_map.symm

theorem Depends.mem_keys {source target : String} (depends : graph.Depends source target) :
    source ∈ Entries.keys graph.edges := by
  obtain ⟨dependency, listed, -⟩ := depends
  by_contra absent
  rw [dependenciesOf, Entries.get?_eq_none.mpr absent] at listed
  cases listed

namespace Search

/-- The search has been at the node, and is done with it. -/
def HasLeft (search : Search) (node : String) : Prop :=
  node ∈ search.visited ∧ node ∉ search.path

theorem HasLeft.mono (left : search.HasLeft node) (kept : search.visited ⊆ later.visited)
    (samePath : later.path = search.path) : later.HasLeft node :=
  ⟨kept left.1, samePath ▸ left.2⟩

theorem hasLeft_enter (unvisited : node ∉ search.visited) :
    (search.enter node).HasLeft other ↔ search.HasLeft other := by
  simp only [HasLeft, enter, List.mem_cons, not_or]
  constructor
  · intro left
    exact ⟨left.1.resolve_left left.2.1, left.2.2⟩
  · intro left
    have different : other ≠ node := fun same => unvisited (same ▸ left.1)
    exact ⟨.inr left.1, different, left.2⟩

theorem path_leave (entered : later.path = node :: search.path) :
    (later.leave node).path = search.path := by
  rw [leave, entered, List.erase_cons_head]

/-- Of the nodes that have not been left, only the last one of the path is left. -/
theorem hasLeft_leave (entered : later.path = node :: search.path) (visited : node ∈ later.visited)
    (outside : node ∉ search.path) :
    (later.leave node).HasLeft other ↔ later.HasLeft other ∨ other = node := by
  have visits : (later.leave node).visited = later.visited := rfl
  simp only [HasLeft, path_leave entered, visits, entered, List.mem_cons, not_or]
  by_cases same : other = node
  · simp [same, visited, outside]
  · simp [same]

/-- What has been left leads only to what has been left, and is on no circle. -/
structure IsSound (graph : DependencyGraph) (search : Search) : Prop where
  closed : ∀ {source target}, search.HasLeft source → graph.Depends source target → search.HasLeft target
  noCircle : ∀ {node}, search.HasLeft node → ¬Relation.TransGen graph.Depends node node

theorem isSound_start : start.IsSound graph where
  closed left := by cases left.1
  noCircle left := by cases left.1

theorem IsSound.enter (sound : search.IsSound graph) (unvisited : node ∉ search.visited) :
    (search.enter node).IsSound graph where
  closed left depends :=
    (hasLeft_enter unvisited).mpr (sound.closed ((hasLeft_enter unvisited).mp left) depends)
  noCircle left := sound.noCircle ((hasLeft_enter unvisited).mp left)

theorem IsSound.hasLeft_of_path (sound : search.IsSound graph) (left : search.HasLeft node)
    (path : Relation.ReflTransGen graph.Depends node other) : search.HasLeft other := by
  induction path with
  | refl => exact left
  | tail _ step ih => exact sound.closed ih step

/-- A node is left soundly once everything it depends on has been left. -/
theorem IsSound.leave (sound : later.IsSound graph) (entered : later.path = node :: search.path)
    (visited : node ∈ later.visited) (outside : node ∉ search.path)
    (done : ∀ target, graph.Depends node target → later.HasLeft target) :
    (later.leave node).IsSound graph where
  closed := by
    intro source target left depends
    rw [hasLeft_leave entered visited outside] at left ⊢
    cases left with
    | inl before => exact .inl (sound.closed before depends)
    | inr last => exact .inl (done target (last ▸ depends))
  noCircle := by
    intro other left circle
    rw [hasLeft_leave entered visited outside] at left
    cases left with
    | inl before => exact sound.noCircle before circle
    | inr last =>
      -- The circle would go on from a node that has been left, and come back to one that has not.
      subst last
      obtain ⟨target, step, back⟩ := Relation.TransGen.head'_iff.mp circle
      have onPath := (sound.hasLeft_of_path (done target step) back).2
      exact onPath (entered ▸ List.mem_cons_self)

end Search

/-- What a search has done that comes back: its path is the one it set out on, and it has left all of its
targets. -/
structure Explores (graph : DependencyGraph) (targets : List String) (search later : Search) : Prop where
  path : later.path = search.path
  sound : search.IsSound graph → later.IsSound graph
  left : search.IsSound graph → ∀ node ∈ targets, later.HasLeft node

theorem explores_of_explore {result : { later : Search // search.visited ⊆ later.visited }}
    (explored : graph.explore targets search = some result) : graph.Explores targets search result.1 := by
  induction targets, search using explore.induct graph with
  | case1 search =>
    rw [explore] at explored
    cases explored
    exact ⟨rfl, id, by simp⟩
  | case2 search node rest onPath =>
    rw [explore, if_pos onPath] at explored
    cases explored
  | case3 search node rest outside visited ih =>
    rw [explore, if_neg outside, if_pos visited] at explored
    have further := ih explored
    refine ⟨further.path, further.sound, fun sound target listed => ?_⟩
    cases List.mem_cons.mp listed with
    | inl first =>
      have left : search.HasLeft target := ⟨first ▸ visited, first ▸ outside⟩
      exact left.mono result.2 further.path
    | inr later => exact further.left sound target later
  | case4 search node rest outside unvisited lost ih =>
    rw [explore, if_neg outside, if_neg unvisited, lost] at explored
    cases explored
  | case5 search node rest outside unvisited inner kept came innerIH restIH =>
    rw [explore, if_neg outside, if_neg unvisited, came] at explored
    obtain ⟨last, further, rfl⟩ := Option.map_eq_some_iff.mp explored
    have inside := innerIH came
    have beyond := restIH further
    have visited : node ∈ inner.visited := kept List.mem_cons_self
    have soundThere : search.IsSound graph → (inner.leave node).IsSound graph := by
      intro sound
      have entered := sound.enter unvisited
      refine (inside.sound entered).leave inside.path visited outside fun target depends => ?_
      exact inside.left entered target (depends_iff_mem.mp depends)
    refine ⟨?_, fun sound => beyond.sound (soundThere sound), fun sound target listed => ?_⟩
    · rw [beyond.path, Search.path_leave inside.path]
    · cases List.mem_cons.mp listed with
      | inl first =>
        have left := (Search.hasLeft_leave inside.path visited outside).mpr (.inr first)
        exact left.mono last.2 beyond.path
      | inr later => exact beyond.left (soundThere sound) target later

/-- A search that does not come back has gone round in a circle, provided that its path led to where it
set out for. -/
theorem exists_circle_of_explore (lost : graph.explore targets search = none)
    (leads : ∀ node ∈ search.path, ∀ target ∈ targets, Relation.TransGen graph.Depends node target) :
    ∃ node, Relation.TransGen graph.Depends node node := by
  induction targets, search using explore.induct graph with
  | case1 search =>
    rw [explore] at lost
    cases lost
  | case2 search node rest onPath => exact ⟨node, leads node onPath node List.mem_cons_self⟩
  | case3 search node rest outside visited ih =>
    rw [explore, if_neg outside, if_pos visited] at lost
    exact ih lost fun first onPath target listed => leads first onPath target (.tail _ listed)
  | case4 search node rest outside unvisited innerLost ih =>
    refine ih innerLost fun first onPath target listed => ?_
    have step : graph.Depends node target := depends_iff_mem.mpr listed
    cases List.mem_cons.mp onPath with
    | inl last => exact last ▸ .single step
    | inr before => exact .tail (leads first before node List.mem_cons_self) step
  | case5 search node rest outside unvisited inner kept came innerIH restIH =>
    rw [explore, if_neg outside, if_neg unvisited, came] at lost
    refine restIH (Option.map_eq_none_iff.mp lost) fun first onPath target listed => ?_
    rw [Search.path_leave (explores_of_explore came).path] at onPath
    exact leads first onPath target (.tail _ listed)

/-- The search finds a circle exactly if some node depends on itself, directly or by way of others. -/
theorem hasCycle_iff : graph.hasCycle = true ↔ ∃ node, Relation.TransGen graph.Depends node node := by
  rw [hasCycle, Option.isNone_iff_eq_none]
  constructor
  · intro lost
    exact exists_circle_of_explore lost fun node onPath => by cases onPath
  · intro exists_circle
    obtain ⟨node, circle⟩ := exists_circle
    cases explored : graph.explore (Entries.keys graph.edges) .start with
    | none => rfl
    | some result =>
      obtain ⟨target, step, -⟩ := Relation.TransGen.head'_iff.mp circle
      have explores := explores_of_explore explored
      have left := explores.left Search.isSound_start node step.mem_keys
      exact absurd circle ((explores.sound Search.isSound_start).noCircle left)

end DependencyGraph

end ClusterStack
