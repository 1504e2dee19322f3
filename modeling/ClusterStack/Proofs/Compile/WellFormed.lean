import ClusterStack.CommandLine.Report
import ClusterStack.Proofs.Cluster.WellFormed
import ClusterStack.Proofs.Compile.Run

/-!
# Well-formed templates of clusters

Ordered descriptions compile to well-formed templates, one cluster alone or several together. What is read
from a document is ordered. So every command that has a template has one that is well formed, provided that
whatever reads YAML puts members in order as the reader of JSON does.
-/

set_option autoImplicit false

namespace ClusterStack

variable {deployment : Deployment} {template : Template}

theorem CompiledCluster.Compiles.isWellFormed {spec : ClusterSpec} {part : CompiledCluster}
    (compiles : part.Compiles deployment spec) (ordered : spec.IsOrdered) : part.template.IsWellFormed := by
  obtain ⟨declarations, declared, made, -⟩ := Cluster.compile_eq_ok.mp compiles.compiled
  exact Template.isWellFormed_of_ofDeclarations
    (Cluster.isWellFormed ordered compiles.resolved declared) made

theorem isWellFormed_of_compile {spec : ClusterSpec} (ordered : spec.IsOrdered)
    (compiled : compile deployment spec = .ok template) : template.IsWellFormed := by
  obtain ⟨cluster, resolved, compiled⟩ := compile_eq_ok.mp compiled
  have compiles : CompiledCluster.Compiles deployment spec ⟨cluster, template⟩ := ⟨resolved, compiled⟩
  exact compiles.isWellFormed ordered

theorem isWellFormed_of_compileAll {specs : List ClusterSpec} (ordered : ∀ spec ∈ specs, spec.IsOrdered)
    (compiled : compileAll deployment specs = .ok template) : template.IsWellFormed := by
  obtain ⟨compilation, ran, rfl⟩ := compileAll_eq_ok.mp compiled
  obtain ⟨parts, related, made⟩ := Compilation.exists_parts ran
  have each : ∀ part ∈ parts, part.template.IsWellFormed := by
    intro part member
    obtain ⟨spec, given, compiles⟩ := exists_of_forall₂_right related member
    exact compiles.isWellFormed (ordered spec (List.mem_of_mem_filter given))
  constructor
  · intro entry present
    obtain ⟨part, member, within⟩ := made.mem_resources.mp present
    exact (each part member).resources entry within
  · intro entry present
    obtain ⟨part, member, within⟩ := made.mem_outputs.mp present
    exact (each part member).outputs entry within

def Manifest.IsOrdered (manifest : Manifest) : Prop :=
  ∀ spec ∈ manifest.clusters, spec.IsOrdered

/-- The manifests that are read from YAML are ordered. -/
def YamlReader.IsOrdered (yaml : YamlReader) : Prop :=
  ∀ content manifest, yaml content = .ok manifest → manifest.IsOrdered

theorem Manifest.isOrdered_build (values : (Described.schema Manifest).El)
    (ordered : (Described.schema Manifest).IsOrdered values) : (Described.build values : Manifest).IsOrdered := by
  obtain ⟨_, _, clusters, _⟩ := ordered
  exact Described.forall_mem_map_build ClusterSpec.isOrdered_build clusters

theorem Manifest.isOrdered_of_ofText {format : Format} {content : String} {manifest : Manifest}
    (read : Manifest.ofText format content = .ok manifest) : manifest.IsOrdered := by
  have described : Described.ofText Manifest format content = .ok manifest := mapError_eq_ok.mp read
  obtain ⟨described, -⟩ := Described.ofText_eq_ok.mp described
  obtain ⟨values, found, rfl⟩ := Described.ofDocument_eq_ok.mp described
  exact isOrdered_build values (Schema.isOrdered_of_read? _ found)

theorem YamlReader.isOrdered_flow : YamlReader.flow.IsOrdered :=
  fun _ _ read => Manifest.isOrdered_of_ofText read

/-- Whatever file is compiled, its template is well formed. -/
theorem Invocation.isWellFormed_of_template {yaml : YamlReader} (ordered : yaml.IsOrdered)
    {invocation : Invocation} {content : Except FileProblem String}
    (compiled : invocation.template yaml content = .ok template) : template.IsWellFormed := by
  simp only [Invocation.template, bind_eq_ok, mapError_eq_ok] at compiled
  obtain ⟨text, -, manifest, parsed, compiled⟩ := compiled
  refine isWellFormed_of_compileAll ?_ compiled
  simp only [Manifest.parse] at parsed
  split at parsed
  · exact Manifest.isOrdered_of_ofText (mapError_eq_ok.mp parsed)
  · split at parsed
    · exact ordered text manifest (mapError_eq_ok.mp parsed)
    · cases parsed

end ClusterStack
