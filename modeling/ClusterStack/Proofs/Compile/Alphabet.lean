import ClusterStack.Proofs.Compile.Endpoints
import ClusterStack.Proofs.Naming.Alphabet

/-!
# The alphabet of keys

The keys of a template are ids of labels. Their owners are prefixes, and the only marks that are not
plain are tokens of services: texts that have been normalized.
-/

set_option autoImplicit false

namespace ClusterStack

variable {deployment : Deployment} {spec : ClusterSpec}

namespace Cluster

variable {cluster : Cluster}

theorem Settled.isAlphanumeric_prefix (settled : cluster.Settled deployment spec)
    (named : IsAlphanumeric deployment.servicePrefix) {owner : String}
    (member : owner ∈ Entries.keys cluster.prefixes) : IsAlphanumeric owner := by
  have ofCluster : IsAlphanumeric cluster.clusterPrefix := by
    rw [settled.clusterPrefix]
    exact named.append (isAlphanumeric_normalizeName _)
  simp only [prefixes, Entries.keys, List.map_cons, List.map_map, List.mem_cons, List.mem_map] at member
  rcases member with rfl | ⟨service, present, rfl⟩
  · exact ofCluster
  · rw [Function.comp_apply, (settled.describes present).servicePrefix]
    exact ofCluster.append (isAlphanumeric_normalizeName _)

theorem Settled.isAlphanumeric_mark (settled : cluster.Settled deployment spec) {label : Label}
    (member : label ∈ cluster.labels) : IsAlphanumeric label.mark.text := by
  rcases isPlain_of_mem_labels member with group | plain
  · obtain ⟨service, present, rfl | rfl⟩ := mem_groupLabels group
    all_goals
      rw [Mark.text, (settled.describes present).token]
      exact isAlphanumeric_normalizeName _
  · exact plain.mark.isAlphanumeric

theorem Settled.isAlphanumeric_of_mem_labels (settled : cluster.Settled deployment spec)
    (named : IsAlphanumeric deployment.servicePrefix) {label : Label} (member : label ∈ cluster.labels) :
    IsAlphanumeric (deployment.idOf label) :=
  Deployment.isAlphanumeric_idOf (settled.isAlphanumeric_prefix named (owner_mem_prefixes member))
    (settled.isAlphanumeric_mark member)

theorem Settled.isAlphanumeric_of_mem_endpointLabels (settled : cluster.Settled deployment spec)
    (named : IsAlphanumeric deployment.servicePrefix) {label : Label}
    (member : label ∈ cluster.endpointLabels) : IsAlphanumeric (deployment.idOf label) :=
  Deployment.isAlphanumeric_idOf
    (settled.isAlphanumeric_prefix named (owner_mem_prefixes_of_endpoint member))
    (cluster.isPlain_endpointLabels label member).mark.isAlphanumeric

end Cluster

namespace CompiledCluster.Compiles

variable {part : CompiledCluster} {key : String}

theorem exists_label_of_mem_resources (compiles : part.Compiles deployment spec)
    (member : key ∈ part.template.resources.keys) :
    ∃ label ∈ part.cluster.labels, deployment.idOf label = key := by
  have settled := Cluster.settled_of_resolve compiles.resolved
  obtain ⟨declarations, declared, made, -⟩ := Cluster.compile_eq_ok.mp compiles.compiled
  exact (settled.mem_keys_iff declared made).mp member

theorem exists_label_of_mem_outputs (compiles : part.Compiles deployment spec)
    (member : key ∈ part.template.outputs.keys) :
    ∃ label ∈ part.cluster.endpointLabels, deployment.idOf label = key := by
  have settled := Cluster.settled_of_resolve compiles.resolved
  have endpoint := compiles.outputs_sublist.subset member
  rw [settled.endpointKeys] at endpoint
  exact List.mem_map.mp endpoint

end CompiledCluster.Compiles

/-- Whatever the stage, the clusters and their services are called, the keys of a template are made of
ASCII letters and digits, and none is empty. -/
theorem compileAll_alphanumeric {stage service : String} (named : IsServiceName service)
    {specs : List ClusterSpec} {template : Template}
    (compiled : compileAll (.ofService stage service) specs = .ok template) :
    ∀ key, key ∈ template.resources.keys ∨ key ∈ template.outputs.keys →
      key ≠ "" ∧ IsAlphanumeric key := by
  obtain ⟨compilation, ran, rfl⟩ := compileAll_eq_ok.mp compiled
  obtain ⟨parts, related, made⟩ := Compilation.exists_parts ran
  have host : IsAlphanumeric (Deployment.ofService stage service).servicePrefix :=
    isAlphanumeric_normalizeServiceName named
  rintro key (ofResource | ofOutput)
  · obtain ⟨part, listed, present⟩ := made.mem_keys.mp ofResource
    obtain ⟨spec, -, compiles⟩ := exists_of_forall₂_right related listed
    obtain ⟨label, member, rfl⟩ := compiles.exists_label_of_mem_resources present
    have settled := Cluster.settled_of_resolve compiles.resolved
    exact ⟨Deployment.idOf_ne_empty _ label, settled.isAlphanumeric_of_mem_labels host member⟩
  · obtain ⟨output, present⟩ := Registry.mem_keys.mp ofOutput
    obtain ⟨part, listed, present⟩ := made.mem_outputs.mp present
    obtain ⟨spec, -, compiles⟩ := exists_of_forall₂_right related listed
    obtain ⟨label, member, rfl⟩ :=
      compiles.exists_label_of_mem_outputs (Registry.mem_keys.mpr ⟨output, present⟩)
    have settled := Cluster.settled_of_resolve compiles.resolved
    exact ⟨Deployment.idOf_ne_empty _ label, settled.isAlphanumeric_of_mem_endpointLabels host member⟩

/-- A cluster and a service with names of letters beyond ASCII, and a listener of its own. -/
def foreignCluster : ClusterSpec :=
  .minimal "Straße №1" [(ServiceSpec.minimal "İstanbul ñandú" "nginx").listening [.minimal .http]]

/-- The sign of the kelvin has a lower case among the ASCII letters, and a capital I with a dot one of
two characters. -/
theorem compileAll_alphanumeric_foreignCluster : IsServiceName "my-app_v2" ∧ ∃ template,
    compileAll (.ofService "\u212A-1" "my-app_v2") [foreignCluster] = .ok template ∧
    template.outputs.keys = ["MyappUnderscorev2StraE1IStanbulAndServiceK1HTTP80"] ∧
    ∀ key, key ∈ template.resources.keys ∨ key ∈ template.outputs.keys →
      key ≠ "" ∧ IsAlphanumeric key := by
  have named : IsServiceName "my-app_v2" := by decide
  obtain ⟨template, compiled, outputs⟩ : ∃ template,
      compileAll (.ofService "\u212A-1" "my-app_v2") [foreignCluster] = .ok template ∧
        decide (template.outputs.keys = ["MyappUnderscorev2StraE1IStanbulAndServiceK1HTTP80"]) = true :=
    exists_of_passes (by decide +kernel)
  exact ⟨named, template, compiled, of_decide_eq_true outputs, compileAll_alphanumeric named compiled⟩

end ClusterStack
