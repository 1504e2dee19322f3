import ClusterStack.Proofs.Cluster.Described
import ClusterStack.Proofs.Compile.Closure
import ClusterStack.Proofs.Compile.Run
import ClusterStack.Proofs.Spec.Minimal
import Mathlib.Data.List.Perm.Basic

/-!
# Several clusters side by side

The clusters of a run are compiled each on its own. They fit into one template exactly if their
prefixes are distinct and their templates have no key in common, whatever their order.
-/

set_option autoImplicit false

namespace ClusterStack

variable {deployment : Deployment}

/-- The prefixes of a described cluster and of its services. -/
def ClusterSpec.prefixes (deployment : Deployment) (spec : ClusterSpec) : List String :=
  spec.clusterPrefix deployment ::
    spec.services.map fun service => spec.clusterPrefix deployment ++ normalizeName service.name

/-- The template holds the entries of the parts, in their order, and nothing else. -/
structure Template.Concatenates (template : Template) (parts : List Template) : Prop where
  resources : template.resources.entries = parts.flatMap (·.resources.entries)
  outputs : template.outputs.entries = parts.flatMap (·.outputs.entries)

/-- The clusters with a network compile to these templates, which can stand side by side. -/
structure FitTogether (deployment : Deployment) (specs : List ClusterSpec) (parts : List Template) :
    Prop where
  compiled : List.Forall₂ (fun spec part => compile deployment spec = .ok part)
    (specs.filter (·.vpc.isSome)) parts
  prefixes : ((specs.filter (·.vpc.isSome)).flatMap (·.prefixes deployment)).Nodup
  apart : parts.Pairwise Template.Apart

theorem Cluster.keys_prefixes {spec : ClusterSpec} {cluster : Cluster}
    (resolved : Cluster.resolve deployment spec = .ok cluster) :
    Entries.keys cluster.prefixes = spec.prefixes deployment := by
  have settled := Cluster.settled_of_resolve resolved
  have services := Cluster.servicePrefixes_of_services settled.specs
  rw [settled.clusterPrefix] at services
  rw [Cluster.prefixes, ClusterSpec.prefixes, ClusterSpec.clusterPrefix, ← services, Entries.keys_cons,
    settled.clusterPrefix, Entries.keys, List.map_map]
  rfl

theorem Cluster.nodup_prefixes {spec : ClusterSpec} {cluster : Cluster}
    (resolved : Cluster.resolve deployment spec = .ok cluster) : (spec.prefixes deployment).Nodup := by
  have valid := Cluster.exists_resolve_iff.mp ⟨cluster, resolved⟩
  refine List.nodup_cons.mpr ⟨?_, ?_⟩
  · intro again
    obtain ⟨service, member, same⟩ := List.mem_map.mp again
    apply (valid.services service member).name
    simpa using same
  · have distinct := valid.tokens.map (f := (spec.clusterPrefix deployment ++ ·)) fun left right same => by
      simpa using same
    rwa [List.map_map] at distinct

namespace PrefixClaims

/-- All prefixes are granted exactly if none is taken and none is claimed twice. -/
theorem exists_claimAll_iff {claims : PrefixClaims} {entries : List (String × String)} :
    (∃ larger, entries.foldlM claim claims = .ok larger) ↔
      (Entries.keys (claims.entries ++ entries)).Nodup := by
  constructor
  · rintro ⟨larger, claimed⟩
    rw [← entries_of_claimAll claimed]
    exact larger.distinct
  · intro distinct
    cases outcome : entries.foldlM claim claims with
    | ok larger => exact ⟨larger, rfl⟩
    | error reason =>
      obtain ⟨before, entry, after, state, rfl, claimed, refused⟩ := foldlM_eq_error.mp outcome
      have taken := (claim_eq_error refused).1
      rw [Registry.keys, entries_of_claimAll claimed] at taken
      rw [← List.append_assoc, Entries.keys_append, List.nodup_append'] at distinct
      exact absurd (List.mem_cons_self) (distinct.2.2 taken)

end PrefixClaims

/-- Compiled clusters that can stand side by side. -/
structure CompiledCluster.Compatible (parts : List CompiledCluster) : Prop where
  prefixes : (Entries.keys (parts.flatMap (·.cluster.prefixes))).Nodup
  templates : parts.Pairwise fun left right => left.template.Apart right.template

namespace Compilation

variable {compilation : Compilation} {done parts : List CompiledCluster} {specs : List ClusterSpec}

private theorem pairwise_disjoint {α : Type} {entries : CompiledCluster → List (String × α)}
    (distinct : (Entries.keys (done.flatMap entries)).Nodup) :
    done.Pairwise fun left right =>
      (Entries.keys (entries left)).Disjoint (Entries.keys (entries right)) := by
  rw [Entries.keys, List.map_flatMap, List.nodup_flatMap] at distinct
  exact distinct.2

theorem MadeOf.compatible (made : compilation.MadeOf done) : CompiledCluster.Compatible done := by
  have claims := compilation.claims.distinct
  have resources := compilation.template.resources.distinct
  have outputs := compilation.template.outputs.distinct
  rw [made.claims] at claims
  rw [made.resources] at resources
  rw [made.outputs] at outputs
  exact ⟨claims, (pairwise_disjoint resources).imp₂ (fun _ _ => .mk) (pairwise_disjoint outputs)⟩

theorem MadeOf.exists_next (made : compilation.MadeOf done) {spec : ClusterSpec}
    (network : spec.vpc.isSome = true) {part : CompiledCluster} (compiles : part.Compiles deployment spec)
    (compatible : CompiledCluster.Compatible (done ++ [part])) :
    ∃ larger, compilation.next deployment spec = .ok larger ∧ larger.MadeOf (done ++ [part]) := by
  obtain ⟨claims, claimed⟩ : ∃ claims, part.cluster.prefixes.foldlM PrefixClaims.claim
      compilation.claims = .ok claims := by
    rw [PrefixClaims.exists_claimAll_iff, made.claims]
    simpa using compatible.prefixes
  obtain ⟨template, merged⟩ : ∃ template, compilation.template.merge part.template = .ok template := by
    rw [Template.exists_merge_iff]
    have before : ∀ other ∈ done, other.template.Apart part.template := by
      simpa using (List.pairwise_append.mp compatible.templates).2.2
    constructor
    · intro key here there
      obtain ⟨other, member, present⟩ := made.mem_keys.mp here
      exact (before other member).resources present there
    · intro key here there
      obtain ⟨output, present⟩ := Registry.mem_keys.mp here
      obtain ⟨other, member, inside⟩ := made.mem_outputs.mp present
      exact (before other member).outputs (Registry.mem_keys.mpr ⟨output, inside⟩) there
  have extended : MadeOf ⟨claims, template⟩ (done ++ [part]) := made.extend claimed merged
  exact ⟨⟨claims, template⟩, (next_eq_ok network).mpr ⟨part, compiles, claimed, merged⟩, extended⟩

/-- A run goes through if its clusters go with each other and with those before it. -/
theorem MadeOf.exists_run (made : compilation.MadeOf done)
    (compiles : List.Forall₂ (CompiledCluster.Compiles deployment) (specs.filter (·.vpc.isSome)) parts)
    (compatible : CompiledCluster.Compatible (done ++ parts)) :
    ∃ final, specs.foldlM (Compilation.next deployment) compilation = .ok final := by
  -- On the clusters that are left. Those that have been taken in move from `parts` to `done`.
  induction specs generalizing compilation done parts with
  | nil => exact ⟨compilation, rfl⟩
  | cons spec rest ih =>
    cases network : spec.vpc.isSome with
    | false =>
      rw [List.filter_cons_of_neg (by simp [network])] at compiles
      obtain ⟨final, ran⟩ := ih made compiles compatible
      exact ⟨final, bind_eq_ok.mpr ⟨compilation, next_of_isNone network, ran⟩⟩
    | true =>
      rw [List.filter_cons_of_pos (by simp [network])] at compiles
      cases compiles with
      | @cons _ part _ others first more =>
        rw [← List.singleton_append, ← List.append_assoc] at compatible
        have shorter : CompiledCluster.Compatible (done ++ [part]) := by
          refine ⟨?_, (List.pairwise_append.mp compatible.templates).1⟩
          have prefixes := compatible.prefixes
          rw [List.flatMap_append, Entries.keys_append] at prefixes
          exact (List.nodup_append'.mp prefixes).1
        obtain ⟨larger, stepped, extended⟩ := made.exists_next network first shorter
        obtain ⟨final, ran⟩ := ih extended more compatible
        exact ⟨final, bind_eq_ok.mpr ⟨larger, stepped, ran⟩⟩

theorem exists_run_iff :
    (∃ final, specs.foldlM (Compilation.next deployment) .start = .ok final) ↔
      ∃ parts, List.Forall₂ (CompiledCluster.Compiles deployment) (specs.filter (·.vpc.isSome)) parts ∧
        CompiledCluster.Compatible parts := by
  constructor
  · rintro ⟨final, ran⟩
    obtain ⟨parts, compiles, made⟩ := exists_parts ran
    exact ⟨parts, compiles, made.compatible⟩
  · rintro ⟨parts, compiles, compatible⟩
    have start : MadeOf .start [] := ⟨rfl, rfl, rfl⟩
    exact start.exists_run compiles compatible

theorem foldlM_filter : (specs.filter (·.vpc.isSome)).foldlM (Compilation.next deployment) compilation =
    specs.foldlM (Compilation.next deployment) compilation := by
  induction specs generalizing compilation with
  | nil => rfl
  | cons spec rest ih =>
    cases network : spec.vpc.isSome with
    | false =>
      rw [List.filter_cons_of_neg (by simp [network]), ih, List.foldlM_cons, next_of_isNone network]
      rfl
    | true =>
      rw [List.filter_cons_of_pos (by simp [network]), List.foldlM_cons, List.foldlM_cons]
      exact bind_congr fun larger => ih

end Compilation

section Parts

variable {specs others : List ClusterSpec} {templates : List Template} {template other : Template}

theorem keys_of_compiles {parts : List CompiledCluster}
    (compiles : List.Forall₂ (CompiledCluster.Compiles deployment) specs parts) :
    Entries.keys (parts.flatMap (·.cluster.prefixes)) = specs.flatMap (·.prefixes deployment) := by
  have each : parts.map (fun part => Entries.keys part.cluster.prefixes) =
      specs.map (·.prefixes deployment) :=
    map_eq_of_forall₂ compiles fun spec _ part holds => Cluster.keys_prefixes holds.resolved
  rw [Entries.keys, List.map_flatMap, List.flatMap_def, List.flatMap_def, ← each]
  rfl

theorem forall₂_compile_iff :
    List.Forall₂ (fun spec template => compile deployment spec = .ok template) specs templates ↔
      ∃ parts, List.Forall₂ (CompiledCluster.Compiles deployment) specs parts ∧
        parts.map (·.template) = templates := by
  constructor
  · intro related
    induction related with
    | nil => exact ⟨[], .nil, rfl⟩
    | cons first _ ih =>
      obtain ⟨cluster, resolved, compiled⟩ := compile_eq_ok.mp first
      obtain ⟨parts, more, rfl⟩ := ih
      exact ⟨⟨cluster, _⟩ :: parts, .cons ⟨resolved, compiled⟩ more, rfl⟩
  · rintro ⟨parts, compiles, same⟩
    subst same
    exact List.forall₂_map_right_iff.mpr
      (compiles.imp fun spec part holds =>
        compile_eq_ok.mpr ⟨part.cluster, holds.resolved, holds.compiled⟩)

theorem exists_compileAll_iff :
    (∃ template, compileAll deployment specs = .ok template) ↔
      ∃ templates, FitTogether deployment specs templates := by
  have runs : (∃ template, compileAll deployment specs = .ok template) ↔
      ∃ final, specs.foldlM (Compilation.next deployment) .start = .ok final := by
    simp only [compileAll_eq_ok]
    constructor
    · rintro ⟨template, final, ran, _⟩
      exact ⟨final, ran⟩
    · rintro ⟨final, ran⟩
      exact ⟨final.template, final, ran, rfl⟩
  rw [runs, Compilation.exists_run_iff]
  constructor
  · rintro ⟨parts, compiles, compatible⟩
    refine ⟨parts.map (·.template), forall₂_compile_iff.mpr ⟨parts, compiles, rfl⟩, ?_, ?_⟩
    · rw [← keys_of_compiles compiles]
      exact compatible.prefixes
    · exact List.pairwise_map.mpr compatible.templates
  · rintro ⟨templates, fit⟩
    obtain ⟨parts, compiles, rfl⟩ := forall₂_compile_iff.mp fit.compiled
    refine ⟨parts, compiles, ?_, List.pairwise_map.mp fit.apart⟩
    rw [keys_of_compiles compiles]
    exact fit.prefixes

theorem concatenates_of_compileAll (compiled : compileAll deployment specs = .ok template)
    (each : List.Forall₂ (fun spec part => compile deployment spec = .ok part)
      (specs.filter (·.vpc.isSome)) templates) : template.Concatenates templates := by
  obtain ⟨final, ran, rfl⟩ := compileAll_eq_ok.mp compiled
  obtain ⟨parts, compiles, made⟩ := Compilation.exists_parts ran
  have agree : parts.map (·.template) = templates := by
    have related := forall₂_compile_iff.mpr ⟨parts, compiles, rfl⟩
    refine List.right_unique_forall₂' ?_ related each
    intro spec left right first second
    exact Except.ok.inj (first.symm.trans second)
  subst agree
  constructor
  · rw [made.resources, List.flatMap_map]
  · rw [made.outputs, List.flatMap_map]

theorem compileAll_filter :
    compileAll deployment (specs.filter (·.vpc.isSome)) = compileAll deployment specs := by
  rw [compileAll, Compilation.foldlM_filter, compileAll]

/-- Clusters that fit together do so in any order, with the same templates. -/
theorem FitTogether.perm (fit : FitTogether deployment specs templates) (reordered : specs.Perm others) :
    ∃ moved, FitTogether deployment others moved ∧ templates.Perm moved := by
  have networked := reordered.filter (·.vpc.isSome)
  obtain ⟨moved, compiled, permuted⟩ :
      ∃ moved, List.Forall₂ (fun spec part => compile deployment spec = .ok part)
        (others.filter (·.vpc.isSome)) moved ∧ moved.Perm templates :=
    List.perm_comp_forall₂ networked.symm fit.compiled
  refine ⟨moved, ⟨compiled, ?_, ?_⟩, permuted.symm⟩
  · exact (networked.flatMap_right _).nodup_iff.mp fit.prefixes
  · exact (permuted.pairwise_iff fun apart => apart.symm).mpr fit.apart

theorem Template.Concatenates.get?_eq {moved : List Template} (concatenates : template.Concatenates templates)
    (otherConcatenates : other.Concatenates moved) (permuted : templates.Perm moved) (key : String) :
    template.resources.get? key = other.resources.get? key ∧
      template.outputs.get? key = other.outputs.get? key := by
  constructor
  · ext resource
    rw [Registry.get?_eq_some, Registry.get?_eq_some, concatenates.resources, otherConcatenates.resources]
    exact (permuted.flatMap_right _).mem_iff
  · ext output
    rw [Registry.get?_eq_some, Registry.get?_eq_some, concatenates.outputs, otherConcatenates.outputs]
    exact (permuted.flatMap_right _).mem_iff

/-- A cluster alone is never refused for its prefixes, and its template goes into an empty one. -/
theorem compileAll_singleton {spec : ClusterSpec} (network : spec.vpc.isSome = true) :
    compileAll deployment [spec] = compile deployment spec := by
  obtain ⟨vpc, given⟩ := Option.isSome_iff_exists.mp network
  cases outcome : Cluster.resolve deployment spec with
  | error reason =>
    simp [compileAll, compile, Compilation.next, Compilation.compileCluster, given, outcome, bind,
      Except.bind, Except.map]
  | ok cluster =>
    obtain ⟨claims, claimed⟩ : ∃ claims, cluster.prefixes.foldlM PrefixClaims.claim
        Compilation.start.claims = .ok claims := by
      rw [PrefixClaims.exists_claimAll_iff, Compilation.start, Registry.entries_empty, List.nil_append,
        Cluster.keys_prefixes outcome]
      exact Cluster.nodup_prefixes outcome
    cases compiled : cluster.compile deployment with
    | error reason =>
      simp [compileAll, compile, Compilation.next, Compilation.compileCluster, given, outcome, claimed,
        compiled, bind, Except.bind, Except.map]
    | ok template =>
      have merged : Compilation.start.template.merge template = .ok template :=
        Template.merge_empty template
      simp [compileAll, compile, Compilation.next, Compilation.compileCluster, given, outcome, claimed,
        compiled, merged, bind, Except.bind, Except.map, pure, Except.pure]

end Parts

/-- A run over several clusters puts their templates side by side. -/
theorem compileAll_concatenates (deployment : Deployment) (specs : List ClusterSpec) :
    ((∃ template, compileAll deployment specs = .ok template) ↔
      ∃ parts, FitTogether deployment specs parts) ∧
    (∀ template parts, compileAll deployment specs = .ok template →
      FitTogether deployment specs parts → template.Concatenates parts) ∧
    compileAll deployment (specs.filter (·.vpc.isSome)) = compileAll deployment specs ∧
    (∀ others : List ClusterSpec, specs.Perm others →
      ((∃ template, compileAll deployment specs = .ok template) ↔
        ∃ other, compileAll deployment others = .ok other) ∧
      ∀ template other, compileAll deployment specs = .ok template →
        compileAll deployment others = .ok other → ∀ key,
          template.resources.get? key = other.resources.get? key ∧
            template.outputs.get? key = other.outputs.get? key) ∧
    (∀ spec : ClusterSpec, specs = [spec] → spec.vpc.isSome = true →
      compileAll deployment specs = compile deployment spec) := by
  refine ⟨exists_compileAll_iff, ?_, compileAll_filter, ?_, ?_⟩
  · intro template parts compiled fit
    exact concatenates_of_compileAll compiled fit.compiled
  · intro others reordered
    constructor
    · rw [exists_compileAll_iff, exists_compileAll_iff]
      constructor
      · rintro ⟨parts, fit⟩
        obtain ⟨moved, refit, _⟩ := fit.perm reordered
        exact ⟨moved, refit⟩
      · rintro ⟨parts, fit⟩
        obtain ⟨moved, refit, _⟩ := fit.perm reordered.symm
        exact ⟨moved, refit⟩
    · intro template other compiled otherCompiled key
      obtain ⟨parts, fit⟩ := exists_compileAll_iff.mp ⟨template, compiled⟩
      obtain ⟨moved, refit, permuted⟩ := fit.perm reordered
      exact (concatenates_of_compileAll compiled fit.compiled).get?_eq
        (concatenates_of_compileAll otherCompiled refit.compiled) permuted key
  · intro spec alone network
    subst alone
    exact compileAll_singleton network

/-- Two clusters whose templates stand side by side. -/
theorem compileAll_concatenates_pair : ∃ template parts,
    compileAll (.ofService "dev" "shop") [.minimal "main" [.minimal "web" "nginx"], .minimal "jobs" []] =
        .ok template ∧
      FitTogether (.ofService "dev" "shop")
        [.minimal "main" [.minimal "web" "nginx"], .minimal "jobs" []] parts ∧
      parts.length = 2 ∧ template.Concatenates parts := by
  obtain ⟨template, compiled⟩ : ∃ template,
      compileAll (.ofService "dev" "shop") [.minimal "main" [.minimal "web" "nginx"], .minimal "jobs" []] =
        .ok template := exists_of_isOk (by decide +kernel)
  obtain ⟨succeeds, concatenates, -⟩ := compileAll_concatenates (.ofService "dev" "shop")
    [.minimal "main" [.minimal "web" "nginx"], .minimal "jobs" []]
  obtain ⟨parts, fit⟩ := succeeds.mp ⟨template, compiled⟩
  exact ⟨template, parts, compiled, fit, fit.compiled.length_eq.symm,
    concatenates template parts compiled fit⟩

end ClusterStack
