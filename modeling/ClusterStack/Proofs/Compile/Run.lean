import ClusterStack.Compile
import ClusterStack.Proofs.Template.Growth

/-!
# Runs over several clusters

The clusters that have a network are compiled one after the other, each on its own. What has been
reached holds their prefixes and the entries of their templates, in order.
-/

set_option autoImplicit false

namespace ClusterStack

variable {deployment : Deployment}

/-- A cluster with its template. -/
structure CompiledCluster where
  cluster : Cluster
  template : Template

/-- The cluster of a description and its template. -/
structure CompiledCluster.Compiles (deployment : Deployment) (spec : ClusterSpec)
    (compiled : CompiledCluster) : Prop where
  resolved : Cluster.resolve deployment spec = .ok compiled.cluster
  compiled : compiled.cluster.compile deployment = .ok compiled.template

namespace PrefixClaims

theorem claim_eq_ok {claims larger : PrefixClaims} {entry : String × String} :
    claims.claim entry = .ok larger ↔
      entry.1 ∉ Registry.keys claims ∧ larger.entries = claims.entries ++ [entry] := by
  obtain ⟨name, owner⟩ := entry
  simp only [claim]
  split
  · rename_i first found
    have taken : name ∈ Registry.keys claims :=
      Registry.mem_keys.mpr ⟨first, Registry.get?_eq_some.mp found⟩
    simp [taken]
  · rename_i found
    have free := Registry.get?_eq_none.mp found
    constructor
    · intro claimed
      cases claimed
      exact ⟨free, rfl⟩
    · rintro ⟨-, entries⟩
      rw [Except.ok.injEq]
      exact Registry.eq_of_entries_eq entries.symm

theorem claim_eq_error {claims : PrefixClaims} {entry : String × String} {reason : CompileError}
    (refused : claims.claim entry = .error reason) :
    entry.1 ∈ Registry.keys claims ∧ reason.isInvariantViolation = false := by
  obtain ⟨name, owner⟩ := entry
  simp only [claim] at refused
  split at refused
  · rename_i first found
    cases refused
    exact ⟨Registry.mem_keys.mpr ⟨first, Registry.get?_eq_some.mp found⟩, rfl⟩
  · cases refused

/-- Prefixes that are claimed are added in order. -/
theorem entries_of_claimAll {claims larger : PrefixClaims} {entries : List (String × String)}
    (claimed : entries.foldlM claim claims = .ok larger) :
    larger.entries = claims.entries ++ entries := by
  refine foldlM_preserves claimed (fun taken state => state.entries = claims.entries ++ taken)
    (by simp) ?_
  intro before entry state next _ holds stepped
  rw [(claim_eq_ok.mp stepped).2, holds, List.append_assoc]

end PrefixClaims

namespace Compilation

variable {compilation larger : Compilation} {specs : List ClusterSpec}

/-- What has been reached is made of these clusters. -/
structure MadeOf (compilation : Compilation) (parts : List CompiledCluster) : Prop where
  claims : compilation.claims.entries = parts.flatMap (·.cluster.prefixes)
  resources : compilation.template.resources.entries =
    parts.flatMap (·.template.resources.entries)
  outputs : compilation.template.outputs.entries = parts.flatMap (·.template.outputs.entries)

theorem MadeOf.mem_resources {parts : List CompiledCluster} (made : compilation.MadeOf parts)
    {entry : String × Resource} : entry ∈ compilation.template.resources.entries ↔
      ∃ part ∈ parts, entry ∈ part.template.resources.entries := by
  rw [made.resources, List.mem_flatMap]

theorem MadeOf.mem_outputs {parts : List CompiledCluster} (made : compilation.MadeOf parts)
    {entry : String × Output} : entry ∈ compilation.template.outputs.entries ↔
      ∃ part ∈ parts, entry ∈ part.template.outputs.entries := by
  rw [made.outputs, List.mem_flatMap]

theorem MadeOf.mem_keys {parts : List CompiledCluster} (made : compilation.MadeOf parts) {key : String} :
    key ∈ compilation.template.resources.keys ↔ ∃ part ∈ parts, key ∈ part.template.resources.keys := by
  simp only [Registry.mem_keys, made.mem_resources]
  constructor
  · rintro ⟨resource, part, member, present⟩
    exact ⟨part, member, resource, present⟩
  · rintro ⟨part, member, resource, present⟩
    exact ⟨resource, part, member, present⟩

/-- A cluster with a network is taken in if it can be settled, its prefixes are free, it compiles, and
its entries are free. -/
theorem next_eq_ok {spec : ClusterSpec} (network : spec.vpc.isSome = true) :
    compilation.next deployment spec = .ok larger ↔
      ∃ part : CompiledCluster, part.Compiles deployment spec ∧
        part.cluster.prefixes.foldlM PrefixClaims.claim compilation.claims = .ok larger.claims ∧
          compilation.template.merge part.template = .ok larger.template := by
  obtain ⟨vpc, given⟩ := Option.isSome_iff_exists.mp network
  simp only [Compilation.next, given, Option.isNone_some, Bool.false_eq_true, if_false, compileCluster,
    bind_eq_ok, pure_eq_ok, Prod.exists, Prod.mk.injEq]
  constructor
  · rintro ⟨claims, compiled, ⟨cluster, resolved, _, claimed, _, made, rfl, rfl⟩, template, merged, rfl⟩
    exact ⟨⟨cluster, compiled⟩, ⟨resolved, made⟩, claimed, merged⟩
  · rintro ⟨⟨cluster, compiled⟩, ⟨resolved, made⟩, claimed, merged⟩
    exact ⟨larger.claims, compiled, ⟨cluster, resolved, _, claimed, _, made, rfl, rfl⟩, larger.template,
      merged, rfl⟩

theorem next_of_isNone {spec : ClusterSpec} (none : spec.vpc.isSome = false) :
    compilation.next deployment spec = .ok compilation := by
  simp only [Option.isSome_eq_false_iff] at none
  simp [Compilation.next, none]

/-- Taking a cluster in adds its prefixes and its template to what has been reached. -/
theorem MadeOf.extend {parts : List CompiledCluster} (made : compilation.MadeOf parts)
    {part : CompiledCluster}
    (claimed : part.cluster.prefixes.foldlM PrefixClaims.claim compilation.claims = .ok larger.claims)
    (merged : compilation.template.merge part.template = .ok larger.template) :
    larger.MadeOf (parts ++ [part]) := by
  obtain ⟨resources, outputs⟩ := Template.entries_of_merge_eq_ok merged
  constructor
  · rw [PrefixClaims.entries_of_claimAll claimed, made.claims]
    simp
  · rw [resources, made.resources]
    simp
  · rw [outputs, made.outputs]
    simp

/-- A run leads to the clusters that have a network, each compiled on its own. -/
theorem exists_parts (ran : specs.foldlM (Compilation.next deployment) .start = .ok compilation) :
    ∃ parts, List.Forall₂ (CompiledCluster.Compiles deployment) (specs.filter (·.vpc.isSome)) parts ∧
      compilation.MadeOf parts := by
  refine foldlM_preserves ran (fun done state => ∃ parts,
    List.Forall₂ (CompiledCluster.Compiles deployment) (done.filter (·.vpc.isSome)) parts ∧
      state.MadeOf parts) ⟨[], .nil, rfl, rfl, rfl⟩ ?_
  rintro before spec state next - ⟨parts, related, made⟩ stepped
  rw [List.filter_append]
  cases network : spec.vpc.isSome with
  | false =>
    rw [next_of_isNone network, Except.ok.injEq] at stepped
    subst stepped
    exact ⟨parts, by simpa [network] using related, made⟩
  | true =>
    obtain ⟨part, compiles, claimed, merged⟩ := (next_eq_ok network).mp stepped
    refine ⟨parts ++ [part], ?_, made.extend claimed merged⟩
    simpa [network] using List.rel_append related (.cons compiles .nil)

end Compilation

/-- A template of several clusters is made of the templates of those with a network. -/
theorem compileAll_eq_ok {specs : List ClusterSpec} {template : Template} :
    compileAll deployment specs = .ok template ↔
      ∃ compilation, specs.foldlM (Compilation.next deployment) .start = .ok compilation ∧
        compilation.template = template := by
  rw [compileAll, map_eq_ok]

end ClusterStack
