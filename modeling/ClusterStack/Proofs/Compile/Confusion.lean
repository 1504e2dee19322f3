import ClusterStack.Proofs.Cluster.Keys
import ClusterStack.Proofs.Compile.Closure
import ClusterStack.Proofs.Compile.Run
import ClusterStack.Proofs.Spec.Minimal

/-!
# Confusion of ids

The id of a group that admits everyone to a service ends in the token of the service, which may itself
end like the id of another resource. Clusters are refused for two resources with one id in this case,
and in this case only.
-/

set_option autoImplicit false

namespace ClusterStack

variable {deployment : Deployment} {spec : ClusterSpec}

/-- A cluster is refused for a resource that is there already exactly if the groups of its services are
confused with others of its resources. -/
theorem Cluster.Settled.compile_eq_duplicateResource {cluster : Cluster}
    (settled : cluster.Settled deployment spec) :
    (∃ key, cluster.compile deployment = .error (.duplicateResource key)) ↔
      Cluster.Confuses deployment cluster cluster := by
  obtain ⟨declarations, declared⟩ := settled.exists_declarations
  rw [← settled.ofDeclarations_eq_duplicateResource declared]
  refine exists_congr fun key => ?_
  rw [Cluster.compile_eq_error_iff declared]
  constructor
  · intro refused
    cases refused with
    | inl clash => exact clash
    | inr unchecked =>
      obtain ⟨template, -, refused⟩ := unchecked
      rcases Template.checkReferences_eq_error refused with ⟨_, _, other⟩ | other <;> cases other
  · exact .inl

namespace CompiledCluster.Compiles

variable {part : CompiledCluster}

theorem mem_keys_iff (compiles : part.Compiles deployment spec) {key : String} :
    key ∈ part.template.resources.keys ↔ ∃ label ∈ part.cluster.labels, deployment.idOf label = key := by
  obtain ⟨declarations, declared, made, -⟩ := Cluster.compile_eq_ok.mp compiles.compiled
  exact (Cluster.settled_of_resolve compiles.resolved).mem_keys_iff declared made

/-- Clusters with different prefixes have a key in common exactly if groups of the one are confused with
resources of the other. -/
theorem exists_common_key_iff {other : CompiledCluster} {otherSpec : ClusterSpec}
    (compiles : part.Compiles deployment spec) (otherCompiles : other.Compiles deployment otherSpec)
    (apart : (Entries.keys part.cluster.prefixes).Disjoint (Entries.keys other.cluster.prefixes)) :
    (∃ key ∈ part.template.resources.keys, key ∈ other.template.resources.keys) ↔
      Cluster.Confuses deployment part.cluster other.cluster ∨
        Cluster.Confuses deployment other.cluster part.cluster := by
  simp only [compiles.mem_keys_iff, otherCompiles.mem_keys_iff]
  constructor
  · rintro ⟨key, ⟨a, here, rfl⟩, b, there, same⟩
    refine Cluster.confuses_of_idOf_eq here there ?_ same.symm
    rintro rfl
    exact apart (Cluster.owner_mem_prefixes here) (Cluster.owner_mem_prefixes there)
  · rintro (⟨group, listed, label, member, -, same⟩ | ⟨group, listed, label, member, -, same⟩)
    · exact ⟨_, ⟨group, Cluster.mem_labels_of_mem_groupLabels listed, rfl⟩, label, member, same.symm⟩
    · exact ⟨_, ⟨label, member, rfl⟩, group, Cluster.mem_labels_of_mem_groupLabels listed, same⟩

end CompiledCluster.Compiles

namespace Compilation

/-- A run over some clusters comes to this one: it can be settled, and its prefixes are free. -/
structure Reaches (deployment : Deployment) (done : List ClusterSpec) (spec : ClusterSpec)
    (cluster : Cluster) : Prop where
  network : spec.vpc.isSome = true
  resolved : Cluster.resolve deployment spec = .ok cluster
  claimed : ∃ state claims, done.foldlM (Compilation.next deployment) .start = .ok state ∧
    cluster.prefixes.foldlM PrefixClaims.claim state.claims = .ok claims

/-- A cluster is not taken in because it cannot be settled, because its prefixes are in use, or because
it does not compile or does not fit. -/
theorem next_eq_error {compilation : Compilation} {reason : CompileError} :
    compilation.next deployment spec = .error reason ↔ spec.vpc.isSome = true ∧
      (Cluster.resolve deployment spec = .error reason ∨
        ∃ cluster, Cluster.resolve deployment spec = .ok cluster ∧
          (cluster.prefixes.foldlM PrefixClaims.claim compilation.claims = .error reason ∨
            ∃ claims, cluster.prefixes.foldlM PrefixClaims.claim compilation.claims = .ok claims ∧
              (cluster.compile deployment = .error reason ∨
                ∃ template, cluster.compile deployment = .ok template ∧
                  compilation.template.merge template = .error reason))) := by
  cases network : spec.vpc with
  | none => simp [next, network]
  | some vpc =>
    simp only [next, network, Option.isNone_some, Bool.false_eq_true, if_false, compileCluster,
      bind_eq_error, bind_eq_ok, Prod.exists, Option.isSome_some, true_and]
    constructor
    · rintro ((unresolved | ⟨cluster, resolved, unclaimed | ⟨claims, claimed, uncompiled |
        ⟨template, -, impossible⟩⟩⟩) | ⟨claims, template, ⟨cluster, resolved, _, claimed, _, compiled, made⟩,
          unmerged | ⟨_, -, impossible⟩⟩)
      · exact .inl unresolved
      · exact .inr ⟨cluster, resolved, .inl unclaimed⟩
      · exact .inr ⟨cluster, resolved, .inr ⟨claims, claimed, .inl uncompiled⟩⟩
      · cases impossible
      · cases made
        exact .inr ⟨cluster, resolved, .inr ⟨claims, claimed, .inr ⟨template, compiled, unmerged⟩⟩⟩
      · cases impossible
    · rintro (unresolved | ⟨cluster, resolved, unclaimed | ⟨claims, claimed, uncompiled |
        ⟨template, compiled, unmerged⟩⟩⟩)
      · exact .inl (.inl unresolved)
      · exact .inl (.inr ⟨cluster, resolved, .inl unclaimed⟩)
      · exact .inl (.inr ⟨cluster, resolved, .inr ⟨claims, claimed, .inl uncompiled⟩⟩)
      · exact .inr ⟨claims, template, ⟨cluster, resolved, claims, claimed, template, compiled, rfl⟩,
          .inl unmerged⟩

/-- The keys of a cluster whose prefixes are free are those of an earlier one exactly if groups of the
one are confused with resources of the other. -/
theorem merge_eq_duplicateResource {compilation : Compilation} {parts : List CompiledCluster}
    {specs : List ClusterSpec} (related : List.Forall₂ (CompiledCluster.Compiles deployment) specs parts)
    (made : compilation.MadeOf parts) {part : CompiledCluster} (compiles : part.Compiles deployment spec)
    {claims : PrefixClaims}
    (claimed : part.cluster.prefixes.foldlM PrefixClaims.claim compilation.claims = .ok claims) :
    (∃ key, compilation.template.merge part.template = .error (.duplicateResource key)) ↔
      ∃ earlier ∈ parts, Cluster.Confuses deployment part.cluster earlier.cluster ∨
        Cluster.Confuses deployment earlier.cluster part.cluster := by
  have distinct := claims.distinct
  rw [PrefixClaims.entries_of_claimAll claimed, made.claims, Entries.keys_append,
    List.nodup_append'] at distinct
  have apart : ∀ earlier ∈ parts,
      (Entries.keys part.cluster.prefixes).Disjoint (Entries.keys earlier.cluster.prefixes) := by
    intro earlier member name here there
    obtain ⟨owner, there⟩ := Entries.mem_keys.mp there
    exact distinct.2.2 (Entries.mem_keys_of_mem (List.mem_flatMap.mpr ⟨earlier, member, there⟩)) here
  rw [Template.merge_eq_duplicateResource]
  constructor
  · rintro ⟨key, before, here⟩
    obtain ⟨earlier, member, there⟩ := made.mem_keys.mp before
    obtain ⟨earlierSpec, -, earlierCompiles⟩ := exists_of_forall₂_right related member
    exact ⟨earlier, member,
      (compiles.exists_common_key_iff earlierCompiles (apart earlier member)).mp ⟨key, here, there⟩⟩
  · rintro ⟨earlier, member, confused⟩
    obtain ⟨earlierSpec, -, earlierCompiles⟩ := exists_of_forall₂_right related member
    obtain ⟨key, here, there⟩ :=
      (compiles.exists_common_key_iff earlierCompiles (apart earlier member)).mpr confused
    exact ⟨key, made.mem_keys.mpr ⟨earlier, member, there⟩, here⟩

/-- A further cluster is refused for a resource that is there already exactly if it is reached, and is
confused with itself, or compiles and is confused with an earlier one. -/
theorem next_eq_duplicateResource {compilation : Compilation} {parts : List CompiledCluster}
    {specs : List ClusterSpec} (related : List.Forall₂ (CompiledCluster.Compiles deployment) specs parts)
    (made : compilation.MadeOf parts) :
    (∃ key, compilation.next deployment spec = .error (.duplicateResource key)) ↔
      ∃ cluster claims, spec.vpc.isSome = true ∧ Cluster.resolve deployment spec = .ok cluster ∧
        cluster.prefixes.foldlM PrefixClaims.claim compilation.claims = .ok claims ∧
          (Cluster.Confuses deployment cluster cluster ∨
            ∃ template, cluster.compile deployment = .ok template ∧
              ∃ earlier ∈ parts, Cluster.Confuses deployment cluster earlier.cluster ∨
                Cluster.Confuses deployment earlier.cluster cluster) := by
  simp only [next_eq_error]
  constructor
  · rintro ⟨key, network, unresolved | ⟨cluster, resolved, unclaimed | ⟨claims, claimed, uncompiled |
      ⟨template, compiled, unmerged⟩⟩⟩⟩
    · cases Cluster.fault_of_resolve unresolved
    · obtain ⟨_, _, _, _, -, -, refused⟩ := foldlM_eq_error.mp unclaimed
      cases (PrefixClaims.claim_eq_error refused).2
    · exact ⟨cluster, claims, network, resolved, claimed, .inl
        ((Cluster.settled_of_resolve resolved).compile_eq_duplicateResource.mp ⟨key, uncompiled⟩)⟩
    · have compiles : CompiledCluster.Compiles deployment spec ⟨cluster, template⟩ := ⟨resolved, compiled⟩
      exact ⟨cluster, claims, network, resolved, claimed, .inr ⟨template, compiled,
        (merge_eq_duplicateResource related made compiles claimed).mp ⟨key, unmerged⟩⟩⟩
  · rintro ⟨cluster, claims, network, resolved, claimed, confused | ⟨template, compiled, confused⟩⟩
    · obtain ⟨key, uncompiled⟩ :=
        (Cluster.settled_of_resolve resolved).compile_eq_duplicateResource.mpr confused
      exact ⟨key, network, .inr ⟨cluster, resolved, .inr ⟨claims, claimed, .inl uncompiled⟩⟩⟩
    · have compiles : CompiledCluster.Compiles deployment spec ⟨cluster, template⟩ := ⟨resolved, compiled⟩
      obtain ⟨key, unmerged⟩ := (merge_eq_duplicateResource related made compiles claimed).mpr confused
      exact ⟨key, network, .inr ⟨cluster, resolved, .inr ⟨claims, claimed,
        .inr ⟨template, compiled, unmerged⟩⟩⟩⟩

end Compilation

/-- Several clusters are refused for a resource that is there already exactly if the run comes to a
cluster where a group that admits everyone to a service has the id of something else: of another
resource of the cluster, or, if the cluster compiles, of a resource of an earlier one; or the other way
around. -/
theorem compileAll_eq_duplicateResource_iff (deployment : Deployment) (specs : List ClusterSpec) :
    (∃ key, compileAll deployment specs = .error (.duplicateResource key)) ↔
      ∃ done spec rest cluster, specs = done ++ spec :: rest ∧
        Compilation.Reaches deployment done spec cluster ∧
          (Cluster.Confuses deployment cluster cluster ∨
            (∃ template, cluster.compile deployment = .ok template) ∧
              ∃ earlier ∈ done, earlier.vpc.isSome = true ∧
                ∃ other, Cluster.resolve deployment earlier = .ok other ∧
                  (Cluster.Confuses deployment cluster other ∨
                    Cluster.Confuses deployment other cluster)) := by
  simp only [compileAll, map_eq_error, foldlM_eq_error]
  constructor
  · rintro ⟨key, done, spec, rest, state, split, ran, refused⟩
    obtain ⟨parts, related, made⟩ := Compilation.exists_parts ran
    obtain ⟨cluster, claims, network, resolved, claimed, confused⟩ :=
      (Compilation.next_eq_duplicateResource related made).mp ⟨key, refused⟩
    refine ⟨done, spec, rest, cluster, split, ⟨network, resolved, state, claims, ran, claimed⟩, ?_⟩
    rcases confused with itself | ⟨template, compiled, part, member, confused⟩
    · exact .inl itself
    · obtain ⟨earlier, listed, compiles⟩ := exists_of_forall₂_right related member
      obtain ⟨before, earlierNetwork⟩ := List.mem_filter.mp listed
      exact .inr ⟨⟨template, compiled⟩, earlier, before, earlierNetwork, part.cluster, compiles.resolved,
        confused⟩
  · rintro ⟨done, spec, rest, cluster, split, ⟨network, resolved, state, claims, ran, claimed⟩, confused⟩
    obtain ⟨parts, related, made⟩ := Compilation.exists_parts ran
    have refused : ∃ key, state.next deployment spec = .error (.duplicateResource key) := by
      refine (Compilation.next_eq_duplicateResource related made).mpr
        ⟨cluster, claims, network, resolved, claimed, ?_⟩
      rcases confused with itself | ⟨⟨template, compiled⟩, earlier, before, earlierNetwork, other,
        otherResolved, confused⟩
      · exact .inl itself
      · obtain ⟨part, member, compiles⟩ :=
          exists_of_forall₂_left related (List.mem_filter.mpr ⟨before, earlierNetwork⟩)
        obtain rfl : other = part.cluster := by simpa [otherResolved] using compiles.resolved
        exact .inr ⟨template, compiled, part, member, confused⟩
    obtain ⟨key, refused⟩ := refused
    exact ⟨key, done, spec, rest, state, split, ran, refused⟩

/-- A cluster with two services, of which the first has the id of the second one's group. -/
def confusedCluster : ClusterSpec :=
  .minimal "api" [.minimal "a l b sec group dev x" "nginx",
    (ServiceSpec.minimal "x service dev" "nginx").listening [.minimal .http]]

/-- The two services have distinct tokens, and yet the cluster is refused. -/
theorem compileAll_confusedCluster : compileAll (.ofService "dev" "my-app") [confusedCluster] =
    .error (.duplicateResource "MyappApiALBSecGroupDevXServiceDev") :=
  eq_error_of_refusedFor (by decide +kernel)

end ClusterStack
