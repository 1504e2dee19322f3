import ClusterStack.Proofs.Compile.Concatenation
import ClusterStack.Proofs.Compile.Confusion
import Mathlib.Data.List.Flatten

/-!
# Endpoints

The output for an attached listener has a key that is made of the prefix of its service, the stage, the
protocol and the port, with nothing in between. Yet no two listeners have the same key, as long as the
prefixes of their services differ, so that an output is never there already.
-/

set_option autoImplicit false

namespace ClusterStack

variable {deployment : Deployment} {spec : ClusterSpec} {specs : List ClusterSpec}

/-- The keys for the addresses of the attached listeners, whether or not there are outputs for them. -/
def Cluster.endpointKeys (cluster : Cluster) : List String :=
  cluster.services.flatMap fun service => service.attachedListeners.map (·.outputKey)

theorem Listener.Settled.outputKey_eq {servicePrefix : String} {albDisabled : Bool} {listener : Listener}
    (settled : listener.Settled deployment servicePrefix albDisabled)
    (attached : listener.isAttached = true) :
    ∃ protocol, listener.protocol = some protocol ∧ listener.outputKey =
      servicePrefix ++ "Service" ++ deployment.stageToken ++ protocol.text ++ toString listener.port := by
  obtain ⟨protocol, declares⟩ := settled.exists_protocol attached
  refine ⟨protocol, declares, ?_⟩
  rw [settled.outputKey protocol declares, Deployment.idOf, Deployment.numberedId, Deployment.logicalId,
    Mark.text, Role.tag, ← String.append_assoc]

theorem Listener.map_outputKey_attached {servicePrefix : String} {albDisabled : Bool}
    {listeners : List Listener}
    (settled : ∀ listener ∈ listeners, listener.Settled deployment servicePrefix albDisabled) :
    (listeners.filter (·.isAttached)).map (·.outputKey) =
      (listeners.flatMap (outputLabels servicePrefix)).map deployment.idOf := by
  induction listeners with
  | nil => rfl
  | cons first rest ih =>
    have others := ih fun listener member => settled listener (.tail _ member)
    rw [List.flatMap_cons, List.map_append, ← others]
    cases attached : first.isAttached with
    | false => simp [outputLabels, attached]
    | true =>
      have settles := settled first (.head _)
      obtain ⟨protocol, declares⟩ := settles.exists_protocol attached
      simp [outputLabels, attached, declares, settles.outputKey protocol declares]

namespace Cluster

variable {cluster : Cluster}

theorem Settled.endpointKeys (settled : cluster.Settled deployment spec) :
    cluster.endpointKeys = cluster.endpointLabels.map deployment.idOf := by
  rw [Cluster.endpointKeys, endpointLabels, List.map_flatMap]
  exact List.flatMap_congr fun service member =>
    Listener.map_outputKey_attached (settled.service member).2.listeners

theorem owner_mem_prefixes_of_endpoint {label : Label} (member : label ∈ cluster.endpointLabels) :
    label.owner ∈ Entries.keys cluster.prefixes := by
  obtain ⟨service, present, listed⟩ := List.mem_flatMap.mp member
  rw [(service.belongs_outputLabels label listed).1]
  exact List.mem_cons_of_mem _ (List.mem_map.mpr ⟨_, List.mem_map_of_mem present, rfl⟩)

/-- The listeners of clusters with different prefixes have different keys, for these are ids of labels
that are never confused. -/
theorem Settled.disjoint_endpointKeys {other : Cluster} {otherSpec : ClusterSpec}
    (settled : cluster.Settled deployment spec) (otherSettled : other.Settled deployment otherSpec)
    (apart : (Entries.keys cluster.prefixes).Disjoint (Entries.keys other.prefixes)) :
    cluster.endpointKeys.Disjoint other.endpointKeys := by
  rw [settled.endpointKeys, otherSettled.endpointKeys]
  intro key here there
  obtain ⟨label, member, rfl⟩ := List.mem_map.mp here
  obtain ⟨otherLabel, otherMember, same⟩ := List.mem_map.mp there
  obtain rfl := Label.eq_of_idOf_eq (other.isPlain_endpointLabels otherLabel otherMember)
    (cluster.isPlain_endpointLabels label member) same
  exact apart (owner_mem_prefixes_of_endpoint member) (owner_mem_prefixes_of_endpoint otherMember)

theorem nodup_endpointKeys {clusters : List Cluster}
    (settled : ∀ cluster ∈ clusters, ∃ spec, cluster.Settled deployment spec)
    (prefixes : (Entries.keys (clusters.flatMap (·.prefixes))).Nodup) :
    (clusters.flatMap (·.endpointKeys)).Nodup := by
  rw [Entries.keys, List.map_flatMap, List.nodup_flatMap] at prefixes
  refine List.nodup_flatMap.mpr ⟨?_, ?_⟩
  · intro cluster member
    obtain ⟨spec, settles⟩ := settled cluster member
    rw [settles.endpointKeys]
    exact settles.nodup_endpointIds
  · apply prefixes.2.imp_of_mem
    intro left right leftMember rightMember apart
    obtain ⟨leftSpec, leftSettled⟩ := settled left leftMember
    obtain ⟨rightSpec, rightSettled⟩ := settled right rightMember
    exact leftSettled.disjoint_endpointKeys rightSettled apart

theorem Settled.compile_ne_duplicateOutput (settled : cluster.Settled deployment spec) (key : String) :
    cluster.compile deployment ≠ .error (.duplicateOutput key) := by
  intro refused
  obtain ⟨declarations, declared⟩ := settled.exists_declarations
  cases (compile_eq_error_iff declared).mp refused with
  | inl clash =>
    have distinct : (Entries.keys (Template.empty.outputs.entries ++
        declarations.filterMap Declaration.output?)).Nodup := settled.nodup_outputKeys declared
    exact Template.declareAll_ne_duplicateOutput distinct key clash
  | inr unchecked =>
    obtain ⟨template, -, refused⟩ := unchecked
    rcases Template.checkReferences_eq_error refused with ⟨_, _, other⟩ | other <;> cases other

end Cluster

/-- A template has outputs for the attached listeners of its cluster, or none at all. -/
theorem CompiledCluster.Compiles.outputs_sublist {part : CompiledCluster}
    (compiles : part.Compiles deployment spec) :
    (Entries.keys part.template.outputs.entries).Sublist part.cluster.endpointKeys := by
  have settled := Cluster.settled_of_resolve compiles.resolved
  obtain ⟨declarations, declared, made, -⟩ := Cluster.compile_eq_ok.mp compiles.compiled
  have keys : Entries.keys part.template.outputs.entries =
      part.cluster.outputLabels.map deployment.idOf := by
    rw [Template.outputs_of_ofDeclarations made]
    exact Cluster.outputKeys_declarations settled declared
  rw [keys, settled.endpointKeys]
  exact part.cluster.outputLabels_sublist.map _

namespace Compilation

variable {compilation : Compilation} {parts : List CompiledCluster}

/-- A cluster whose prefixes are free has no output in common with the clusters before it. -/
theorem merge_ne_duplicateOutput
    (related : List.Forall₂ (CompiledCluster.Compiles deployment) specs parts)
    (made : compilation.MadeOf parts) {part : CompiledCluster} (compiles : part.Compiles deployment spec)
    {claims : PrefixClaims}
    (claimed : part.cluster.prefixes.foldlM PrefixClaims.claim compilation.claims = .ok claims)
    (key : String) : compilation.template.merge part.template ≠ .error (.duplicateOutput key) := by
  have compiled : ∀ each ∈ parts ++ [part], ∃ spec, each.Compiles deployment spec := by
    intro each member
    cases List.mem_append.mp member with
    | inl before =>
      obtain ⟨spec, -, holds⟩ := exists_of_forall₂_right related before
      exact ⟨spec, holds⟩
    | inr last =>
      obtain rfl := List.mem_singleton.mp last
      exact ⟨spec, compiles⟩
  have endpoints : (((parts ++ [part]).map (·.cluster)).flatMap (·.endpointKeys)).Nodup := by
    apply Cluster.nodup_endpointKeys
    · intro cluster member
      obtain ⟨each, listed, rfl⟩ := List.mem_map.mp member
      obtain ⟨spec, holds⟩ := compiled each listed
      exact ⟨spec, Cluster.settled_of_resolve holds.resolved⟩
    · have distinct := claims.distinct
      rw [PrefixClaims.entries_of_claimAll claimed, made.claims] at distinct
      simpa [List.flatMap_map] using distinct
  rw [List.flatMap_map] at endpoints
  have outputs : (Entries.keys (compilation.template.outputs.entries ++
      part.template.outputs.entries)).Nodup := by
    have within := List.Sublist.flatMap_right (parts ++ [part]) fun each member =>
      (compiled each member).elim fun _ holds => holds.outputs_sublist
    have distinct := endpoints.sublist within
    rw [made.outputs]
    simpa [Entries.keys, List.map_flatMap] using distinct
  apply Template.declareAll_ne_duplicateOutput
  rw [Template.filterMap_output_declarations]
  exact outputs

theorem next_ne_duplicateOutput
    (related : List.Forall₂ (CompiledCluster.Compiles deployment) specs parts)
    (made : compilation.MadeOf parts) (key : String) :
    compilation.next deployment spec ≠ .error (.duplicateOutput key) := by
  intro refused
  obtain ⟨-, unresolved | ⟨cluster, resolved, unclaimed | ⟨claims, claimed, uncompiled |
    ⟨template, compiled, unmerged⟩⟩⟩⟩ := next_eq_error.mp refused
  · cases Cluster.fault_of_resolve unresolved
  · obtain ⟨_, _, _, _, -, -, refused⟩ := foldlM_eq_error.mp unclaimed
    cases (PrefixClaims.claim_eq_error refused).2
  · exact (Cluster.settled_of_resolve resolved).compile_ne_duplicateOutput key uncompiled
  · have compiles : CompiledCluster.Compiles deployment spec ⟨cluster, template⟩ := ⟨resolved, compiled⟩
    exact merge_ne_duplicateOutput related made compiles claimed key unmerged

end Compilation

/-- An output is never there already, neither in the template of one cluster nor in that of several: the
keys of the attached listeners of clusters are all different, if the prefixes of the clusters and of
their services are, which are claimed before anything is generated. -/
theorem endpoints_differ (deployment : Deployment) (specs : List ClusterSpec) :
    (∀ spec ∈ specs, ∀ key, compile deployment spec ≠ .error (.duplicateOutput key)) ∧
    (∀ key, compileAll deployment specs ≠ .error (.duplicateOutput key)) ∧
    ∀ clusters, List.Forall₂ (fun spec cluster => Cluster.resolve deployment spec = .ok cluster)
        (specs.filter (·.vpc.isSome)) clusters →
      (∀ cluster ∈ clusters, ∀ service ∈ cluster.services, ∀ listener ∈ service.attachedListeners,
        ∃ protocol, listener.protocol = some protocol ∧
          listener.outputKey = service.servicePrefix ++ "Service" ++ deployment.stageToken ++
            protocol.text ++ toString listener.port) ∧
      (((specs.filter (·.vpc.isSome)).flatMap (·.prefixes deployment)).Nodup →
        (clusters.flatMap (·.endpointKeys)).Nodup) := by
  refine ⟨fun spec _ key refused => ?_, fun key refused => ?_, fun clusters related => ⟨?_, ?_⟩⟩
  · cases bind_eq_error.mp refused with
    | inl fault => cases Cluster.fault_of_resolve fault
    | inr uncompiled =>
      obtain ⟨cluster, resolved, refused⟩ := uncompiled
      exact (Cluster.settled_of_resolve resolved).compile_ne_duplicateOutput key refused
  · rw [compileAll, map_eq_error, foldlM_eq_error] at refused
    obtain ⟨done, spec, rest, state, -, ran, refused⟩ := refused
    obtain ⟨parts, compiled, made⟩ := Compilation.exists_parts ran
    exact Compilation.next_ne_duplicateOutput compiled made key refused
  · intro cluster member service present listener attached
    obtain ⟨spec, -, resolved⟩ := exists_of_forall₂_right related member
    have settles := ((Cluster.settled_of_resolve resolved).service present).2
    obtain ⟨listed, isAttached⟩ := Service.mem_attachedListeners.mp attached
    exact (settles.listeners listener listed).outputKey_eq isAttached
  · intro prefixes
    apply Cluster.nodup_endpointKeys
    · intro cluster member
      obtain ⟨spec, -, resolved⟩ := exists_of_forall₂_right related member
      exact ⟨spec, Cluster.settled_of_resolve resolved⟩
    · have each : clusters.map (fun cluster => Entries.keys cluster.prefixes) =
          (specs.filter (·.vpc.isSome)).map (·.prefixes deployment) :=
        map_eq_of_forall₂ related fun spec _ cluster resolved => Cluster.keys_prefixes resolved
      rw [List.flatMap_def, ← each, ← List.flatMap_def] at prefixes
      rw [Entries.keys, List.map_flatMap]
      exact prefixes

/-- Two clusters, each with a service of the same name and listeners on both default ports. -/
def listeningClusters : List ClusterSpec :=
  ["main", "jobs"].map fun name => .minimal name [(ServiceSpec.minimal "web" "nginx").listening [
    .minimal .http, { ListenerSpec.minimal .https with certificateArns := some ["arn"] }]]

/-- The four listeners of the two clusters have different keys. -/
theorem endpoints_differ_listeningClusters : ∃ clusters,
    List.Forall₂ (fun spec cluster => Cluster.resolve (.ofService "dev" "shop") spec = .ok cluster)
      listeningClusters clusters ∧
    (listeningClusters.flatMap (·.prefixes (.ofService "dev" "shop"))).Nodup ∧
    clusters.flatMap (·.endpointKeys) = ["ShopMainWebServiceDevHTTP80", "ShopMainWebServiceDevHTTPS443",
      "ShopJobsWebServiceDevHTTP80", "ShopJobsWebServiceDevHTTPS443"] ∧
    (clusters.flatMap (·.endpointKeys)).Nodup := by
  obtain ⟨clusters, resolved, keys⟩ : ∃ clusters,
      listeningClusters.mapM (Cluster.resolve (.ofService "dev" "shop")) = .ok clusters ∧
        decide (clusters.flatMap (·.endpointKeys) = ["ShopMainWebServiceDevHTTP80",
          "ShopMainWebServiceDevHTTPS443", "ShopJobsWebServiceDevHTTP80",
          "ShopJobsWebServiceDevHTTPS443"]) = true :=
    exists_of_passes (by decide +kernel)
  have related := mapM_eq_ok.mp resolved
  have prefixes : (listeningClusters.flatMap (·.prefixes (.ofService "dev" "shop"))).Nodup := by
    decide +kernel
  have differ := ((endpoints_differ (.ofService "dev" "shop") listeningClusters).2.2 clusters related).2
  exact ⟨clusters, related, prefixes, of_decide_eq_true keys, differ prefixes⟩

end ClusterStack
