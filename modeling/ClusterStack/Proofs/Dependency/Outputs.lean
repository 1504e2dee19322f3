import ClusterStack.Proofs.Dependency.Circles
import ClusterStack.Proofs.Dependency.Edges

/-!
# Outputs in the dependency graph

The edges of an output start at its key, as those of a resource do. Nothing can depend on an output, but
where its key is one that something refers to, its edges go on from there. So the search finds a circle
exactly if the resources go round in one, or if some output leads back to its own key.
-/

set_option autoImplicit false

namespace ClusterStack

variable {template : Template} {source target : String}

namespace Template

/-- The resource under a key refers to the target, or lists it among its dependencies. -/
def ResourceTargets (template : Template) (source target : String) : Prop :=
  ∃ resource, (source, resource) ∈ template.resources.entries ∧
    (target ∈ resource.references ∨ target ∈ resource.dependsOn)

def OutputTargets (template : Template) (source target : String) : Prop :=
  ∃ output, (source, output) ∈ template.outputs.entries ∧ target ∈ output.value.references

/-- What an output refers to leads back to the key of the output. -/
def LeadsBack (template : Template) (key : String) : Prop :=
  ∃ target, template.OutputTargets key target ∧ Relation.ReflTransGen template.Targets target key

theorem ResourceTargets.mem_keys (targets : template.ResourceTargets source target) :
    source ∈ template.resources.keys := by
  obtain ⟨resource, present, -⟩ := targets
  exact Registry.mem_keys.mpr ⟨resource, present⟩

theorem OutputTargets.targets (targets : template.OutputTargets source target) :
    template.Targets source target :=
  .inr targets

theorem DependsOn.targets (depends : template.DependsOn source target) : template.Targets source target :=
  .inl depends.2

/-- A path is one of resources, or there is an output on the way. -/
theorem path_of_targets (path : Relation.TransGen template.Targets source target) :
    Relation.TransGen template.ResourceTargets source target ∨
      ∃ key next, template.OutputTargets key next ∧
        Relation.ReflTransGen template.Targets source key ∧
          Relation.ReflTransGen template.Targets next target := by
  induction path with
  | single step =>
    cases step with
    | inl ofResource => exact .inl (.single ofResource)
    | inr ofOutput => exact .inr ⟨_, _, ofOutput, .refl, .refl⟩
  | tail before step ih =>
    cases ih with
    | inr onTheWay =>
      obtain ⟨key, next, ofOutput, there, back⟩ := onTheWay
      exact .inr ⟨key, next, ofOutput, there, back.tail step⟩
    | inl resources =>
      cases step with
      | inl ofResource => exact .inl (resources.tail ofResource)
      | inr ofOutput => exact .inr ⟨_, _, ofOutput, before.to_reflTransGen, .refl⟩

/-- A path of resources that ends at a resource stays among them. -/
theorem dependsOn_of_path (path : Relation.TransGen template.ResourceTargets source target)
    (inside : target ∈ template.resources.keys) : Relation.TransGen template.DependsOn source target := by
  induction path with
  | single step => exact .single ⟨inside, step⟩
  | tail _ step ih => exact .tail (ih step.mem_keys) ⟨inside, step⟩

/-- The resources go round in a circle, or some output leads back to its own key. -/
theorem circle_of_targets_iff : (∃ key, Relation.TransGen template.Targets key key) ↔
    (∃ key, Relation.TransGen template.DependsOn key key) ∨ ∃ key, template.LeadsBack key := by
  constructor
  · rintro ⟨key, circle⟩
    cases path_of_targets circle with
    | inl resources =>
      obtain ⟨_, step, -⟩ := Relation.TransGen.head'_iff.mp resources
      exact .inl ⟨key, dependsOn_of_path resources step.mem_keys⟩
    | inr onTheWay =>
      obtain ⟨output, next, ofOutput, there, back⟩ := onTheWay
      exact .inr ⟨output, next, ofOutput, back.trans there⟩
  · rintro (⟨key, circle⟩ | ⟨key, next, ofOutput, back⟩)
    · have within : template.DependsOn ≤ template.Targets := fun _ _ depends => depends.targets
      exact ⟨key, Relation.TransGen.mono within key key circle⟩
    · exact ⟨key, .head' ofOutput.targets back⟩

theorem depends_ofTemplate (template : Template) :
    (DependencyGraph.ofTemplate template).Depends = template.Targets := by
  funext source target
  exact propext exists_dependency_iff_targets

end Template

/-- The search finds a circle exactly if the resources of the template go round in one, or if what some
output refers to leads back to the key of this output. Outputs change the verdict in the latter case
only. -/
theorem hasCycle_ofTemplate_iff (template : Template) :
    (DependencyGraph.ofTemplate template).hasCycle = true ↔
      (∃ key, Relation.TransGen template.DependsOn key key) ∨ ∃ key, template.LeadsBack key := by
  rw [DependencyGraph.hasCycle_iff, template.depends_ofTemplate, Template.circle_of_targets_iff]

/-- A log group and an output of the same key, which refers to it. -/
def exposedGroup : Template where
  resources := ⟨[("Logs", .make .logGroup [] [])], by simp [Entries.keys]⟩
  outputs := ⟨[("Logs", ⟨"Where the logs are", .ref "Logs", "Logs"⟩)], by simp [Entries.keys]⟩

/-- The output counts as a circle, although the only resource depends on nothing. -/
theorem hasCycle_exposedGroup : (DependencyGraph.ofTemplate exposedGroup).hasCycle = true ∧
    ¬∃ key, Relation.TransGen exposedGroup.DependsOn key key := by
  constructor
  · decide +kernel
  · rintro ⟨key, circle⟩
    obtain ⟨_, ⟨-, resource, present, depends⟩, -⟩ := Relation.TransGen.head'_iff.mp circle
    cases List.mem_singleton.mp present
    cases depends with
    | inl refers => cases refers
    | inr listed => cases listed

end ClusterStack
