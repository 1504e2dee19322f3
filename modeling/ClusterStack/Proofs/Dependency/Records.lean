import ClusterStack.Proofs.Dependency.Additions
import ClusterStack.Proofs.Template.Foundation

/-!
# What the graph of a template records

A value refers to the targets of the references and attributes in it, however deep in lists, maps, joins
and selections these are; an expression is never looked into. The graph of a template has these targets
for every property and every output, the listed dependencies beside them, each of them once.
-/

set_option autoImplicit false

namespace ClusterStack

namespace Value

/-- A reference to the target, or an attribute of it, is somewhere in the value. -/
inductive RefersTo : Value → String → Prop where
  | ofRef {target} : RefersTo (.ref target) target
  | ofAttribute {target name} : RefersTo (.attribute target name) target
  | ofList {items item target} : item ∈ items → RefersTo item target → RefersTo (.list items) target
  | ofJoin {delimiter parts part target} :
      part ∈ parts → RefersTo part target → RefersTo (.join delimiter parts) target
  | ofMap {entries key value target} :
      (key, value) ∈ entries → RefersTo value target → RefersTo (.map entries) target
  | ofSelect {index inner target} : RefersTo inner target → RefersTo (.select index inner) target
  | ofZones {region target} : RefersTo region target → RefersTo (.zones region) target

variable {target : String}

mutual

private theorem refersTo_of_mem : ∀ {value : Value}, target ∈ value.references → value.RefersTo target
  | .ref _, listed => by
    cases List.mem_singleton.mp listed
    exact .ofRef
  | .attribute _ _, listed => by
    cases List.mem_singleton.mp listed
    exact .ofAttribute
  | .list _, listed => by
    obtain ⟨item, member, refers⟩ := exists_item_of_mem listed
    exact .ofList member refers
  | .join _ _, listed => by
    obtain ⟨part, member, refers⟩ := exists_item_of_mem listed
    exact .ofJoin member refers
  | .map _, listed => by
    obtain ⟨entry, member, refers⟩ := exists_entry_of_mem listed
    exact .ofMap member refers
  | .select _ _, listed => .ofSelect (refersTo_of_mem listed)
  | .zones _, listed => .ofZones (refersTo_of_mem listed)

private theorem exists_item_of_mem : ∀ {items : List Value}, target ∈ itemReferences items →
    ∃ item ∈ items, item.RefersTo target
  | item :: rest, listed => by
    cases List.mem_append.mp listed with
    | inl first => exact ⟨item, List.mem_cons_self, refersTo_of_mem first⟩
    | inr later =>
      obtain ⟨other, member, refers⟩ := exists_item_of_mem later
      exact ⟨other, .tail _ member, refers⟩

private theorem exists_entry_of_mem : ∀ {entries : List (String × Value)},
    target ∈ entryReferences entries → ∃ entry ∈ entries, entry.2.RefersTo target
  | (key, value) :: rest, listed => by
    cases List.mem_append.mp listed with
    | inl first => exact ⟨(key, value), List.mem_cons_self, refersTo_of_mem first⟩
    | inr later =>
      obtain ⟨other, member, refers⟩ := exists_entry_of_mem later
      exact ⟨other, .tail _ member, refers⟩

end

theorem RefersTo.mem_references {value : Value} (refers : value.RefersTo target) :
    target ∈ value.references := by
  induction refers with
  | ofRef => exact List.mem_singleton_self _
  | ofAttribute => exact List.mem_singleton_self _
  | ofList member _ ih =>
    rw [references, itemReferences_eq]
    exact List.mem_flatMap.mpr ⟨_, member, ih⟩
  | ofJoin member _ ih =>
    rw [references, itemReferences_eq]
    exact List.mem_flatMap.mpr ⟨_, member, ih⟩
  | ofMap member _ ih =>
    rw [references, entryReferences_eq]
    exact List.mem_flatMap.mpr ⟨_, member, ih⟩
  | ofSelect _ ih => exact ih
  | ofZones _ ih => exact ih

theorem mem_references_iff {value : Value} : target ∈ value.references ↔ value.RefersTo target :=
  ⟨refersTo_of_mem, RefersTo.mem_references⟩

end Value

theorem Resource.mem_references_iff {resource : Resource} {target : String} :
    target ∈ resource.references ↔
      ∃ property value, (property, value) ∈ resource.properties ∧ value.RefersTo target := by
  simp only [references, Value.entryReferences_eq, List.mem_flatMap, Value.mem_references_iff, Prod.exists]

namespace Template

variable {template : Template} {key target : String}

/-- A property of the resource under the key, or the output under it, refers to the target. -/
def Refers (template : Template) (key target : String) : Prop :=
  (∃ resource property value, template.resources.get? key = some resource ∧
    (property, value) ∈ resource.properties ∧ value.RefersTo target) ∨
  ∃ output, template.outputs.get? key = some output ∧ output.value.RefersTo target

/-- The resource under the key lists the target among its dependencies. -/
def Requires (template : Template) (key target : String) : Prop :=
  ∃ resource, template.resources.get? key = some resource ∧ target ∈ resource.dependsOn

theorem mem_reference_iff_refers :
    ⟨target, .reference⟩ ∈ (DependencyGraph.ofTemplate template).dependenciesOf key ↔
      template.Refers key target := by
  rw [DependencyGraph.mem_dependenciesOf_ofTemplate, Refers]
  simp only [DependencyGraph.OfResource, DependencyGraph.OfOutput, Resource.mem_references_iff,
    Value.mem_references_iff, Registry.get?_eq_some, true_and, reduceCtorEq, false_and, or_false,
    exists_and_left]

theorem mem_explicit_iff_requires :
    ⟨target, .explicit⟩ ∈ (DependencyGraph.ofTemplate template).dependenciesOf key ↔
      template.Requires key target := by
  rw [DependencyGraph.mem_dependenciesOf_ofTemplate, Requires]
  simp [DependencyGraph.OfResource, DependencyGraph.OfOutput, Registry.get?_eq_some]

end Template

open DependencyGraph

/-- Under every key, the graph of a template has one edge for each target that the resource or the output
there refers to, one for each that the resource lists, and no others. However a graph has been built, a
key is among the dependents of a target as often as the target is among its dependencies. -/
theorem ofTemplate_records (template : Template) :
    (∀ key, ((ofTemplate template).dependenciesOf key).Nodup ∧
      (∀ target, ⟨target, .reference⟩ ∈ (ofTemplate template).dependenciesOf key ↔
        template.Refers key target) ∧
      ∀ target, ⟨target, .explicit⟩ ∈ (ofTemplate template).dependenciesOf key ↔
        template.Requires key target) ∧
    (∀ key target, ((ofTemplate template).dependentsOf target).count key =
      ((ofTemplate template).dependenciesOf key).countP fun dependency => dependency.target = target) ∧
    ∀ edges key target, ((ofEdges edges).dependentsOf target).count key =
      ((ofEdges edges).dependenciesOf key).countP fun dependency => dependency.target = target := by
  have indexed := isIndexed_ofTemplate template
  refine ⟨fun key => ⟨indexed.nodup key, fun target => ?_, fun target => ?_⟩, indexed.mirrored, ?_⟩
  · exact Template.mem_reference_iff_refers
  · exact Template.mem_explicit_iff_requires
  · exact fun edges => (isIndexed_ofEdges edges).mirrored

end ClusterStack
