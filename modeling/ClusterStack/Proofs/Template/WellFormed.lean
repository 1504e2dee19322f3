import ClusterStack.Proofs.Json.Order
import ClusterStack.Proofs.Template.Foundation
import ClusterStack.Proofs.Template.Merging
import ClusterStack.Proofs.Template.Operations

/-!
# Well-formed templates

No property is given twice, and expressions have their members in order. The types do not say so, but nothing
that is done to a resource or a template undoes it.
-/

set_option autoImplicit false

namespace ClusterStack

/-- The expressions in a value have the members of their objects in the order of the keys, each key once. -/
inductive Value.HasOrderedExpressions : Value → Prop where
  | string (text : String) : HasOrderedExpressions (.string text)
  | int (number : Int) : HasOrderedExpressions (.int number)
  | real (number : Binary64) : HasOrderedExpressions (.real number)
  | bool (flag : Bool) : HasOrderedExpressions (.bool flag)
  | list {items : List Value} (each : ∀ item ∈ items, HasOrderedExpressions item) :
      HasOrderedExpressions (.list items)
  | map {entries : List (String × Value)} (each : ∀ entry ∈ entries, HasOrderedExpressions entry.2) :
      HasOrderedExpressions (.map entries)
  | ref (target : String) : HasOrderedExpressions (.ref target)
  | attributeOf (target name : String) : HasOrderedExpressions (.attribute target name)
  | join (delimiter : String) {parts : List Value} (each : ∀ part ∈ parts, HasOrderedExpressions part) :
      HasOrderedExpressions (.join delimiter parts)
  | select (index : Nat) {inner : Value} (within : HasOrderedExpressions inner) :
      HasOrderedExpressions (.select index inner)
  | zones {region : Value} (within : HasOrderedExpressions region) : HasOrderedExpressions (.zones region)
  | expression {raw : Json} (ordered : raw.IsOrdered) : HasOrderedExpressions (.expression raw)

/-- No property is given twice, and expressions are as they were read. -/
structure Resource.IsWellFormed (resource : Resource) : Prop where
  distinct : (Entries.keys resource.properties).Nodup
  properties : ∀ property ∈ resource.properties, property.2.HasOrderedExpressions

structure Template.IsWellFormed (template : Template) : Prop where
  resources : ∀ entry ∈ template.resources.entries, entry.2.IsWellFormed
  outputs : ∀ entry ∈ template.outputs.entries, entry.2.value.HasOrderedExpressions

namespace Value

section Forms

@[simp] theorem hasOrderedExpressions_string (text : String) : (string text).HasOrderedExpressions :=
  .string text

@[simp] theorem hasOrderedExpressions_int (number : Int) : (int number).HasOrderedExpressions :=
  .int number

@[simp] theorem hasOrderedExpressions_ofNat (n : Nat) : (ofNat n).HasOrderedExpressions :=
  .int n

@[simp] theorem hasOrderedExpressions_bool (flag : Bool) : (bool flag).HasOrderedExpressions :=
  .bool flag

@[simp] theorem hasOrderedExpressions_ref (target : String) : (ref target).HasOrderedExpressions :=
  .ref target

@[simp] theorem hasOrderedExpressions_attribute (target name : String) :
    (Value.attribute target name).HasOrderedExpressions :=
  .attributeOf target name

@[simp] theorem hasOrderedExpressions_region : region.HasOrderedExpressions :=
  .ref _

@[simp] theorem hasOrderedExpressions_noValue : noValue.HasOrderedExpressions :=
  .ref _

@[simp] theorem hasOrderedExpressions_ofReal64 (number : Real64) : (ofReal64 number).HasOrderedExpressions := by
  cases number with
  | finite number => exact .real number
  | infinite _ => exact .expression .null
  | nan => exact .expression .null

@[simp] theorem hasOrderedExpressions_expression {raw : Json} :
    (expression raw).HasOrderedExpressions ↔ raw.IsOrdered :=
  ⟨fun | .expression ordered => ordered, .expression⟩

@[simp] theorem hasOrderedExpressions_list {items : List Value} :
    (list items).HasOrderedExpressions ↔ ∀ item ∈ items, item.HasOrderedExpressions :=
  ⟨fun | .list each => each, .list⟩

@[simp] theorem hasOrderedExpressions_map {entries : List (String × Value)} :
    (map entries).HasOrderedExpressions ↔ ∀ entry ∈ entries, entry.2.HasOrderedExpressions :=
  ⟨fun | .map each => each, .map⟩

@[simp] theorem hasOrderedExpressions_join {delimiter : String} {parts : List Value} :
    (join delimiter parts).HasOrderedExpressions ↔ ∀ part ∈ parts, part.HasOrderedExpressions :=
  ⟨fun | .join _ each => each, .join delimiter⟩

@[simp] theorem hasOrderedExpressions_select {index : Nat} {inner : Value} :
    (select index inner).HasOrderedExpressions ↔ inner.HasOrderedExpressions :=
  ⟨fun | .select _ within => within, .select index⟩

@[simp] theorem hasOrderedExpressions_zones {region : Value} :
    (zones region).HasOrderedExpressions ↔ region.HasOrderedExpressions :=
  ⟨fun | .zones within => within, .zones⟩

@[simp] theorem hasOrderedExpressions_strings (texts : List String) : (strings texts).HasOrderedExpressions := by
  simp [strings]

@[simp] theorem hasOrderedExpressions_present {entries : List (String × Option Value)} :
    (present entries).HasOrderedExpressions ↔
      ∀ entry ∈ entries, ∀ value ∈ entry.2, value.HasOrderedExpressions := by
  rw [present, hasOrderedExpressions_map, forall_filterMap_iff]

@[simp] theorem forall_listOf?_hasOrderedExpressions {α : Type} {items : List α} {value : α → Value} :
    (∀ list, listOf? items value = some list → list.HasOrderedExpressions) ↔
      ∀ item ∈ items, (value item).HasOrderedExpressions := by
  cases items <;> simp [listOf?]

@[simp] theorem hasOrderedExpressions_orNone {α : Type} {content : Option α} {value : α → Value} :
    (orNone value content).HasOrderedExpressions ↔
      ∀ item, content = some item → (value item).HasOrderedExpressions := by
  cases content <;> simp [orNone]

end Forms

theorem ofInputs_eq (inputs : List Json) : ofInputs inputs = inputs.map ofInput := by
  induction inputs with
  | nil => rfl
  | cons input rest ih => rw [ofInputs, ih, List.map_cons]

theorem hasOrderedExpressions_ofInput {input : Json} (ordered : input.IsOrdered) :
    (ofInput input).HasOrderedExpressions := by
  induction ordered with
  | null => exact .expression .null
  | bool value => exact .bool value
  | string value => exact .string value
  | number value =>
    cases value with
    | integer value =>
      rw [ofInput]
      split
      · exact .int value
      · exact .real _
    | real value => exact .real value
  | array _ ih =>
    rw [ofInput, ofInputs_eq]
    exact .list (List.forall_mem_map.mpr ih)
  | object keys each _ => exact .expression (.object keys each)

end Value

namespace Resource

theorem isWellFormed_of_properties {resource : Resource} {properties : List (String × Option Value)}
    (given : resource.properties = properties.filterMap fun entry => entry.2.map (entry.1, ·))
    (distinct : (Entries.keys properties).Nodup)
    (ordered : ∀ entry ∈ properties, ∀ value ∈ entry.2, value.HasOrderedExpressions) :
    resource.IsWellFormed where
  distinct := by
    rw [Entries.keys, List.Nodup, List.pairwise_map] at distinct
    rw [given, Entries.keys, List.Nodup, List.pairwise_map]
    refine distinct.filterMap _ ?_
    intro entry other differ kept present keptOther presentOther
    obtain ⟨value, -, rfl⟩ := Option.map_eq_some_iff.mp present
    obtain ⟨otherValue, -, rfl⟩ := Option.map_eq_some_iff.mp presentOther
    exact differ
  properties := by
    rw [given]
    exact Value.forall_filterMap_iff.mpr ordered

theorem isWellFormed_make {kind : ResourceKind} {properties : List (String × Option Value)}
    {dependsOn : List String} (distinct : (Entries.keys properties).Nodup)
    (ordered : ∀ entry ∈ properties, ∀ value ∈ entry.2, value.HasOrderedExpressions) :
    (make kind properties dependsOn).IsWellFormed :=
  isWellFormed_of_properties rfl distinct ordered

theorem IsWellFormed.setProperty {resource : Resource} (wellFormed : resource.IsWellFormed) {value : Value}
    (ordered : value.HasOrderedExpressions) (key : String) : (resource.setProperty key value).IsWellFormed where
  distinct := Entries.nodup_keys_insert wellFormed.distinct key value
  properties := by
    intro property member
    rcases Entries.mem_insert member with rfl | kept
    · exact ordered
    · exact wellFormed.properties property kept

end Resource

/-- What a declaration is about is well formed. -/
def Declaration.IsWellFormed : Declaration → Prop
  | .resource _ definition | .sharedResource _ definition => definition.IsWellFormed
  | .output _ definition => definition.value.HasOrderedExpressions

theorem Declaration.IsWellFormed.resource {declaration : Declaration} (proper : declaration.IsWellFormed)
    {entry : String × Resource} (declared : declaration.resource? = some entry) : entry.2.IsWellFormed := by
  cases declaration with
  | resource key definition | sharedResource key definition =>
    cases declared
    exact proper
  | output key definition => cases declared

theorem Declaration.IsWellFormed.output {declaration : Declaration} (proper : declaration.IsWellFormed)
    {entry : String × Output} (declared : declaration.output? = some entry) :
    entry.2.value.HasOrderedExpressions := by
  cases declaration with
  | resource key definition | sharedResource key definition => cases declared
  | output key definition =>
    cases declared
    exact proper

def Operation.IsWellFormed : Operation → Prop
  | .declare declaration => declaration.IsWellFormed
  | .merge other => other.IsWellFormed

namespace Template

variable {template larger : Template} {declaration : Declaration}

theorem isWellFormed_empty : empty.IsWellFormed :=
  ⟨by simp [empty], by simp [empty]⟩

theorem IsWellFormed.declarations (wellFormed : template.IsWellFormed) :
    ∀ declaration ∈ template.declarations, declaration.IsWellFormed := by
  rw [Template.declarations, List.forall_mem_append, List.forall_mem_map, List.forall_mem_map]
  exact ⟨wellFormed.resources, wellFormed.outputs⟩

theorem IsWellFormed.declare (wellFormed : template.IsWellFormed) (proper : declaration.IsWellFormed)
    (entered : template.declare declaration = .ok larger) : larger.IsWellFormed := by
  have grown := grown_of_declare entered
  constructor
  · obtain ⟨added, entries, -, most⟩ := grown.resources
    rw [entries, List.forall_mem_append]
    refine ⟨wellFormed.resources, fun entry member => ?_⟩
    obtain ⟨_, listed, declared⟩ := List.mem_filterMap.mp (most.subset member)
    cases List.mem_singleton.mp listed
    exact proper.resource declared
  · rw [grown.outputs, List.forall_mem_append]
    refine ⟨wellFormed.outputs, fun entry member => ?_⟩
    obtain ⟨_, listed, declared⟩ := List.mem_filterMap.mp member
    cases List.mem_singleton.mp listed
    exact proper.output declared

theorem IsWellFormed.declareUntilRefused (wellFormed : template.IsWellFormed)
    {declarations : List Declaration} (proper : ∀ declaration ∈ declarations, declaration.IsWellFormed) :
    (template.declareUntilRefused declarations).1.IsWellFormed := by
  induction declarations generalizing template with
  | nil => exact wellFormed
  | cons declaration rest ih =>
    obtain ⟨first, others⟩ := List.forall_mem_cons.mp proper
    rw [Template.declareUntilRefused]
    cases outcome : template.declare declaration with
    | ok larger => exact ih (wellFormed.declare first outcome) others
    | error reason => exact wellFormed

theorem IsWellFormed.operate (wellFormed : template.IsWellFormed) {operation : Operation}
    (proper : operation.IsWellFormed) : (template.operate operation).1.IsWellFormed := by
  cases operation with
  | declare declaration => exact wellFormed.declareUntilRefused (List.forall_mem_singleton.mpr proper)
  | merge other => exact wellFormed.declareUntilRefused (IsWellFormed.declarations proper)

theorem isWellFormed_of_ofDeclarations {declarations : List Declaration}
    (proper : ∀ declaration ∈ declarations, declaration.IsWellFormed)
    (collected : ofDeclarations declarations = .ok template) : template.IsWellFormed := by
  have left := isWellFormed_empty.declareUntilRefused proper
  rw [declareUntilRefused_eq_none.mpr collected] at left
  exact left

/-- A template stays well formed whatever is done to it, if what it is done with is. -/
theorem IsWellFormed.operateAll (wellFormed : template.IsWellFormed) {operations : List Operation}
    (proper : ∀ operation ∈ operations, operation.IsWellFormed) :
    (template.operateAll operations).IsWellFormed := by
  induction operations generalizing template with
  | nil => exact wellFormed
  | cons operation rest ih =>
    obtain ⟨first, others⟩ := List.forall_mem_cons.mp proper
    exact ih (wellFormed.operate first) others

end Template

end ClusterStack
