import ClusterStack.CommandLine.Report
import ClusterStack.Proofs.Template.Rendering
import Mathlib.Algebra.BigOperators.Group.List.Lemmas
import Mathlib.Algebra.Ring.Nat

/-!
# Summaries of templates

The summary of a template says how many resources of each type there are, and lists the outputs. It says
the same as the document that would be printed.
-/

set_option autoImplicit false

namespace ClusterStack

/-- The tree is a resource of this type. -/
def Json.hasType (type : String) (resource : Json) : Bool :=
  (resource.get? "Type").bind Json.asString? == some type

/-- Counts of types and a list of keys that sum up what a document shows. -/
structure Json.IsSummedUpBy (document : Json) (counts : List (String × Nat)) (outputs : List String) :
    Prop where
  types : (Entries.keys counts).Nodup
  resources : ∃ members, document.get? "Resources" = some (.object members) ∧
    (counts.map (·.2)).sum = members.length ∧
    ∀ type count, (type, count) ∈ counts → count = members.countP (·.2.hasType type)
  outputs : ∃ members, document.get? "Outputs" = some (.object members) ∧
    outputs.Perm (Entries.keys members)

namespace Entries

variable {α : Type}

theorem mem_keys_sorted {entries : List (String × α)} {key : String} :
    key ∈ keys (sorted entries) ↔ key ∈ keys entries := by
  have each : ∀ rest done : List (String × α),
      key ∈ keys (rest.foldl (fun done entry => insertSorted entry.1 entry.2 done) done) ↔
        key ∈ keys rest ∨ key ∈ keys done := by
    intro rest
    induction rest with
    | nil => simp
    | cons entry rest ih =>
      intro done
      rw [List.foldl_cons, ih, mem_keys_insertSorted, keys_cons, List.mem_cons]
      tauto
  rw [sorted, each entries []]
  simp

/-- Items with their numbers, by item. -/
theorem eq_count_of_mem_sorted {items : List String} {item : String} {count : Nat}
    (member : (item, count) ∈ sorted (items.map fun item => (item, items.count item))) :
    count = items.count item := by
  obtain ⟨other, -, same⟩ := List.mem_map.mp (mem_of_mem_sorted member)
  cases same
  rfl

/-- The numbers of all items make up the whole, because each item is there and none is there twice. -/
theorem sum_counts (items : List String) :
    ((sorted (items.map fun item => (item, items.count item))).map (·.2)).sum = items.length := by
  have counts : (sorted (items.map fun item => (item, items.count item))).map (·.2) =
      (keys (sorted (items.map fun item => (item, items.count item)))).map items.count := by
    rw [keys, List.map_map]
    exact List.map_congr_left fun entry member => eq_count_of_mem_sorted member
  have everyItem : (keys (sorted (items.map fun item => (item, items.count item)))).Perm items.dedup := by
    refine (List.perm_ext_iff_of_nodup (nodup_of_pairwise (pairwise_sorted _)) items.nodup_dedup).mpr ?_
    intro item
    rw [mem_keys_sorted, List.mem_dedup, keys, List.map_map]
    exact iff_of_eq (congrArg (item ∈ ·) (List.map_id items))
  rw [counts, (everyItem.map items.count).sum_eq, List.sum_map_count_dedup_eq_length]

end Entries

namespace Resource

theorem hasType_sorted_layout (resource : Resource) (type : String) :
    resource.layout.sorted.hasType type = (resource.kind.typeName == type) := by
  have found : resource.layout.sorted.get? "Type" = some (.string resource.kind.typeName) := by
    rw [Json.get?_sorted resource.hasKeys_layout resource.nodup_parts]
    rfl
  rw [Json.hasType, found]
  rfl

end Resource

namespace Template

variable {template : Template}

/-- The members of one part of the document are the rendered entries, in the order of their keys. -/
theorem exists_members {α : Type} {key : String} {registry : Registry α} {render : α → Json}
    (written : template.layout.get? key =
      some (.object (registry.entries.map fun entry => (entry.1, render entry.2)))) :
    ∃ members, template.document.get? key = some (.object members) ∧
      members.Perm (registry.entries.map fun entry => (entry.1, (render entry.2).sorted)) := by
  have parts : template.layout.HasKeys (· = ·) ["Resources", "Outputs"] := ⟨_, rfl, rfl⟩
  have found := Json.get?_sorted parts (by decide) key
  rw [written, Option.map_some, Json.sorted, Json.sortedMembers_eq, List.map_map] at found
  have distinct : (Entries.keys (registry.entries.map fun entry => (entry.1, (render entry.2).sorted))).Nodup := by
    rw [Entries.keys, List.map_map]
    exact registry.distinct
  exact ⟨_, found, Entries.sorted_perm distinct⟩

theorem resources_document (template : Template) : ∃ members,
    template.document.get? "Resources" = some (.object members) ∧
      members.Perm (template.resources.entries.map fun entry => (entry.1, entry.2.layout.sorted)) :=
  exists_members rfl

theorem outputs_document (template : Template) : ∃ members,
    template.document.get? "Outputs" = some (.object members) ∧
      members.Perm (template.outputs.entries.map fun entry => (entry.1, entry.2.layout.sorted)) :=
  exists_members rfl

/-- The counts and the keys that a summary lists sum up the document. -/
theorem isSummedUpBy (template : Template) :
    template.document.IsSummedUpBy template.countsByType template.outputs.keys where
  types := Entries.nodup_of_pairwise (Entries.pairwise_sorted _)
  resources := by
    obtain ⟨members, shown, rendered⟩ := template.resources_document
    refine ⟨members, shown, ?_, ?_⟩
    · rw [countsByType, Entries.sum_counts, rendered.length_eq, List.length_map, List.length_map]
    · intro type count listed
      have counted := Entries.eq_count_of_mem_sorted listed
      rw [counted, rendered.countP_eq, List.countP_map, List.count, List.countP_map]
      refine List.countP_congr fun entry _ => ?_
      simp only [Function.comp_apply, Resource.hasType_sorted_layout]
  outputs := by
    obtain ⟨members, shown, rendered⟩ := template.outputs_document
    refine ⟨members, shown, ?_⟩
    have keys := (rendered.map Prod.fst).symm
    rw [List.map_map] at keys
    exact keys

end Template

end ClusterStack
