import ClusterStack.Proofs.Template.WellFormed
import ClusterStack.Template.Rendering

/-!
# Rendered templates

The text of a template and its document show the same, which is all that is in the template: the text in the
order in which it was entered, and the document in the order of the keys.
-/

set_option autoImplicit false

namespace ClusterStack

section Shown

-- How the keys of an object are arranged, compared with those that it is to have.
variable (arranged : List String → List String → Prop)

/-- The tree is an object with these keys. -/
def Json.HasKeys (keys : List String) (tree : Json) : Prop :=
  ∃ members, tree = .object members ∧ arranged (Entries.keys members) keys

/-- The tree is an object with the keys of the entries, and under each of them it shows the value. -/
structure Json.ShowsEntries {α : Type} (shows : α → Json → Prop) (entries : List (String × α))
    (tree : Json) : Prop where
  keys : tree.HasKeys arranged (Entries.keys entries)
  values : ∀ key value, (key, value) ∈ entries → ∃ shown, tree.get? key = some shown ∧ shows value shown

/-- The keys of the parts that a resource has. -/
def Resource.parts (resource : Resource) : List String :=
  ["Type"] ++ (if resource.deletionPolicy.isSome then ["DeletionPolicy"] else []) ++
    (if resource.dependsOn.isEmpty then [] else ["DependsOn"]) ++ ["Properties"]

/-- The tree shows all of the resource and nothing else. -/
structure Resource.IsShownBy (resource : Resource) (tree : Json) : Prop where
  keys : tree.HasKeys arranged resource.parts
  kind : tree.get? "Type" = some (.string resource.kind.typeName)
  deletionPolicy : tree.get? "DeletionPolicy" = resource.deletionPolicy.map fun policy => .string policy.name
  dependsOn : tree.get? "DependsOn" =
    if resource.dependsOn = [] then none else some (.array (resource.dependsOn.map .string))
  properties : ∃ properties, tree.get? "Properties" = some properties ∧
    properties.ShowsEntries arranged (fun value shown => shown = value.toJson) resource.properties

/-- The tree shows all of the output and nothing else. -/
structure Output.IsShownBy (output : Output) (tree : Json) : Prop where
  keys : tree.HasKeys arranged ["Description", "Export", "Value"]
  description : tree.get? "Description" = some (.string output.description)
  exportName : tree.get? "Export" = some (.object [("Name", .string output.exportName)])
  value : tree.get? "Value" = some output.value.toJson

/-- The tree shows all of the template and nothing else. -/
structure Template.IsShownBy (template : Template) (tree : Json) : Prop where
  keys : tree.HasKeys arranged ["Resources", "Outputs"]
  resources : ∃ resources, tree.get? "Resources" = some resources ∧
    resources.ShowsEntries arranged (Resource.IsShownBy arranged) template.resources.entries
  outputs : ∃ outputs, tree.get? "Outputs" = some outputs ∧
    outputs.ShowsEntries arranged (Output.IsShownBy arranged) template.outputs.entries

end Shown

namespace Value

theorem itemsToJson_eq (items : List Value) : itemsToJson items = items.map toJson := by
  induction items with
  | nil => rfl
  | cons item rest ih => rw [itemsToJson, ih, List.map_cons]

theorem entriesToJson_eq (entries : List (String × Value)) :
    entriesToJson entries = entries.map fun entry => (entry.1, entry.2.toJson) := by
  induction entries with
  | nil => rfl
  | cons entry rest ih => rw [entriesToJson, ih, List.map_cons]

theorem isOrdered_single {key : String} {content : Json} (ordered : content.IsOrdered) :
    (Json.object [(key, content)]).IsOrdered :=
  .object (List.pairwise_singleton _ _) (List.forall_mem_singleton.mpr ordered)

theorem isOrdered_toJson {value : Value} (ordered : value.HasOrderedExpressions) : value.toJson.IsOrdered := by
  induction ordered with
  | string text => exact .string text
  | int number => exact .number _
  | real number => exact .number _
  | bool flag => exact .bool flag
  | list _ ih =>
    rw [toJson, itemsToJson_eq]
    exact .array (List.forall_mem_map.mpr ih)
  | map _ ih =>
    rw [toJson]
    refine .object (Entries.pairwise_sorted _) fun member within => ?_
    have entered := Entries.mem_of_mem_sorted within
    rw [entriesToJson_eq] at entered
    obtain ⟨entry, listed, rfl⟩ := List.mem_map.mp entered
    exact ih entry listed
  | ref target => exact isOrdered_single (.string target)
  | attributeOf target name =>
    refine isOrdered_single (.array ?_)
    simp only [List.forall_mem_cons]
    exact ⟨.string target, .string name, by simp⟩
  | join delimiter _ ih =>
    refine isOrdered_single (.array ?_)
    simp only [List.forall_mem_cons, itemsToJson_eq]
    exact ⟨.string delimiter, .array (List.forall_mem_map.mpr ih), by simp⟩
  | select index _ ih =>
    refine isOrdered_single (.array ?_)
    simp only [List.forall_mem_cons]
    exact ⟨.number _, ih, by simp⟩
  | zones _ ih => exact isOrdered_single ih
  | expression ordered => exact ordered

end Value

section Arranged

variable {α : Type} {tree : Json} {keys : List String} {entries : List (String × α)}
  {shows ordered : α → Json → Prop}

theorem Json.get?_sorted (has : tree.HasKeys (· = ·) keys) (distinct : keys.Nodup) (key : String) :
    tree.sorted.get? key = (tree.get? key).map sorted := by
  obtain ⟨members, rfl, rfl⟩ := has
  have distinct : (Entries.keys (sortedMembers members)).Nodup := by simpa using distinct
  rw [sorted, get?, get?, Entries.get?_eq_of_perm distinct (Entries.sorted_perm distinct), get?_sortedMembers]

theorem Json.HasKeys.sorted (has : tree.HasKeys (· = ·) keys) (distinct : keys.Nodup) :
    tree.sorted.HasKeys List.Perm keys := by
  obtain ⟨members, rfl, rfl⟩ := has
  have moved : (Entries.sorted (sortedMembers members)).Perm (sortedMembers members) :=
    Entries.sorted_perm (by simpa using distinct)
  rw [← keys_sortedMembers members]
  exact ⟨_, rfl, moved.map Prod.fst⟩

theorem Json.ShowsEntries.sorted (shown : tree.ShowsEntries (· = ·) shows entries)
    (distinct : (Entries.keys entries).Nodup)
    (each : ∀ entry ∈ entries, ∀ content, shows entry.2 content → ordered entry.2 content.sorted) :
    tree.sorted.ShowsEntries List.Perm ordered entries where
  keys := shown.keys.sorted distinct
  values key value member := by
    obtain ⟨content, found, showsValue⟩ := shown.values key value member
    refine ⟨content.sorted, ?_, each _ member content showsValue⟩
    rw [get?_sorted shown.keys distinct, found, Option.map_some]

variable {render : α → Json}

theorem keys_render : Entries.keys (entries.map fun entry => (entry.1, render entry.2)) = Entries.keys entries := by
  rw [Entries.keys, List.map_map]
  rfl

theorem nodup_keys_render (distinct : (Entries.keys entries).Nodup) :
    (Entries.keys (entries.map fun entry => (entry.1, render entry.2))).Nodup := by
  rw [keys_render]
  exact distinct

theorem Json.showsEntries_render (distinct : (Entries.keys entries).Nodup)
    (each : ∀ entry ∈ entries, shows entry.2 (render entry.2)) :
    (Json.object (entries.map fun entry => (entry.1, render entry.2))).ShowsEntries (· = ·) shows entries where
  keys := ⟨_, rfl, keys_render⟩
  values key value member := by
    refine ⟨render value, ?_, each _ member⟩
    exact (Entries.get?_eq_some (nodup_keys_render distinct)).mpr (List.mem_map_of_mem member)

theorem Json.hasDistinctKeys_render (distinct : (Entries.keys entries).Nodup)
    (each : ∀ entry ∈ entries, (render entry.2).HasDistinctKeys) :
    (Json.object (entries.map fun entry => (entry.1, render entry.2))).HasDistinctKeys :=
  .object (nodup_keys_render distinct) (List.forall_mem_map.mpr each)

end Arranged

namespace Resource

variable {resource : Resource}

theorem nodup_parts (resource : Resource) : resource.parts.Nodup := by
  rw [parts]
  split <;> split <;> decide

theorem hasKeys_layout (resource : Resource) : resource.layout.HasKeys (· = ·) resource.parts := by
  obtain ⟨kind, policy, properties, dependsOn⟩ := resource
  refine ⟨_, rfl, ?_⟩
  cases policy <;> cases dependsOn <;> rfl

theorem isShownBy_layout (wellFormed : resource.IsWellFormed) : resource.IsShownBy (· = ·) resource.layout where
  keys := resource.hasKeys_layout
  kind := rfl
  deletionPolicy := by
    obtain ⟨kind, policy, properties, dependsOn⟩ := resource
    cases policy <;> cases dependsOn <;> rfl
  dependsOn := by
    obtain ⟨kind, policy, properties, dependsOn⟩ := resource
    cases policy <;> cases dependsOn <;> rfl
  properties := by
    refine ⟨.object (Value.entriesToJson resource.properties), ?_, ?_⟩
    · obtain ⟨kind, policy, properties, dependsOn⟩ := resource
      cases policy <;> cases dependsOn <;> rfl
    · rw [Value.entriesToJson_eq]
      exact Json.showsEntries_render wellFormed.distinct fun _ _ => rfl

theorem hasDistinctKeys_layout (wellFormed : resource.IsWellFormed) : resource.layout.HasDistinctKeys := by
  have properties : (Json.object (Value.entriesToJson resource.properties)).HasDistinctKeys := by
    rw [Value.entriesToJson_eq]
    refine Json.hasDistinctKeys_render wellFormed.distinct fun property member => ?_
    exact (Value.isOrdered_toJson (wellFormed.properties property member)).hasDistinctKeys
  refine .object ?_ ?_
  · obtain ⟨members, split, keys⟩ := resource.hasKeys_layout
    cases split
    exact keys ▸ resource.nodup_parts
  · simp only [List.forall_mem_append, List.forall_mem_singleton]
    refine ⟨⟨⟨.string _, ?_⟩, ?_⟩, properties⟩
    · cases resource.deletionPolicy with
      | none => simp
      | some policy => exact List.forall_mem_singleton.mpr (.string policy.name)
    · split
      · simp
      · exact List.forall_mem_singleton.mpr (.array (List.forall_mem_map.mpr fun target _ => .string target))

theorem IsShownBy.sorted {tree : Json} (wellFormed : resource.IsWellFormed)
    (shown : resource.IsShownBy (· = ·) tree) : resource.IsShownBy List.Perm tree.sorted := by
  have found := Json.get?_sorted shown.keys resource.nodup_parts
  constructor
  · exact shown.keys.sorted resource.nodup_parts
  · rw [found, shown.kind]
    rfl
  · rw [found, shown.deletionPolicy, Option.map_map]
    rfl
  · rw [found, shown.dependsOn]
    split
    · rfl
    · have texts : (Json.array (resource.dependsOn.map .string)).IsOrdered :=
        .array (List.forall_mem_map.mpr fun target _ => .string target)
      rw [Option.map_some, Json.sorted_eq_self texts]
  · obtain ⟨properties, given, entries⟩ := shown.properties
    refine ⟨properties.sorted, by rw [found, given, Option.map_some], ?_⟩
    refine entries.sorted wellFormed.distinct ?_
    rintro property member _ rfl
    exact Json.sorted_eq_self (Value.isOrdered_toJson (wellFormed.properties property member))

end Resource

namespace Output

variable {output : Output}

theorem isShownBy_layout (output : Output) : output.IsShownBy (· = ·) output.layout where
  keys := ⟨_, rfl, rfl⟩
  description := rfl
  exportName := rfl
  value := rfl

theorem hasDistinctKeys_layout (ordered : output.value.HasOrderedExpressions) :
    output.layout.HasDistinctKeys := by
  refine .object (by decide : ["Description", "Export", "Value"].Nodup) ?_
  simp only [List.forall_mem_cons]
  refine ⟨.string _, .object (List.nodup_singleton _) ?_, (Value.isOrdered_toJson ordered).hasDistinctKeys, by simp⟩
  exact List.forall_mem_singleton.mpr (.string output.exportName)

theorem IsShownBy.sorted {tree : Json} (ordered : output.value.HasOrderedExpressions)
    (shown : output.IsShownBy (· = ·) tree) : output.IsShownBy List.Perm tree.sorted := by
  have distinct : ["Description", "Export", "Value"].Nodup := by decide
  have found := Json.get?_sorted shown.keys distinct
  constructor
  · exact shown.keys.sorted distinct
  · rw [found, shown.description]
    rfl
  · rw [found, shown.exportName]
    rfl
  · rw [found, shown.value, Option.map_some, Json.sorted_eq_self (Value.isOrdered_toJson ordered)]

end Output

namespace Template

variable {template : Template}

theorem isShownBy_layout (wellFormed : template.IsWellFormed) : template.IsShownBy (· = ·) template.layout where
  keys := ⟨_, rfl, rfl⟩
  resources := by
    refine ⟨_, rfl, Json.showsEntries_render template.resources.distinct ?_⟩
    exact fun entry member => Resource.isShownBy_layout (wellFormed.resources entry member)
  outputs := by
    refine ⟨_, rfl, Json.showsEntries_render template.outputs.distinct ?_⟩
    exact fun entry _ => entry.2.isShownBy_layout

theorem hasDistinctKeys_layout (wellFormed : template.IsWellFormed) : template.layout.HasDistinctKeys := by
  refine .object (by decide : ["Resources", "Outputs"].Nodup) ?_
  simp only [List.forall_mem_cons]
  refine ⟨?_, ?_, by simp⟩
  · exact Json.hasDistinctKeys_render template.resources.distinct fun entry member =>
      Resource.hasDistinctKeys_layout (wellFormed.resources entry member)
  · exact Json.hasDistinctKeys_render template.outputs.distinct fun entry member =>
      Output.hasDistinctKeys_layout (wellFormed.outputs entry member)

theorem IsShownBy.sorted {tree : Json} (wellFormed : template.IsWellFormed)
    (shown : template.IsShownBy (· = ·) tree) : template.IsShownBy List.Perm tree.sorted := by
  have distinct : ["Resources", "Outputs"].Nodup := by decide
  have found := Json.get?_sorted shown.keys distinct
  constructor
  · exact shown.keys.sorted distinct
  · obtain ⟨resources, given, entries⟩ := shown.resources
    refine ⟨resources.sorted, by rw [found, given, Option.map_some], ?_⟩
    refine entries.sorted template.resources.distinct fun entry member content shows => ?_
    exact shows.sorted (wellFormed.resources entry member)
  · obtain ⟨outputs, given, entries⟩ := shown.outputs
    refine ⟨outputs.sorted, by rw [found, given, Option.map_some], ?_⟩
    refine entries.sorted template.outputs.distinct fun entry member content shows => ?_
    exact shows.sorted (wellFormed.outputs entry member)

/-- The text and the document of a template differ in nothing but the order of members. Both show all that is in
the template and nothing else, the text in the order in which it was entered. -/
theorem layout_reordered_document (template : Template) (wellFormed : template.IsWellFormed) :
    template.layout.Reordered template.document ∧ template.IsShownBy (· = ·) template.layout ∧
      template.IsShownBy List.Perm template.document := by
  have shown := isShownBy_layout wellFormed
  exact ⟨Json.reordered_sorted (hasDistinctKeys_layout wellFormed), shown, shown.sorted wellFormed⟩

/-- Two resources that do not stand in the order of their keys, one of them without a policy, and an output. -/
def routedGateway : Template where
  resources := ⟨[
    ("Route", ⟨.route, some .retain, [("RouteTableId", .ref "Table"),
      ("GatewayId", .expression (.object [("Fn::ImportValue", .string "gateway")])),
      ("Tags", .map [("b", .int 1), ("a", .list [.bool true])])], ["Gateway"]⟩),
    ("Gateway", ⟨.internetGateway, none, [], []⟩)], by decide⟩
  outputs := ⟨[("Gateway", ⟨"The gateway", .ref "Gateway", "Gateway"⟩)], by decide⟩

theorem layout_reordered_routedGateway : routedGateway.IsWellFormed ∧
    routedGateway.layout.Reordered routedGateway.document ∧ routedGateway.IsShownBy (· = ·) routedGateway.layout ∧
      routedGateway.IsShownBy List.Perm routedGateway.document := by
  have imported : (Json.object [("Fn::ImportValue", .string "gateway")]).IsOrdered :=
    Value.isOrdered_single (.string "gateway")
  have tags : (Value.map [("b", .int 1), ("a", .list [.bool true])]).HasOrderedExpressions := by
    refine .map ?_
    simp only [List.forall_mem_cons]
    exact ⟨.int 1, .list (List.forall_mem_singleton.mpr (.bool true)), by simp⟩
  have wellFormed : routedGateway.IsWellFormed := by
    constructor
    · simp only [routedGateway, List.forall_mem_cons]
      refine ⟨⟨by decide, ?_⟩, ⟨by decide, by simp⟩, by simp⟩
      simp only [List.forall_mem_cons]
      exact ⟨.ref "Table", .expression imported, tags, by simp⟩
    · exact List.forall_mem_singleton.mpr (.ref "Gateway")
  exact ⟨wellFormed, layout_reordered_document routedGateway wellFormed⟩

end Template

end ClusterStack
