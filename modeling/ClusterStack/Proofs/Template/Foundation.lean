import ClusterStack.Proofs.Template.Growth
import ClusterStack.Service.Resources

/-!
# Foundations

Kinds of resources have levels, and a resource is founded if all that it refers to or depends on is
of a lower level. Only alarms may depend on anything besides, namely on what their metrics do.
-/

set_option autoImplicit false

namespace ClusterStack

/-- How far the resources of a kind stand from those that refer to nothing. -/
def ResourceKind.level : ResourceKind → Nat
  | .vpc | .internetGateway | .iamRole | .ecsCluster | .logGroup => 0
  | .vpcGatewayAttachment | .routeTable | .subnet | .securityGroup | .targetGroup => 1
  | .ecsTaskDefinition => 1
  | .route | .subnetRouteTableAssociation | .securityGroupIngress | .loadBalancer | .eventsRule => 2
  | .loadBalancerListener => 3
  | .listenerRule => 4
  | .ecsService => 5
  | .scalableTarget => 6
  | .scalingPolicy => 7
  | .alarm => 8

def ResourceKind.top : Nat := 9

theorem ResourceKind.level_lt_top (kind : ResourceKind) : kind.level < top := by
  cases kind <;> decide

/-- Among the resources, some one of this kind has the key. -/
def Provides (resources : List (String × Resource)) (kind : ResourceKind) (key : String) : Prop :=
  ∃ definition, (key, definition) ∈ resources ∧ definition.kind = kind

/-- The target is a pseudo parameter in use, or a resource below the level. -/
def IsBelow (resources : List (String × Resource)) (level : Nat) (target : String) : Prop :=
  target = "AWS::Region" ∨ target = "AWS::NoValue" ∨
    ∃ kind, Provides resources kind target ∧ kind.level < level

/-- Everything that the value refers to is below the level. -/
def Value.IsFounded (resources : List (String × Resource)) (level : Nat) (value : Value) : Prop :=
  ∀ target ∈ value.references, IsBelow resources level target

/-- Everything that the resource refers to is below its own level, and so is everything it depends
on besides, but for what the metrics of an alarm depend on. -/
structure Resource.IsFounded (resources : List (String × Resource)) (metrics : List String)
    (resource : Resource) : Prop where
  references : ∀ target ∈ resource.references, IsBelow resources resource.kind.level target
  dependsOn : ∀ target ∈ resource.dependsOn, IsBelow resources resource.kind.level target ∨
    resource.kind = .alarm ∧ target ∈ metrics

/-- What is declared is founded; an output may refer to any resource. -/
def Declaration.IsFounded (resources : List (String × Resource)) (metrics : List String) :
    Declaration → Prop
  | .resource _ definition => definition.IsFounded resources metrics
  | .sharedResource _ definition => definition.IsFounded resources metrics
  | .output _ definition => definition.value.IsFounded resources ResourceKind.top

variable {resources more : List (String × Resource)} {level : Nat} {metrics further : List String}

theorem Provides.mono {kind : ResourceKind} {key : String} (provides : Provides resources kind key)
    (kept : ∀ key definition, (key, definition) ∈ resources →
      ∃ other, (key, other) ∈ more ∧ other.kind = definition.kind) : Provides more kind key := by
  obtain ⟨definition, member, rfl⟩ := provides
  obtain ⟨other, present, same⟩ := kept key definition member
  exact ⟨other, present, same⟩

theorem IsBelow.mono {target : String} (below : IsBelow resources level target)
    (kept : ∀ key definition, (key, definition) ∈ resources →
      ∃ other, (key, other) ∈ more ∧ other.kind = definition.kind) : IsBelow more level target := by
  rcases below with region | noValue | ⟨kind, provides, lower⟩
  · exact .inl region
  · exact .inr (.inl noValue)
  · exact .inr (.inr ⟨kind, provides.mono kept, lower⟩)

theorem Resource.IsFounded.mono {resource : Resource} (founded : resource.IsFounded resources metrics)
    (kept : ∀ key definition, (key, definition) ∈ resources →
      ∃ other, (key, other) ∈ more ∧ other.kind = definition.kind)
    (metricsIn : metrics ⊆ further) : resource.IsFounded more further where
  references target member := (founded.references target member).mono kept
  dependsOn target member := by
    rcases founded.dependsOn target member with below | ⟨alarm, metric⟩
    · exact .inl (below.mono kept)
    · exact .inr ⟨alarm, metricsIn metric⟩

theorem Provides.isBelow {kind : ResourceKind} {target : String}
    (provides : Provides resources kind target) (lower : kind.level < level) :
    IsBelow resources level target :=
  .inr (.inr ⟨kind, provides, lower⟩)

theorem Provides.of_resource {declarations : List Declaration}
    (inside : declarations.filterMap Declaration.resource? ⊆ resources) {key : String}
    {definition : Resource} (member : .resource key definition ∈ declarations) :
    Provides resources definition.kind key :=
  ⟨definition, inside (List.mem_filterMap.mpr ⟨_, member, rfl⟩), rfl⟩

theorem Provides.of_sharedResource {declarations : List Declaration}
    (inside : declarations.filterMap Declaration.resource? ⊆ resources) {key : String}
    {definition : Resource} (member : .sharedResource key definition ∈ declarations) :
    Provides resources definition.kind key :=
  ⟨definition, inside (List.mem_filterMap.mpr ⟨_, member, rfl⟩), rfl⟩

theorem IsBelow.of_le {higher : Nat} {target : String} (below : IsBelow resources level target)
    (le : level ≤ higher) : IsBelow resources higher target := by
  rcases below with region | noValue | ⟨kind, provides, lower⟩
  · exact .inl region
  · exact .inr (.inl noValue)
  · exact .inr (.inr ⟨kind, provides, Nat.lt_of_lt_of_le lower le⟩)

namespace Value

theorem IsFounded.of_le {higher : Nat} {value : Value} (founded : value.IsFounded resources level)
    (le : level ≤ higher) : value.IsFounded resources higher :=
  fun target member => (founded target member).of_le le

theorem itemReferences_eq (items : List Value) : itemReferences items = items.flatMap references := by
  induction items with
  | nil => rfl
  | cons item rest ih => exact congrArg (item.references ++ ·) ih

theorem entryReferences_eq (entries : List (String × Value)) :
    entryReferences entries = entries.flatMap fun entry => entry.2.references := by
  induction entries with
  | nil => rfl
  | cons entry rest ih => exact congrArg (entry.2.references ++ ·) ih

section Forms

theorem isFounded_of_references_eq_nil {value : Value} (none : value.references = []) :
    value.IsFounded resources level := by
  simp [IsFounded, none]

theorem isFounded_iff_of_references_eq {value : Value} {target : String}
    (one : value.references = [target]) :
    value.IsFounded resources level ↔ IsBelow resources level target := by
  simp [IsFounded, one]

theorem isFounded_congr {value other : Value} (same : value.references = other.references) :
    value.IsFounded resources level ↔ other.IsFounded resources level := by
  rw [IsFounded, IsFounded, same]

@[simp] theorem isFounded_string (text : String) : (Value.string text).IsFounded resources level :=
  isFounded_of_references_eq_nil rfl

@[simp] theorem isFounded_int (number : Int) : (Value.int number).IsFounded resources level :=
  isFounded_of_references_eq_nil rfl

@[simp] theorem isFounded_ofNat (n : Nat) : (Value.ofNat n).IsFounded resources level :=
  isFounded_int n

@[simp] theorem isFounded_ofReal64 (number : Real64) : (ofReal64 number).IsFounded resources level :=
  isFounded_of_references_eq_nil (by cases number <;> rfl)

@[simp] theorem isFounded_bool (flag : Bool) : (Value.bool flag).IsFounded resources level :=
  isFounded_of_references_eq_nil rfl

@[simp] theorem isFounded_expression (raw : Json) : (Value.expression raw).IsFounded resources level :=
  isFounded_of_references_eq_nil rfl

@[simp] theorem isFounded_ref {target : String} :
    (Value.ref target).IsFounded resources level ↔ IsBelow resources level target :=
  isFounded_iff_of_references_eq rfl

@[simp] theorem isFounded_attribute {target name : String} :
    (Value.attribute target name).IsFounded resources level ↔ IsBelow resources level target :=
  isFounded_iff_of_references_eq rfl

@[simp] theorem isFounded_region : region.IsFounded resources level :=
  isFounded_ref.mpr (.inl rfl)

@[simp] theorem isFounded_noValue : noValue.IsFounded resources level :=
  isFounded_ref.mpr (.inr (.inl rfl))

@[simp] theorem isFounded_list {items : List Value} :
    (Value.list items).IsFounded resources level ↔ ∀ item ∈ items, item.IsFounded resources level := by
  have split : (Value.list items).references = items.flatMap references := itemReferences_eq items
  simp only [IsFounded, split, List.mem_flatMap, forall_exists_index, and_imp]
  exact ⟨fun all item member target => all target item member,
    fun all target item member => all item member target⟩

@[simp] theorem isFounded_join {delimiter : String} {parts : List Value} :
    (Value.join delimiter parts).IsFounded resources level ↔
      ∀ part ∈ parts, part.IsFounded resources level := by
  have same : (Value.join delimiter parts).references = (Value.list parts).references := rfl
  rw [isFounded_congr same, isFounded_list]

@[simp] theorem isFounded_map {entries : List (String × Value)} :
    (Value.map entries).IsFounded resources level ↔
      ∀ entry ∈ entries, entry.2.IsFounded resources level := by
  have split : (Value.map entries).references = entries.flatMap fun entry => entry.2.references :=
    entryReferences_eq entries
  simp only [IsFounded, split, List.mem_flatMap, forall_exists_index, and_imp]
  exact ⟨fun all entry member target => all target entry member,
    fun all target entry member => all entry member target⟩

@[simp] theorem isFounded_select {index : Nat} {inner : Value} :
    (Value.select index inner).IsFounded resources level ↔ inner.IsFounded resources level :=
  isFounded_congr rfl

@[simp] theorem isFounded_zones {region : Value} :
    (Value.zones region).IsFounded resources level ↔ region.IsFounded resources level :=
  isFounded_congr rfl

@[simp] theorem isFounded_strings (texts : List String) : (strings texts).IsFounded resources level := by
  simp [strings]

theorem forall_filterMap_iff {entries : List (String × Option Value)} {holds : Value → Prop} :
    (∀ entry ∈ entries.filterMap (fun entry => entry.2.map (entry.1, ·)), holds entry.2) ↔
      ∀ entry ∈ entries, ∀ value ∈ entry.2, holds value := by
  constructor
  · intro all entry member value content
    refine all (entry.1, value) (List.mem_filterMap.mpr ⟨entry, member, ?_⟩)
    rw [Option.mem_def.mp content, Option.map_some]
  · intro all present member
    obtain ⟨entry, listed, content⟩ := List.mem_filterMap.mp member
    obtain ⟨value, given, rfl⟩ := Option.map_eq_some_iff.mp content
    exact all entry listed value given

@[simp] theorem isFounded_present {entries : List (String × Option Value)} :
    (present entries).IsFounded resources level ↔
      ∀ entry ∈ entries, ∀ value ∈ entry.2, value.IsFounded resources level := by
  rw [present, isFounded_map, forall_filterMap_iff]

@[simp] theorem forall_listOf_iff {α : Type} {items : List α} {value : α → Value} :
    (∀ list, listOf? items value = some list → list.IsFounded resources level) ↔
      ∀ item ∈ items, (value item).IsFounded resources level := by
  cases items with
  | nil => simp [listOf?]
  | cons item rest => simp [listOf?]

@[simp] theorem isFounded_orNone {α : Type} {content : Option α} {value : α → Value} :
    (orNone value content).IsFounded resources level ↔
      ∀ item, content = some item → (value item).IsFounded resources level := by
  cases content <;> simp [orNone]

end Forms

mutual

theorem references_ofInput : ∀ input : Json, (ofInput input).references = []
  | .string _ | .bool _ | .null | .object _ => rfl
  | .number (.real _) => rfl
  | .number (.integer _) => by
    simp only [ofInput]
    split <;> rfl
  | .array items => by simp only [ofInput, references, itemReferences_ofInputs items]

private theorem itemReferences_ofInputs : ∀ inputs : List Json, itemReferences (ofInputs inputs) = []
  | [] => rfl
  | input :: rest => by
    simp only [ofInputs, itemReferences, references_ofInput input, itemReferences_ofInputs rest,
      List.append_nil]

end

/-- What the description supplies refers to nothing. -/
@[simp] theorem isFounded_ofInput (input : Json) : (ofInput input).IsFounded resources level := by
  simp [IsFounded, references_ofInput]

@[simp] theorem isFounded_ofInputs (inputs : List Json) :
    ∀ value ∈ ofInputs inputs, value.IsFounded resources level := by
  have whole : (ofInput (.array inputs)).IsFounded resources level := isFounded_ofInput _
  simpa only [ofInput, isFounded_list] using whole

end Value

@[simp] theorem Resource.kind_make (kind : ResourceKind) (properties : List (String × Option Value))
    (dependsOn : List String) : (Resource.make kind properties dependsOn).kind = kind := rfl

@[simp] theorem Resource.dependsOn_make (kind : ResourceKind) (properties : List (String × Option Value))
    (dependsOn : List String) : (Resource.make kind properties dependsOn).dependsOn = dependsOn := rfl

theorem Resource.IsFounded.of_eq {resource other : Resource} (founded : resource.IsFounded resources metrics)
    (kind : other.kind = resource.kind) (properties : other.properties = resource.properties)
    (dependsOn : other.dependsOn = resource.dependsOn) : other.IsFounded resources metrics where
  references := by
    rw [Resource.references, properties, kind]
    exact founded.references
  dependsOn := by
    rw [dependsOn, kind]
    exact founded.dependsOn

theorem Resource.isFounded_make {kind : ResourceKind} {properties : List (String × Option Value)}
    {dependsOn : List String}
    (references : ∀ entry ∈ properties, ∀ value ∈ entry.2, value.IsFounded resources kind.level)
    (dependencies : ∀ target ∈ dependsOn, IsBelow resources kind.level target ∨
      kind = .alarm ∧ target ∈ metrics) :
    (Resource.make kind properties dependsOn).IsFounded resources metrics where
  references := by
    have founded := Value.isFounded_present.mpr references
    simpa only [Value.IsFounded, Value.present, Value.references, Resource.references,
      Resource.make] using founded
  dependsOn := dependencies

/-- Every resource of the template is founded in it, and so is every output. -/
structure Template.IsFounded (metrics : List String) (template : Template) : Prop where
  resources : ∀ key resource, (key, resource) ∈ template.resources.entries →
    resource.IsFounded template.resources.entries metrics
  outputs : ∀ key output, (key, output) ∈ template.outputs.entries →
    output.value.IsFounded template.resources.entries ResourceKind.top

/-- What is declared is entered, or an equal resource is there already. -/
theorem Template.Grown.exists_entry {template larger : Template} {declarations : List Declaration}
    (grown : Grown template declarations larger) {key : String} {definition : Resource}
    (declared : (key, definition) ∈ declarations.filterMap Declaration.resource?) :
    ∃ existing, (key, existing) ∈ larger.resources.entries ∧ existing.kind = definition.kind := by
  obtain ⟨declaration, member, given⟩ := List.mem_filterMap.mp declared
  cases declaration with
  | resource _ _ =>
    cases given
    obtain ⟨added, entries, least, -⟩ := grown.resources
    refine ⟨definition, ?_, rfl⟩
    rw [entries]
    exact List.mem_append_right _ (least.subset (List.mem_filterMap.mpr ⟨_, member, rfl⟩))
  | sharedResource _ _ =>
    cases given
    obtain ⟨existing, present, rfl | agrees⟩ := grown.shared key definition member
    · exact ⟨existing, present, rfl⟩
    · simp only [Resource.same, Bool.and_eq_true, beq_iff_eq] at agrees
      exact ⟨existing, present, agrees.1.1.1⟩
  | output _ _ => cases given

theorem Template.isFounded_of_ofDeclarations {template : Template} {declarations : List Declaration}
    (made : Template.ofDeclarations declarations = .ok template)
    (founded : ∀ declaration ∈ declarations,
      declaration.IsFounded (declarations.filterMap Declaration.resource?) metrics) :
    template.IsFounded metrics := by
  have kept : ∀ key definition, (key, definition) ∈ declarations.filterMap Declaration.resource? →
      ∃ other, (key, other) ∈ template.resources.entries ∧ other.kind = definition.kind :=
    fun key definition declared => (grown_of_ofDeclarations made).exists_entry declared
  refine ⟨fun key resource member => ?_, fun key output member => ?_⟩
  · obtain ⟨declaration, declared, given⟩ := exists_declaration_of_mem made member
    have holds := founded declaration declared
    cases declaration with
    | resource _ _ =>
      cases given
      exact holds.mono kept (List.Subset.refl _)
    | sharedResource _ _ =>
      cases given
      exact holds.mono kept (List.Subset.refl _)
    | output _ _ => cases given
  · rw [outputs_of_ofDeclarations made] at member
    obtain ⟨declaration, declared, given⟩ := List.mem_filterMap.mp member
    have holds := founded declaration declared
    cases declaration with
    | output _ _ =>
      cases given
      exact fun target refers => (holds target refers).mono kept
    | resource _ _ => cases given
    | sharedResource _ _ => cases given

end ClusterStack
