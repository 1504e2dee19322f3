import ClusterStack.Proofs.Entries
import ClusterStack.Proofs.Outcome
import ClusterStack.Template.Basic

/-!
# Growth of templates

Entering declarations only ever adds to a template. What is added stands in the order of the
declarations: every resource that is not shared, every shared one that is not there yet, and every
output.
-/

set_option autoImplicit false

namespace ClusterStack

namespace Declaration

/-- The resource that is declared, shared or not, with its key. -/
def resource? : Declaration → Option (String × Resource)
  | .resource key definition => some (key, definition)
  | .sharedResource key definition => some (key, definition)
  | .output _ _ => none

/-- The resource that is declared for one component alone, with its key. -/
def owned? : Declaration → Option (String × Resource)
  | .resource key definition => some (key, definition)
  | .sharedResource _ _ => none
  | .output _ _ => none

def output? : Declaration → Option (String × Output)
  | .output key definition => some (key, definition)
  | .resource _ _ => none
  | .sharedResource _ _ => none

end Declaration

namespace Template

variable {template larger other : Template} {declarations : List Declaration}

theorem eq_of_entries_eq (resources : template.resources.entries = other.resources.entries)
    (outputs : template.outputs.entries = other.outputs.entries) : template = other := by
  cases template
  cases other
  rw [mk.injEq]
  exact ⟨Registry.eq_of_entries_eq resources, Registry.eq_of_entries_eq outputs⟩

theorem addResource_eq_ok {key : String} {resource : Resource} :
    template.addResource key resource = .ok larger ↔ key ∉ template.resources.keys ∧
      larger.resources.entries = template.resources.entries ++ [(key, resource)] ∧
        larger.outputs.entries = template.outputs.entries := by
  unfold addResource
  split
  case isTrue free =>
    constructor
    · intro accepted
      cases accepted
      exact ⟨free, rfl, rfl⟩
    · rintro ⟨-, resources, outputs⟩
      rw [Except.ok.injEq]
      exact eq_of_entries_eq resources.symm outputs.symm
  case isFalse taken => simp [taken]

theorem addResource_eq_error {key : String} {resource : Resource} {reason : CompileError} :
    template.addResource key resource = .error reason ↔
      key ∈ template.resources.keys ∧ reason = .duplicateResource key := by
  unfold addResource
  split
  case isTrue free => simp [free]
  case isFalse taken => simp [not_not.mp taken, eq_comm]

theorem addOutput_eq_ok {key : String} {output : Output} :
    template.addOutput key output = .ok larger ↔ key ∉ template.outputs.keys ∧
      larger.resources.entries = template.resources.entries ∧
        larger.outputs.entries = template.outputs.entries ++ [(key, output)] := by
  unfold addOutput
  split
  case isTrue free =>
    constructor
    · intro accepted
      cases accepted
      exact ⟨free, rfl, rfl⟩
    · rintro ⟨-, resources, outputs⟩
      rw [Except.ok.injEq]
      exact eq_of_entries_eq resources.symm outputs.symm
  case isFalse taken => simp [taken]

theorem addOutput_eq_error {key : String} {output : Output} {reason : CompileError} :
    template.addOutput key output = .error reason ↔
      key ∈ template.outputs.keys ∧ reason = .duplicateOutput key := by
  unfold addOutput
  split
  case isTrue free => simp [free]
  case isFalse taken => simp [not_not.mp taken, eq_comm]

/-- A shared resource is entered under a free key, or is there already in equal form. -/
theorem addSharedResource_eq_ok {key : String} {resource : Resource} :
    template.addSharedResource key resource = .ok larger ↔
      template.addResource key resource = .ok larger ∨
        larger = template ∧ ∃ existing, (key, existing) ∈ template.resources.entries ∧
          existing.same resource = true := by
  unfold addSharedResource
  cases found : template.resources.get? key with
  | none =>
    have free := Registry.get?_eq_none.mp found
    constructor
    · exact .inl
    · rintro (accepted | ⟨-, existing, member, -⟩)
      · exact accepted
      · exact absurd (Registry.mem_keys.mpr ⟨existing, member⟩) free
  | some existing =>
    have member := Registry.get?_eq_some.mp found
    have taken : key ∈ template.resources.keys := Registry.mem_keys.mpr ⟨existing, member⟩
    have only : ∀ other, (key, other) ∈ template.resources.entries → other = existing :=
      fun other present => Entries.eq_of_mem_of_mem template.resources.distinct present member
    simp only [addResource_eq_ok, taken, not_true_eq_false, false_and, false_or]
    by_cases equal : existing.same resource
    · simp only [equal, if_true, Except.ok.injEq]
      exact ⟨fun same => ⟨same.symm, existing, member, equal⟩, fun holds => holds.1.symm⟩
    · simp only [equal, Bool.false_eq_true, if_false, reduceCtorEq, false_iff]
      rintro ⟨-, other, present, agrees⟩
      exact equal (only other present ▸ agrees)

theorem addSharedResource_eq_error {key : String} {resource : Resource} {reason : CompileError} :
    template.addSharedResource key resource = .error reason ↔
      reason = .duplicateResource key ∧ ∃ existing, (key, existing) ∈ template.resources.entries ∧
        existing.same resource = false := by
  unfold addSharedResource
  cases found : template.resources.get? key with
  | none =>
    have free := Registry.get?_eq_none.mp found
    simp only [addResource_eq_error, free, false_and, false_iff]
    rintro ⟨-, existing, member, -⟩
    exact free (Registry.mem_keys.mpr ⟨existing, member⟩)
  | some existing =>
    have member := Registry.get?_eq_some.mp found
    have only : ∀ other, (key, other) ∈ template.resources.entries → other = existing :=
      fun other present => Entries.eq_of_mem_of_mem template.resources.distinct present member
    by_cases equal : existing.same resource
    · simp only [equal, if_true, reduceCtorEq, false_iff]
      rintro ⟨-, other, present, differs⟩
      rw [only other present, equal] at differs
      cases differs
    · simp only [equal, Bool.false_eq_true, if_false, Except.error.injEq]
      exact ⟨fun told => ⟨told.symm, existing, member, by simpa using equal⟩, fun holds => holds.1.symm⟩

/-- What entering declarations makes of a template. -/
structure Grown (template : Template) (declarations : List Declaration) (larger : Template) :
    Prop where
  outputs : larger.outputs.entries =
    template.outputs.entries ++ declarations.filterMap Declaration.output?
  resources : ∃ added, larger.resources.entries = template.resources.entries ++ added ∧
    (declarations.filterMap Declaration.owned?).Sublist added ∧
      added.Sublist (declarations.filterMap Declaration.resource?)
  /-- Of a shared resource, an equal one is there, if not this very one. -/
  shared : ∀ key definition, .sharedResource key definition ∈ declarations →
    ∃ existing, (key, existing) ∈ larger.resources.entries ∧
      (existing = definition ∨ existing.same definition = true)

theorem Grown.refl (template : Template) : Grown template [] template where
  outputs := by simp
  resources := ⟨[], by simp⟩
  shared := by simp

theorem Grown.mem_resources (grown : Grown template declarations larger) {entry : String × Resource}
    (member : entry ∈ template.resources.entries) : entry ∈ larger.resources.entries := by
  obtain ⟨added, entries, -, -⟩ := grown.resources
  rw [entries]
  exact List.mem_append_left _ member

theorem Grown.trans {more : List Declaration} {largest : Template}
    (first : Grown template declarations larger) (second : Grown larger more largest) :
    Grown template (declarations ++ more) largest where
  outputs := by
    rw [second.outputs, first.outputs, List.filterMap_append, List.append_assoc]
  resources := by
    obtain ⟨added, entries, least, most⟩ := first.resources
    obtain ⟨further, extended, leastFurther, mostFurther⟩ := second.resources
    refine ⟨added ++ further, ?_, ?_, ?_⟩
    · rw [extended, entries, List.append_assoc]
    · rw [List.filterMap_append]
      exact least.append leastFurther
    · rw [List.filterMap_append]
      exact most.append mostFurther
  shared := by
    intro key definition member
    rcases List.mem_append.mp member with before | after
    · obtain ⟨existing, present, agrees⟩ := first.shared key definition before
      exact ⟨existing, second.mem_resources present, agrees⟩
    · exact second.shared key definition after

private theorem Grown.addResource {declaration : Declaration} {key : String} {resource : Resource}
    (entered : template.addResource key resource = .ok larger)
    (declared : declaration.resource? = some (key, resource))
    (output : declaration.output? = none)
    (owned : ∀ entry, declaration.owned? = some entry → entry = (key, resource)) :
    Grown template [declaration] larger := by
  obtain ⟨-, entries, outputs⟩ := addResource_eq_ok.mp entered
  refine ⟨?_, ⟨[(key, resource)], entries, ?_, ?_⟩, ?_⟩
  · simp [outputs, output]
  · cases alone : declaration.owned? with
    | none => simp [alone]
    | some entry => simp [alone, owned entry alone]
  · simp [declared]
  · intro otherKey definition member
    obtain rfl : .sharedResource otherKey definition = declaration := by simpa using member
    cases declared
    exact ⟨resource, by simp [entries], .inl rfl⟩

theorem grown_of_declare {declaration : Declaration}
    (entered : template.declare declaration = .ok larger) : Grown template [declaration] larger := by
  cases declaration with
  | resource key definition =>
    exact .addResource entered rfl rfl (by simp [Declaration.owned?])
  | sharedResource key definition =>
    rcases addSharedResource_eq_ok.mp entered with added | ⟨rfl, existing, member, agrees⟩
    · exact .addResource added rfl rfl (by simp [Declaration.owned?])
    · refine ⟨by simp [Declaration.output?], ⟨[], by simp [Declaration.owned?]⟩, ?_⟩
      intro otherKey other declared
      obtain ⟨rfl, rfl⟩ : otherKey = key ∧ other = definition := by simpa using declared
      exact ⟨existing, member, .inr agrees⟩
  | output key definition =>
    obtain ⟨-, resources, outputs⟩ := addOutput_eq_ok.mp entered
    exact ⟨by simp [Declaration.output?, outputs], ⟨[], by simp [Declaration.owned?, resources]⟩, by simp⟩

theorem grown_of_declareAll (entered : template.declareAll declarations = .ok larger) :
    Grown template declarations larger := by
  refine foldlM_preserves entered (Grown template) (.refl template) ?_
  intro before declaration state next _ grown stepped
  exact grown.trans (grown_of_declare stepped)

theorem filterMap_owned_eq_resource (alone : ∀ key definition, .sharedResource key definition ∉ declarations) :
    declarations.filterMap Declaration.owned? = declarations.filterMap Declaration.resource? := by
  refine List.filterMap_congr fun declaration member => ?_
  cases declaration with
  | resource _ _ => rfl
  | output _ _ => rfl
  | sharedResource key definition => exact absurd member (alone key definition)

/-- Declarations of which none is shared are entered one by one. -/
theorem entries_of_declareAll (entered : template.declareAll declarations = .ok larger)
    (alone : ∀ key definition, .sharedResource key definition ∉ declarations) :
    larger.resources.entries =
      template.resources.entries ++ declarations.filterMap Declaration.owned? := by
  have same := filterMap_owned_eq_resource alone
  obtain ⟨added, entries, least, most⟩ := (grown_of_declareAll entered).resources
  rw [← same] at most
  rw [entries, least.eq_of_length_le most.length_le]

theorem declareAll_append_eq_ok {more : List Declaration} :
    template.declareAll (declarations ++ more) = .ok larger ↔
      ∃ between, template.declareAll declarations = .ok between ∧ between.declareAll more = .ok larger := by
  rw [declareAll, List.foldlM_append, bind_eq_ok]
  rfl

/-- What makes a declaration clash with resources and outputs, and how it is told. -/
inductive Clash (resources : List (String × Resource)) (outputs : List (String × Output)) :
    Declaration → CompileError → Prop where
  | resource {key : String} {definition : Resource} (taken : key ∈ Entries.keys resources) :
      Clash resources outputs (.resource key definition) (.duplicateResource key)
  | sharedResource {key : String} {existing definition : Resource}
      (taken : (key, existing) ∈ resources) (differs : existing.same definition = false) :
      Clash resources outputs (.sharedResource key definition) (.duplicateResource key)
  | output {key : String} {definition : Output} (taken : key ∈ Entries.keys outputs) :
      Clash resources outputs (.output key definition) (.duplicateOutput key)

/-- A declaration is refused exactly if it clashes with what is there. -/
theorem declare_eq_error {declaration : Declaration} {reason : CompileError} :
    template.declare declaration = .error reason ↔
      Clash template.resources.entries template.outputs.entries declaration reason := by
  constructor
  · intro refused
    cases declaration with
    | resource key definition =>
      obtain ⟨taken, rfl⟩ := addResource_eq_error.mp refused
      exact .resource taken
    | sharedResource key definition =>
      obtain ⟨rfl, existing, taken, differs⟩ := addSharedResource_eq_error.mp refused
      exact .sharedResource taken differs
    | output key definition =>
      obtain ⟨taken, rfl⟩ := addOutput_eq_error.mp refused
      exact .output taken
  · intro clash
    cases clash with
    | resource taken => exact addResource_eq_error.mpr ⟨taken, rfl⟩
    | sharedResource taken differs =>
      exact addSharedResource_eq_error.mpr ⟨rfl, _, taken, differs⟩
    | output taken => exact addOutput_eq_error.mpr ⟨taken, rfl⟩

theorem Clash.mono {declaration : Declaration} {reason : CompileError}
    {resources more : List (String × Resource)} {outputs further : List (String × Output)}
    (clash : Clash resources outputs declaration reason) (resourcesIn : resources ⊆ more)
    (outputsIn : outputs ⊆ further) : Clash more further declaration reason := by
  cases clash with
  | resource taken => exact .resource (List.map_subset _ resourcesIn taken)
  | sharedResource taken differs => exact .sharedResource (resourcesIn taken) differs
  | output taken => exact .output (List.map_subset _ outputsIn taken)

/-- Declarations are refused for one that clashes with the template or an earlier declaration. -/
theorem clash_of_declareAll_eq_error {reason : CompileError}
    (refused : template.declareAll declarations = .error reason) :
    ∃ before declaration after, declarations = before ++ declaration :: after ∧
      Clash (template.resources.entries ++ before.filterMap Declaration.resource?)
        (template.outputs.entries ++ before.filterMap Declaration.output?) declaration reason := by
  obtain ⟨before, declaration, after, state, split, ran, failed⟩ := foldlM_eq_error.mp refused
  have grown := grown_of_declareAll ran
  refine ⟨before, declaration, after, split, (declare_eq_error.mp failed).mono ?_ ?_⟩
  · obtain ⟨added, entries, -, most⟩ := grown.resources
    rw [entries]
    exact ((List.Sublist.refl _).append most).subset
  · rw [grown.outputs]
    exact List.Subset.refl _

theorem declareAll_ne_duplicateOutput
    (apart : (Entries.keys (template.outputs.entries ++
      declarations.filterMap Declaration.output?)).Nodup) (key : String) :
    template.declareAll declarations ≠ .error (.duplicateOutput key) := by
  intro refused
  obtain ⟨before, declaration, after, rfl, clash⟩ := clash_of_declareAll_eq_error refused
  cases clash with
  | output taken =>
    simp only [List.filterMap_append, List.filterMap_cons, Declaration.output?,
      ← List.append_assoc] at apart
    rw [Entries.keys_append, List.nodup_append] at apart
    exact apart.2.2 key taken key (by simp) rfl

/-- Resources under distinct keys are never refused, nor are shared ones that agree. -/
theorem declareAll_ne_duplicateResource
    (apart : (Entries.keys (template.resources.entries ++
      declarations.filterMap Declaration.owned?)).Nodup)
    (alike : ∀ key definition, .sharedResource key definition ∈ declarations →
      key ∉ Entries.keys (declarations.filterMap Declaration.owned?) ∧
        ∀ existing, (key, existing) ∈ template.resources.entries ∨
          .sharedResource key existing ∈ declarations → existing.same definition = true)
    (key : String) : template.declareAll declarations ≠ .error (.duplicateResource key) := by
  intro refused
  obtain ⟨before, declaration, after, rfl, clash⟩ := clash_of_declareAll_eq_error refused
  have declared : ∀ existing, (key, existing) ∈ before.filterMap Declaration.resource? →
      (key, existing) ∈ before.filterMap Declaration.owned? ∨ .sharedResource key existing ∈ before := by
    intro existing member
    obtain ⟨other, present, same⟩ := List.mem_filterMap.mp member
    cases other with
    | resource _ _ => exact .inl (List.mem_filterMap.mpr ⟨_, present, same⟩)
    | sharedResource _ _ =>
      cases same
      exact .inr present
    | output _ _ => cases same
  cases clash with
  | resource taken =>
    rename_i definition
    simp only [List.filterMap_append, List.filterMap_cons, Declaration.owned?,
      ← List.append_assoc] at apart
    rw [Entries.keys_append, List.nodup_append] at apart
    obtain ⟨existing, member⟩ := Entries.mem_keys.mp taken
    rcases List.mem_append.mp member with old | new
    · exact apart.2.2 key (Entries.mem_keys_of_mem (List.mem_append_left _ old)) key (by simp) rfl
    · rcases declared existing new with alone | shared
      · exact apart.2.2 key (Entries.mem_keys_of_mem (List.mem_append_right _ alone)) key (by simp) rfl
      · refine (alike key existing (List.mem_append_left _ shared)).1 ?_
        simp [Declaration.owned?]
  | sharedResource taken differs =>
    rename_i existing definition
    obtain ⟨free, agree⟩ := alike key definition (by simp)
    have present : (key, existing) ∈ template.resources.entries ∨
        .sharedResource key existing ∈ before ++ .sharedResource key definition :: after := by
      rcases List.mem_append.mp taken with old | new
      · exact .inl old
      · rcases declared existing new with alone | shared
        · have owned : (key, existing) ∈ (before ++ .sharedResource key definition :: after).filterMap
              Declaration.owned? := by
            rw [List.filterMap_append]
            exact List.mem_append_left _ alone
          exact absurd (Entries.mem_keys_of_mem owned) free
        · exact .inr (List.mem_append_left _ shared)
    rw [agree existing present] at differs
    cases differs

section Made

variable (made : ofDeclarations declarations = .ok template)

include made

theorem grown_of_ofDeclarations : Grown empty declarations template :=
  grown_of_declareAll made

theorem exists_declaration_of_mem {key : String} {resource : Resource}
    (member : (key, resource) ∈ template.resources.entries) :
    ∃ declaration ∈ declarations, declaration.resource? = some (key, resource) := by
  obtain ⟨added, entries, -, most⟩ := (grown_of_ofDeclarations made).resources
  rw [entries, empty, Registry.entries_empty, List.nil_append] at member
  exact List.mem_filterMap.mp (most.subset member)

theorem mem_of_resource {key : String} {resource : Resource}
    (declared : .resource key resource ∈ declarations) :
    (key, resource) ∈ template.resources.entries := by
  obtain ⟨added, entries, least, -⟩ := (grown_of_ofDeclarations made).resources
  rw [entries]
  exact List.mem_append_right _ (least.subset (List.mem_filterMap.mpr ⟨_, declared, rfl⟩))

theorem outputs_of_ofDeclarations :
    template.outputs.entries = declarations.filterMap Declaration.output? := by
  rw [(grown_of_ofDeclarations made).outputs, empty, Registry.entries_empty, List.nil_append]

end Made

section Merge

private theorem filterMap_declarations {β : Type} (template : Template) (f : Declaration → Option β) :
    template.declarations.filterMap f =
      template.resources.entries.filterMap (fun entry => f (.resource entry.1 entry.2)) ++
        template.outputs.entries.filterMap (fun entry => f (.output entry.1 entry.2)) := by
  simp [declarations, List.filterMap_map]

@[simp] theorem filterMap_owned_declarations (template : Template) :
    template.declarations.filterMap Declaration.owned? = template.resources.entries := by
  simp [filterMap_declarations, Declaration.owned?]

@[simp] theorem filterMap_resource_declarations (template : Template) :
    template.declarations.filterMap Declaration.resource? = template.resources.entries := by
  simp [filterMap_declarations, Declaration.resource?]

@[simp] theorem filterMap_output_declarations (template : Template) :
    template.declarations.filterMap Declaration.output? = template.outputs.entries := by
  simp [filterMap_declarations, Declaration.output?]

theorem not_shared_declarations {key : String} {definition : Resource} (template : Template) :
    .sharedResource key definition ∉ template.declarations := by
  simp [declarations]

/-- A merged template has the entries of one, then those of the other. -/
theorem entries_of_merge_eq_ok (merged : template.merge other = .ok larger) :
    larger.resources.entries = template.resources.entries ++ other.resources.entries ∧
      larger.outputs.entries = template.outputs.entries ++ other.outputs.entries := by
  refine ⟨?_, ?_⟩
  · rw [entries_of_declareAll merged fun _ _ => not_shared_declarations other,
      filterMap_owned_declarations]
  · rw [(grown_of_declareAll merged).outputs, filterMap_output_declarations]

private theorem nodup_keys_append {α : Type} {front back : List (String × α)}
    (frontDistinct : (Entries.keys front).Nodup) (backDistinct : (Entries.keys back).Nodup)
    (disjoint : (Entries.keys front).Disjoint (Entries.keys back)) :
    (Entries.keys (front ++ back)).Nodup := by
  rw [Entries.keys_append]
  exact frontDistinct.append backDistinct disjoint

/-- A merge is refused for a resource exactly if some key stands for a resource on both sides. -/
theorem merge_eq_duplicateResource :
    (∃ key, template.merge other = .error (.duplicateResource key)) ↔
      ∃ key ∈ template.resources.keys, key ∈ other.resources.keys := by
  constructor
  · rintro ⟨key, refused⟩
    by_contra apart
    push Not at apart
    refine declareAll_ne_duplicateResource ?_ ?_ key refused
    · rw [filterMap_owned_declarations]
      exact nodup_keys_append template.resources.distinct other.resources.distinct apart
    · intro key definition member
      exact absurd member (not_shared_declarations other)
  · rintro ⟨key, here, there⟩
    -- The resources come first, so that no output can be refused before the resource is.
    let resources := other.resources.entries.map fun entry => Declaration.resource entry.1 entry.2
    obtain ⟨definition, member⟩ := Registry.mem_keys.mp there
    have refused : ∀ merged, template.declareAll resources ≠ .ok merged := by
      intro merged accepted
      obtain ⟨added, entries, least, -⟩ := (grown_of_declareAll accepted).resources
      have distinct := merged.resources.distinct
      rw [entries, Entries.keys_append, List.nodup_append] at distinct
      have owned : (key, definition) ∈ resources.filterMap Declaration.owned? :=
        List.mem_filterMap.mpr ⟨_, List.mem_map_of_mem member, rfl⟩
      exact distinct.2.2 key here key (Entries.mem_keys_of_mem (least.subset owned)) rfl
    cases entered : template.declareAll resources with
    | ok merged => exact absurd entered (refused merged)
    | error reason =>
      obtain ⟨before, declaration, after, split, clash⟩ := clash_of_declareAll_eq_error entered
      have present : declaration ∈ resources := by simp [split]
      obtain ⟨entry, -, rfl⟩ := List.mem_map.mp present
      cases clash
      refine ⟨entry.1, ?_⟩
      rw [merge, declarations, declareAll, List.foldlM_append, bind_eq_error]
      exact .inl entered

/-- No key stands for a resource of both templates, or for an output of both. -/
structure Apart (template other : Template) : Prop where
  resources : template.resources.keys.Disjoint other.resources.keys
  outputs : template.outputs.keys.Disjoint other.outputs.keys

theorem Apart.symm (apart : template.Apart other) : other.Apart template :=
  ⟨List.disjoint_symm apart.resources, List.disjoint_symm apart.outputs⟩

/-- A template is merged with another exactly if they have no key in common. -/
theorem exists_merge_iff : (∃ larger, template.merge other = .ok larger) ↔ template.Apart other := by
  constructor
  · rintro ⟨larger, merged⟩
    obtain ⟨resources, outputs⟩ := entries_of_merge_eq_ok merged
    have distinct := larger.resources.distinct
    have outputsDistinct := larger.outputs.distinct
    rw [resources, Entries.keys_append, List.nodup_append'] at distinct
    rw [outputs, Entries.keys_append, List.nodup_append'] at outputsDistinct
    exact ⟨distinct.2.2, outputsDistinct.2.2⟩
  · intro apart
    have accepted : ∀ key, template.merge other ≠ .error (.duplicateResource key) := by
      intro key refused
      obtain ⟨common, here, there⟩ := merge_eq_duplicateResource.mp ⟨key, refused⟩
      exact apart.resources here there
    cases outcome : template.merge other with
    | ok larger => exact ⟨larger, rfl⟩
    | error reason =>
      obtain ⟨before, declaration, after, split, clash⟩ := clash_of_declareAll_eq_error outcome
      cases clash with
      | resource _ => exact absurd outcome (accepted _)
      | sharedResource _ _ => exact absurd outcome (accepted _)
      | output _ =>
        refine absurd outcome (declareAll_ne_duplicateOutput ?_ _)
        rw [filterMap_output_declarations]
        exact nodup_keys_append template.outputs.distinct other.outputs.distinct apart.outputs

theorem merge_empty (template : Template) : empty.merge template = .ok template := by
  obtain ⟨larger, merged⟩ : ∃ larger, empty.merge template = .ok larger :=
    exists_merge_iff.mpr ⟨List.disjoint_nil_left _, List.disjoint_nil_left _⟩
  obtain ⟨resources, outputs⟩ := entries_of_merge_eq_ok merged
  rw [merged, eq_of_entries_eq resources outputs]

end Merge

end Template

end ClusterStack
