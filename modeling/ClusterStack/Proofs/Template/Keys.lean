import ClusterStack.Proofs.Template.Growth

/-!
# Keys of declarations

The keys under which declarations stand, of the resources that are declared for one component alone
and of the outputs, part by part.
-/

set_option autoImplicit false

namespace ClusterStack.Declaration

variable {α β : Type}

/-- The keys of those declarations that are selected. -/
def keysOf (select : Declaration → Option (String × β)) (declarations : List Declaration) : List String :=
  Entries.keys (declarations.filterMap select)

@[simp] theorem keysOf_owned_resource_cons (key : String) (definition : Resource) (rest : List Declaration) :
    keysOf owned? (.resource key definition :: rest) = key :: keysOf owned? rest := rfl

@[simp] theorem keysOf_owned_sharedResource_cons (key : String) (definition : Resource)
    (rest : List Declaration) :
    keysOf owned? (.sharedResource key definition :: rest) = keysOf owned? rest := rfl

@[simp] theorem keysOf_output_output_cons (key : String) (definition : Output) (rest : List Declaration) :
    keysOf output? (.output key definition :: rest) = key :: keysOf output? rest := rfl

variable {select : Declaration → Option (String × β)}

@[simp] theorem keysOf_nil : keysOf select [] = [] := rfl

@[simp] theorem keysOf_append (front back : List Declaration) :
    keysOf select (front ++ back) = keysOf select front ++ keysOf select back := by
  simp [keysOf]

theorem keysOf_eq_nil {declarations : List Declaration}
    (none : ∀ declaration ∈ declarations, select declaration = none) :
    keysOf select declarations = [] := by
  simp [keysOf, List.filterMap_eq_nil_iff.mpr none]

theorem keysOf_flatMap (items : List α) (f : α → List Declaration) :
    keysOf select (items.flatMap f) = items.flatMap fun item => keysOf select (f item) := by
  induction items with
  | nil => rfl
  | cons item rest ih => rw [List.flatMap_cons, keysOf_append, ih, List.flatMap_cons]

theorem keysOf_flatten {relation : α → List Declaration → Prop} {items : List α}
    {parts : List (List Declaration)} (related : List.Forall₂ relation items parts)
    {keys : α → List String}
    (each : ∀ item ∈ items, ∀ part, relation item part → keysOf select part = keys item) :
    keysOf select parts.flatten = items.flatMap keys := by
  induction related with
  | nil => rfl
  | cons first _ ih =>
    rw [List.flatten_cons, keysOf_append, List.flatMap_cons, each _ (.head _) _ first,
      ih fun item member => each item (.tail _ member)]

theorem keysOf_flatten_mapIdx {items : List α} {f : Nat → α → List Declaration}
    {keys : Nat → List String}
    (each : ∀ item index, (item, index) ∈ items.zipIdx → keysOf select (f index item) = keys index) :
    keysOf select (items.mapIdx f).flatten = (List.range items.length).flatMap keys := by
  have inner : ∀ index, ∀ _ : index < items.length, keysOf select (f index items[index]) = keys index :=
    fun index bound => each _ _ (List.mem_zipIdx_iff_getElem?.mpr (by simp [bound]))
  clear each
  induction items generalizing f keys with
  | nil => rfl
  | cons item rest ih =>
    rw [List.mapIdx_cons, List.flatten_cons, keysOf_append, List.length_cons, List.range_succ_eq_map,
      List.flatMap_cons, List.flatMap_map]
    have first : keysOf select (f 0 item) = keys 0 := inner 0 (by simp)
    rw [first, ih fun index bound => inner (index + 1) (by simpa using bound)]

end ClusterStack.Declaration

namespace ClusterStack

open Declaration (keysOf owned?)

/-- Resources under distinct keys make a template that consists of them. -/
theorem Template.exists_ofDeclarations {declarations : List Declaration}
    (resources : ∀ declaration ∈ declarations, ∃ key definition, declaration = .resource key definition)
    (distinct : (keysOf owned? declarations).Nodup) :
    ∃ template, ofDeclarations declarations = .ok template ∧
      template.resources.entries = declarations.filterMap owned? := by
  have alone : ∀ key definition, .sharedResource key definition ∉ declarations := by
    intro key definition member
    obtain ⟨_, _, other⟩ := resources _ member
    cases other
  cases outcome : ofDeclarations declarations with
  | ok template => exact ⟨template, rfl, entries_of_declareAll outcome alone⟩
  | error reason =>
    obtain ⟨before, declaration, after, rfl, clash⟩ := clash_of_declareAll_eq_error outcome
    obtain ⟨key, definition, rfl⟩ := resources declaration (by simp)
    cases clash with
    | resource taken =>
      have apart : (Entries.keys (empty.resources.entries ++
          (before ++ .resource key definition :: after).filterMap owned?)).Nodup := distinct
      refine absurd outcome (declareAll_ne_duplicateResource apart ?_ key)
      exact fun _ _ member => absurd member (alone _ _)

end ClusterStack
