import ClusterStack.Proofs.Template.Growth

/-!
# Operations on templates

Things are done to a template one after the other: a declaration is entered, or another template is merged
into it. Each may be refused, and a merge that is refused has been carried out in part. Whatever is done,
nothing that is there is moved, replaced or taken out.
-/

set_option autoImplicit false

namespace ClusterStack

/-- What can be done to a template. -/
inductive Operation where
  | declare (declaration : Declaration)
  | merge (other : Template)

namespace Template

variable {template larger largest : Template} {declaration : Declaration}

/-- The template that an operation leaves, and why the operation was refused, if it was. -/
def operate (template : Template) : Operation → Template × Option CompileError
  | .declare declaration => template.declareUntilRefused [declaration]
  | .merge other => template.mergeUntilRefused other

/-- The template that is left after some operations, of which any may have been refused. -/
def operateAll (template : Template) (operations : List Operation) : Template :=
  operations.foldl (fun state operation => (state.operate operation).1) template

/-- The larger template has the entries of the other one in their places, and new ones behind them. -/
structure Begins (template larger : Template) : Prop where
  resources : template.resources.entries <+: larger.resources.entries
  outputs : template.outputs.entries <+: larger.outputs.entries

theorem Begins.refl (template : Template) : template.Begins template :=
  ⟨List.prefix_rfl, List.prefix_rfl⟩

theorem Begins.trans (first : template.Begins larger) (second : larger.Begins largest) :
    template.Begins largest :=
  ⟨first.resources.trans second.resources, first.outputs.trans second.outputs⟩

theorem begins_of_declare (entered : template.declare declaration = .ok larger) :
    template.Begins larger := by
  have grown := grown_of_declare entered
  constructor
  · obtain ⟨added, entries, -, -⟩ := grown.resources
    exact ⟨added, entries.symm⟩
  · exact ⟨_, grown.outputs.symm⟩

theorem begins_declareUntilRefused (template : Template) (declarations : List Declaration) :
    template.Begins (template.declareUntilRefused declarations).1 := by
  induction declarations generalizing template with
  | nil => exact .refl template
  | cons declaration rest ih =>
    rw [declareUntilRefused]
    cases outcome : template.declare declaration with
    | ok larger => exact (begins_of_declare outcome).trans (ih larger)
    | error reason => exact .refl template

theorem begins_operate (template : Template) (operation : Operation) :
    template.Begins (template.operate operation).1 := by
  cases operation with
  | declare declaration => exact template.begins_declareUntilRefused [declaration]
  | merge other => exact template.begins_declareUntilRefused other.declarations

theorem begins_operateAll (template : Template) (operations : List Operation) :
    template.Begins (template.operateAll operations) := by
  induction operations generalizing template with
  | nil => exact .refl template
  | cons operation rest ih =>
    exact (template.begins_operate operation).trans (ih (template.operate operation).1)

theorem operate_declare (template : Template) (declaration : Declaration) :
    template.operate (.declare declaration) =
      match template.declare declaration with
      | .ok larger => (larger, none)
      | .error reason => (template, some reason) := by
  rw [operate, declareUntilRefused]
  cases template.declare declaration <;> rfl

/-- A declaration is refused exactly if it clashes with what is there, which it leaves as it is. -/
theorem operate_declare_eq_some {reason : CompileError} :
    template.operate (.declare declaration) = (larger, some reason) ↔
      larger = template ∧
        Clash template.resources.entries template.outputs.entries declaration reason := by
  rw [operate_declare, ← declare_eq_error]
  cases template.declare declaration with
  | ok other => simp
  | error other => simp [eq_comm]

theorem eq_of_operate_declare_ne_none
    (refused : (template.operate (.declare declaration)).2 ≠ none) :
    (template.operate (.declare declaration)).1 = template := by
  obtain ⟨reason, told⟩ := Option.ne_none_iff_exists'.mp refused
  exact (operate_declare_eq_some.mp (Prod.ext rfl told)).1

theorem operate_sharedResource_eq_none {key : String} {definition : Resource} :
    (template.operate (.declare (.sharedResource key definition))).2 = none ↔
      key ∉ template.resources.keys ∨
        ∃ existing, (key, existing) ∈ template.resources.entries ∧ existing.same definition = true := by
  constructor
  · intro accepted
    by_cases taken : key ∈ template.resources.keys
    · right
      obtain ⟨existing, present⟩ := Registry.mem_keys.mp taken
      refine ⟨existing, present, ?_⟩
      by_contra differs
      have clash : Clash template.resources.entries template.outputs.entries
          (.sharedResource key definition) (.duplicateResource key) :=
        .sharedResource present (by simpa using differs)
      rw [operate_declare_eq_some.mpr ⟨rfl, clash⟩] at accepted
      cases accepted
    · exact .inl taken
  · intro fits
    cases told : (template.operate (.declare (.sharedResource key definition))).2 with
    | none => rfl
    | some reason =>
      obtain ⟨-, clash⟩ := operate_declare_eq_some.mp (Prod.ext rfl told)
      cases clash with
      | sharedResource taken differs =>
        rename_i other
        cases fits with
        | inl free => exact absurd (Registry.mem_keys.mpr ⟨other, taken⟩) free
        | inr held =>
          obtain ⟨existing, present, equal⟩ := held
          rw [Entries.eq_of_mem_of_mem template.resources.distinct taken present, equal] at differs
          cases differs

/-- Whatever is done to a template, its entries stay in their places, and no key is used twice. At any time a
declaration that is refused changes nothing, and a shared resource is refused only if another one is there
under its key. -/
theorem operateAll_appends (template : Template) (operations : List Operation) :
    template.Begins (template.operateAll operations) ∧
      (Entries.keys (template.operateAll operations).resources.entries).Nodup ∧
      (Entries.keys (template.operateAll operations).outputs.entries).Nodup ∧
      ∀ before declaration after, operations = before ++ .declare declaration :: after →
        (((template.operateAll before).operate (.declare declaration)).2 ≠ none →
          ((template.operateAll before).operate (.declare declaration)).1 = template.operateAll before) ∧
        ∀ key definition, declaration = .sharedResource key definition →
          (((template.operateAll before).operate (.declare declaration)).2 = none ↔
            key ∉ (template.operateAll before).resources.keys ∨
              ∃ existing, (key, existing) ∈ (template.operateAll before).resources.entries ∧
                existing.same definition = true) := by
  refine ⟨template.begins_operateAll operations, Registry.distinct _, Registry.distinct _, ?_⟩
  intro before declaration after _
  refine ⟨eq_of_operate_declare_ne_none, ?_⟩
  intro key definition shared
  rw [shared]
  exact operate_sharedResource_eq_none

end Template

end ClusterStack
