import ClusterStack.Template.Resource

/-!
# Equality of trees, values and resources

Every tree is the same tree as itself, and so are values and resources, whatever they are made of.
-/

set_option autoImplicit false

namespace ClusterStack

namespace Json

mutual

private theorem beq_self : ∀ json : Json, beq json json = true
  | .null => rfl
  | .bool _ | .number _ | .string _ => by simp [beq]
  | .array items => by simp only [beq, beqItems_self items]
  | .object members => by simp only [beq, beqMembers_self members]

private theorem beqItems_self : ∀ items : List Json, beqItems items items = true
  | [] => rfl
  | item :: rest => by simp only [beqItems, beq_self item, beqItems_self rest, Bool.and_self]

private theorem beqMembers_self : ∀ members : List (String × Json), beqMembers members members = true
  | [] => rfl
  | (key, value) :: rest => by
    simp only [beqMembers, beq_self_eq_true, beq_self value, beqMembers_self rest, Bool.and_self]

end

instance : ReflBEq Json := ⟨fun {json} => beq_self json⟩

end Json

namespace Value

mutual

private theorem beq_self : ∀ value : Value, beq value value = true
  | .string _ | .int _ | .real _ | .bool _ | .ref _ | .attribute _ _ => by simp [beq]
  | .expression raw => by simp [beq]
  | .list items => by simp only [beq, beqItems_self items]
  | .map entries => by simp only [beq, beqEntries_self entries]
  | .join _ parts => by simp only [beq, beq_self_eq_true, beqItems_self parts, Bool.and_self]
  | .select _ inner => by simp only [beq, beq_self_eq_true, beq_self inner, Bool.and_self]
  | .zones region => by simp only [beq, beq_self region]

private theorem beqItems_self : ∀ items : List Value, beqItems items items = true
  | [] => rfl
  | item :: rest => by simp only [beqItems, beq_self item, beqItems_self rest, Bool.and_self]

private theorem beqEntries_self : ∀ entries : List (String × Value), beqEntries entries entries = true
  | [] => rfl
  | (key, value) :: rest => by
    simp only [beqEntries, beq_self_eq_true, beq_self value, beqEntries_self rest, Bool.and_self]

end

instance : ReflBEq Value := ⟨fun {value} => beq_self value⟩

@[simp] theorem same_self (value : Value) : value.same value = true := by
  simp [same]

end Value

@[simp] theorem Resource.same_self (resource : Resource) : resource.same resource = true := by
  simp [Resource.same]

end ClusterStack
