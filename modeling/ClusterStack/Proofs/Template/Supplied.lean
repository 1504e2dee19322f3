import ClusterStack.Proofs.Template.Foundation

/-!
# Supplied values

The values that a description supplies refer to nothing, and they come out of a template as they were
supplied, but for integers that are too large. Objects are never looked into.
-/

set_option autoImplicit false

namespace ClusterStack

/-- The integer stands alone or in an array. Objects and what is in them do not count. -/
inductive Json.HasInteger (value : Int) : Json → Prop where
  | alone : HasInteger value (.number (.integer value))
  | item {items : List Json} {item : Json} (member : item ∈ items) (has : HasInteger value item) :
      HasInteger value (.array items)

namespace Value

theorem toJson_ofInput_integer {value : Int} :
    (ofInput (.number (.integer value))).toJson = .number (.integer value) ↔ Number.fitsSigned value = true := by
  rw [ofInput]
  split
  case isTrue fits => simp [toJson, fits]
  case isFalse large => simp [toJson, large]

mutual

private theorem toJson_ofInput_iff : ∀ input : Json, (ofInput input).toJson = input ↔
    ∀ value, input.HasInteger value → Number.fitsSigned value = true
  | .string _ | .bool _ | .null | .object _ | .number (.real _) =>
    ⟨fun _ _ has => (nomatch has), fun _ => rfl⟩
  | .number (.integer number) => by
    rw [toJson_ofInput_integer]
    constructor
    · intro fits value has
      cases has with
      | alone => exact fits
    · intro small
      exact small number .alone
  | .array items => by
    rw [ofInput, toJson, Json.array.injEq, itemsToJson_ofInputs_iff items]
    constructor
    · intro each value has
      cases has with
      | item member within => exact each _ member value within
    · intro small item member value has
      exact small value (.item member has)

private theorem itemsToJson_ofInputs_iff : ∀ inputs : List Json, itemsToJson (ofInputs inputs) = inputs ↔
    ∀ input ∈ inputs, ∀ value, input.HasInteger value → Number.fitsSigned value = true
  | [] => by simp [ofInputs, itemsToJson]
  | input :: rest => by
    rw [ofInputs, itemsToJson, List.cons.injEq, toJson_ofInput_iff input, itemsToJson_ofInputs_iff rest,
      List.forall_mem_cons]

end

/-- What is supplied comes out as it was exactly if no integer outside of the objects exceeds the signed ones of
64 bits. It refers to nothing in any case. -/
theorem toJson_ofInput_eq_iff (input : Json) :
    ((ofInput input).toJson = input ↔ ∀ value, input.HasInteger value → Number.fitsSigned value = true) ∧
      (ofInput input).references = [] :=
  ⟨toJson_ofInput_iff input, references_ofInput input⟩

/-- The largest integer of 64 bits is not carried through. -/
theorem toJson_ofInput_largest : Number.fits 0xffffffffffffffff = true ∧
    (ofInput (.number (.integer 0xffffffffffffffff))).toJson ≠ .number (.integer 0xffffffffffffffff) := by
  refine ⟨by decide, fun kept => ?_⟩
  have fits := toJson_ofInput_integer.mp kept
  exact absurd fits (by decide)

end Value

end ClusterStack
