import ClusterStack.Proofs.Naming.Label
import Mathlib

/-!
# The alphabet of names

Whatever people write, a normalized name is made of ASCII letters and digits: characters beyond them
are dropped, or their lower case is among them. So are the prefix of a host service that is named in
letters, digits, hyphens and underscores, the tag of a role and every mark, and hence a logical id.
-/

set_option autoImplicit false

namespace ClusterStack

def IsAlphanumeric (text : String) : Prop :=
  ∀ c ∈ text.toList, c.isAlphanum = true

instance : DecidablePred IsAlphanumeric :=
  fun text => List.decidableBAll (fun c : Char => c.isAlphanum = true) text.toList

namespace IsAlphanumeric

theorem append {front back : String} (first : IsAlphanumeric front) (second : IsAlphanumeric back) :
    IsAlphanumeric (front ++ back) := by
  intro c member
  rw [String.toList_append] at member
  cases List.mem_append.mp member with
  | inl before => exact first c before
  | inr after => exact second c after

theorem ofList {chars : List Char} (every : ∀ c ∈ chars, c.isAlphanum = true) :
    IsAlphanumeric (String.ofList chars) := by
  rwa [IsAlphanumeric, String.toList_ofList]

theorem not_mem {text : String} (plain : IsAlphanumeric text) {c : Char} (other : c.isAlphanum = false) :
    c ∉ text.toList := by
  intro member
  rw [plain c member] at other
  cases other

end IsAlphanumeric

theorem toNat_lt_of_isAlphanum {c : Char} (plain : c.isAlphanum = true) : c.toNat < 128 := by
  simp only [Char.isAlphanum, Char.isAlpha, Char.isUpper, Char.isLower, Char.isDigit, Bool.or_eq_true,
    Bool.and_eq_true, decide_eq_true_eq, UInt32.le_iff_toNat_le, ge_iff_le] at plain
  have last : 'Z'.val.toNat = 90 ∧ 'z'.val.toNat = 122 ∧ '9'.val.toNat = 57 := ⟨rfl, rfl, rfl⟩
  have value : c.toNat = c.val.toNat := rfl
  omega

theorem isAlphanum_toUpper {c : Char} (plain : c.isAlphanum = true) : c.toUpper.isAlphanum = true := by
  by_cases lower : c.isLower
  · have letter : c.isAlpha = true := by rw [Char.isAlpha, lower, Bool.or_true]
    rw [Char.isAlphanum, Char.isAlpha_toUpper_eq_isAlpha, letter, Bool.true_or]
  · rwa [Char.toUpper_eq_of_not_isLower lower]

theorem isAlphanum_toLower {c : Char} (plain : c.isAlphanum = true) : c.toLower.isAlphanum = true := by
  by_cases capital : c.isUpper
  · have letter : c.isAlpha = true := by rw [Char.isAlpha, capital, Bool.true_or]
    rw [Char.isAlphanum, Char.isAlpha_toLower_eq_isAlpha, letter, Bool.true_or]
  · rwa [Char.toLower_eq_of_not_isUpper capital]

theorem isAlphanum_of_mem_joinRuns {fresh : Bool} {chars : List Char} {c : Char}
    (member : c ∈ joinRuns fresh chars) : c.isAlphanum = true := by
  induction chars generalizing fresh with
  | nil => cases member
  | cons first rest ih =>
    unfold joinRuns at member
    split at member
    · rename_i plain
      cases List.mem_cons.mp member with
      | inl same =>
        subst same
        cases fresh with
        | false => exact plain
        | true => exact isAlphanum_toUpper plain
      | inr further => exact ih further
    · exact ih member

theorem isAlphanumeric_normalizeName (name : String) : IsAlphanumeric (normalizeName name) :=
  .ofList fun _ member => isAlphanum_of_mem_joinRuns member

/-- A name of ASCII letters, digits, hyphens and underscores. -/
def IsServiceName (service : String) : Prop :=
  ∀ c ∈ service.toList, c.isAlphanum = true ∨ c = '-' ∨ c = '_'

instance : DecidablePred IsServiceName :=
  fun service =>
    List.decidableBAll (fun c : Char => c.isAlphanum = true ∨ c = '-' ∨ c = '_') service.toList

private theorem capitalize_keeps {chars : List Char}
    (allowed : ∀ c ∈ chars, c.isAlphanum = true ∨ c = '_') :
    ∀ c ∈ Text.capitalize chars, c.isAlphanum = true ∨ c = '_' := by
  cases chars with
  | nil => exact allowed
  | cons first rest =>
    rw [List.forall_mem_cons] at allowed
    have bound : first.toNat < 128 := by
      rcases allowed.1 with plain | rfl
      · exact toNat_lt_of_isAlphanum plain
      · decide
    have ascii : first.val < 128 := UInt32.lt_iff_toNat_lt.mpr bound
    rw [Text.capitalize, Text.upperChar, if_pos ascii, List.singleton_append, List.forall_mem_cons]
    refine ⟨?_, allowed.2⟩
    rcases allowed.1 with plain | rfl
    · exact .inl (isAlphanum_toUpper plain)
    · exact .inr (by decide)

/-- Hyphens are dropped, and underscores are spelled out. -/
theorem isAlphanumeric_normalizeServiceName {service : String} (named : IsServiceName service) :
    IsAlphanumeric (normalizeServiceName service) := by
  refine .ofList fun c member => ?_
  obtain ⟨given, inside, spelled⟩ := List.mem_flatMap.mp member
  have allowed : given.isAlphanum = true ∨ given = '_' := by
    refine capitalize_keeps (fun kept present => ?_) given inside
    obtain ⟨written, noHyphen⟩ := List.mem_filter.mp present
    rcases named kept written with plain | hyphen | underscore
    · exact .inl plain
    · exact absurd hyphen (of_decide_eq_true noHyphen)
    · exact .inr underscore
  split at spelled
  · have letters : IsAlphanumeric "Underscore" := by decide
    exact letters c spelled
  · rename_i other
    rw [List.mem_singleton.mp spelled]
    exact allowed.resolve_right other

theorem Role.isAlphanumeric_tag (role : Role) : IsAlphanumeric role.tag ∧ role.tag ≠ "" := by
  have every : ∀ role ∈ all, IsAlphanumeric role.tag ∧ role.tag ≠ "" := by decide +kernel
  exact every role role.mem_all

theorem Mark.isAlphanum_of_isPart {c : Char} (part : isPart c = true) : c.isAlphanum = true := by
  rw [isPart, Bool.or_eq_true] at part
  cases part with
  | inl digit => simp [Char.isAlphanum, digit]
  | inr letter =>
    have letters : IsAlphanumeric "HTPSRule" := by decide
    exact letters c (by simpa using letter)

theorem Mark.IsPlain.isAlphanumeric {mark : Mark} (plain : mark.IsPlain) : IsAlphanumeric mark.text :=
  fun _ member => isAlphanum_of_isPart (isPart_of_mem plain member)

namespace Deployment

variable {deployment : Deployment} {label : Label}

/-- The id of a label has the characters of its owner, its tag, the stage and its mark. -/
theorem isAlphanumeric_idOf (owner : IsAlphanumeric label.owner) (mark : IsAlphanumeric label.mark.text) :
    IsAlphanumeric (deployment.idOf label) :=
  ((owner.append label.role.isAlphanumeric_tag.1).append (isAlphanumeric_normalizeName _)).append mark

theorem idOf_ne_empty (deployment : Deployment) (label : Label) : deployment.idOf label ≠ "" := by
  intro empty
  simp only [idOf, numberedId, logicalId, String.append_eq_empty_iff] at empty
  exact label.role.isAlphanumeric_tag.2 empty.1.1.2

end Deployment

end ClusterStack
