import ClusterStack.Text.CaseMapping
import Mathlib

/-!
# Lower case

The lower case of a text holds no ASCII capital: the ASCII ones are lowered, and no character beyond ASCII
has an ASCII capital as its lower case. Of ASCII characters each is lowered for itself, wherever it stands.
-/

set_option autoImplicit false

namespace ClusterStack.Text

theorem val_lt_iff {c : Char} : c.val < 128 ↔ c.toNat < 128 :=
  UInt32.lt_iff_toNat_lt

private theorem isUpper_ofNat {code : Nat} (beyond : 'Z'.toNat < code) :
    (Char.ofNat code).isUpper = false := by
  rw [Char.isUpper, decide_eq_false_iff_not, UInt32.le_iff_toNat_le, Char.toNat_val, Char.toNat_ofNat]
  rintro ⟨after, before⟩
  split at before
  · exact absurd before (Nat.not_le_of_lt beyond)
  · -- What is no code point of a character becomes the null character.
    rename_i noCharacter
    rw [Char.ofNat, dif_neg noCharacter] at after
    exact absurd after (by decide)

/-- A code point beyond the capitals of ASCII stays there, where the first one of every run does. -/
private theorem lt_mapCode {runs : List CaseRun} {code : Nat}
    (distances : ∀ run ∈ runs, ('Z'.toNat : Int) < run.first + run.shift) (beyond : 'Z'.toNat < code) :
    'Z'.toNat < mapCode runs code := by
  unfold mapCode
  cases found : runs.findSome? (·.mapped? code) with
  | none => exact beyond
  | some image =>
    obtain ⟨run, member, mapped⟩ := List.exists_of_findSome?_eq_some found
    have distance := distances run member
    unfold CaseRun.mapped? at mapped
    split at mapped
    · rename_i within
      cases mapped
      rw [Option.getD_some]
      omega
    · cases mapped

private theorem lowerRuns_distances : ∀ run ∈ lowerRuns, ('Z'.toNat : Int) < run.first + run.shift := by
  decide +kernel

theorem isUpper_of_mem_lowerChar {c image : Char} (member : image ∈ lowerChar c) :
    image.isUpper = false := by
  unfold lowerChar at member
  split at member
  · rw [List.mem_singleton.mp member]
    exact Char.isUpper_toLower_eq_false c
  · rename_i other
    split at member
    · have plain : (['i', '\u0307'].all fun c => !c.isUpper) = true := by decide
      simpa using List.all_eq_true.mp plain image member
    · rw [List.mem_singleton.mp member]
      have beyond : 'Z'.toNat < c.toNat := by
        rw [val_lt_iff, Nat.not_lt] at other
        exact Nat.lt_of_lt_of_le (by decide) other
      exact isUpper_ofNat (lt_mapCode lowerRuns_distances beyond)

theorem isUpper_of_mem_lowerChars {inWord : Bool} {chars : List Char} {image : Char}
    (member : image ∈ lowerChars inWord chars) : image.isUpper = false := by
  induction chars generalizing inWord with
  | nil => cases member
  | cons c rest ih =>
    rw [lowerChars, List.mem_append] at member
    rcases member with first | further
    · split at first
      · split at first
        · rw [List.mem_singleton.mp first]
          decide
        · rw [List.mem_singleton.mp first]
          decide
      · exact isUpper_of_mem_lowerChar first
    · exact ih further

theorem isUpper_of_mem_lower {text : String} {c : Char} (member : c ∈ (lower text).toList) :
    c.isUpper = false := by
  rw [lower, String.toList_ofList] at member
  exact isUpper_of_mem_lowerChars member

theorem lowerChars_of_ascii {inWord : Bool} {chars : List Char} (ascii : ∀ c ∈ chars, c.toNat < 128) :
    lowerChars inWord chars = chars.map Char.toLower := by
  induction chars generalizing inWord with
  | nil => rfl
  | cons c rest ih =>
    rw [List.forall_mem_cons] at ascii
    have noSigma : c ≠ 'Σ' := by
      rintro rfl
      exact absurd ascii.1 (by decide)
    have single : lowerChar c = [c.toLower] := if_pos (val_lt_iff.mpr ascii.1)
    rw [lowerChars, if_neg noSigma, single, ih ascii.2, List.map_cons, List.singleton_append]

end ClusterStack.Text
