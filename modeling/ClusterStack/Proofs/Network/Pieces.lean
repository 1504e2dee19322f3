import ClusterStack.Network.SecurityGroups
import Mathlib.Data.List.Infix

/-!
# Pieces of a text

What it means that a text is split at a delimiter, without a word on how the pieces are found; and that
they are found.
-/

set_option autoImplicit false

namespace ClusterStack

/-- The pieces of a text between the occurrences of a delimiter. Every piece but the last one ends where
the delimiter first occurs, and the text goes on after it; in the last one it does not occur. -/
inductive Splits (delimiter : List Char) : List Char → List (List Char) → Prop where
  | last {rest : List Char} (absent : ¬delimiter <:+: rest) : Splits delimiter rest [rest]
  | cut {piece rest : List Char} {pieces : List (List Char)}
      (first : ∀ before after, piece ++ delimiter ++ rest = before ++ delimiter ++ after →
        piece.length ≤ before.length)
      (more : Splits delimiter rest pieces) :
      Splits delimiter (piece ++ delimiter ++ rest) (piece :: pieces)

/-- The empty delimiter occurs before and after every character. -/
def IsSplit (delimiter source : String) (pieces : List String) : Prop :=
  if delimiter = "" then pieces = "" :: source.toList.map String.singleton ++ [""]
  else Splits delimiter.toList source.toList (pieces.map String.toList)

namespace SecurityGroups

variable {delimiter piece front rest : List Char}

theorem piecesFrom_skip {skip : Nat} {chars : List Char} (within : skip ≤ chars.length) :
    piecesFrom delimiter skip piece chars = piecesFrom delimiter 0 piece (chars.drop skip) := by
  induction chars generalizing skip with
  | nil =>
    obtain rfl : skip = 0 := by simpa using within
    rfl
  | cons c rest ih =>
    cases skip with
    | zero => rfl
    | succ more => exact ih (Nat.le_of_succ_le_succ within)

theorem piecesFrom_delimiter (nonempty : delimiter ≠ []) :
    piecesFrom delimiter 0 piece (delimiter ++ rest) = piece.reverse :: piecesFrom delimiter 0 [] rest := by
  cases delimiter with
  | nil => exact absurd rfl nonempty
  | cons c others =>
    have occurs : (c :: others).isPrefixOf (c :: (others ++ rest)) = true :=
      List.isPrefixOf_iff_prefix.mpr (List.prefix_append (c :: others) rest)
    rw [List.cons_append, piecesFrom, if_pos occurs, List.length_cons, Nat.add_sub_cancel,
      piecesFrom_skip (by simp), List.drop_left]

theorem piecesFrom_cons {c : Char} (other : ¬delimiter <+: c :: rest) :
    piecesFrom delimiter 0 piece (c :: rest) = piecesFrom delimiter 0 (c :: piece) rest := by
  have elsewhere : ¬delimiter.isPrefixOf (c :: rest) = true := fun occurs =>
    other (List.isPrefixOf_iff_prefix.mp occurs)
  rw [piecesFrom, if_neg elsewhere]

theorem piecesFrom_last (absent : ¬delimiter <:+: rest) :
    piecesFrom delimiter 0 piece rest = [piece.reverse ++ rest] := by
  induction rest generalizing piece with
  | nil => rw [piecesFrom, List.append_nil]
  | cons c rest ih =>
    rw [List.infix_cons_iff, not_or] at absent
    rw [piecesFrom_cons absent.1, ih absent.2, List.reverse_cons, List.append_assoc, List.singleton_append]

theorem piecesFrom_cut (nonempty : delimiter ≠ [])
    (first : ∀ before after, front ++ delimiter ++ rest = before ++ delimiter ++ after →
      front.length ≤ before.length) :
    piecesFrom delimiter 0 piece (front ++ delimiter ++ rest) =
      (piece.reverse ++ front) :: piecesFrom delimiter 0 [] rest := by
  induction front generalizing piece with
  | nil => rw [List.nil_append, piecesFrom_delimiter nonempty, List.append_nil]
  | cons c front ih =>
    have other : ¬delimiter <+: c :: (front ++ delimiter ++ rest) := by
      rintro ⟨after, same⟩
      have early := first [] after (by simpa using same.symm)
      exact absurd early (by simp)
    have later : ∀ before after, front ++ delimiter ++ rest = before ++ delimiter ++ after →
        front.length ≤ before.length := by
      intro before after same
      have shifted := first (c :: before) after (by simpa using same)
      exact Nat.le_of_succ_le_succ shifted
    rw [List.cons_append, List.cons_append, piecesFrom_cons other, ih later, List.reverse_cons,
      List.append_assoc, List.singleton_append]

theorem piecesFrom_of_splits (nonempty : delimiter ≠ []) {source : List Char} {pieces : List (List Char)}
    (splits : Splits delimiter source pieces) : piecesFrom delimiter 0 [] source = pieces := by
  induction splits with
  | last absent => rw [piecesFrom_last absent, List.reverse_nil, List.nil_append]
  | cut first _ ih => rw [piecesFrom_cut nonempty first, ih, List.reverse_nil, List.nil_append]

/-- Where the delimiter does not begin within the current piece, the pieces are those of the whole. -/
theorem splits_piecesFrom (nonempty : delimiter ≠ []) (front chars : List Char)
    (first : ∀ before after, front ++ chars = before ++ delimiter ++ after → front.length ≤ before.length) :
    Splits delimiter (front ++ chars) (piecesFrom delimiter 0 front.reverse chars) := by
  -- On the length of what is left: an occurrence of the delimiter is passed over at once.
  induction left : chars.length using Nat.strong_induction_on generalizing front chars with
  | h _ ih =>
    subst left
    by_cases occurs : delimiter <+: chars
    · obtain ⟨rest, rfl⟩ := occurs
      have shorter : rest.length < (delimiter ++ rest).length := by
        have positive := List.length_pos_iff.mpr nonempty
        rw [List.length_append]
        omega
      rw [piecesFrom_delimiter nonempty, List.reverse_reverse, ← List.append_assoc]
      exact .cut (by simpa using first) (ih _ shorter [] rest (by simp) rfl)
    · cases chars with
      | nil =>
        have absent : ¬delimiter <:+: front := by
          rintro ⟨before, after, same⟩
          have late := first before after (by simpa using same.symm)
          have lengths := congrArg List.length same
          have positive := List.length_pos_iff.mpr nonempty
          simp only [List.length_append] at lengths
          omega
        rw [piecesFrom, List.reverse_reverse, List.append_nil]
        exact .last absent
      | cons c rest =>
        have further : ∀ before after, front ++ [c] ++ rest = before ++ delimiter ++ after →
            (front ++ [c]).length ≤ before.length := by
          intro before after same
          rw [List.append_assoc, List.singleton_append] at same
          have later := first before after same
          rw [List.length_append, List.length_singleton]
          refine Nat.lt_of_le_of_ne later fun aligned => occurs ?_
          rw [List.append_assoc] at same
          obtain ⟨-, here⟩ := List.append_inj same aligned
          exact ⟨after, here.symm⟩
        have moved := ih rest.length (by simp) (front ++ [c]) rest further rfl
        rw [piecesFrom_cons occurs]
        simpa using moved

end SecurityGroups

/-- Every text is split in one way, which is the one that is found. -/
theorem isSplit_iff {delimiter source : String} {pieces : List String} :
    IsSplit delimiter source pieces ↔ pieces = SecurityGroups.pieces delimiter source := by
  by_cases empty : delimiter = ""
  · subst empty
    rfl
  · have nonempty : delimiter.toList ≠ [] := by simpa using empty
    have texts : SecurityGroups.pieces delimiter source =
        (SecurityGroups.piecesFrom delimiter.toList 0 [] source.toList).map String.ofList := by
      rw [SecurityGroups.pieces, if_neg (by simpa using empty)]
    rw [IsSplit, if_neg empty, texts]
    constructor
    · intro splits
      rw [SecurityGroups.piecesFrom_of_splits nonempty splits, List.map_map]
      simp
    · rintro rfl
      have splits := SecurityGroups.splits_piecesFrom nonempty [] source.toList (by simp)
      simpa [Function.comp_def] using splits

end ClusterStack
