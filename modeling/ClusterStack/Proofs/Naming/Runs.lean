import ClusterStack.Proofs.Naming.Alphabet
import ClusterStack.Proofs.Text.LowerCase

/-!
# Runs of letters and digits

A normalized name is what its lower case has of ASCII letters and digits, in order, with a capital where
a run of them starts. It comes out the same when the lower case is cut at everything else and each piece
is capitalized. Normalized a second time a name is one run; from then on it stays as it is.
-/

set_option autoImplicit false

namespace ClusterStack

/-- A longest stretch of letters and digits in a text, between what comes before it and after it. -/
structure IsRun (text before run after : List Char) : Prop where
  split : text = before ++ run ++ after
  nonempty : run ≠ []
  every : ∀ c ∈ run, c.isAlphanum = true
  starts : ∀ c ∈ before.getLast?, c.isAlphanum = false
  ends : ∀ c ∈ after.head?, c.isAlphanum = false

/-- Of the letters and digits of a text, counted from nought, the one at `place` is a letter that starts
a run. -/
def StartsRun (text : List Char) (place : Nat) : Prop :=
  ∃ before c rest after, IsRun text before (c :: rest) after ∧ c.isAlpha = true ∧
    before.countP Char.isAlphanum = place

theorem IsRun.exists_of_starts {before after : List Char} {c : Char} (plain : c.isAlphanum = true)
    (starts : ∀ d ∈ before.getLast?, d.isAlphanum = false) :
    ∃ rest others, IsRun (before ++ c :: after) before (c :: rest) others := by
  refine ⟨after.takeWhile Char.isAlphanum, after.dropWhile Char.isAlphanum, ?_, ?_, ?_, starts, ?_⟩
  · rw [List.append_assoc, List.cons_append, List.takeWhile_append_dropWhile]
  · exact List.cons_ne_nil _ _
  · rw [List.forall_mem_cons]
    exact ⟨plain, fun d member => List.mem_takeWhile_imp member⟩
  · intro d first
    have stops := List.head?_dropWhile_not Char.isAlphanum after
    rw [Option.mem_def.mp first] at stops
    exact stops

/-! ## Letters and digits are kept -/

theorem map_toLower_joinRuns (fresh : Bool) (text : List Char) :
    (joinRuns fresh text).map Char.toLower = (text.filter Char.isAlphanum).map Char.toLower := by
  induction text generalizing fresh with
  | nil => rfl
  | cons c rest ih =>
    unfold joinRuns
    split
    · rename_i plain
      rw [List.filter_cons_of_pos plain, List.map_cons, List.map_cons, ih]
      cases fresh with
      | false => rfl
      | true => rw [if_pos rfl, Char.toLower_toUpper_eq_toLower]
    · rename_i other
      rw [List.filter_cons_of_neg other, ih]

theorem length_joinRuns (fresh : Bool) (text : List Char) :
    (joinRuns fresh text).length = text.countP Char.isAlphanum := by
  have lengths := congrArg List.length (map_toLower_joinRuns fresh text)
  rwa [List.length_map, List.length_map, ← List.countP_eq_length_filter] at lengths

theorem map_toLower_filter_lower (name : String) :
    ((Text.lower name).toList.filter Char.isAlphanum).map Char.toLower =
      (Text.lower name).toList.filter Char.isAlphanum := by
  refine (List.map_congr_left fun c member => ?_).trans (List.map_id _)
  have small := Text.isUpper_of_mem_lower (List.mem_of_mem_filter member)
  exact Char.toLower_eq_of_not_isUpper (by rw [small]; exact Bool.false_ne_true)

/-! ## Capitals start a run -/

/-- Whether a letter or digit after this text starts a run, where `fresh` tells it for the empty text. -/
def freshAfter (fresh : Bool) (before : List Char) : Bool :=
  match before.getLast? with
  | none => fresh
  | some c => !c.isAlphanum

theorem freshAfter_cons (fresh : Bool) (c : Char) (before : List Char) :
    freshAfter fresh (c :: before) = freshAfter (!c.isAlphanum) before := by
  unfold freshAfter
  rw [List.getLast?_cons]
  cases before.getLast? with
  | none => rfl
  | some d => rfl

theorem freshAfter_true_iff {before : List Char} :
    freshAfter true before = true ↔ ∀ c ∈ before.getLast?, c.isAlphanum = false := by
  unfold freshAfter
  cases before.getLast? with
  | none => simp
  | some d => simp

theorem joinRuns_append (fresh : Bool) (before after : List Char) :
    joinRuns fresh (before ++ after) =
      joinRuns fresh before ++ joinRuns (freshAfter fresh before) after := by
  induction before generalizing fresh with
  | nil => rfl
  | cons c rest ih =>
    rw [List.cons_append, freshAfter_cons]
    cases plain : c.isAlphanum with
    | true => simp only [joinRuns, plain, if_true, ih, Bool.not_true, List.cons_append]
    | false => simp only [joinRuns, plain, Bool.false_eq_true, if_false, ih, Bool.not_false]

/-- A letter or digit is found among those that are kept, after as many as come before it. -/
theorem getElem?_joinRuns {before after : List Char} {c : Char} (plain : c.isAlphanum = true) :
    (joinRuns true (before ++ c :: after))[before.countP Char.isAlphanum]? =
      some (if freshAfter true before then c.toUpper else c) := by
  have kept : joinRuns (freshAfter true before) (c :: after) =
      (if freshAfter true before then c.toUpper else c) :: joinRuns false after := by
    rw [joinRuns, if_pos plain]
  rw [joinRuns_append, kept, ← length_joinRuns true before, List.getElem?_append_right (Nat.le_refl _),
    Nat.sub_self, List.getElem?_cons_zero]

private theorem exists_split_of_lt_countP {α : Type} {p : α → Bool} {text : List α} {place : Nat}
    (within : place < text.countP p) :
    ∃ before c after, text = before ++ c :: after ∧ p c = true ∧ before.countP p = place := by
  rw [List.countP_eq_length_filter] at within
  have kept : text.filter p = (text.filter p).take place ++ (text.filter p).drop place :=
    (List.take_append_drop _ _).symm
  rw [List.drop_eq_getElem_cons within] at kept
  obtain ⟨before, rest, split, front, back⟩ := List.filter_eq_append_iff.mp kept
  obtain ⟨gap, after, parts, others, holds, -⟩ := List.filter_eq_cons_iff.mp back
  refine ⟨before ++ gap, _, after, ?_, holds, ?_⟩
  · rw [List.append_assoc, ← parts]
    exact split
  · rw [List.countP_append, List.countP_eq_zero.mpr others, List.countP_eq_length_filter, front,
      List.length_take_of_le (Nat.le_of_lt within), Nat.add_zero]

/-- The capitals of what is kept of a text without capitals are the letters that start a run. -/
theorem isUpper_joinRuns_iff {text : List Char} (small : ∀ c ∈ text, c.isUpper = false) {place : Nat} :
    (∃ c ∈ (joinRuns true text)[place]?, c.isUpper = true) ↔ StartsRun text place := by
  constructor
  · rintro ⟨c, found, capital⟩
    have within : place < text.countP Char.isAlphanum := by
      rw [← length_joinRuns true]
      exact (List.getElem?_eq_some_iff.mp found).1
    obtain ⟨before, d, after, rfl, plain, rfl⟩ := exists_split_of_lt_countP within
    rw [getElem?_joinRuns plain, Option.mem_def, Option.some.injEq] at found
    subst found
    cases fresh : freshAfter true before with
    | false =>
      -- Within a run the character is left as it is in the text, which has no capitals of its own.
      rw [fresh, if_neg Bool.false_ne_true, small d (by simp)] at capital
      cases capital
    | true =>
      rw [fresh, if_pos rfl, Char.isUpper_toUpper_eq_isAlpha] at capital
      obtain ⟨rest, others, run⟩ := IsRun.exists_of_starts plain (freshAfter_true_iff.mp fresh)
      exact ⟨before, d, rest, others, run, capital, rfl⟩
  · rintro ⟨before, c, rest, after, run, letter, rfl⟩
    rw [run.split, List.append_assoc, List.cons_append,
      getElem?_joinRuns (run.every c List.mem_cons_self), freshAfter_true_iff.mpr run.starts]
    exact ⟨c.toUpper, rfl, by rw [Char.isUpper_toUpper_eq_isAlpha, letter]⟩

/-! ## Pieces -/

-- The first piece is told apart because the rest of a run, which has its capital already, is left as it is.
private theorem joinRuns_eq_append {fresh : Bool} {text first : List Char} {others : List (List Char)}
    (pieces : (text.splitOnP fun c => !c.isAlphanum) = first :: others) :
    joinRuns fresh text =
      (if fresh then Text.capitalize first else first) ++ others.flatMap Text.capitalize := by
  induction text generalizing fresh first others with
  | nil =>
    cases pieces
    cases fresh <;> rfl
  | cons c rest ih =>
    rw [List.splitOnP_cons_eq_if_modifyHead] at pieces
    obtain ⟨next, further, cut⟩ := List.exists_cons_of_ne_nil
      (List.splitOnP_ne_nil (fun c : Char => !c.isAlphanum) rest)
    rw [cut] at pieces
    cases plain : c.isAlphanum with
    | true =>
      simp only [plain, Bool.not_true, Bool.false_eq_true, if_false, List.modifyHead_cons] at pieces
      cases pieces
      have ascii : c.val < 128 := Text.val_lt_iff.mpr (toNat_lt_of_isAlphanum plain)
      rw [joinRuns, if_pos plain, ih cut, Text.capitalize, Text.upperChar, if_pos ascii]
      cases fresh <;> rfl
    | false =>
      simp only [plain, Bool.not_false, if_true] at pieces
      cases pieces
      rw [joinRuns, plain, if_neg Bool.false_ne_true, ih cut]
      cases fresh <;> rfl

/-- Cutting at everything that is no letter or digit and capitalizing each piece gives the same. -/
theorem joinRuns_eq_flatMap_capitalize (text : List Char) :
    joinRuns true text = (text.splitOnP fun c => !c.isAlphanum).flatMap Text.capitalize := by
  obtain ⟨first, others, cut⟩ := List.exists_cons_of_ne_nil
    (List.splitOnP_ne_nil (fun c : Char => !c.isAlphanum) text)
  rw [cut, joinRuns_eq_append cut, if_pos rfl, List.flatMap_cons]

/-! ## Normalized names -/

theorem map_toLower_normalizeName (name : String) :
    (normalizeName name).toList.map Char.toLower = (Text.lower name).toList.filter Char.isAlphanum := by
  rw [normalizeName, String.toList_ofList, map_toLower_joinRuns, map_toLower_filter_lower]

theorem normalizeName_eq_empty_iff {name : String} :
    normalizeName name = "" ↔ ∀ c ∈ (Text.lower name).toList, c.isAlphanum = false := by
  rw [← String.toList_eq_nil_iff, normalizeName, String.toList_ofList, ← List.length_eq_zero_iff,
    length_joinRuns, List.countP_eq_zero]
  simp only [Bool.not_eq_true]

namespace IsAlphanumeric

variable {name : String}

theorem lower_eq (plain : IsAlphanumeric name) : (Text.lower name).toList = name.toList.map Char.toLower := by
  rw [Text.lower, String.toList_ofList]
  exact Text.lowerChars_of_ascii fun c member => toNat_lt_of_isAlphanum (plain c member)

theorem isAlphanum_of_mem_lower (plain : IsAlphanumeric name) {c : Char}
    (member : c ∈ (Text.lower name).toList) : c.isAlphanum = true := by
  rw [plain.lower_eq] at member
  obtain ⟨given, written, rfl⟩ := List.mem_map.mp member
  exact isAlphanum_toLower (plain given written)

/-- Letters and digits alone are one piece: all are lowered but the first one, which is capitalized. -/
theorem normalizeName_eq (plain : IsAlphanumeric name) :
    normalizeName name = String.ofList (Text.capitalize (name.toList.map Char.toLower)) := by
  have onePiece : ∀ c ∈ (Text.lower name).toList, (!c.isAlphanum) = false := by
    intro c member
    rw [plain.isAlphanum_of_mem_lower member, Bool.not_true]
  rw [normalizeName, joinRuns_eq_flatMap_capitalize, List.splitOnP_eq_singleton onePiece,
    List.flatMap_singleton, plain.lower_eq]

/-- Nothing but the case of letters and digits changes, and what it was does not matter next time. -/
theorem normalizeName_normalizeName (plain : IsAlphanumeric name) :
    normalizeName (normalizeName name) = normalizeName name := by
  have letters : (normalizeName name).toList.map Char.toLower = name.toList.map Char.toLower := by
    rw [map_toLower_normalizeName, List.filter_eq_self.mpr fun c => plain.isAlphanum_of_mem_lower,
      plain.lower_eq]
  rw [(isAlphanumeric_normalizeName name).normalizeName_eq, letters, plain.normalizeName_eq]

end IsAlphanumeric

/-- The letters and digits of the lower case are kept, each run gets a capital, and all else is dropped. -/
theorem normalizeName_keeps (name : String) :
    IsAlphanumeric (normalizeName name) ∧
      (normalizeName name = "" ↔ ∀ c ∈ (Text.lower name).toList, c.isAlphanum = false) ∧
      (normalizeName name).toList.map Char.toLower = (Text.lower name).toList.filter Char.isAlphanum ∧
      (∀ place, (∃ c ∈ (normalizeName name).toList[place]?, c.isUpper = true) ↔
        StartsRun (Text.lower name).toList place) ∧
      normalizeName (normalizeName (normalizeName name)) = normalizeName (normalizeName name) := by
  have settled := (isAlphanumeric_normalizeName name).normalizeName_normalizeName
  refine ⟨isAlphanumeric_normalizeName name, normalizeName_eq_empty_iff, map_toLower_normalizeName name,
    fun place => ?_, settled⟩
  rw [normalizeName, String.toList_ofList]
  exact isUpper_joinRuns_iff fun c member => Text.isUpper_of_mem_lower member

/-- A second turn makes one run of several, as the capitals that told them apart are lowered. -/
example : normalizeName "my web" = "MyWeb" ∧ normalizeName "MyWeb" = "Myweb" := by decide +kernel

end ClusterStack
