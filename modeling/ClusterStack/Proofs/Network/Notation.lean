import ClusterStack.Network.Cidr
import Mathlib.Data.List.TakeWhile

/-!
# The notation of address ranges

The texts that are taken for address ranges, described without a word on how they are read. They are those
in the common notation and, besides, those in which numbers are signed with a plus.
-/

set_option autoImplicit false

namespace ClusterStack.Cidr

/-- A number in decimal digits, which is not above a bound. Zeros may stand in front. -/
structure IsNumber (bound : Nat) (text : String) : Prop where
  nonempty : text.toList ≠ []
  digits : ∀ c ∈ text.toList, c.isDigit = true
  bounded : Nat.ofDigitChars 10 text.toList 0 ≤ bound

/-- A number that may be signed with a plus. -/
def IsSignedNumber (bound : Nat) (text : String) : Prop :=
  IsNumber bound text ∨ ∃ digits, text = "+" ++ digits ∧ IsNumber bound digits

/-- Four numbers of eight bits, and a number of leading bits. What counts as a number is given. -/
def IsRange (isNumber : Nat → String → Prop) (text : String) : Prop :=
  ∃ a b c d n : String, text = a ++ "." ++ b ++ "." ++ c ++ "." ++ d ++ "/" ++ n ∧
    isNumber 255 a ∧ isNumber 255 b ∧ isNumber 255 c ∧ isNumber 255 d ∧ isNumber 32 n

section Numbers

variable {chars : List Char} {text : String} {bound value : Nat}

theorem decimal?_eq_some : decimal? chars = some value ↔
    chars ≠ [] ∧ (∀ c ∈ chars, c.isDigit = true) ∧ Nat.ofDigitChars 10 chars 0 = value := by
  have sum : chars.foldl (fun value c => value * 10 + (c.toNat - 48)) 0 = Nat.ofDigitChars 10 chars 0 := by
    rw [Nat.ofDigitChars_eq_foldl]
    simp only [Nat.mul_comm]
    rfl
  rw [decimal?, sum]
  by_cases proper : chars ≠ [] ∧ ∀ c ∈ chars, c.isDigit = true
  · simp [proper]
  · simp only [not_and_or, not_not] at proper
    rcases proper with rfl | improper
    · simp
    · simp [improper]

theorem IsNumber.head_ne (number : IsNumber bound text) {digits : List Char} :
    text.toList ≠ '+' :: digits := by
  intro same
  have plus : '+'.isDigit = true := number.digits '+' (by simp [same])
  cases plus

theorem byte?_of_head_ne (unsigned : ∀ rest, chars ≠ '+' :: rest) :
    byte? chars = (decimal? chars).filter (· < 256) := by
  rw [byte?]
  exact unsigned

private theorem exists_filter_iff (small : bound < 256) :
    (∃ value ≤ bound, (decimal? text.toList).filter (· < 256) = some value) ↔ IsNumber bound text := by
  simp only [Option.filter_eq_some_iff, decide_eq_true_eq, decimal?_eq_some]
  constructor
  · rintro ⟨value, bounded, ⟨nonempty, proper, rfl⟩, -⟩
    exact ⟨nonempty, proper, bounded⟩
  · rintro ⟨nonempty, proper, bounded⟩
    exact ⟨_, bounded, ⟨nonempty, proper, rfl⟩, Nat.lt_of_le_of_lt bounded small⟩

/-- The numbers of eight bits that are read, up to some bound, are those that may be signed with a plus. -/
theorem exists_byte?_iff (small : bound < 256) :
    (∃ value ≤ bound, byte? text.toList = some value) ↔ IsSignedNumber bound text := by
  by_cases signed : ∃ rest, text.toList = '+' :: rest
  · obtain ⟨rest, signed⟩ := signed
    have split : text = "+" ++ String.ofList rest := String.toList_inj.mp (by simpa using signed)
    have read : byte? text.toList = (decimal? (String.ofList rest).toList).filter (· < 256) := by
      rw [signed, String.toList_ofList]
      rfl
    rw [read, exists_filter_iff small]
    constructor
    · intro number
      exact .inr ⟨_, split, number⟩
    · rintro (number | ⟨digits, same, number⟩)
      · exact absurd signed number.head_ne
      · have rest : String.ofList rest = digits := by simpa [split] using same
        exact rest ▸ number
  · have unsigned : ∀ rest, text.toList ≠ '+' :: rest := fun rest same => signed ⟨rest, same⟩
    rw [byte?_of_head_ne unsigned, exists_filter_iff small]
    constructor
    · exact .inl
    · rintro (number | ⟨digits, rfl, -⟩)
      · exact number
      · exact absurd (by simp) (unsigned digits.toList)

theorem IsSignedNumber.mem_cases (number : IsSignedNumber bound text) {c : Char} (member : c ∈ text.toList) :
    c = '+' ∨ c.isDigit = true := by
  rcases number with number | ⟨digits, rfl, number⟩
  · exact .inr (number.digits c member)
  · rw [String.toList_append, List.mem_append] at member
    rcases member with plus | digit
    · exact .inl (by simpa using plus)
    · exact .inr (number.digits c digit)

theorem IsSignedNumber.not_mem (number : IsSignedNumber bound text) {c : Char} (other : c ≠ '+')
    (improper : c.isDigit = false) : c ∉ text.toList := by
  intro member
  rcases number.mem_cases member with plus | digit
  · exact other plus
  · rw [improper] at digit
    cases digit

theorem isNumber_iff : IsNumber bound text ↔ IsSignedNumber bound text ∧ '+' ∉ text.toList := by
  constructor
  · intro number
    refine ⟨.inl number, fun member => ?_⟩
    cases number.digits '+' member
  · rintro ⟨number | ⟨digits, rfl, -⟩, unsigned⟩
    · exact number
    · exact absurd (by simp) unsigned

end Numbers

section Parts

variable {text : String}

theorem pieces_eq_splitOn (separator : Char) (chars : List Char) :
    pieces separator chars = chars.splitOn separator := by
  induction chars with
  | nil => simp [pieces]
  | cons c rest ih =>
    rw [pieces, ih, List.splitOn_cons_eq_if_modifyHead]
    cases split : rest.splitOn separator with
    | nil => exact absurd split (List.splitOn_ne_nil separator rest)
    | cons first others => simp [beq_iff_eq]

variable {address length : List Char}

theorem check_of_not_mem (absent : '/' ∉ text.toList) : check text = .error (.noSlash text) := by
  have none : text.toList.dropWhile (· ≠ '/') = [] := by
    rw [List.dropWhile_eq_nil_iff]
    intro c member
    simp only [decide_eq_true_eq]
    rintro rfl
    exact absent member
  simp only [check, none]

theorem check_eq_ok_of_split (split : text.toList = address ++ '/' :: length) (first : '/' ∉ address) :
    check text = .ok () ↔ (pieces '.' address).length = 4 ∧
      (∀ octet ∈ pieces '.' address, (byte? octet).isSome = true) ∧ ∃ value ≤ 32, byte? length = some value := by
  have others : ∀ c ∈ address, decide (c ≠ '/') = true := by
    intro c member
    simp only [decide_eq_true_eq]
    rintro rfl
    exact first member
  have before : text.toList.takeWhile (fun c => decide (c ≠ '/')) = address := by
    rw [split, List.takeWhile_append_of_pos others]
    simp
  have after : text.toList.dropWhile (fun c => decide (c ≠ '/')) = '/' :: length := by
    rw [split, List.dropWhile_append_of_pos others]
    simp
  simp only [check, before, after]
  by_cases four : (pieces '.' address).length = 4
  · simp only [four, ne_eq, not_true_eq_false, if_false, true_and]
    cases found : (pieces '.' address).find? fun octet => (byte? octet).isNone with
    | some wrong =>
      have improper := List.find?_some found
      have member := List.mem_of_find?_eq_some found
      simp only [reduceCtorEq, false_iff, not_and]
      intro proper
      rw [Option.isNone_iff_eq_none] at improper
      have read := proper wrong member
      rw [improper] at read
      cases read
    | none =>
      have proper : ∀ octet ∈ pieces '.' address, (byte? octet).isSome = true := by
        simpa [List.find?_eq_none, Option.isSome_iff_ne_none] using found
      rw [and_iff_right proper]
      cases byte? length with
      | none => simp
      | some value => by_cases small : value ≤ 32 <;> simp [small]
  · simp [four]

theorem exists_check_iff : check text = .ok () ↔ ∃ address length, text.toList = address ++ '/' :: length ∧
    '/' ∉ address ∧ (pieces '.' address).length = 4 ∧
      (∀ octet ∈ pieces '.' address, (byte? octet).isSome = true) ∧ ∃ value ≤ 32, byte? length = some value := by
  constructor
  · intro accepted
    by_cases slash : '/' ∈ text.toList
    · obtain ⟨address, length, split, first⟩ := List.eq_append_cons_of_mem slash
      exact ⟨address, length, split, first, (check_eq_ok_of_split split first).mp accepted⟩
    · rw [check_of_not_mem slash] at accepted
      cases accepted
  · rintro ⟨address, length, split, first, proper⟩
    exact (check_eq_ok_of_split split first).mpr proper

end Parts

theorem isSome_byte?_iff {text : String} : (byte? text.toList).isSome = true ↔ IsSignedNumber 255 text := by
  rw [← exists_byte?_iff (by decide), Option.isSome_iff_exists]
  constructor
  · rintro ⟨value, read⟩
    have small := (Option.filter_eq_some_iff.mp read).2
    exact ⟨value, Nat.le_of_lt_succ (by simpa using small), read⟩
  · rintro ⟨value, -, read⟩
    exact ⟨value, read⟩

theorem check_eq_ok {text : String} : check text = .ok () ↔ IsRange IsSignedNumber text := by
  rw [exists_check_iff]
  constructor
  · rintro ⟨address, length, split, -, four, proper, bounded⟩
    have whole : ['.'].intercalate (pieces '.' address) = address := by
      rw [pieces_eq_splitOn, List.intercalate_splitOn]
    match shape : pieces '.' address, four with
    | [a, b, c, d], _ =>
      rw [shape] at whole proper
      have octets : ∀ octet ∈ [a, b, c, d], IsSignedNumber 255 (String.ofList octet) := by
        intro octet member
        rw [← isSome_byte?_iff, String.toList_ofList]
        exact proper octet member
      simp only [List.forall_mem_cons] at octets
      refine ⟨.ofList a, .ofList b, .ofList c, .ofList d, .ofList length, ?_, octets.1, octets.2.1, octets.2.2.1,
        octets.2.2.2.1, ?_⟩
      · rw [← String.toList_inj, split, ← whole]
        simp [List.intercalate]
      · rw [← exists_byte?_iff (by decide), String.toList_ofList]
        exact bounded
  · rintro ⟨a, b, c, d, n, rfl, first, second, third, fourth, length⟩
    have numbers : ∀ octet ∈ [a.toList, b.toList, c.toList, d.toList], '.' ∉ octet ∧ '/' ∉ octet ∧
        (byte? octet).isSome = true := by
      have each : ∀ octet : String, IsSignedNumber 255 octet → '.' ∉ octet.toList ∧ '/' ∉ octet.toList ∧
          (byte? octet.toList).isSome = true := fun octet number =>
        ⟨number.not_mem (by decide) rfl, number.not_mem (by decide) rfl, isSome_byte?_iff.mpr number⟩
      simp only [List.forall_mem_cons]
      exact ⟨each a first, each b second, each c third, each d fourth, by simp⟩
    have split : pieces '.' (['.'].intercalate [a.toList, b.toList, c.toList, d.toList]) =
        [a.toList, b.toList, c.toList, d.toList] := by
      rw [pieces_eq_splitOn]
      exact List.splitOn_intercalate '.' (fun octet member => (numbers octet member).1) (by simp)
    refine ⟨['.'].intercalate [a.toList, b.toList, c.toList, d.toList], n.toList, ?_, ?_, ?_, ?_, ?_⟩
    · simp [List.intercalate]
    · simp only [List.forall_mem_cons] at numbers
      simp [List.intercalate, numbers]
    · rw [split]
      rfl
    · rw [split]
      exact fun octet member => (numbers octet member).2.2
    · exact (exists_byte?_iff (by decide)).mpr length

theorem isRange_isNumber_iff {text : String} :
    IsRange IsNumber text ↔ IsRange IsSignedNumber text ∧ '+' ∉ text.toList := by
  constructor
  · rintro ⟨a, b, c, d, n, rfl, first, second, third, fourth, length⟩
    rw [isNumber_iff] at first second third fourth length
    refine ⟨⟨a, b, c, d, n, rfl, first.1, second.1, third.1, fourth.1, length.1⟩, ?_⟩
    simp [first.2, second.2, third.2, fourth.2, length.2]
  · rintro ⟨⟨a, b, c, d, n, rfl, first, second, third, fourth, length⟩, unsigned⟩
    simp only [String.toList_append, List.mem_append, not_or] at unsigned
    obtain ⟨⟨⟨⟨⟨⟨⟨⟨noA, -⟩, noB⟩, -⟩, noC⟩, -⟩, noD⟩, -⟩, noN⟩ := unsigned
    exact ⟨a, b, c, d, n, rfl, isNumber_iff.mpr ⟨first, noA⟩, isNumber_iff.mpr ⟨second, noB⟩,
      isNumber_iff.mpr ⟨third, noC⟩, isNumber_iff.mpr ⟨fourth, noD⟩, isNumber_iff.mpr ⟨length, noN⟩⟩

/-- A text is accepted exactly if it has the form of an address range whose numbers may be signed with a plus.
The texts in the common notation are those of them without a plus. -/
theorem check_eq_ok_iff (text : String) : (check text = .ok () ↔ IsRange IsSignedNumber text) ∧
    (IsRange IsNumber text ↔ check text = .ok () ∧ '+' ∉ text.toList) := by
  rw [check_eq_ok]
  exact ⟨Iff.rfl, isRange_isNumber_iff⟩

/-- An accepted text that is not in the common notation. -/
theorem check_signedRange : check "+10.0.0.0/16" = .ok () ∧ ¬IsRange IsNumber "+10.0.0.0/16" := by
  refine ⟨by decide, fun range => ?_⟩
  exact (isRange_isNumber_iff.mp range).2 (by decide)

end ClusterStack.Cidr
