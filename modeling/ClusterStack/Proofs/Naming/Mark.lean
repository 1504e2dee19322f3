import ClusterStack.Naming.Role
import ClusterStack.Spec.Choice
import Mathlib.Data.List.TakeWhile

/-!
# Marks

What stands at the end of a logical id: nothing, a number, a protocol with its port, a rule of a
listener, or a word of the description. All but the words are written so that they can be read back.
-/

set_option autoImplicit false

namespace ClusterStack

/-- What tells the instances of a role apart. -/
inductive Mark where
  | single
  | number (n : Nat)
  | endpoint (protocol : AlbProtocol) (port : UInt16)
  | rule (protocol : AlbProtocol) (port : UInt16) (index : Nat)
  /-- A text that is taken from the description. -/
  | word (text : String)
  deriving DecidableEq, Repr

namespace Mark

def text : Mark → String
  | .single => ""
  | .number n => toString n
  | .endpoint protocol port => protocol.text ++ toString port
  | .rule protocol port index => protocol.text ++ toString port ++ "Rule" ++ toString index
  | .word text => text

/-- The mark is not taken from the description. -/
def IsPlain : Mark → Prop
  | .word _ => False
  | _ => True

def isInitial (c : Char) : Bool :=
  c.isDigit || c == 'H'

def isPart (c : Char) : Bool :=
  c.isDigit || "HTPSRule".toList.contains c

end Mark

/-- The decimal digits of a number, the most significant one first. -/
def digits (n : Nat) : List Char :=
  Nat.toDigits 10 n

theorem toList_toString_nat (n : Nat) : (toString n).toList = digits n := by
  simp only [Nat.toString_eq_repr, Nat.toList_repr, digits]

theorem toList_toString_port (port : UInt16) : (toString port).toList = digits port.toNat :=
  toList_toString_nat port.toNat

theorem isDigit_of_mem_digits {n : Nat} {c : Char} (member : c ∈ digits n) : c.isDigit = true :=
  Nat.isDigit_of_mem_toDigits (by decide) (by decide) member

theorem digits_injective {m n : Nat} (same : digits m = digits n) : m = n := by
  have values := congrArg (fun text => Nat.ofDigitChars 10 text 0) same
  simpa only [digits, Nat.ofDigitChars_ten_toDigits] using values

/-- A number is read off the front of a text, up to the first character that is no digit. -/
theorem takeWhile_digits_append (n : Nat) {rest : List Char}
    (stops : ∀ c ∈ rest.head?, c.isDigit = false) :
    (digits n ++ rest).takeWhile Char.isDigit = digits n := by
  rw [List.takeWhile_append_of_pos fun c member => isDigit_of_mem_digits member]
  cases rest with
  | nil => simp
  | cons c rest =>
    have stop := stops c rfl
    simp [stop]

/-- Two numbers in front of texts that do not begin with a digit are equal, and so are the texts. -/
theorem digits_append_inj {m n : Nat} {left right : List Char}
    (leftStops : ∀ c ∈ left.head?, c.isDigit = false)
    (rightStops : ∀ c ∈ right.head?, c.isDigit = false)
    (same : digits m ++ left = digits n ++ right) : m = n ∧ left = right := by
  have numbers : digits m = digits n := by
    rw [← takeWhile_digits_append m leftStops, same, takeWhile_digits_append n rightStops]
  refine ⟨digits_injective numbers, ?_⟩
  rw [numbers] at same
  exact List.append_cancel_left same

/-- A protocol and its port are read off the front of a text. -/
theorem protocol_digits_append_inj {p q : AlbProtocol} {m n : Nat} {left right : List Char}
    (leftStops : ∀ c ∈ left.head?, c.isDigit = false)
    (rightStops : ∀ c ∈ right.head?, c.isDigit = false)
    (same : p.text.toList ++ (digits m ++ left) = q.text.toList ++ (digits n ++ right)) :
    p = q ∧ m = n ∧ left = right := by
  -- `HTTP` is a prefix of `HTTPS`, but no port begins with the letter that is left over.
  have noLetter : ∀ (n : Nat) (rest other : List Char), digits n ++ rest ≠ 'S' :: other := by
    intro n rest other equal
    cases first : digits n with
    | nil => exact Nat.toDigits_ne_nil first
    | cons c others =>
      have digit : c.isDigit = true := isDigit_of_mem_digits (n := n) (by simp [first])
      rw [first] at equal
      simp only [List.cons_append, List.cons.injEq] at equal
      rw [equal.1] at digit
      exact absurd digit (by decide)
  have http : AlbProtocol.http.text.toList = ['H', 'T', 'T', 'P'] := by decide
  have https : AlbProtocol.https.text.toList = ['H', 'T', 'T', 'P', 'S'] := by decide
  cases p <;> cases q <;>
    simp only [http, https, List.cons_append, List.nil_append, List.cons.injEq, true_and] at same
  · exact ⟨rfl, digits_append_inj leftStops rightStops same⟩
  · exact absurd same (noLetter _ _ _)
  · exact absurd same.symm (noLetter _ _ _)
  · exact ⟨rfl, digits_append_inj leftStops rightStops same⟩

namespace Mark

@[simp] theorem toList_text_single : Mark.single.text.toList = [] := by
  simp [text]

@[simp] theorem toList_text_number (n : Nat) : (Mark.number n).text.toList = digits n :=
  toList_toString_nat n

@[simp] theorem toList_text_endpoint (protocol : AlbProtocol) (port : UInt16) :
    (Mark.endpoint protocol port).text.toList = protocol.text.toList ++ (digits port.toNat ++ []) := by
  simp only [text, String.toList_append, toList_toString_port, List.append_nil]

@[simp] theorem toList_text_rule (protocol : AlbProtocol) (port : UInt16) (index : Nat) :
    (Mark.rule protocol port index).text.toList =
      protocol.text.toList ++ (digits port.toNat ++ ("Rule".toList ++ digits index)) := by
  simp only [text, String.toList_append, toList_toString_port, toList_toString_nat, List.append_assoc]

private theorem isInitial_of_isDigit {c : Char} (digit : c.isDigit = true) : isInitial c = true := by
  simp [isInitial, digit]

private theorem digits_head (n : Nat) : ∃ c rest, digits n = c :: rest ∧ c.isDigit = true := by
  cases first : digits n with
  | nil => exact absurd first Nat.toDigits_ne_nil
  | cons c rest => exact ⟨c, rest, rfl, isDigit_of_mem_digits (n := n) (by simp [first])⟩

private theorem protocol_head (protocol : AlbProtocol) :
    ∃ rest, protocol.text.toList = 'H' :: rest := by
  cases protocol <;> exact ⟨_, rfl⟩

theorem isInitial_head {mark : Mark} (plain : mark.IsPlain) {c : Char} {rest : List Char}
    (written : mark.text.toList = c :: rest) : isInitial c = true := by
  cases mark with
  | single => simp at written
  | number n =>
    rw [toList_text_number] at written
    exact isInitial_of_isDigit (isDigit_of_mem_digits (n := n) (by simp [written]))
  | endpoint protocol port =>
    obtain ⟨others, spelled⟩ := protocol_head protocol
    simp only [toList_text_endpoint, spelled, List.cons_append, List.cons.injEq] at written
    rw [← written.1]
    decide
  | rule protocol port index =>
    obtain ⟨others, spelled⟩ := protocol_head protocol
    simp only [toList_text_rule, spelled, List.cons_append, List.cons.injEq] at written
    rw [← written.1]
    decide
  | word _ => exact plain.elim

private theorem isPart_of_mem_protocol {protocol : AlbProtocol} {c : Char}
    (member : c ∈ protocol.text.toList) : isPart c = true := by
  have all : protocol.text.toList.all isPart = true := by cases protocol <;> decide
  exact List.all_eq_true.mp all c member

private theorem isPart_of_mem_digits {n : Nat} {c : Char} (member : c ∈ digits n) :
    isPart c = true := by
  simp [isPart, isDigit_of_mem_digits member]

theorem isPart_of_mem {mark : Mark} (plain : mark.IsPlain) {c : Char}
    (member : c ∈ mark.text.toList) : isPart c = true := by
  cases mark with
  | single => simp at member
  | number n => exact isPart_of_mem_digits (by simpa using member)
  | endpoint protocol port =>
    simp only [toList_text_endpoint, List.append_nil, List.mem_append] at member
    rcases member with spelled | digit
    · exact isPart_of_mem_protocol spelled
    · exact isPart_of_mem_digits digit
  | rule protocol port index =>
    simp only [toList_text_rule, List.mem_append] at member
    rcases member with spelled | digit | letter | digit
    · exact isPart_of_mem_protocol spelled
    · exact isPart_of_mem_digits digit
    · have all : "Rule".toList.all isPart = true := by decide
      exact List.all_eq_true.mp all c letter
    · exact isPart_of_mem_digits digit
  | word _ => exact plain.elim

private theorem digits_ne_nil (n : Nat) : digits n ≠ [] :=
  Nat.toDigits_ne_nil

private theorem digits_ne_protocol {n : Nat} {protocol : AlbProtocol} {rest : List Char} :
    digits n ≠ protocol.text.toList ++ rest := by
  intro same
  obtain ⟨c, others, first, digit⟩ := digits_head n
  obtain ⟨spelling, spelled⟩ := protocol_head protocol
  rw [first, spelled, List.cons_append, List.cons.injEq] at same
  rw [same.1] at digit
  exact absurd digit (by decide)

private theorem protocol_append_ne_nil {protocol : AlbProtocol} {rest : List Char} :
    protocol.text.toList ++ rest ≠ [] := by
  obtain ⟨spelling, spelled⟩ := protocol_head protocol
  simp [spelled]

private theorem rule_stops (index : Nat) :
    ∀ c ∈ ("Rule".toList ++ digits index).head?, c.isDigit = false := by
  intro c first
  obtain rfl : 'R' = c := by simpa using first
  decide

private theorem nil_stops : ∀ c ∈ ([] : List Char).head?, c.isDigit = false := by simp

private theorem rule_ne_nil (index : Nat) : [] ≠ "Rule".toList ++ digits index := by simp

/-- Plain marks can be read back from their texts. -/
theorem text_injective {a b : Mark} (aPlain : a.IsPlain) (bPlain : b.IsPlain)
    (same : a.text = b.text) : a = b := by
  have same := congrArg String.toList same
  cases a with
  | single =>
    rw [toList_text_single] at same
    cases b with
    | single => rfl
    | number n => exact absurd same.symm (by simpa using digits_ne_nil n)
    | endpoint _ _ => exact absurd same.symm (by simpa using protocol_append_ne_nil)
    | rule _ _ _ => exact absurd same.symm (by simp)
    | word _ => exact bPlain.elim
  | number m =>
    rw [toList_text_number] at same
    cases b with
    | single => exact absurd same (by simpa using digits_ne_nil m)
    | number n => rw [digits_injective (same.trans (toList_text_number n))]
    | endpoint _ _ => exact absurd same (by simpa using digits_ne_protocol)
    | rule _ _ _ => exact absurd same (by simpa using digits_ne_protocol)
    | word _ => exact bPlain.elim
  | endpoint p port =>
    rw [toList_text_endpoint] at same
    cases b with
    | single => exact absurd same (by simpa using protocol_append_ne_nil)
    | number n => exact absurd same.symm (by simpa using digits_ne_protocol)
    | endpoint q other =>
      rw [toList_text_endpoint] at same
      obtain ⟨rfl, ports, -⟩ := protocol_digits_append_inj nil_stops nil_stops same
      rw [UInt16.toNat_inj.mp ports]
    | rule q other index =>
      rw [toList_text_rule] at same
      obtain ⟨-, -, rests⟩ := protocol_digits_append_inj nil_stops (rule_stops index) same
      exact absurd rests (rule_ne_nil index)
    | word _ => exact bPlain.elim
  | rule p port index =>
    rw [toList_text_rule] at same
    cases b with
    | single => exact absurd same (by simp)
    | number n => exact absurd same.symm (by simpa using digits_ne_protocol)
    | endpoint q other =>
      rw [toList_text_endpoint] at same
      obtain ⟨-, -, rests⟩ := protocol_digits_append_inj (rule_stops index) nil_stops same
      exact absurd rests.symm (rule_ne_nil index)
    | rule q other place =>
      rw [toList_text_rule] at same
      obtain ⟨rfl, ports, rests⟩ :=
        protocol_digits_append_inj (rule_stops index) (rule_stops place) same
      rw [UInt16.toNat_inj.mp ports, digits_injective (List.append_cancel_left rests)]
    | word _ => exact bPlain.elim
  | word _ => exact aPlain.elim

end Mark

end ClusterStack
