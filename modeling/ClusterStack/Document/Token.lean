import ClusterStack.Number.Numeral

/-!
# Tokens of a JSON text

Characters are turned into tokens by an automaton that takes one character at a time. A character
that fits nowhere gives the token `bad`, after which the rest of the text is not looked at.
-/

set_option autoImplicit false

namespace ClusterStack

/-- A token. A string without a value is one whose escapes do not name characters. -/
inductive Token where
  | null
  | bool (value : Bool)
  | number (value : Numeral) (spelling : String)
  | string (value : Option String)
  | openArray
  | closeArray
  | openObject
  | closeObject
  | comma
  | colon
  | bad
  deriving Repr

namespace Token

/-- The part of a number that the last character belongs to. -/
inductive NumberPart where
  | sign
  | leadingZero
  | whole
  | point
  | decimals
  | mark
  | exponentSign
  | exponent
  deriving DecidableEq, Repr

namespace NumberPart

def isComplete : NumberPart → Bool
  | .leadingZero | .whole | .decimals | .exponent => true
  | .sign | .point | .mark | .exponentSign => false

/-- The part that a further character belongs to; `none` when it does not continue the number. -/
def next? (c : Char) : NumberPart → Option NumberPart
  | .sign => if c = '0' then some .leadingZero else if c.isDigit then some .whole else none
  | .leadingZero => afterWhole
  | .whole => if c.isDigit then some .whole else afterWhole
  | .point => if c.isDigit then some .decimals else none
  | .decimals => if c.isDigit then some .decimals else afterDecimals
  | .mark =>
    if c = '+' ∨ c = '-' then some .exponentSign else if c.isDigit then some .exponent else none
  | .exponentSign | .exponent => if c.isDigit then some .exponent else none
where
  afterDecimals : Option NumberPart := if c = 'e' ∨ c = 'E' then some .mark else none
  afterWhole : Option NumberPart := if c = '.' then some .point else afterDecimals

end NumberPart

/-- A number whose characters are still coming; digits and spelling are held back to front. -/
structure NumberDraft where
  negative : Bool
  whole : List Nat
  decimals : Option (List Nat)
  exponentNegative : Bool
  exponent : Option (List Nat)
  spelling : List Char
  deriving Repr

namespace NumberDraft

/-- Takes one more character, which belongs to the given part. -/
def push (draft : NumberDraft) (part : NumberPart) (c : Char) : NumberDraft :=
  let digit := c.toNat - 48
  let draft := { draft with spelling := c :: draft.spelling }
  match part with
  | .sign => { draft with negative := true }
  | .leadingZero | .whole => { draft with whole := digit :: draft.whole }
  | .point => { draft with decimals := some [] }
  | .decimals => { draft with decimals := some (digit :: draft.decimals.getD []) }
  | .mark => { draft with exponent := some [] }
  | .exponentSign => { draft with exponentNegative := c = '-' }
  | .exponent => { draft with exponent := some (digit :: draft.exponent.getD []) }

def toToken (draft : NumberDraft) : Token :=
  let exponent := draft.exponent.map fun digits =>
    let size : Int := Numeral.natOfDigits digits.reverse
    if draft.exponentNegative then -size else size
  .number ⟨draft.negative, draft.whole.reverse, draft.decimals.map List.reverse, exponent⟩
    (String.ofList draft.spelling.reverse)

end NumberDraft

/-- A string whose characters are still coming, held back to front. A first half of a surrogate
pair waits for the second. -/
structure StringDraft where
  chars : List Char
  usable : Bool
  half : Option Nat
  deriving Repr

namespace StringDraft

def push (draft : StringDraft) (c : Char) : StringDraft :=
  ⟨c :: draft.chars, draft.usable && draft.half.isNone, none⟩

def pushUnit (draft : StringDraft) (unit : Nat) : StringDraft :=
  match draft.half with
  | some high =>
    if 0xDC00 ≤ unit ∧ unit < 0xE000 then
      let code := 0x10000 + (high - 0xD800) * 0x400 + (unit - 0xDC00)
      ⟨Char.ofNat code :: draft.chars, draft.usable, none⟩
    else
      ⟨draft.chars, false, none⟩
  | none =>
    if 0xD800 ≤ unit ∧ unit < 0xDC00 then { draft with half := some unit }
    else if 0xDC00 ≤ unit ∧ unit < 0xE000 then ⟨draft.chars, false, none⟩
    else draft.push (Char.ofNat unit)

def toToken (draft : StringDraft) : Token :=
  .string (if draft.usable && draft.half.isNone then some (String.ofList draft.chars.reverse)
    else none)

end StringDraft

/-- What the automaton is in the middle of. -/
inductive Scan where
  | between
  | word (rest : List Char) (token : Token)
  | number (part : NumberPart) (draft : NumberDraft)
  | string (draft : StringDraft)
  | escape (draft : StringDraft)
  /-- Hexadecimal digits of an escape: how many are missing, and the value of those read. -/
  | unit (draft : StringDraft) (missing : Nat) (value : Nat)
  | stopped
  deriving Repr

def escaped? (c : Char) : Option Char :=
  match c with
  | '"' => some '"'
  | '\\' => some '\\'
  | '/' => some '/'
  | 'b' => some (Char.ofNat 8)
  | 'f' => some (Char.ofNat 12)
  | 'n' => some '\n'
  | 'r' => some '\r'
  | 't' => some '\t'
  | _ => none

def hexValue? (c : Char) : Option Nat :=
  if c.isDigit then some (c.toNat - 48)
  else if 'a' ≤ c ∧ c ≤ 'f' then some (c.toNat - 87)
  else if 'A' ≤ c ∧ c ≤ 'F' then some (c.toNat - 55)
  else none

def start (c : Char) : Scan × List Token :=
  let emptyNumber : NumberDraft := ⟨false, [], none, false, none, []⟩
  match c with
  | ' ' | '\t' | '\n' | '\r' => (.between, [])
  | '[' => (.between, [.openArray])
  | ']' => (.between, [.closeArray])
  | '{' => (.between, [.openObject])
  | '}' => (.between, [.closeObject])
  | ',' => (.between, [.comma])
  | ':' => (.between, [.colon])
  | '"' => (.string ⟨[], true, none⟩, [])
  | 'n' => (.word ['u', 'l', 'l'] .null, [])
  | 't' => (.word ['r', 'u', 'e'] (.bool true), [])
  | 'f' => (.word ['a', 'l', 's', 'e'] (.bool false), [])
  | '-' => (.number .sign (emptyNumber.push .sign c), [])
  | c =>
    match NumberPart.sign.next? c with
    | some part => (.number part (emptyNumber.push part c), [])
    | none => (.stopped, [.bad])

/-- Takes one character. The number part `leadingZero` does not accept a further digit. -/
def advance (scan : Scan) (c : Char) : Scan × List Token :=
  match scan with
  | .between => start c
  | .word [] token =>
    let (scan, tokens) := start c
    (scan, token :: tokens)
  | .word (expected :: rest) token =>
    if c = expected then (.word rest token, []) else (.stopped, [.bad])
  | .number part draft =>
    match part.next? c with
    | some part => (.number part (draft.push part c), [])
    | none =>
      if part.isComplete && !(part = .leadingZero && c.isDigit) then
        let (scan, tokens) := start c
        (scan, draft.toToken :: tokens)
      else
        (.stopped, [.bad])
  | .string draft =>
    if c = '"' then (.between, [draft.toToken])
    else if c = '\\' then (.escape draft, [])
    else if c.toNat < 32 then (.stopped, [.bad])
    else (.string (draft.push c), [])
  | .escape draft =>
    if c = 'u' then (.unit draft 4 0, [])
    else match escaped? c with
      | some meant => (.string (draft.push meant), [])
      | none => (.stopped, [.bad])
  | .unit draft missing value =>
    match hexValue? c with
    | some digit =>
      let value := value * 16 + digit
      if missing ≤ 1 then (.string (draft.pushUnit value), [])
      else (.unit draft (missing - 1) value, [])
    | none => (.stopped, [.bad])
  | .stopped => (.stopped, [])

def finish (scan : Scan) : List Token :=
  match scan with
  | .between | .stopped => []
  | .word [] token => [token]
  | .number part draft => if part.isComplete then [draft.toToken] else [.bad]
  | _ => [.bad]

def scanText (text : String) : List Token :=
  let (scan, tokens) := text.toList.foldl
    (fun (state : Scan × List Token) c =>
      let (scan, found) := advance state.1 c
      (scan, found.reverse ++ state.2))
    (.between, [])
  tokens.reverse ++ finish scan

end Token

end ClusterStack
