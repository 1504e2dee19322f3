import ClusterStack.Text.CaseTable
import ClusterStack.Text.CharacterClass

/-!
# Case mapping

Lower and upper case of characters and texts over the whole character set. A character may map to
several. The capital sigma has two lower-case forms: the final one is used at the end of a word.
-/

set_option autoImplicit false

namespace ClusterStack.Text

/-- The image of a code point under the first run that contains it, or the code point itself. -/
def mapCode (runs : List CaseRun) (code : Nat) : Nat :=
  (runs.findSome? (·.mapped? code)).getD code

def lowerChar (c : Char) : List Char :=
  if c.val < 128 then [c.toLower]
  else if c = 'İ' then ['i', '\u0307']
  else [Char.ofNat (mapCode lowerRuns c.toNat)]

def upperChar (c : Char) : List Char :=
  if c.val < 128 then [c.toUpper]
  else match upperSequences.find? (·.1 == c.toNat) with
    | some (_, codes) => codes.map Char.ofNat
    | none => [Char.ofNat (mapCode upperRuns c.toNat)]

/-- The first character that is not skipped is a letter with a case. -/
def startsCased : List Char → Bool
  | [] => false
  | c :: rest => if isCaseIgnorable c then startsCased rest else isCased c

/-- Lower case of a text, where `inWord` tells that a letter with a case comes just before it. -/
def lowerChars (inWord : Bool) : List Char → List Char
  | [] => []
  | c :: rest =>
    let image :=
      if c = 'Σ' then (if inWord && !startsCased rest then ['ς'] else ['σ']) else lowerChar c
    image ++ lowerChars (if isCaseIgnorable c then inWord else isCased c) rest

def lower (text : String) : String :=
  String.ofList (lowerChars false text.toList)

def capitalize (chars : List Char) : List Char :=
  match chars with
  | [] => []
  | c :: rest => upperChar c ++ rest

end ClusterStack.Text
