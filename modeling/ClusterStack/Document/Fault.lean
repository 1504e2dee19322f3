import ClusterStack.Number.Layout
import ClusterStack.Document.Reader
import ClusterStack.Text.Quoted

/-!
# Faults of documents

What can be wrong with a document, where, and how it is told.
-/

set_option autoImplicit false

namespace ClusterStack

/-- What was found where something else was expected. -/
inductive Found where
  | null
  | bool (value : Bool)
  | number (value : Number)
  | wide (value : Int)
  | string (value : String)
  | sequence
  | map
  deriving Repr

/-- What is wrong with a document. -/
inductive Problem where
  /-- The text is not well formed, or a value in it cannot be represented. -/
  | malformed
  /-- An array goes on after the last value that it can hold. -/
  | trailing
  | missingField (name : String)
  | duplicateField (name : String)
  | wrongType (found : Found) (expected : String)
  | outOfRange (value : Int) (expected : String)
  /-- An integer is wanted as a JSON value and has more than 64 bits. -/
  | tooWide
  | wrongLength (length : Nat) (expected : String)
  | unknownChoice (name value : String) (options : List String)
  | noAlternative (name : String)
  deriving Repr

/-- A step from a container to one of its parts. -/
inductive Step where
  | member (name : String)
  | item (index : Nat)
  deriving DecidableEq, Repr

abbrev Path := List Step

/-- A problem and its place. -/
structure Fault where
  path : Path
  problem : Problem
  deriving Repr

/-- The text of a place below the root. The root itself has no text, but an item of the root is
told apart from a member by a leading point. -/
def Path.text : Path → String
  | [] => ""
  | [.item index] => s!".[{index}]"
  | .item index :: rest => Path.text rest ++ s!"[{index}]"
  | [.member name] => name
  | .member name :: rest => Path.text rest ++ "." ++ name

mutual

/-- The first integer of more than 64 bits, in the order of the text, and its place. -/
def Document.firstWide? (path : Path) : Document → Option (Path × Int)
  | .wide value => some (path, value)
  | .array items => firstWideItem? path 0 items
  | .object members => firstWideMember? path members
  | _ => none

/-- The first integer of more than 64 bits among the items from an index on. -/
def Document.firstWideItem? (path : Path) (index : Nat) : List Document → Option (Path × Int)
  | [] => none
  | item :: rest =>
    (item.firstWide? (.item index :: path)).or (firstWideItem? path (index + 1) rest)

/-- The first integer of more than 64 bits among the members. -/
def Document.firstWideMember? (path : Path) :
    List (Option String × Document) → Option (Path × Int)
  | [] => none
  | (name, value) :: rest =>
    (value.firstWide? (.member (name.getD "") :: path)).or (firstWideMember? path rest)

end

def Found.text (format : Format) : Found → String
  | .null => if format = .flow then "unit value" else "null"
  | .bool value => s!"boolean `{value}`"
  | .number (.integer value) => s!"integer `{value}`"
  | .number (.real value) =>
    let digits := value.text (if format = .flow then .plainFraction else .json)
    s!"floating point `{digits}`"
  | .wide value => s!"integer `{value}` as " ++ if value < 0 then "i128" else "u128"
  | .string value => "string " ++ Text.quote value
  | .sequence => "sequence"
  | .map => "map"

/-- The problem is one of the text and not of what the text says. -/
def Problem.isSyntactic : Problem → Bool
  | .malformed | .trailing => true
  | _ => false

/-- How a problem is told; `none` for text that is not well formed. -/
def Problem.text? (format : Format) : Problem → Option String
  | .malformed => none
  | .trailing => some "trailing characters"
  | .missingField name => some s!"missing field `{name}`"
  | .duplicateField name => some s!"duplicate field `{name}`"
  | .wrongType found expected =>
    some ("invalid type: " ++ found.text format ++ ", expected " ++ expected)
  | .outOfRange value expected => some s!"invalid value: integer `{value}`, expected {expected}"
  | .tooWide => some "JSON number out of range"
  | .wrongLength length expected => some s!"invalid length {length}, expected {expected}"
  | .unknownChoice name value options =>
    some (s!"unknown {name} '{value}', expected one of: " ++ ", ".intercalate options)
  | .noAlternative name => some s!"data did not match any variant of untagged enum {name}"

/-- How a fault is told; a YAML document's faults name their place. -/
def Fault.text? (format : Format) (fault : Fault) : Option String :=
  (fault.problem.text? format).map fun text =>
    if format = .flow ∧ fault.path ≠ [] then fault.path.text ++ ": " ++ text else text

end ClusterStack
