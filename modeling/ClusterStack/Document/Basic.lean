import ClusterStack.Json.Printer

/-!
# Documents

A document is a tree as it was written: object members in their own order, repeated members
included, numbers with their spelling. It can also hold places without a value. At an `unusable`
place the text is well formed but names no value (a number too large, half of a surrogate pair, too
deep a nesting), so that only a reader who wants the value fails. At a `malformed` place the text
breaks off, so that even a reader who skips the place fails.
-/

set_option autoImplicit false

namespace ClusterStack

/-- A tree as it was written. A member without a name is one whose name cannot be read. -/
inductive Document where
  | null
  | bool (value : Bool)
  | number (value : Number) (spelling : String)
  /-- An integer of more than 64 and at most 128 bits, where these are told from other numbers. -/
  | wide (value : Int)
  | string (value : String)
  | array (items : List Document)
  | object (members : List (Option String × Document))
  | unusable
  | malformed
  deriving Repr, Inhabited

namespace Document

mutual

/-- The document that spells out a JSON tree, members in the tree's order. -/
def ofJson : Json → Document
  | .null => .null
  | .bool value => .bool value
  | .number value => .number value value.text
  | .string value => .string value
  | .array items => .array (ofItems items)
  | .object members => .object (ofMembers members)

def ofItems : List Json → List Document
  | [] => []
  | item :: rest => ofJson item :: ofItems rest

def ofMembers : List (String × Json) → List (Option String × Document)
  | [] => []
  | (key, value) :: rest => (some key, ofJson value) :: ofMembers rest

end

mutual

/-- The JSON tree of a document, with members ordered by key and the last of repeated members;
`none` when some place has no value, or none in JSON. -/
def toJson? : Document → Option Json
  | .null => some .null
  | .bool value => some (.bool value)
  | .number value _ => some (.number value)
  | .wide _ => none
  | .string value => some (.string value)
  | .array items => (itemsToJson? items).map .array
  | .object members => (membersToJson? members).map fun read => .object (Entries.sorted read)
  | .unusable => none
  | .malformed => none

def itemsToJson? : List Document → Option (List Json)
  | [] => some []
  | item :: rest => do
    let first ← item.toJson?
    let others ← itemsToJson? rest
    return first :: others

def membersToJson? : List (Option String × Document) → Option (List (String × Json))
  | [] => some []
  | (name, value) :: rest => do
    let key ← name
    let first ← value.toJson?
    let others ← membersToJson? rest
    return (key, first) :: others

end

mutual

def isWellFormed : Document → Bool
  | .malformed => false
  | .array items => itemsWellFormed items
  | .object members => membersWellFormed members
  | _ => true

def itemsWellFormed : List Document → Bool
  | [] => true
  | item :: rest => isWellFormed item && itemsWellFormed rest

def membersWellFormed : List (Option String × Document) → Bool
  | [] => true
  | (_, value) :: rest => isWellFormed value && membersWellFormed rest

end

end Document

end ClusterStack
