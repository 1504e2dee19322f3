import ClusterStack.Document.Fault
import ClusterStack.Document.Schema

/-!
# Decoding documents

A document is read against a schema from front to back, and the first problem met is the one that is
reported. A member that answers to no field is skipped, a second member for one field is refused
before its value is looked at, and a field that is left out is reported when the object ends.
-/

set_option autoImplicit false

namespace ClusterStack

/-- What a document is, as opposed to what was expected of it; places without a value are malformed
text to whoever wants the value. -/
def Document.found? : Document → Except Problem Found
  | .null => .ok .null
  | .bool value => .ok (.bool value)
  | .number value _ => .ok (.number value)
  | .wide value => .ok (.wide value)
  | .string value => .ok (.string value)
  | .array _ => .ok .sequence
  | .object _ => .ok .map
  | .unusable | .malformed => .error .malformed

/-- The problem of a document that is not what was expected. -/
def Document.mismatch (expected : String) (document : Document) : Problem :=
  match document.found? with
  | .ok found => .wrongType found expected
  | .error problem => problem

namespace Schema

/-- A string. A scalar of a YAML document is a string wherever one is expected. -/
def readText (format : Format) : Document → Except Problem String
  | .string value => .ok value
  | document =>
    match format, document with
    | .flow, .number _ spelling => .ok spelling
    | .flow, .wide value => .ok (toString value)
    | .flow, .bool value => .ok (if value then "true" else "false")
    | .flow, .null => .ok "null"
    | _, document => .error (document.mismatch "a string")

/-- A number that is spelled with a minus sign, as zero can be too. -/
def isSignedSpelling (spelling : String) : Bool :=
  spelling.startsWith "-"

/-- A natural number of limited width. In a YAML document a number with a sign is of another
type. -/
def readNatural (format : Format) (bits : Nat) (document : Document) : Except Problem Nat :=
  let expected := s!"u{bits}"
  match document with
  | .number (.integer value) spelling =>
    if isSignedSpelling spelling ∧ format = .flow then .error (document.mismatch expected)
    else if 0 ≤ value ∧ value.toNat < 1 <<< bits then .ok value.toNat
    else .error (.outOfRange value expected)
  | document => .error (document.mismatch expected)

/-- An integer of 64 bits. In a YAML document a larger number is of another type. -/
def readInteger (format : Format) (document : Document) : Except Problem Int :=
  match document with
  | .number (.integer value) _ =>
    if Number.fitsSigned value then .ok value
    else if format = .flow then .error (document.mismatch "i64")
    else .error (.outOfRange value "i64")
  | document => .error (document.mismatch "i64")

/-- A floating-point number; an integer is rounded to one, and in a YAML document a zero keeps its
sign. -/
def readReal (format : Format) (document : Document) : Except Problem Binary64 :=
  match document with
  | .number (.real value) _ => .ok value
  | .number (.integer value) spelling =>
    if value = 0 ∧ format = .flow then .ok (.zero (isSignedSpelling spelling))
    else rounded value
  | .wide value => rounded value
  | document => .error (document.mismatch "f64")
where
  rounded (value : Int) : Except Problem Binary64 :=
    (Binary64.ofInt? value).elim (.error .malformed) .ok

/-- What a record of a given name and field count is called where an array for it ends early. -/
def elementsText (name : String) (count : Nat) : String :=
  s!"struct {name} with {count} element" ++ if count = 1 then "" else "s"

/-- The problem of an array that goes on after the last field of a record. -/
def surplus (format : Format) (length : Nat) : Problem :=
  match format with
  | .json => .trailing
  | .tree | .flow => .wrongLength length "fewer elements in array"

def locate {α : Type} (path : Path) : Except Problem α → Except Fault α
  | .ok value => .ok value
  | .error problem => .error ⟨path, problem⟩

/-- Any value; the first integer of more than 64 bits in it is a problem at its own place. -/
def readAnything (path : Path) (document : Document) : Except Fault Json :=
  match document.firstWide? path with
  | some (place, _) => .error ⟨place, .tooWide⟩
  | none => locate path (document.toJson?.elim (.error .malformed) .ok)

mutual

def decode (format : Format) (path : Path) :
    (schema : Schema) → Document → Except Fault schema.El
  | .text, document => locate path (readText format document)
  | .flag, .bool value => .ok value
  | .flag, document => .error ⟨path, document.mismatch "a boolean"⟩
  | .natural bits, document => locate path (readNatural format bits document)
  | .integer, document => locate path (readInteger format document)
  | .real, document => locate path (readReal format document)
  | .anything, document => readAnything path document
  | .choice name _ options, document => do
    let value ← locate path (readText format document)
    match options.find? (·.1 == value) with
    | some option => .ok option.2
    | none => .error ⟨path.drop 1, .unknownChoice name value (options.map (·.1))⟩
  | .optional _, .null => .ok none
  | .optional inner, document => (decode format path inner document).map some
  | .sequence inner, .array items =>
    (items.zipIdx).mapM fun item => decode format (.item item.2 :: path) inner item.1
  | .sequence _, document => .error ⟨path, document.mismatch "a sequence"⟩
  | .dictionary inner, .object members =>
    members.foldlM (fun entries member =>
      match member.1 with
      | none => .error ⟨path, .malformed⟩
      | some key => do
        let value ← decode format (.member key :: path) inner member.2
        return Entries.insert entries key value) []
  | .dictionary _, document => .error ⟨path, document.mismatch "a map"⟩
  | .record _ _ fields, .object members => do
    let slots ← members.foldlM (fun slots member =>
      match member.1 with
      | none => .error ⟨path, .malformed⟩
      | some key => putMember format path key member.2 fields slots) (emptySlots fields)
    closeSlots path fields slots
  | .record name true fields, .array items =>
    if format = .flow then .error ⟨path, .wrongType .sequence s!"struct {name}"⟩
    else decodePositions format path (elementsText name fields.length) items 0 fields
  | .record name _ _, document => .error ⟨path, document.mismatch s!"struct {name}"⟩
  | .either name left right, document =>
    match document.firstWide? path, document.toJson? with
    | some (place, value), _ => .error ⟨place, .wrongType (.wide value) "any value"⟩
    | none, none => .error ⟨path, .malformed⟩
    | none, some _ =>
      match decode .tree [] left document with
      | .ok value => .ok (.inl value)
      | .error _ =>
        match decode .tree [] right document with
        | .ok value => .ok (.inr value)
        | .error _ => .error ⟨path.drop 1, .noAlternative name⟩

def decodeField (format : Format) (path : Path) :
    (field : Field) → Document → Except Fault field.El
  | .mk _ _ _ schema, document => decode format path schema document

/-- Puts a member of an object into the slot of the field that it answers to. -/
def putMember (format : Format) (path : Path) (key : String) (document : Document) :
    (fields : List Field) → Slots fields → Except Fault (Slots fields)
  | [], slots => if document.isWellFormed then .ok slots else .error ⟨path, .malformed⟩
  | field :: rest, (slot, others) =>
    if field.answersTo key then
      match slot with
      | some _ => .error ⟨path, .duplicateField field.name⟩
      | none => do
        let value ← decodeField format (.member key :: path) field document
        return (some value, others)
    else do
      let others ← putMember format path key document rest others
      return (slot, others)

def closeSlots (path : Path) :
    (fields : List Field) → Slots fields → Except Fault (FieldValues fields)
  | [], _ => .ok ()
  | field :: rest, (slot, others) =>
    match slot.or field.absent? with
    | none => .error ⟨path, .missingField field.name⟩
    | some value => do
      let values ← closeSlots path rest others
      return (value, values)

/-- Reads the items of an array as the fields of a record, in declaration order. -/
def decodePositions (format : Format) (path : Path) (expected : String) (items : List Document)
    (index : Nat) : (fields : List Field) → Except Fault (FieldValues fields)
  | [] =>
    if items.length ≤ index then .ok ()
    else .error ⟨path, surplus format items.length⟩
  | field :: rest =>
    match items[index]? with
    | some item => do
      let value ← decodeField format (.item index :: path) field item
      let values ← decodePositions format path expected items (index + 1) rest
      return (value, values)
    | none =>
      match field.omitted? with
      | none => .error ⟨path, .wrongLength index expected⟩
      | some value => do
        let values ← decodePositions format path expected items (index + 1) rest
        return (value, values)

end

end Schema

def Schema.decodeTree (schema : Schema) (tree : Json) : Except Fault schema.El :=
  schema.decode .tree [] (Document.ofJson tree.sorted)

/-- Reads a text against a schema; text after the value is looked at last. -/
def Schema.decodeText (format : Format) (schema : Schema) (text : String) :
    Except Fault schema.El := do
  let (root, followed) := Document.read format text
  let value ← schema.decode format [] root
  if followed then .error ⟨[], .malformed⟩ else .ok value

end ClusterStack
