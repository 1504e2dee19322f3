import ClusterStack.Json.Basic

/-!
# Schemas

A schema says what shape a document must have, and gives the type of what is read from it. Records
list their fields in declaration order; each field has a name, other names it also answers to, and
a rule for documents that leave it out.
-/

set_option autoImplicit false

namespace ClusterStack

/-- When a field may be left out of a record. -/
inductive Omission where
  | never
  /-- An object may leave the field out; an array, which gives fields by position, may not. -/
  | inObject
  /-- Objects and arrays may leave the field out. -/
  | always
  deriving DecidableEq, Repr

mutual

/-- The shape that a document must have. -/
inductive Schema : Type 1 where
  | text
  | flag
  /-- A natural number of at most this many bits. -/
  | natural (bits : Nat)
  | integer
  | real
  | anything
  /-- One of finitely many strings, each standing for a value. -/
  | choice (name : String) (carrier : Type) (options : List (String × carrier))
  | optional (inner : Schema)
  | sequence (inner : Schema)
  /-- An object whose member names are free; a repeated name keeps its place and its last value. -/
  | dictionary (inner : Schema)
  /-- An object with the given fields, or, when `positional` and not in a YAML document, an array of
  their values. -/
  | record (name : String) (positional : Bool) (fields : List Field)
  | either (name : String) (left right : Schema)

/-- A field of a record. -/
inductive Field : Type 1 where
  | mk (name : String) (aliases : List String) (omission : Omission) (schema : Schema)

end

def Field.name : Field → String
  | .mk name _ _ _ => name

def Field.answersTo (field : Field) (key : String) : Bool :=
  match field with
  | .mk name aliases _ _ => key == name || aliases.contains key

def Field.omission : Field → Omission
  | .mk _ _ omission _ => omission

mutual

def Schema.El : Schema → Type
  | .text => String
  | .flag => Bool
  | .natural _ => Nat
  | .integer => Int
  | .real => Binary64
  | .anything => Json
  | .choice _ carrier _ => carrier
  | .optional inner => Option inner.El
  | .sequence inner => List inner.El
  | .dictionary inner => List (String × inner.El)
  | .record _ _ fields => Schema.FieldValues fields
  | .either _ left right => left.El ⊕ right.El

def Field.El : Field → Type
  | .mk _ _ _ schema => schema.El

def Schema.FieldValues : List Field → Type
  | [] => Unit
  | field :: rest => field.El × Schema.FieldValues rest

end

def Schema.Slots : List Field → Type
  | [] => Unit
  | field :: rest => Option field.El × Schema.Slots rest

def Schema.emptySlots : (fields : List Field) → Schema.Slots fields
  | [] => ()
  | _ :: rest => (none, emptySlots rest)

mutual

/-- The value of a part that is left out: empty, false, absent, the first choice; `none` for a
shape without such a value. -/
def Schema.blank? : (schema : Schema) → Option schema.El
  | .text => some ""
  | .flag => some false
  | .natural _ => some (0 : Nat)
  | .integer => some (0 : Int)
  | .real => some (Binary64.zero false)
  | .anything => some Json.null
  | .choice _ _ options => options.head?.map (·.2)
  | .optional _ => some none
  | .sequence _ => some []
  | .dictionary _ => some []
  | .record _ _ fields => Schema.blankFields? fields
  | .either _ _ _ => none

def Schema.blankFields? : (fields : List Field) → Option (Schema.FieldValues fields)
  | [] => some ()
  | .mk _ _ _ schema :: rest => do
    let value ← schema.blank?
    let others ← blankFields? rest
    return (value, others)

end

/-- The value of a field that an object leaves out, where that is allowed. -/
def Field.absent? (field : Field) : Option field.El :=
  match field with
  | .mk _ _ .never _ => none
  | .mk _ _ _ schema => schema.blank?

/-- The value of a field that an array ends before, where that is allowed. -/
def Field.omitted? (field : Field) : Option field.El :=
  match field with
  | .mk _ _ .always schema => schema.blank?
  | .mk _ _ _ _ => none

end ClusterStack
