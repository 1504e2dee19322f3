import ClusterStack.Document.Decoder
import ClusterStack.Proofs.Outcome
import Mathlib.Data.Option.Basic

/-!
# What documents are read as

A record is decoded member by member, in the order of the document, and every fault has a place.
Where only the value matters, each field can be read by itself: from the one member that answers to
it, if there is one. The two readings have the same values.
-/

set_option autoImplicit false

namespace ClusterStack

namespace Document

/-! ## Documents that have a value -/

theorem isSome_itemsToJson? (items : List Document) :
    (itemsToJson? items).isSome = items.all fun item => item.toJson?.isSome := by
  induction items with
  | nil => rfl
  | cons item rest ih =>
    rw [itemsToJson?, List.all_cons, ← ih]
    cases item.toJson? <;> cases itemsToJson? rest <;> rfl

theorem isSome_membersToJson? (members : List (Option String × Document)) :
    (membersToJson? members).isSome =
      members.all fun member => member.1.isSome && member.2.toJson?.isSome := by
  induction members with
  | nil => rfl
  | cons member rest ih =>
    obtain ⟨name, value⟩ := member
    rw [membersToJson?, List.all_cons, ← ih]
    cases name <;> cases value.toJson? <;> cases membersToJson? rest <;> rfl

mutual

/-- A document that has a value in JSON holds no integer that is too wide for it. -/
theorem firstWide?_eq_none (path : Path) :
    (document : Document) → document.toJson?.isSome → document.firstWide? path = none
  | .array items, valued => by
    rw [toJson?, Option.isSome_map, isSome_itemsToJson?] at valued
    rw [firstWide?, firstWideItem?_eq_none path 0 items valued]
  | .object members, valued => by
    rw [toJson?, Option.isSome_map, isSome_membersToJson?] at valued
    rw [firstWide?, firstWideMember?_eq_none path members valued]
  | .null, _ | .bool _, _ | .number _ _, _ | .string _, _ | .unusable, _ | .malformed, _ => rfl

theorem firstWideItem?_eq_none (path : Path) (index : Nat) :
    (items : List Document) → (items.all fun item => item.toJson?.isSome) →
      firstWideItem? path index items = none
  | [], _ => rfl
  | item :: rest, valued => by
    rw [List.all_cons, Bool.and_eq_true] at valued
    rw [firstWideItem?, firstWide?_eq_none _ item valued.1, firstWideItem?_eq_none _ _ rest valued.2,
      Option.or_none]

theorem firstWideMember?_eq_none (path : Path) :
    (members : List (Option String × Document)) →
      (members.all fun member => member.1.isSome && member.2.toJson?.isSome) →
      firstWideMember? path members = none
  | [], _ => rfl
  | (name, value) :: rest, valued => by
    rw [List.all_cons, Bool.and_eq_true, Bool.and_eq_true] at valued
    rw [firstWideMember?, firstWide?_eq_none _ value valued.1.2, firstWideMember?_eq_none _ rest valued.2,
      Option.or_none]

end

mutual

/-- A document that has a value is well formed. -/
theorem isWellFormed_of_isSome :
    (document : Document) → document.toJson?.isSome → document.isWellFormed
  | .array items, valued => by
    rw [toJson?, Option.isSome_map, isSome_itemsToJson?] at valued
    rw [isWellFormed, itemsWellFormed_of_isSome items valued]
  | .object members, valued => by
    rw [toJson?, Option.isSome_map, isSome_membersToJson?] at valued
    rw [isWellFormed, membersWellFormed_of_isSome members valued]
  | .null, _ | .bool _, _ | .number _ _, _ | .string _, _ | .unusable, _ => rfl

theorem itemsWellFormed_of_isSome :
    (items : List Document) → (items.all fun item => item.toJson?.isSome) → itemsWellFormed items
  | [], _ => rfl
  | item :: rest, valued => by
    rw [List.all_cons, Bool.and_eq_true] at valued
    rw [itemsWellFormed, isWellFormed_of_isSome item valued.1, itemsWellFormed_of_isSome rest valued.2,
      Bool.and_self]

theorem membersWellFormed_of_isSome :
    (members : List (Option String × Document)) →
      (members.all fun member => member.1.isSome && member.2.toJson?.isSome) → membersWellFormed members
  | [], _ => rfl
  | (name, value) :: rest, valued => by
    rw [List.all_cons, Bool.and_eq_true, Bool.and_eq_true] at valued
    rw [membersWellFormed, isWellFormed_of_isSome value valued.1.2, membersWellFormed_of_isSome rest valued.2,
      Bool.and_self]

end

end Document

/-- A member of an object gives the value of a field. -/
def Field.isGivenBy (field : Field) (member : Option String × Document) : Bool :=
  member.1.any field.answersTo

namespace Schema

/-! ## Reading field by field -/

def FieldValues.cons {field : Field} {rest : List Field} (value : field.El) (values : FieldValues rest) :
    FieldValues (field :: rest) :=
  (value, values)

/-- The value of a field, read from the members that answer to it. -/
def readSole? {α : Type} (absent? : Option α) (read? : Document → Option α) :
    List (Option String × Document) → Option α
  | [] => absent?
  | [member] => read? member.2
  | _ :: _ :: _ => none

mutual

/-- What a document is read as, each field of a record by itself. -/
def read? (format : Format) : (schema : Schema) → Document → Option schema.El
  | .text, document => (readText format document).toOption
  | .flag, .bool value => some value
  | .flag, _ => none
  | .natural bits, document => (readNatural format bits document).toOption
  | .integer, document => (readInteger format document).toOption
  | .real, document => (readReal format document).toOption
  | .anything, document => document.toJson?
  | .choice _ _ options, document => do
    let value ← (readText format document).toOption
    (options.find? (·.1 == value)).map (·.2)
  | .optional _, .null => some none
  | .optional inner, document => (read? format inner document).map some
  | .sequence inner, .array items => items.mapM (read? format inner)
  | .sequence _, _ => none
  | .dictionary inner, .object members =>
    (members.mapM fun (member : Option String × Document) =>
      member.1.bind fun key => (read? format inner member.2).map fun value => (key, value)).map Entries.ofList
  | .dictionary _, _ => none
  | .record _ _ fields, .object members => readMembers? format fields members
  | .record _ true fields, .array items =>
    if format = .flow then none else readPositions? format fields items
  | .record _ _ _, _ => none
  | .either _ left right, document =>
    if document.toJson?.isSome then
      ((read? .tree left document).map .inl).or ((read? .tree right document).map .inr)
    else none

def readField? (format : Format) : (field : Field) → Document → Option field.El
  | .mk _ _ _ schema, document => read? format schema document

/-- Each field is read from the members that answer to it; what answers to none is skipped, if it
has a name and is well formed. -/
def readMembers? (format : Format) :
    (fields : List Field) → List (Option String × Document) → Option (FieldValues fields)
  | [], members =>
    if members.all fun member => member.1.isSome && member.2.isWellFormed then some () else none
  | field :: rest, members =>
    (readSole? field.absent? (readField? format field) (members.filter field.isGivenBy)).bind fun value =>
      (readMembers? format rest (members.filter fun member => !field.isGivenBy member)).map (FieldValues.cons value)

def readPositions? (format : Format) :
    (fields : List Field) → List Document → Option (FieldValues fields)
  | [], items => if items.isEmpty then some () else none
  | field :: rest, items =>
    (items.head?.elim field.omitted? (readField? format field)).bind fun value =>
      (readPositions? format rest items.tail).map (FieldValues.cons value)

end

variable {format : Format} {path : Path}

/-! ## The members of a record -/

section Members

variable {field : Field} {rest : List Field}

/-- Puts a member into the slot of its field; a name that cannot be read is a problem. -/
def putNamed (format : Format) (path : Path) (fields : List Field) (slots : Slots fields)
    (member : Option String × Document) : Except Fault (Slots fields) :=
  match member.1 with
  | none => .error ⟨path, .malformed⟩
  | some key => putMember format path key member.2 fields slots

def Slots.cons (slot : Option field.El) (others : Slots rest) : Slots (field :: rest) :=
  (slot, others)

/-- What a slot holds in the end, if the members that answer to its field are put into it. -/
def fillSlot? {α : Type} (absent? : Option α) (read? : Document → Option α)
    (slot : Option α) (given : List (Option String × Document)) : Option α :=
  match slot with
  | none => readSole? absent? read? given
  | some value => if given.isEmpty then some value else none

theorem toOption_closeSlots_cons (slot : Option field.El) (others : Slots rest) :
    (closeSlots path (field :: rest) (.cons slot others)).toOption =
      (slot.or field.absent?).bind fun value =>
        (closeSlots path rest others).toOption.map (FieldValues.cons value) := by
  rw [Slots.cons, closeSlots]
  cases slot.or field.absent? with
  | none => rfl
  | some value => cases closeSlots path rest others <;> rfl

theorem putNamed_some {fields : List Field} (slots : Slots fields) (key : String) (document : Document) :
    putNamed format path fields slots (some key, document) = putMember format path key document fields slots :=
  rfl

theorem putMember_cons (key : String) (document : Document) (slot : Option field.El) (others : Slots rest) :
    putMember format path key document (field :: rest) (.cons slot others) =
      if field.answersTo key then
        match slot with
        | some _ => .error ⟨path, .duplicateField field.name⟩
        | none => (decodeField format (.member key :: path) field document).map fun value => .cons (some value) others
      else (putMember format path key document rest others).map (Slots.cons slot) :=
  rfl

theorem putNamed_cons_of_not (slot : Option field.El) (others : Slots rest) {member : Option String × Document} (skipped : ¬ field.isGivenBy member) :
    putNamed format path (field :: rest) (.cons slot others) member =
      (putNamed format path rest others member).map (Slots.cons slot) := by
  obtain ⟨name, document⟩ := member
  cases name with
  | none => rfl
  | some key =>
    have skipped : ¬ field.answersTo key := skipped
    rw [putNamed_some, putMember_cons, if_neg skipped]
    rfl

theorem toOption_putNamed_cons
    (each : ∀ path document, (decodeField format path field document).toOption = readField? format field document)
    (slot : Option field.El) (others : Slots rest) {member : Option String × Document}
    (given : field.isGivenBy member) :
    (putNamed format path (field :: rest) (.cons slot others) member).toOption =
      if slot.isSome then none
      else (readField? format field member.2).map fun value => .cons (some value) others := by
  obtain ⟨name, document⟩ := member
  cases name with
  | none => cases given
  | some key =>
    have given : field.answersTo key := given
    rw [putNamed_some, putMember_cons, if_pos given]
    cases slot with
    | some _ => rfl
    | none => rw [toOption_map, each]; rfl

/-- The first field takes the members that answer to it, and the others are put as if it were not
there. -/
theorem toOption_members_cons
    (each : ∀ path document, (decodeField format path field document).toOption = readField? format field document)
    (members : List (Option String × Document)) (slot : Option field.El) (others : Slots rest) :
    (members.foldlM (putNamed format path (field :: rest)) (.cons slot others) >>=
        closeSlots path (field :: rest)).toOption =
      (fillSlot? field.absent? (readField? format field) slot (members.filter field.isGivenBy)).bind fun value =>
        (((members.filter fun member => !field.isGivenBy member).foldlM (putNamed format path rest) others >>=
          closeSlots path rest).toOption).map (FieldValues.cons value) := by
  induction members generalizing slot others with
  | nil =>
    simp only [List.filter_nil, List.foldlM_nil, pure_bind, toOption_closeSlots_cons]
    cases slot with
    | none => rfl
    | some value => rfl
  | cons member members ih =>
    rw [List.foldlM_cons, bind_assoc]
    by_cases given : field.isGivenBy member = true
    · rw [toOption_bind, toOption_putNamed_cons each slot others given, List.filter_cons_of_pos given,
        List.filter_cons_of_neg (by simp [given])]
      cases slot with
      | some _ => rfl
      | none =>
        rw [if_neg (by simp), Option.bind_map]
        simp only [Function.comp_def, ih]
        cases members.filter field.isGivenBy with
        | nil => rfl
        | cons _ _ => simp [fillSlot?, readSole?]
    · rw [putNamed_cons_of_not slot others given, bind_map, toOption_bind, List.filter_cons_of_neg given,
        List.filter_cons_of_pos (by simp [given]), List.foldlM_cons, bind_assoc, toOption_bind]
      simp only [ih, Option.map_bind]
      -- The document gives the other fields' member before the rest of the first field's; which of
      -- them is read first does not matter to the value.
      exact Option.bind_comm _ _

theorem toOption_members_nil (members : List (Option String × Document)) :
    (members.foldlM (putNamed format path []) (emptySlots []) >>= closeSlots path []).toOption =
      readMembers? format [] members := by
  induction members with
  | nil => rfl
  | cons member members ih =>
    obtain ⟨name, document⟩ := member
    rw [List.foldlM_cons, bind_assoc, toOption_bind]
    cases name with
    | none => rfl
    | some key =>
      rw [putNamed_some, putMember, readMembers?, List.all_cons]
      cases document.isWellFormed with
      | false => rfl
      | true => exact ih

end Members

/-! ## The entries of a dictionary -/

/-- Inserts what a member is decoded to; a name that cannot be read is a problem. -/
def insertNamed (format : Format) (path : Path) (inner : Schema) (entries : List (String × inner.El))
    (member : Option String × Document) : Except Fault (List (String × inner.El)) :=
  match member.1 with
  | none => .error ⟨path, .malformed⟩
  | some key =>
    (inner.decode format (.member key :: path) member.2).map fun value => Entries.insert entries key value

def readNamed? (format : Format) (inner : Schema) (member : Option String × Document) :
    Option (String × inner.El) :=
  member.1.bind fun key => (inner.read? format member.2).map fun value => (key, value)

theorem toOption_entries {inner : Schema}
    (each : ∀ path document, (inner.decode format path document).toOption = inner.read? format document)
    (members : List (Option String × Document)) (entries : List (String × inner.El)) :
    (members.foldlM (insertNamed format path inner) entries).toOption =
      (members.mapM (readNamed? format inner)).map
        (List.foldl (fun done entry => Entries.insert done entry.1 entry.2) entries) := by
  induction members generalizing entries with
  | nil => rfl
  | cons member members ih =>
    obtain ⟨name, document⟩ := member
    rw [List.foldlM_cons, List.mapM_cons, toOption_bind]
    cases name with
    | none => rfl
    | some key =>
      simp only [insertNamed, readNamed?, toOption_map, each, ih]
      cases inner.read? format document with
      | none => rfl
      | some value => cases members.mapM (readNamed? format inner) <;> rfl

/-! ## Decoding and reading -/

theorem toOption_locate {α : Type} (path : Path) (outcome : Except Problem α) :
    (locate path outcome).toOption = outcome.toOption := by
  cases outcome <;> rfl

theorem toOption_readAnything (path : Path) (document : Document) :
    (readAnything path document).toOption = document.toJson? := by
  cases valued : document.toJson? with
  | none => 
    rw [readAnything, valued]
    cases document.firstWide? path <;> rfl
  | some value =>
    rw [readAnything, Document.firstWide?_eq_none path document (by rw [valued]; rfl), valued]
    rfl

theorem decode_choice {name : String} {carrier : Type} {options : List (String × carrier)} (document : Document) :
    decode format path (.choice name carrier options) document = (do
      let value ← locate path (readText format document)
      match options.find? (·.1 == value) with
      | some option => .ok option.2
      | none => .error ⟨path.drop 1, .unknownChoice name value (options.map (·.1))⟩) :=
  rfl

theorem decode_record_array {name : String} {fields : List Field} (items : List Document) :
    decode format path (.record name true fields) (.array items) =
      if format = .flow then .error ⟨path, .wrongType .sequence s!"struct {name}"⟩
      else decodePositions format path (elementsText name fields.length) items 0 fields :=
  rfl

theorem decode_either {name : String} {left right : Schema} (document : Document) :
    decode format path (.either name left right) document =
      match document.firstWide? path, document.toJson? with
      | some (place, value), _ => .error ⟨place, .wrongType (.wide value) "any value"⟩
      | none, none => .error ⟨path, .malformed⟩
      | none, some _ =>
        match decode .tree [] left document with
        | .ok value => .ok (.inl value)
        | .error _ =>
          match decode .tree [] right document with
          | .ok value => .ok (.inr value)
          | .error _ => .error ⟨path.drop 1, .noAlternative name⟩ :=
  rfl

theorem read?_either {name : String} {left right : Schema} (document : Document) :
    read? format (.either name left right) document =
      if document.toJson?.isSome then
        ((read? .tree left document).map .inl).or ((read? .tree right document).map .inr)
      else none :=
  rfl

theorem decodePositions_cons {expected : String} {items : List Document} {index : Nat} {field : Field}
    {rest : List Field} :
    decodePositions format path expected items index (field :: rest) =
      match items[index]? with
      | some item =>
        decodeField format (.item index :: path) field item >>= fun value =>
          (decodePositions format path expected items (index + 1) rest).map (FieldValues.cons value)
      | none =>
        match field.omitted? with
        | none => .error ⟨path, .wrongLength index expected⟩
        | some value =>
          (decodePositions format path expected items (index + 1) rest).map (FieldValues.cons value) :=
  rfl

mutual

/-- Decoding gives what a document is read as, wherever the document stands. -/
theorem toOption_decode (format : Format) (path : Path) :
    (schema : Schema) → (document : Document) →
      (schema.decode format path document).toOption = schema.read? format document
  | .text, document => toOption_locate path (readText format document)
  | .flag, document => by cases document <;> rfl
  | .natural bits, document => toOption_locate path (readNatural format bits document)
  | .integer, document => toOption_locate path (readInteger format document)
  | .real, document => toOption_locate path (readReal format document)
  | .anything, document => toOption_readAnything path document
  | .choice name _ options, document => by
    rw [decode_choice, toOption_bind, toOption_locate]
    refine congrArg _ (funext fun value => ?_)
    cases options.find? (·.1 == value) <;> rfl
  | .optional inner, document => by
    have inside := toOption_decode format path inner document
    cases document with
    | null => rfl
    | _ => exact (toOption_map _ some).trans (congrArg _ inside)
  | .sequence inner, document => by
    cases document with
    | array items =>
      have each : ∀ path document, (inner.decode format path document).toOption = inner.read? format document :=
        fun path document => toOption_decode format path inner document
      refine (toOption_mapM _ items.zipIdx).trans ?_
      simp only [each]
      exact List.mapM_map.symm.trans (congrArg (List.mapM (inner.read? format)) (List.zipIdx_map_fst 0 items))
    | _ => rfl
  | .dictionary inner, document => by
    cases document with
    | object members =>
      exact toOption_entries (fun path document => toOption_decode format path inner document) members []
    | _ => rfl
  | .record name positional fields, document => by
    cases document with
    | object members =>
      cases positional <;> exact toOption_decodeMembers format path fields members
    | array items =>
      cases positional with
      | false => rfl
      | true =>
        have positions := toOption_decodePositions format path (elementsText name fields.length) items fields 0
        rw [decode_record_array]
        by_cases flow : format = .flow
        · cases flow
          rfl
        · rw [if_neg flow]
          exact positions.trans (if_neg flow).symm
    | _ => cases positional <;> rfl
  | .either name left right, document => by
    rw [decode_either, read?_either, ← toOption_decode .tree [] left document,
      ← toOption_decode .tree [] right document]
    cases valued : document.toJson? with
    | none => cases document.firstWide? path <;> rfl
    | some value =>
      rw [Document.firstWide?_eq_none path document (by rw [valued]; rfl)]
      cases decode .tree [] left document with
      | ok _ => rfl
      | error _ => cases decode .tree [] right document <;> rfl

theorem toOption_decodeField (format : Format) (path : Path) :
    (field : Field) → (document : Document) →
      (decodeField format path field document).toOption = readField? format field document
  | .mk _ _ _ schema, document => toOption_decode format path schema document

theorem toOption_decodeMembers (format : Format) (path : Path) :
    (fields : List Field) → (members : List (Option String × Document)) →
      (members.foldlM (putNamed format path fields) (emptySlots fields) >>= closeSlots path fields).toOption =
        readMembers? format fields members
  | [], members => toOption_members_nil members
  | field :: rest, members => by
    rw [readMembers?, ← toOption_decodeMembers format path rest (members.filter fun member => !field.isGivenBy member)]
    exact toOption_members_cons (fun path document => toOption_decodeField format path field document) members none
      (emptySlots rest)

theorem toOption_decodePositions (format : Format) (path : Path) (expected : String) (items : List Document) :
    (fields : List Field) → (index : Nat) →
      (decodePositions format path expected items index fields).toOption =
        readPositions? format fields (items.drop index)
  | [], index => by
    rw [decodePositions, readPositions?]
    simp only [List.isEmpty_iff, List.drop_eq_nil_iff]
    split <;> rfl
  | field :: rest, index => by
    rw [decodePositions_cons, readPositions?, List.head?_drop, List.tail_drop,
      ← toOption_decodePositions format path expected items rest (index + 1)]
    cases items[index]? with
    | some item =>
      rw [Option.elim_some, ← toOption_decodeField format (.item index :: path) field item, toOption_bind]
      simp only [toOption_map]
    | none =>
      cases field.omitted? with
      | none => rfl
      | some value => exact toOption_map _ _

end

theorem decode_eq_ok {format : Format} {path : Path} {schema : Schema} {document : Document} {value : schema.El} :
    schema.decode format path document = .ok value ↔ schema.read? format document = some value := by
  rw [← toOption_decode format path, toOption_eq_some]

end Schema

end ClusterStack
