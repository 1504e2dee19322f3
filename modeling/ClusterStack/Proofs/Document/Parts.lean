import ClusterStack.Proofs.Document.Respelling

/-!
# Parts of documents

Where in a document the value of a field stands, and what the parts of some shapes are read as.
-/

set_option autoImplicit false

namespace ClusterStack

namespace Document

/-- The part of a document that a field is read from, which has one name and a place among the
fields. -/
def part? (name : String) (index : Nat) : Document → Option Document
  | .object members => (members.find? (·.1 == some name)).map (·.2)
  | .array items => items[index]?
  | _ => none

/-- The members of an object in their own order; a repeated name keeps its first place and its last
value. -/
def entries? : Document → Option (List (String × Json))
  | .object members => (membersToJson? members).map Entries.ofList
  | _ => none

/-- The members of a part that may be left out. -/
def entriesAt? (name : String) (index : Nat) (document : Document) : Option (List (String × Json)) :=
  (document.part? name index).elim (some []) entries?

/-- The items of a part that may be left out. -/
def itemsAt (name : String) (index : Nat) (document : Document) : List Document :=
  match document.part? name index with
  | some (.array items) => items
  | _ => []

end Document

namespace Field

variable {name : String} {aliases : List String} {omission : Omission} {schema : Schema} {value : schema.El}

theorem isGivenBy_eq (name : String) (omission : Omission) (schema : Schema) :
    (Field.mk name [] omission schema).isGivenBy = fun member => member.1 == some name := by
  funext member
  obtain ⟨key, document⟩ := member
  cases key with
  | none => rfl
  | some key => simp [isGivenBy, answersTo]

theorem blank?_of_absent? (absent : (Field.mk name aliases omission schema).absent? = some value) :
    schema.blank? = some value := by
  cases omission with
  | never => cases absent
  | inObject | always => exact absent

theorem blank?_of_omitted? (omitted : (Field.mk name aliases omission schema).omitted? = some value) :
    schema.blank? = some value := by
  cases omission with
  | never | inObject => cases omitted
  | always => exact omitted

end Field

namespace Schema

/-- A value among those of a record, its field, and the place of the field. -/
inductive HasPart : {fields : List Field} → FieldValues fields → (field : Field) → Nat → field.El → Prop where
  | head {field rest} {values : FieldValues (field :: rest)} : HasPart values field 0 values.1
  | tail {first rest field index value} {values : FieldValues (first :: rest)} :
      HasPart (values.2 : FieldValues rest) field index value → HasPart values field (index + 1) value

variable {format : Format} {fields : List Field} {values : FieldValues fields} {field : Field} {index : Nat}
  {value : field.El}

theorem HasPart.mem (part : HasPart values field index value) : field ∈ fields := by
  induction part with
  | head => exact .head _
  | tail _ ih => exact .tail _ ih

theorem bind_cons_eq_some {first : Field} {rest : List Field} {read? : Option first.El}
    {others? : Option (FieldValues rest)} {values : FieldValues (first :: rest)}
    (read : (read?.bind fun value => others?.map (FieldValues.cons value)) = some values) :
    read? = some values.1 ∧ others? = some values.2 := by
  obtain ⟨value, first, read⟩ := Option.bind_eq_some_iff.mp read
  obtain ⟨others, more, rfl⟩ := Option.map_eq_some_iff.mp read
  exact ⟨first, more⟩

theorem readSole?_of_hasPart (part : HasPart values field index value) (distinct : areDistinct fields)
    {members : List (Option String × Document)} (read : readMembers? format fields members = some values) :
    readSole? field.absent? (readField? format field) (members.filter field.isGivenBy) = some value := by
  induction part generalizing members with
  | head =>
    rw [readMembers?] at read
    exact (bind_cons_eq_some read).1
  | tail part ih =>
    rw [readMembers?] at read
    rw [← filter_isGivenBy distinct part.mem]
    exact ih (areDistinct_cons distinct).1 (bind_cons_eq_some read).2

theorem readItem?_of_hasPart (part : HasPart values field index value) {items : List Document}
    (read : readPositions? format fields items = some values) :
    items[index]?.elim field.omitted? (readField? format field) = some value := by
  induction part generalizing items with
  | head =>
    rw [readPositions?] at read
    rw [← List.head?_eq_getElem?]
    exact (bind_cons_eq_some read).1
  | tail part ih =>
    rw [readPositions?] at read
    rw [← List.getElem?_tail]
    exact ih (bind_cons_eq_some read).2

theorem readSole?_eq_elim {schema : Schema} {name : String} {omission : Omission} {value : schema.El}
    {members : List (Option String × Document)}
    (read : readSole? (Field.mk name [] omission schema).absent? (schema.read? format)
      (members.filter (Field.mk name [] omission schema).isGivenBy) = some value) :
    ((Document.object members).part? name index).elim schema.blank? (schema.read? format) = some value := by
  rw [Document.part?, ← List.head?_filter, ← Field.isGivenBy_eq name omission schema]
  cases given : members.filter (Field.mk name [] omission schema).isGivenBy with
  | nil =>
    rw [given] at read
    exact Field.blank?_of_absent? read
  | cons member more =>
    rw [given] at read
    cases more with
    | nil => exact read
    | cons _ _ => cases read

/-- The value of a field is read from its part of the document, or is blank where there is none. -/
theorem elim_part? {record name : String} {positional : Bool} {omission : Omission} {schema : Schema}
    {document : Document} {value : schema.El} (distinct : areDistinct fields)
    (read : (Schema.record record positional fields).read? format document = some values)
    (part : HasPart values (.mk name [] omission schema) index value) :
    (document.part? name index).elim schema.blank? (schema.read? format) = some value := by
  cases document with
  | object members =>
    have read : readMembers? format fields members = some values := by cases positional <;> exact read
    exact readSole?_eq_elim (readSole?_of_hasPart part distinct read)
  | array items =>
    cases positional with
    | false => cases read
    | true =>
      have item := readItem?_of_hasPart part ((Option.ite_none_left_eq_some.mp read).2)
      rw [Document.part?]
      cases given : items[index]? with
      | none =>
        rw [given] at item
        exact Field.blank?_of_omitted? item
      | some _ =>
        rw [given] at item
        exact item
  | _ => cases positional <;> cases read

theorem mapM_readNamed? (format : Format) (members : List (Option String × Document)) :
    members.mapM (readNamed? format .anything) = Document.membersToJson? members := by
  induction members with
  | nil => rfl
  | cons member rest ih =>
    obtain ⟨name, document⟩ := member
    rw [List.mapM_cons, ih, Document.membersToJson?]
    cases name with
    | none => rfl
    | some key =>
      have value : readNamed? format .anything (some key, document) = document.toJson?.map (key, ·) := rfl
      rw [value]
      cases document.toJson? <;> rfl

/-- The values of a dictionary stay in the order of the document. -/
theorem entriesAt?_eq_some {name : String} {document : Document} {entries : List (String × Json)}
    (read : (document.part? name index).elim (Schema.dictionary .anything).blank?
      ((Schema.dictionary .anything).read? format) = some entries) :
    document.entriesAt? name index = some entries := by
  rw [Document.entriesAt?]
  cases part : document.part? name index with
  | none => rw [part] at read; exact read
  | some inner =>
    rw [part] at read
    cases inner with
    | object members =>
      rw [Option.elim_some, Document.entries?, ← mapM_readNamed? format]
      exact read
    | _ => cases read

/-- What each item is read as also says what a part of it is read as. -/
theorem mapM_eq_some_map {α β γ : Type} {f : α → Option β} {g : α → Option γ} {part : β → γ} {items : List α}
    {values : List β} (each : ∀ item value, f item = some value → g item = some (part value))
    (read : items.mapM f = some values) : items.mapM g = some (values.map part) := by
  induction items generalizing values with
  | nil =>
    cases read
    rfl
  | cons item rest ih =>
    rw [List.mapM_cons] at read ⊢
    obtain ⟨value, first, read⟩ := Option.bind_eq_some_iff.mp read
    obtain ⟨others, more, read⟩ := Option.bind_eq_some_iff.mp read
    cases read
    rw [each item value first, ih more]
    rfl

theorem mapM_itemsAt_eq_some {name : String} {document : Document} {inner : Schema} {values : List inner.El}
    (read : (document.part? name index).elim (Schema.sequence inner).blank?
      ((Schema.sequence inner).read? format) = some values) :
    (document.itemsAt name index).mapM (inner.read? format) = some values := by
  rw [Document.itemsAt]
  cases part : document.part? name index with
  | none => rw [part] at read; exact read
  | some inner =>
    rw [part] at read
    cases inner with
    | array items => exact read
    | _ => cases read

end Schema

end ClusterStack
