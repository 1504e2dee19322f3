import ClusterStack.Proofs.Document.Reading
import Mathlib.Data.List.Nodup

/-!
# Respelled documents

Changes of a document that what is read from it does not depend on: the order of the members that
give the fields of a record, members beside them, and which of its names a field is given under. A
field that is given twice is not read at all.
-/

set_option autoImplicit false

namespace ClusterStack

namespace Field

def names : Field → List String
  | .mk name aliases _ _ => name :: aliases

def schema : Field → Schema
  | .mk _ _ _ schema => schema

theorem isGivenBy_iff {field : Field} {key : String} {document : Document} :
    field.isGivenBy (some key, document) ↔ key ∈ field.names := by
  obtain ⟨name, aliases, omission, schema⟩ := field
  simp [isGivenBy, answersTo, names]

end Field

namespace Document

/-- Arrays and objects. -/
def isContainer : Document → Bool
  | .array _ | .object _ => true
  | _ => false

/-- The value of a member that gives no field can be skipped. Where all of a place is read before
its fields are, there must be a value at all. -/
def isSkippable (buffered : Bool) (document : Document) : Bool :=
  if buffered then document.toJson?.isSome else document.isWellFormed

theorem isWellFormed_of_isSkippable {buffered : Bool} {document : Document}
    (skippable : document.isSkippable buffered) : document.isWellFormed := by
  cases buffered with
  | false => exact skippable
  | true => exact isWellFormed_of_isSome document skippable

end Document

namespace Schema

/-! ## Proper schemas -/

/-- A shape that neither an array nor an object has. -/
def isScalar : Schema → Bool
  | .text | .flag => true
  | _ => false

/-- No name answers to two of the fields. -/
def areDistinct (fields : List Field) : Bool :=
  (fields.flatMap Field.names).Nodup

mutual

/-- No two fields of a record share a name, and the first of two alternatives is a scalar. -/
def isProper : Schema → Bool
  | .optional inner => inner.isProper
  | .sequence inner => inner.isProper
  | .dictionary inner => inner.isProper
  | .record _ _ fields => areDistinct fields && areProper fields
  | .either _ left right => left.isScalar && right.isProper
  | _ => true

def areProper : List Field → Bool
  | [] => true
  | .mk _ _ _ schema :: rest => schema.isProper && areProper rest

end

theorem isProper_of_mem {fields : List Field} (proper : areProper fields) {field : Field} (member : field ∈ fields) :
    field.schema.isProper := by
  induction fields with
  | nil => cases member
  | cons first rest ih =>
    obtain ⟨name, aliases, omission, schema⟩ := first
    rw [areProper, Bool.and_eq_true] at proper
    cases member with
    | head => exact proper.1
    | tail _ member => exact ih proper.2 member

/-- What gives a field does not give another one. -/
theorem areDistinct_cons {first : Field} {rest : List Field} (distinct : areDistinct (first :: rest)) :
    areDistinct rest ∧ ∀ field ∈ rest, ∀ member, field.isGivenBy member → ¬ first.isGivenBy member := by
  rw [areDistinct, decide_eq_true_iff, List.flatMap_cons, List.nodup_append] at distinct
  refine ⟨decide_eq_true distinct.2.1, fun field member given named again => ?_⟩
  obtain ⟨name, document⟩ := given
  cases name with
  | none => cases named
  | some key =>
    have named := List.mem_flatMap.mpr ⟨field, member, Field.isGivenBy_iff.mp named⟩
    exact distinct.2.2 key (Field.isGivenBy_iff.mp again) key named rfl

variable {format : Format} {buffered : Bool} {schema : Schema} {document other : Document}

theorem read?_of_isScalar (scalar : schema.isScalar) (container : document.isContainer) :
    schema.read? format document = none := by
  cases document with
  | array _ | object _ =>
    cases schema with
    | text => cases format <;> rfl
    | flag => rfl
    | _ => cases scalar
  | _ => cases container

theorem read?_optional {inner : Schema} (container : document.isContainer) :
    (Schema.optional inner).read? format document = (inner.read? format document).map some := by
  cases document with
  | array _ | object _ => rfl
  | _ => cases container

/-! ## The members and the positions of a record -/

section Fields

variable {fields : List Field} {members others : List (Option String × Document)} {field : Field}

theorem readSole?_perm {α : Type} {absent? : Option α} {read? : Document → Option α}
    (permuted : members.Perm others) : readSole? absent? read? members = readSole? absent? read? others := by
  have length := permuted.length_eq
  match members, others with
  | [], [] => rfl
  | [member], [other] => rw [List.singleton_perm_singleton.mp permuted]
  | _ :: _ :: _, _ :: _ :: _ => rfl
  | [], _ :: _ | _ :: _, [] | [_], _ :: _ :: _ | _ :: _ :: _, [_] => simp at length

theorem readSole?_cons_eq_none {α : Type} {absent? : Option α} {read? : Document → Option α}
    {member : Option String × Document} (refused : read? member.2 = none) :
    readSole? absent? read? (member :: members) = none := by
  cases members with
  | nil => exact refused
  | cons _ _ => rfl

/-- The order of the members does not matter. -/
theorem readMembers?_perm (permuted : members.Perm others) :
    readMembers? format fields members = readMembers? format fields others := by
  induction fields generalizing members others with
  | nil => rw [readMembers?, readMembers?, permuted.all_eq]
  | cons field rest ih =>
    rw [readMembers?, readMembers?, readSole?_perm (permuted.filter _), ih (permuted.filter _)]

/-- A member that gives no field does not matter. -/
theorem readMembers?_unknown {key : String} (unknown : ∀ field ∈ fields, key ∉ field.names)
    (wellFormed : document.isWellFormed) :
    readMembers? format fields ((some key, document) :: members) = readMembers? format fields members := by
  induction fields generalizing members with
  | nil =>
    rw [readMembers?, readMembers?, List.all_cons, wellFormed]
    rfl
  | cons field rest ih =>
    have skipped : ¬ field.isGivenBy (some key, document) := fun given =>
      unknown field (.head _) (Field.isGivenBy_iff.mp given)
    rw [readMembers?, readMembers?, List.filter_cons_of_neg skipped, List.filter_cons_of_pos (by simp [skipped]),
      ih fun other member => unknown other (.tail _ member)]

/-- Of a member that gives a field, only what the field is read as matters. -/
theorem readMembers?_given {key alternate : String} (distinct : areDistinct fields) (member : field ∈ fields)
    (named : key ∈ field.names) (renamed : alternate ∈ field.names)
    (same : readField? format field document = readField? format field other) :
    readMembers? format fields ((some key, document) :: members) =
      readMembers? format fields ((some alternate, other) :: members) := by
  induction fields generalizing members with
  | nil => cases member
  | cons first rest ih =>
    obtain ⟨restDistinct, apart⟩ := areDistinct_cons distinct
    have given : field.isGivenBy (some key, document) := Field.isGivenBy_iff.mpr named
    have alsoGiven : field.isGivenBy (some alternate, other) := Field.isGivenBy_iff.mpr renamed
    rw [readMembers?, readMembers?]
    cases member with
    | head =>
      rw [List.filter_cons_of_pos given, List.filter_cons_of_pos alsoGiven,
        List.filter_cons_of_neg (by simp [given]), List.filter_cons_of_neg (by simp [alsoGiven])]
      have sole : ∀ more, readSole? field.absent? (readField? format field) ((some key, document) :: more) =
          readSole? field.absent? (readField? format field) ((some alternate, other) :: more) := by
        intro more
        cases more with
        | nil => exact same
        | cons _ _ => rfl
      rw [sole]
    | tail _ member =>
      have skipped := apart field member _ given
      have alsoSkipped := apart field member _ alsoGiven
      rw [List.filter_cons_of_neg skipped, List.filter_cons_of_neg alsoSkipped,
        List.filter_cons_of_pos (by simp [skipped]), List.filter_cons_of_pos (by simp [alsoSkipped]),
        ih restDistinct member]

theorem readMembers?_middle {key alternate : String} (before after : List (Option String × Document))
    (distinct : areDistinct fields) (member : field ∈ fields) (named : key ∈ field.names)
    (renamed : alternate ∈ field.names)
    (same : readField? format field document = readField? format field other) :
    readMembers? format fields (before ++ (some key, document) :: after) =
      readMembers? format fields (before ++ (some alternate, other) :: after) := by
  rw [readMembers?_perm List.perm_middle, readMembers?_given distinct member named renamed same]
  exact readMembers?_perm List.perm_middle.symm

/-- What the first field leaves to the others still gives each of them. -/
theorem filter_isGivenBy {first : Field} (distinct : areDistinct (first :: fields)) (member : field ∈ fields)
    (members : List (Option String × Document)) :
    (members.filter fun member => !first.isGivenBy member).filter field.isGivenBy =
      members.filter field.isGivenBy := by
  rw [List.filter_filter]
  refine List.filter_congr fun given _ => ?_
  rw [Bool.and_eq_left_iff_imp, Bool.not_eq_true']
  exact fun named => Bool.not_eq_true _ ▸ (areDistinct_cons distinct).2 field member given named

/-- A record is not read where one of its fields is not. -/
theorem readMembers?_eq_none (distinct : areDistinct fields) (member : field ∈ fields)
    (refused : readSole? field.absent? (readField? format field) (members.filter field.isGivenBy) = none) :
    readMembers? format fields members = none := by
  induction fields generalizing members with
  | nil => cases member
  | cons first rest ih =>
    rw [readMembers?]
    cases member with
    | head => rw [refused]; rfl
    | tail _ member =>
      rw [ih (areDistinct_cons distinct).1 member (filter_isGivenBy distinct member members ▸ refused)]
      exact Option.bind_fun_none _

theorem readField?_eq (same : field.schema.read? format document = field.schema.read? format other) :
    readField? format field document = readField? format field other := by
  cases field
  exact same

theorem readField?_eq_none (refused : field.schema.read? format document = none) :
    readField? format field document = none := by
  cases field
  exact refused

theorem readPositions?_eq {before after : List Document} (place : fields[before.length]? = some field)
    (same : readField? format field document = readField? format field other) :
    readPositions? format fields (before ++ document :: after) =
      readPositions? format fields (before ++ other :: after) := by
  induction fields generalizing before with
  | nil => cases place
  | cons first rest ih =>
    rw [readPositions?, readPositions?]
    cases before with
    | nil =>
      cases place
      simp only [List.nil_append, List.head?_cons, Option.elim_some, same, List.tail_cons]
    | cons item before => simp only [List.cons_append, List.head?_cons, List.tail_cons, ih place]

theorem readPositions?_eq_none {before after : List Document} (place : fields[before.length]? = some field)
    (refused : readField? format field document = none) :
    readPositions? format fields (before ++ document :: after) = none := by
  induction fields generalizing before with
  | nil => cases place
  | cons first rest ih =>
    rw [readPositions?]
    cases before with
    | nil =>
      cases place
      simp only [List.nil_append, List.head?_cons, Option.elim_some, refused, Option.bind_none]
    | cons item before =>
      simp only [List.cons_append, List.tail_cons, ih place, Option.map_none, Option.bind_fun_none]

end Fields

theorem mapM_eq_of_eq {α β : Type} {f : α → Option β} {item other : α} {before after : List α}
    (same : f item = f other) : (before ++ item :: after).mapM f = (before ++ other :: after).mapM f := by
  rw [List.mapM_append, List.mapM_append, List.mapM_cons, List.mapM_cons, same]

theorem mapM_eq_none_of_eq_none {α β : Type} {f : α → Option β} {item : α} {before after : List α}
    (refused : f item = none) : (before ++ item :: after).mapM f = none := by
  rw [List.mapM_append, List.mapM_cons, refused]
  exact Option.bind_fun_none _

theorem readNamed?_eq {inner : Schema} {key : Option String}
    (same : inner.read? format document = inner.read? format other) :
    readNamed? format inner (key, document) = readNamed? format inner (key, other) := by
  rw [readNamed?, readNamed?, same]

theorem readNamed?_eq_none {inner : Schema} {key : Option String} (refused : inner.read? format document = none) :
    readNamed? format inner (key, document) = none := by
  rw [readNamed?, refused]
  exact Option.bind_fun_none _

/-! ## Changes within a document -/

/-- How the members of an object may change that give these fields; an object may be buffered. -/
abbrev Change := Bool → List Field → List (Option String × Document) → List (Option String × Document) → Prop

/-- A change of the members of one object that the schema takes for a record, at any depth. All
that is read as one of two alternatives is buffered. -/
inductive Within (change : Change) : Bool → Schema → Document → Document → Prop where
  | here {buffered name positional fields members others} :
      change buffered fields members others →
      Within change buffered (.record name positional fields) (.object members) (.object others)
  | member {buffered name positional fields field key document other before after} :
      field ∈ fields → key ∈ field.names → Within change buffered field.schema document other →
      Within change buffered (.record name positional fields)
        (.object (before ++ (some key, document) :: after)) (.object (before ++ (some key, other) :: after))
  | position {buffered name fields field document other before after} :
      fields[before.length]? = some field → Within change buffered field.schema document other →
      Within change buffered (.record name true fields)
        (.array (before ++ document :: after)) (.array (before ++ other :: after))
  | optional {buffered inner document other} :
      Within change buffered inner document other → Within change buffered (.optional inner) document other
  | item {buffered inner document other before after} :
      Within change buffered inner document other →
      Within change buffered (.sequence inner)
        (.array (before ++ document :: after)) (.array (before ++ other :: after))
  | entry {buffered inner key document other before after} :
      Within change buffered inner document other →
      Within change buffered (.dictionary inner)
        (.object (before ++ (key, document) :: after)) (.object (before ++ (key, other) :: after))
  | alternative {buffered name left right document other} :
      Within change true right document other →
      Within change buffered (.either name left right) document other

/-- A change of spelling: the members in another order, a field under another of its names, or one
more member that gives no field. -/
inductive Respells : Change where
  | permuted {buffered fields members others} :
      members.Perm others → Respells buffered fields members others
  | renamed {buffered fields field key alternate document before after} :
      field ∈ fields → key ∈ field.names → alternate ∈ field.names →
      Respells buffered fields (before ++ (some key, document) :: after) (before ++ (some alternate, document) :: after)
  | extended {buffered fields key document before after} :
      (∀ field ∈ fields, key ∉ field.names) → document.isSkippable buffered →
      Respells buffered fields (before ++ after) (before ++ (some key, document) :: after)

/-- One more member for a field that is given already, under any of its names. -/
inductive Repeats : Change where
  | given {buffered fields field key again document other before after} :
      field ∈ fields → key ∈ field.names → again ∈ field.names → (some key, document) ∈ before ++ after →
      Repeats buffered fields (before ++ after) (before ++ (some again, other) :: after)

section Changes

variable {fields : List Field} {members others : List (Option String × Document)}

theorem Respells.readMembers?_eq (respells : Respells buffered fields members others) (distinct : areDistinct fields)
    (format : Format) : readMembers? format fields members = readMembers? format fields others := by
  cases respells with
  | permuted permuted => exact readMembers?_perm permuted
  | renamed member named renamed => exact readMembers?_middle _ _ distinct member named renamed rfl
  | @extended _ _ key document before after unknown skippable =>
    rw [readMembers?_perm (List.perm_middle (a := (some key, document))),
      readMembers?_unknown unknown (Document.isWellFormed_of_isSkippable skippable)]

theorem Repeats.readMembers?_eq_none (repeats : Repeats buffered fields members others)
    (distinct : areDistinct fields) (format : Format) : readMembers? format fields others = none := by
  cases repeats with
  | @given _ _ field _ _ _ _ before after member named renamed present =>
    rw [readMembers?_perm List.perm_middle]
    refine Schema.readMembers?_eq_none distinct member ?_
    rw [List.filter_cons_of_pos (Field.isGivenBy_iff.mpr renamed)]
    have kept := List.mem_filter.mpr ⟨present, Field.isGivenBy_iff.mpr named⟩
    cases remaining : (before ++ after).filter field.isGivenBy with
    | nil => rw [remaining] at kept; cases kept
    | cons _ _ => rfl

theorem Respells.all_eq (respells : Respells true fields members others) :
    (members.all fun member => member.1.isSome && member.2.toJson?.isSome) =
      others.all fun member => member.1.isSome && member.2.toJson?.isSome := by
  cases respells with
  | permuted permuted => exact permuted.all_eq
  | renamed _ _ _ => simp only [List.all_append, List.all_cons, Option.isSome_some]
  | extended _ skippable =>
    have valued : Option.isSome _ = true := skippable
    simp only [List.all_append, List.all_cons, Option.isSome_some, valued, Bool.true_and]

end Changes

theorem Within.isContainer {change : Change} (changed : Within change buffered schema document other) :
    document.isContainer ∧ other.isContainer := by
  induction changed with
  | here _ | member _ _ _ _ | position _ _ _ | item _ _ | entry _ _ => exact ⟨rfl, rfl⟩
  | optional _ ih | alternative _ ih => exact ih

/-- A respelled document that is buffered has a value if the document has one. -/
theorem Within.isSome_toJson?_eq (respelled : Within Respells buffered schema document other) (whole : buffered) :
    document.toJson?.isSome = other.toJson?.isSome := by
  induction respelled with
  | here respells =>
    cases whole
    simp only [Document.toJson?, Option.isSome_map, Document.isSome_membersToJson?, respells.all_eq]
  | member _ _ _ ih | entry _ ih =>
    simp only [Document.toJson?, Option.isSome_map, Document.isSome_membersToJson?, List.all_append, List.all_cons,
      ih whole]
  | position _ _ ih | item _ ih =>
    simp only [Document.toJson?, Option.isSome_map, Document.isSome_itemsToJson?, List.all_append, List.all_cons,
      ih whole]
  | optional _ ih => exact ih whole
  | alternative _ ih => exact ih rfl

/-- A respelled document is read as the same value. -/
theorem Within.read?_eq (respelled : Within Respells buffered schema document other) (proper : schema.isProper)
    (format : Format) : schema.read? format document = schema.read? format other := by
  induction respelled generalizing format with
  | @here _ _ positional _ _ _ respells =>
    rw [isProper, Bool.and_eq_true] at proper
    have same := respells.readMembers?_eq proper.1 format
    cases positional <;> exact same
  | @member _ _ positional _ _ _ _ _ before after member named _ ih =>
    rw [isProper, Bool.and_eq_true] at proper
    have inner := readField?_eq (ih (isProper_of_mem proper.2 member) format)
    have same := readMembers?_middle before after proper.1 member named named inner
    cases positional <;> exact same
  | position place _ ih =>
    rw [isProper, Bool.and_eq_true] at proper
    have inner := readField?_eq (ih (isProper_of_mem proper.2 (List.mem_of_getElem? place)) format)
    exact congrArg (if format = .flow then none else ·) (readPositions?_eq place inner)
  | optional inside ih =>
    rw [read?_optional inside.isContainer.1, read?_optional inside.isContainer.2, ih proper]
  | item _ ih => exact mapM_eq_of_eq (ih proper format)
  | entry _ ih => exact congrArg (Option.map Entries.ofList) (mapM_eq_of_eq (readNamed?_eq (ih proper format)))
  | alternative inside ih =>
    rw [isProper, Bool.and_eq_true] at proper
    rw [read?_either, read?_either, inside.isSome_toJson?_eq rfl, read?_of_isScalar proper.1 inside.isContainer.1,
      read?_of_isScalar proper.1 inside.isContainer.2, ih proper.2]

/-- A document that gives a field twice is not read. -/
theorem Within.read?_eq_none (repeated : Within Repeats buffered schema document other) (proper : schema.isProper)
    (format : Format) : schema.read? format other = none := by
  induction repeated generalizing format with
  | @here _ _ positional _ _ _ repeats =>
    rw [isProper, Bool.and_eq_true] at proper
    have refused := repeats.readMembers?_eq_none proper.1 format
    cases positional <;> exact refused
  | @member _ _ positional fields field key _ other before after member named _ ih =>
    rw [isProper, Bool.and_eq_true] at proper
    have inner := readField?_eq_none (ih (isProper_of_mem proper.2 member) format)
    have refused : readMembers? format fields (before ++ (some key, other) :: after) = none := by
      rw [readMembers?_perm List.perm_middle]
      refine readMembers?_eq_none proper.1 member ?_
      rw [List.filter_cons_of_pos (Field.isGivenBy_iff.mpr named)]
      exact readSole?_cons_eq_none inner
    cases positional <;> exact refused
  | position place _ ih =>
    rw [isProper, Bool.and_eq_true] at proper
    have inner := readField?_eq_none (ih (isProper_of_mem proper.2 (List.mem_of_getElem? place)) format)
    exact (congrArg (if format = .flow then none else ·) (readPositions?_eq_none place inner)).trans (ite_self _)
  | optional inside ih =>
    rw [read?_optional inside.isContainer.2, ih proper]
    rfl
  | item _ ih => exact mapM_eq_none_of_eq_none (ih proper format)
  | entry _ ih =>
    exact congrArg (Option.map Entries.ofList) (mapM_eq_none_of_eq_none (readNamed?_eq_none (ih proper format)))
  | alternative inside ih =>
    rw [isProper, Bool.and_eq_true] at proper
    rw [read?_either, read?_of_isScalar proper.1 inside.isContainer.2, ih proper.2]
    exact ite_self _

end Schema

end ClusterStack
