import ClusterStack.Proofs.Document.Parts
import ClusterStack.Proofs.Entries
import ClusterStack.Proofs.Json.Order

/-!
# Ordered documents

Whatever order a document gives its members in, the trees that are read from it have theirs in the order of
the keys. So has every tree that is part of what a schema reads.
-/

set_option autoImplicit false

namespace ClusterStack

namespace Document

mutual

theorem isOrdered_of_toJson? : ∀ {document : Document} {tree : Json}, document.toJson? = some tree →
    tree.IsOrdered
  | .null, _, rfl => .null
  | .bool value, _, rfl => .bool value
  | .number value _, _, rfl => .number value
  | .string value, _, rfl => .string value
  | .array items, _, read => by
    rw [toJson?, Option.map_eq_some_iff] at read
    obtain ⟨trees, each, rfl⟩ := read
    exact .array (isOrdered_of_itemsToJson? items each)
  | .object members, _, read => by
    rw [toJson?, Option.map_eq_some_iff] at read
    obtain ⟨entries, each, rfl⟩ := read
    refine .object (Entries.pairwise_sorted entries) fun entry member => ?_
    exact isOrdered_of_membersToJson? members each entry (Entries.mem_of_mem_sorted member)

private theorem isOrdered_of_itemsToJson? : ∀ (items : List Document) {trees : List Json},
    itemsToJson? items = some trees → ∀ tree ∈ trees, tree.IsOrdered
  | [], _, rfl => by simp
  | item :: rest, trees, read => by
    simp only [itemsToJson?, Option.bind_eq_bind, Option.bind_eq_some_iff, Option.pure_def,
      Option.some.injEq] at read
    obtain ⟨first, readFirst, others, readOthers, rfl⟩ := read
    exact List.forall_mem_cons.mpr
      ⟨isOrdered_of_toJson? readFirst, isOrdered_of_itemsToJson? rest readOthers⟩

private theorem isOrdered_of_membersToJson? : ∀ (members : List (Option String × Document))
    {entries : List (String × Json)}, membersToJson? members = some entries →
      ∀ entry ∈ entries, entry.2.IsOrdered
  | [], _, rfl => by simp
  | (name, value) :: rest, entries, read => by
    simp only [membersToJson?, Option.bind_eq_bind, Option.bind_eq_some_iff, Option.pure_def,
      Option.some.injEq] at read
    obtain ⟨key, -, first, readFirst, others, readOthers, rfl⟩ := read
    exact List.forall_mem_cons.mpr
      ⟨isOrdered_of_toJson? readFirst, isOrdered_of_membersToJson? rest readOthers⟩

end

end Document

namespace Schema

theorem forall_of_mapM_eq_some {α β : Type} {f : α → Option β} {items : List α} {results : List β}
    {holds : β → Prop} (each : ∀ item ∈ items, ∀ result, f item = some result → holds result)
    (read : items.mapM f = some results) : ∀ result ∈ results, holds result := by
  induction items generalizing results with
  | nil =>
    cases read
    simp
  | cons item rest ih =>
    simp only [List.mapM_cons, Option.bind_eq_bind, Option.bind_eq_some_iff, Option.pure_def,
      Option.some.injEq] at read
    obtain ⟨first, readFirst, others, readOthers, rfl⟩ := read
    obtain ⟨ofItem, ofRest⟩ := List.forall_mem_cons.mp each
    exact List.forall_mem_cons.mpr ⟨ofItem first readFirst, ih ofRest readOthers⟩

mutual

/-- Every tree in what was read is ordered. -/
def IsOrdered : (schema : Schema) → schema.El → Prop
  | .anything, tree => Json.IsOrdered tree
  | .optional inner, value => ∀ content, value = some content → IsOrdered inner content
  | .sequence inner, values => List.Forall (IsOrdered inner) values
  | .dictionary inner, entries => List.Forall (fun entry => IsOrdered inner entry.2) entries
  | .record _ _ fields, values => FieldsAreOrdered fields values
  | .either _ left _, .inl value => IsOrdered left value
  | .either _ _ right, .inr value => IsOrdered right value
  | .text, _ | .flag, _ | .natural _, _ | .integer, _ | .real, _ | .choice _ _ _, _ => True

def FieldsAreOrdered : (fields : List Field) → FieldValues fields → Prop
  | [], _ => True
  | .mk _ _ _ schema :: rest, values => IsOrdered schema values.1 ∧ FieldsAreOrdered rest values.2

end

theorem blankFields?_cons {name : String} {aliases : List String} {omission : Omission} {schema : Schema}
    {rest : List Field} {values : FieldValues (.mk name aliases omission schema :: rest)}
    (blank : blankFields? (.mk name aliases omission schema :: rest) = some values) :
    schema.blank? = some values.1 ∧ blankFields? rest = some values.2 := by
  rw [blankFields?] at blank
  cases first : schema.blank? with
  | none =>
    rw [first] at blank
    cases blank
  | some value =>
    cases others : blankFields? rest with
    | none =>
      rw [first, others] at blank
      cases blank
    | some more =>
      rw [first, others] at blank
      cases blank
      exact ⟨rfl, rfl⟩

mutual

theorem isOrdered_of_blank? : (schema : Schema) → {value : schema.El} → schema.blank? = some value →
    schema.IsOrdered value
  | .anything, _, rfl => .null
  | .optional _, _, rfl => by simp [IsOrdered]
  | .sequence _, _, rfl => trivial
  | .dictionary _, _, rfl => trivial
  | .record _ _ fields, _, blank => fieldsAreOrdered_of_blankFields? fields blank
  | .either _ _ _, _, blank => nomatch blank
  | .text, _, _ | .flag, _, _ | .natural _, _, _ | .integer, _, _ | .real, _, _ | .choice _ _ _, _, _ => trivial

theorem fieldsAreOrdered_of_blankFields? : (fields : List Field) → {values : FieldValues fields} →
    blankFields? fields = some values → FieldsAreOrdered fields values
  | [], _, _ => trivial
  | .mk _ _ _ schema :: rest, values, blank => by
    obtain ⟨first, others⟩ := blankFields?_cons blank
    exact ⟨isOrdered_of_blank? schema first, fieldsAreOrdered_of_blankFields? rest others⟩

end

/-- Whether a field is left out or given, it is read as something of which this holds. -/
theorem forall_of_readSole? {α : Type} {absent? : Option α} {read? : Document → Option α} {holds : α → Prop}
    (absent : ∀ value, absent? = some value → holds value)
    (given : ∀ document value, read? document = some value → holds value)
    {members : List (Option String × Document)} {value : α}
    (read : readSole? absent? read? members = some value) : holds value := by
  match members, read with
  | [], read => exact absent value read
  | [member], read => exact given member.2 value read

mutual

theorem isOrdered_of_read? : (schema : Schema) → {format : Format} → {document : Document} →
    {value : schema.El} → schema.read? format document = some value → schema.IsOrdered value
  | .anything, _, _, _, read => Document.isOrdered_of_toJson? read
  | .optional inner, format, document, value, read => by
    cases document with
    | null =>
      cases read
      exact isOrdered_of_blank? (.optional inner) rfl
    | _ =>
      obtain ⟨content, within, rfl⟩ := Option.map_eq_some_iff.mp read
      intro other same
      cases same
      exact isOrdered_of_read? inner within
  | .sequence inner, format, document, values, read => by
    cases document with
    | array items =>
      exact List.forall_iff_forall_mem.mpr
        (forall_of_mapM_eq_some (fun _ _ _ given => isOrdered_of_read? inner given) read)
    | _ => cases read
  | .dictionary inner, format, document, entries, read => by
    cases document with
    | object members =>
      obtain ⟨given, each, rfl⟩ := Option.map_eq_some_iff.mp read
      have ordered : ∀ entry ∈ given, inner.IsOrdered entry.2 := by
        refine forall_of_mapM_eq_some (fun named _ entry named => ?_) each
        obtain ⟨key, -, valued⟩ := Option.bind_eq_some_iff.mp named
        obtain ⟨value, within, rfl⟩ := Option.map_eq_some_iff.mp valued
        exact isOrdered_of_read? inner within
      exact List.forall_iff_forall_mem.mpr fun entry member =>
        ordered entry (Entries.ofList_subset given member)
    | _ => cases read
  | .record _ positional fields, format, document, values, read => by
    cases document with
    | object members =>
      have read : readMembers? format fields members = some values := by cases positional <;> exact read
      exact fieldsAreOrdered_of_readMembers? fields read
    | array items =>
      cases positional with
      | false => cases read
      | true => exact fieldsAreOrdered_of_readPositions? fields (Option.ite_none_left_eq_some.mp read).2
    | _ => cases positional <;> cases read
  | .either _ left right, format, document, value, read => by
    rw [read?_either] at read
    obtain ⟨-, read⟩ := Option.ite_none_right_eq_some.mp read
    rcases Option.or_eq_some_iff.mp read with ofLeft | ⟨-, ofRight⟩
    · obtain ⟨value, within, rfl⟩ := Option.map_eq_some_iff.mp ofLeft
      exact isOrdered_of_read? left within
    · obtain ⟨value, within, rfl⟩ := Option.map_eq_some_iff.mp ofRight
      exact isOrdered_of_read? right within
  | .text, _, _, _, _ | .flag, _, _, _, _ | .natural _, _, _, _, _ | .integer, _, _, _, _
  | .real, _, _, _, _ | .choice _ _ _, _, _, _, _ => trivial

theorem fieldsAreOrdered_of_readMembers? : (fields : List Field) → {format : Format} →
    {members : List (Option String × Document)} → {values : FieldValues fields} →
      readMembers? format fields members = some values → FieldsAreOrdered fields values
  | [], _, _, _, _ => trivial
  | .mk _ _ _ schema :: rest, format, members, values, read => by
    rw [readMembers?] at read
    obtain ⟨first, others⟩ := bind_cons_eq_some read
    refine ⟨?_, fieldsAreOrdered_of_readMembers? rest others⟩
    exact forall_of_readSole? (fun _ absent => isOrdered_of_blank? schema (Field.blank?_of_absent? absent))
      (fun _ _ given => isOrdered_of_read? schema given) first

theorem fieldsAreOrdered_of_readPositions? : (fields : List Field) → {format : Format} →
    {items : List Document} → {values : FieldValues fields} →
      readPositions? format fields items = some values → FieldsAreOrdered fields values
  | [], _, _, _, _ => trivial
  | .mk _ _ _ schema :: rest, format, items, values, read => by
    rw [readPositions?] at read
    obtain ⟨first, others⟩ := bind_cons_eq_some read
    refine ⟨?_, fieldsAreOrdered_of_readPositions? rest others⟩
    cases items with
    | nil => exact isOrdered_of_blank? schema (Field.blank?_of_omitted? first)
    | cons item _ => exact isOrdered_of_read? schema first

end

end Schema

end ClusterStack
