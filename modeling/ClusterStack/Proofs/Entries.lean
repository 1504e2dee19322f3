import ClusterStack.Template.Resource
import ClusterStack.Template.Registry
import Mathlib.Data.List.Nodup

/-!
# Keys and values

What looking a key up says about the entries, for lists of entries, for the properties of a resource
and for registries.
-/

set_option autoImplicit false

namespace ClusterStack

variable {α β : Type}

namespace Entries

@[simp] theorem keys_nil : keys ([] : List (String × α)) = [] := rfl

@[simp] theorem keys_cons (entry : String × α) (rest : List (String × α)) :
    keys (entry :: rest) = entry.1 :: keys rest := rfl

@[simp] theorem keys_append (front back : List (String × α)) :
    keys (front ++ back) = keys front ++ keys back :=
  List.map_append

theorem mem_keys {entries : List (String × α)} {key : String} :
    key ∈ keys entries ↔ ∃ value, (key, value) ∈ entries := by
  simp [keys]

theorem mem_keys_of_mem {entries : List (String × α)} {key : String} {value : α}
    (member : (key, value) ∈ entries) : key ∈ keys entries :=
  mem_keys.mpr ⟨value, member⟩

theorem mem_of_get?_eq_some {entries : List (String × α)} {key : String} {value : α}
    (found : get? entries key = some value) : (key, value) ∈ entries := by
  simp only [get?, Option.map_eq_some_iff] at found
  obtain ⟨⟨other, value⟩, found, rfl⟩ := found
  obtain rfl : other = key := by simpa using List.find?_some found
  exact List.mem_of_find?_eq_some found

theorem get?_eq_none {entries : List (String × α)} {key : String} :
    get? entries key = none ↔ key ∉ keys entries := by
  refine ⟨not_mem_keys_of_get?_eq_none, fun absent => ?_⟩
  cases found : get? entries key with
  | none => rfl
  | some value => exact absurd (mem_keys_of_mem (mem_of_get?_eq_some found)) absent

theorem eq_of_mem_of_mem {entries : List (String × α)} (distinct : (keys entries).Nodup)
    {key : String} {left right : α} (first : (key, left) ∈ entries) (second : (key, right) ∈ entries) :
    left = right :=
  congrArg Prod.snd (List.inj_on_of_nodup_map distinct first second rfl)

theorem get?_eq_some {entries : List (String × α)} (distinct : (keys entries).Nodup)
    {key : String} {value : α} : get? entries key = some value ↔ (key, value) ∈ entries := by
  refine ⟨mem_of_get?_eq_some, fun member => ?_⟩
  cases found : get? entries key with
  | none => exact absurd (mem_keys_of_mem member) (get?_eq_none.mp found)
  | some other => rw [eq_of_mem_of_mem distinct (mem_of_get?_eq_some found) member]

/-- The order of the entries does not matter where no key is repeated. -/
theorem get?_eq_of_perm {entries other : List (String × α)} (distinct : (keys entries).Nodup)
    (stored : other.Perm entries) (key : String) : get? other key = get? entries key := by
  have alsoDistinct : (keys other).Nodup := (stored.map _).nodup_iff.mpr distinct
  ext value
  rw [get?_eq_some alsoDistinct, get?_eq_some distinct, stored.mem_iff]

theorem get?_cons (entry : String × α) (rest : List (String × α)) (key : String) :
    get? (entry :: rest) key = if entry.1 = key then some entry.2 else get? rest key := by
  by_cases same : entry.1 = key
  · simp [get?, same]
  · simp [get?, same]

/-- Leaving out the entries without a value changes the value of no key. -/
theorem get?_filterMap {entries : List (String × Option α)} (distinct : (keys entries).Nodup)
    (key : String) : get? (entries.filterMap fun entry => entry.2.map (entry.1, ·)) key =
      (get? entries key).join := by
  induction entries with
  | nil => rfl
  | cons entry rest ih =>
    obtain ⟨first, value⟩ := entry
    rw [keys_cons, List.nodup_cons] at distinct
    have rest := ih distinct.2
    cases value with
    | some value =>
      simp only [List.filterMap_cons, Option.map_some, get?_cons, rest]
      split <;> rfl
    | none =>
      simp only [List.filterMap_cons, Option.map_none, get?_cons, rest]
      split
      case isTrue same =>
        rw [get?_eq_none.mpr (same ▸ distinct.1)]
        rfl
      case isFalse => rfl

/-- An insertion changes the value of one key. -/
theorem get?_insert (entries : List (String × α)) (key other : String) (value : α) :
    get? (insert entries key value) other = if other = key then some value else get? entries other := by
  induction entries with
  | nil => simp [insert, get?_cons, eq_comm, show get? ([] : List (String × α)) other = none from rfl]
  | cons entry rest ih =>
    obtain ⟨first, old⟩ := entry
    by_cases same : first = key
    · simp only [insert, same, if_true, get?_cons]
      by_cases wanted : other = key
      · simp [wanted]
      · simp [wanted, Ne.symm wanted]
    · simp only [insert, same, if_false, get?_cons, ih]
      by_cases wanted : first = other
      · simp [wanted, show other ≠ key from wanted ▸ same]
      · simp [wanted]

/-- An insertion adds its key at the end, unless it is there. -/
theorem keys_insert (entries : List (String × α)) (key : String) (value : α) :
    keys (insert entries key value) =
      if key ∈ keys entries then keys entries else keys entries ++ [key] := by
  induction entries with
  | nil => simp [insert]
  | cons entry rest ih =>
    obtain ⟨first, old⟩ := entry
    by_cases same : first = key
    · simp [insert, same]
    · simp only [insert, same, if_false, keys_cons, ih, List.mem_cons, Ne.symm same, false_or]
      split <;> simp

theorem nodup_keys_insert {entries : List (String × α)} (distinct : (keys entries).Nodup)
    (key : String) (value : α) : (keys (insert entries key value)).Nodup := by
  rw [keys_insert]
  split
  · exact distinct
  · rename_i absent
    exact List.nodup_append.mpr ⟨distinct, by simp, fun other member last new same =>
      absent (List.mem_singleton.mp new ▸ same ▸ member)⟩

theorem mem_insert {entries : List (String × α)} {key : String} {value : α} {entry : String × α}
    (member : entry ∈ insert entries key value) : entry = (key, value) ∨ entry ∈ entries := by
  induction entries with
  | nil => exact .inl (List.mem_singleton.mp member)
  | cons first rest ih =>
    rw [insert] at member
    split at member
    case isTrue same =>
      rcases List.mem_cons.mp member with rfl | kept
      · exact .inl (by rw [same])
      · exact .inr (.tail _ kept)
    case isFalse =>
      rcases List.mem_cons.mp member with rfl | later
      · exact .inr (.head _)
      · exact (ih later).imp_right (.tail _)

theorem subset_of_insert_all (entries done : List (String × α)) :
    entries.foldl (fun done entry => insert done entry.1 entry.2) done ⊆ entries ++ done := by
  induction entries generalizing done with
  | nil => exact List.Subset.refl done
  | cons first rest ih =>
    intro entry member
    rcases List.mem_append.mp (ih _ member) with listed | inserted
    · exact List.mem_append_left _ (.tail _ listed)
    · rcases mem_insert inserted with rfl | kept
      · exact .head _
      · exact List.mem_append_right _ kept

theorem ofList_subset (entries : List (String × α)) : ofList entries ⊆ entries := by
  simpa only [ofList, List.append_nil] using subset_of_insert_all entries []

end Entries

theorem Resource.property?_make {kind : ResourceKind} {properties : List (String × Option Value)}
    {dependsOn : List String} (distinct : (Entries.keys properties).Nodup) (key : String) :
    (make kind properties dependsOn).property? key = (Entries.get? properties key).join :=
  Entries.get?_filterMap distinct key

theorem Value.get?_present {entries : List (String × Option Value)} (distinct : (Entries.keys entries).Nodup)
    (key : String) : (present entries).get? key = (Entries.get? entries key).join :=
  Entries.get?_filterMap distinct key

namespace Registry

@[simp] theorem entries_empty : (empty : Registry α).entries = [] := rfl

@[simp] theorem entries_add (registry : Registry α) (key : String) (value : α)
    (free : key ∉ registry.keys) :
    (registry.add key value free).entries = registry.entries ++ [(key, value)] := rfl

theorem eq_of_entries_eq {a b : Registry α} (same : a.entries = b.entries) : a = b := by
  cases a
  cases b
  cases same
  rfl

theorem mem_keys {registry : Registry α} {key : String} :
    key ∈ registry.keys ↔ ∃ value, (key, value) ∈ registry.entries :=
  Entries.mem_keys

theorem get?_eq_none {registry : Registry α} {key : String} :
    registry.get? key = none ↔ key ∉ registry.keys :=
  Entries.get?_eq_none

theorem get?_eq_some {registry : Registry α} {key : String} {value : α} :
    registry.get? key = some value ↔ (key, value) ∈ registry.entries :=
  Entries.get?_eq_some registry.distinct

end Registry

end ClusterStack
