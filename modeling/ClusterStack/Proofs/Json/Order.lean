import ClusterStack.Json.Basic
import ClusterStack.Proofs.Entries
import Mathlib.Data.List.Forall2
import Mathlib.Data.String.Basic

/-!
# The order of members

Entries with distinct keys are put into the order of their keys without loss, and in that order they stay as
they are. So it is with the objects of a tree.
-/

set_option autoImplicit false

namespace ClusterStack

namespace Entries

variable {α : Type} {entries : List (String × α)} {key : String} {value : α}

theorem mem_keys_insertSorted {other : String} :
    other ∈ keys (insertSorted key value entries) ↔ other = key ∨ other ∈ keys entries := by
  induction entries with
  | nil => simp [insertSorted]
  | cons entry rest ih =>
    rw [insertSorted]
    split
    · simp
    · split
      case isTrue same => simp [same]
      case isFalse => simp [ih, or_left_comm]

theorem mem_of_mem_insertSorted {entry : String × α} (member : entry ∈ insertSorted key value entries) :
    entry = (key, value) ∨ entry ∈ entries := by
  induction entries with
  | nil => exact .inl (List.mem_singleton.mp member)
  | cons first rest ih =>
    rw [insertSorted] at member
    split at member
    · exact List.mem_cons.mp member
    · split at member
      · exact (List.mem_cons.mp member).imp_right fun later => .tail _ later
      · rcases List.mem_cons.mp member with rfl | later
        · exact .inr (.head _)
        · exact (ih later).imp_right fun later => .tail _ later

theorem insertSorted_perm (absent : key ∉ keys entries) :
    (insertSorted key value entries).Perm ((key, value) :: entries) := by
  induction entries with
  | nil => exact .refl _
  | cons entry rest ih =>
    rw [keys_cons, List.mem_cons, not_or] at absent
    rw [insertSorted]
    split
    · exact .refl _
    · rw [if_neg absent.1]
      exact ((ih absent.2).cons entry).trans (.swap _ _ rest)

/-- An insertion keeps the keys in strict order: a key that is there is not entered again. -/
theorem pairwise_insertSorted (increasing : (keys entries).Pairwise (· < ·)) :
    (keys (insertSorted key value entries)).Pairwise (· < ·) := by
  induction entries with
  | nil => simp [insertSorted]
  | cons entry rest ih =>
    obtain ⟨first, old⟩ := entry
    rw [keys_cons, List.pairwise_cons] at increasing
    rw [insertSorted]
    split
    case isTrue before =>
      rw [keys_cons, keys_cons, List.pairwise_cons, List.pairwise_cons]
      refine ⟨?_, increasing⟩
      intro other member
      rcases List.mem_cons.mp member with rfl | later
      · exact before
      · exact before.trans (increasing.1 other later)
    case isFalse notBefore =>
      split
      case isTrue same =>
        rw [keys_cons, List.pairwise_cons, same]
        exact increasing
      case isFalse differs =>
        rw [keys_cons, List.pairwise_cons]
        refine ⟨?_, ih increasing.2⟩
        intro other member
        rcases mem_keys_insertSorted.mp member with rfl | later
        · exact lt_of_le_of_ne (not_lt.mp notBefore) (Ne.symm differs)
        · exact increasing.1 other later

theorem pairwise_sorted (entries : List (String × α)) : (keys (sorted entries)).Pairwise (· < ·) := by
  have each : ∀ rest done : List (String × α), (keys done).Pairwise (· < ·) →
      (keys (rest.foldl (fun done entry => insertSorted entry.1 entry.2 done) done)).Pairwise (· < ·) := by
    intro rest
    induction rest with
    | nil => exact fun _ increasing => increasing
    | cons entry rest ih => exact fun done increasing => ih _ (pairwise_insertSorted increasing)
  exact each entries [] .nil

theorem mem_of_mem_sorted {entry : String × α} (member : entry ∈ sorted entries) : entry ∈ entries := by
  have each : ∀ rest done : List (String × α),
      entry ∈ rest.foldl (fun done entry => insertSorted entry.1 entry.2 done) done →
        entry ∈ rest ∨ entry ∈ done := by
    intro rest
    induction rest with
    | nil => exact fun _ member => .inr member
    | cons first rest ih =>
      intro done member
      rcases ih _ member with later | inserted
      · exact .inl (.tail _ later)
      · rcases mem_of_mem_insertSorted inserted with rfl | before
        · exact .inl (.head _)
        · exact .inr before
  simpa using each entries [] member

theorem sorted_perm (distinct : (keys entries).Nodup) : (sorted entries).Perm entries := by
  have each : ∀ rest done : List (String × α), (keys (rest ++ done)).Nodup →
      (rest.foldl (fun done entry => insertSorted entry.1 entry.2 done) done).Perm (rest ++ done) := by
    intro rest
    induction rest with
    | nil => exact fun done _ => .refl done
    | cons entry rest ih =>
      intro done distinct
      rw [List.cons_append, keys_cons, List.nodup_cons] at distinct
      have absent : entry.1 ∉ keys done := fun member =>
        distinct.1 (by rw [keys_append]; exact List.mem_append_right _ member)
      have inserted : (insertSorted entry.1 entry.2 done).Perm (entry :: done) := insertSorted_perm absent
      have moved : (rest ++ insertSorted entry.1 entry.2 done).Perm (entry :: (rest ++ done)) :=
        (inserted.append_left rest).trans List.perm_middle
      have stillDistinct : (keys (rest ++ insertSorted entry.1 entry.2 done)).Nodup :=
        (moved.map Prod.fst).nodup_iff.mpr (List.nodup_cons.mpr distinct)
      exact (ih _ stillDistinct).trans moved
  simpa [sorted] using each entries [] (by simpa using distinct)

theorem nodup_of_pairwise (increasing : (keys entries).Pairwise (· < ·)) : (keys entries).Nodup :=
  increasing.imp fun before => before.ne

theorem sorted_eq_self (increasing : (keys entries).Pairwise (· < ·)) : sorted entries = entries := by
  refine (sorted_perm (nodup_of_pairwise increasing)).eq_of_pairwise ?_
    (List.pairwise_map.mp (pairwise_sorted entries)) (List.pairwise_map.mp increasing)
  intro left right _ _ before after
  exact absurd after before.asymm

end Entries

namespace Json

/-- The keys of every object in the tree are as described. -/
inductive EveryObject (keysAre : List String → Prop) : Json → Prop where
  | null : EveryObject keysAre .null
  | bool (value : Bool) : EveryObject keysAre (.bool value)
  | number (value : Number) : EveryObject keysAre (.number value)
  | string (value : String) : EveryObject keysAre (.string value)
  | array {items : List Json} (each : ∀ item ∈ items, EveryObject keysAre item) :
      EveryObject keysAre (.array items)
  | object {members : List (String × Json)} (keys : keysAre (Entries.keys members))
      (each : ∀ member ∈ members, EveryObject keysAre member.2) : EveryObject keysAre (.object members)

/-- No object repeats a key. -/
def HasDistinctKeys (tree : Json) : Prop :=
  tree.EveryObject List.Nodup

/-- Every object has its members in the order of their keys, each key once. -/
def IsOrdered (tree : Json) : Prop :=
  tree.EveryObject (List.Pairwise (· < ·))

/-- Two trees differ in nothing but the order of the members of objects. -/
inductive Reordered : Json → Json → Prop where
  | null : Reordered .null .null
  | bool (value : Bool) : Reordered (.bool value) (.bool value)
  | number (value : Number) : Reordered (.number value) (.number value)
  | string (value : String) : Reordered (.string value) (.string value)
  | array {items others : List Json} (each : List.Forall₂ Reordered items others) :
      Reordered (.array items) (.array others)
  | object {members moved others : List (String × Json)} (keys : Entries.keys members = Entries.keys moved)
      (each : List.Forall₂ Reordered (members.map (·.2)) (moved.map (·.2))) (permuted : moved.Perm others) :
      Reordered (.object members) (.object others)

variable {tree : Json}

theorem EveryObject.mono {keysAre more : List String → Prop} (every : tree.EveryObject keysAre)
    (weaker : ∀ keys, keysAre keys → more keys) : tree.EveryObject more := by
  induction every with
  | null => exact .null
  | bool value => exact .bool value
  | number value => exact .number value
  | string value => exact .string value
  | array _ ih => exact .array ih
  | object keys _ ih => exact .object (weaker _ keys) ih

theorem IsOrdered.hasDistinctKeys (ordered : tree.IsOrdered) : tree.HasDistinctKeys :=
  ordered.mono fun _ increasing => increasing.imp fun before => before.ne

theorem sortedItems_eq (items : List Json) : sortedItems items = items.map sorted := by
  induction items with
  | nil => rfl
  | cons item rest ih => rw [sortedItems, ih, List.map_cons]

theorem sortedMembers_eq (members : List (String × Json)) :
    sortedMembers members = members.map fun member => (member.1, member.2.sorted) := by
  induction members with
  | nil => rfl
  | cons member rest ih => rw [sortedMembers, ih, List.map_cons]

@[simp] theorem keys_sortedMembers (members : List (String × Json)) :
    Entries.keys (sortedMembers members) = Entries.keys members := by
  rw [sortedMembers_eq, Entries.keys, List.map_map]
  rfl

/-- What has no key twice loses nothing when it is put in order. -/
theorem reordered_sorted (distinct : tree.HasDistinctKeys) : Reordered tree tree.sorted := by
  induction distinct with
  | null => exact .null
  | bool value => exact .bool value
  | number value => exact .number value
  | string value => exact .string value
  | array _ ih =>
    rw [sorted, sortedItems_eq]
    exact .array (List.forall₂_map_right_iff.mpr (List.forall₂_same.mpr ih))
  | @object members keys _ ih =>
    have moved : (sortedMembers members).Perm (Entries.sorted (sortedMembers members)) :=
      (Entries.sorted_perm (by simpa using keys)).symm
    refine .object (keys_sortedMembers members).symm ?_ moved
    rw [sortedMembers_eq, List.map_map, List.forall₂_map_right_iff, List.forall₂_map_left_iff]
    exact List.forall₂_same.mpr ih

theorem sorted_eq_self (ordered : tree.IsOrdered) : tree.sorted = tree := by
  induction ordered with
  | null => rfl
  | bool value => rfl
  | number value => rfl
  | string value => rfl
  | array _ ih =>
    rw [sorted, sortedItems_eq, List.map_congr_left ih, List.map_id']
  | @object members keys _ ih =>
    have same : sortedMembers members = members := by
      rw [sortedMembers_eq]
      refine (List.map_congr_left fun member within => ?_).trans (List.map_id members)
      rw [ih member within, id]
    rw [sorted, same, Entries.sorted_eq_self keys]

theorem get?_sortedMembers (members : List (String × Json)) (key : String) :
    Entries.get? (sortedMembers members) key = (Entries.get? members key).map sorted := by
  induction members with
  | nil => rfl
  | cons member rest ih =>
    rw [sortedMembers, Entries.get?_cons, Entries.get?_cons, ih]
    split <;> rfl

end Json

end ClusterStack
