import ClusterStack.CommandLine.FileTree
import ClusterStack.Proofs.Outcome
import Mathlib.Data.String.Basic

/-!
# Laws of file trees

A file tree is a map from places to texts: what is put at a place is found there, and everything else stays
as it was. A path without a slash is a single name.
-/

set_option autoImplicit false

namespace ClusterStack.FileTree

variable {tree changed : FileTree} {place other : Place} {path content : String}

theorem file?_put (kept : place ≠ .nullDevice) :
    (tree.put place content).file? other = if other = place then some content else tree.file? other := by
  rw [put, if_neg kept, file?, file?]
  split
  case isTrue null =>
    rw [if_neg]
    intro same
    exact kept (same.symm.trans null)
  case isFalse =>
    rw [List.find?_append]
    split
    case isTrue same =>
      have absent : (tree.files.filter (·.1 != place)).find? (·.1 == other) = none := by
        rw [List.find?_eq_none]
        intro entry member found
        have differs := (List.mem_filter.mp member).2
        rw [beq_iff_eq.mp found, same] at differs
        simp at differs
      rw [absent, same]
      simp
    case isFalse differs =>
      have last : [(place, content)].find? (·.1 == other) = none := by
        simp [Ne.symm differs]
      rw [last, Option.or_none, List.find?_filter]
      congr 2
      funext entry
      by_cases wanted : entry.1 = other
      · simp [wanted, differs]
      · simp [wanted]

theorem write_eq_ok : tree.write path content = .ok changed ↔
    ∃ place, tree.placeFor path = .ok place ∧ tree.put place content = changed :=
  map_eq_ok

/-- The search for slashes goes on from any position behind which there is none to the end of the text. -/
private theorem splitOnAux_of_not_mem (front rest : List Char) (absent : '/' ∉ rest) :
    String.splitOnAux (.ofList (front ++ rest)) "/" 0 ⟨String.utf8Len front⟩ 0 [] =
      [.ofList (front ++ rest)] := by
  induction rest generalizing front with
  | nil =>
    have whole := String.extract_of_valid [] front []
    simp only [String.utf8Len_nil, List.nil_append, Nat.zero_add, List.append_nil] at whole
    have ended : String.Pos.Raw.atEnd (.ofList (front ++ [])) ⟨String.utf8Len front⟩ = true := by
      simpa only [iff_true] using String.atEnd_of_valid front []
    rw [String.splitOnAux, if_pos ended, List.append_nil]
    exact congrArg (fun text => [text]) whole
  | cons c rest ih =>
    rw [List.mem_cons, not_or] at absent
    have more : ¬String.Pos.Raw.atEnd (.ofList (front ++ c :: rest)) ⟨String.utf8Len front⟩ = true :=
      fun ended => List.cons_ne_nil c rest ((String.atEnd_of_valid front (c :: rest)).mp ended)
    have here : String.Pos.Raw.get (.ofList (front ++ c :: rest)) ⟨String.utf8Len front⟩ = c :=
      String.get_of_valid front (c :: rest)
    have next := String.next_of_valid front c rest
    rw [String.splitOnAux, if_neg more, if_neg]
    · have further := ih (front ++ [c]) absent.2
      rw [List.append_assoc, String.utf8Len_append, String.utf8Len_cons, String.utf8Len_nil,
        Nat.zero_add] at further
      have back : (String.Pos.Raw.mk (String.utf8Len front)).unoffsetBy 0 = ⟨String.utf8Len front⟩ := rfl
      rw [back, next]
      exact further
    · rw [here, beq_iff_eq]
      exact Ne.symm absent.1

theorem namesOf_of_not_mem (absent : '/' ∉ path.toList) (short : path.utf8ByteSize ≤ maxPathSize) :
    namesOf path = .ok [path] := by
  have names := splitOnAux_of_not_mem [] path.toList absent
  rw [List.nil_append, String.ofList_toList] at names
  rw [namesOf, if_neg (Nat.not_lt.mpr short), String.splitOn, if_neg (by decide)]
  exact congrArg Except.ok names

end ClusterStack.FileTree
