/-!
# Keyed entries

Lists of keys with values. Two ways of adding to them are in use: at the end, where a key that is
present keeps its place and takes the new value, and in the order of the keys.
-/

set_option autoImplicit false

namespace ClusterStack.Entries

variable {α : Type}

def get? (entries : List (String × α)) (key : String) : Option α :=
  (entries.find? (·.1 == key)).map (·.2)

def keys (entries : List (String × α)) : List String :=
  entries.map (·.1)

theorem not_mem_keys_of_get?_eq_none {entries : List (String × α)} {key : String}
    (missing : get? entries key = none) : key ∉ keys entries := by
  simp only [get?, Option.map_eq_none_iff, List.find?_eq_none] at missing
  simp only [keys, List.mem_map, not_exists, not_and]
  intro entry present same
  exact missing entry present (by simp [same])

/-- Adds an entry at the end, or replaces the value where the key is present. -/
def insert (entries : List (String × α)) (key : String) (value : α) : List (String × α) :=
  match entries with
  | [] => [(key, value)]
  | (first, old) :: rest =>
    if first = key then (first, value) :: rest else (first, old) :: insert rest key value

/-- The entries one after the other: a repeated key keeps its first place and its last value. -/
def ofList (entries : List (String × α)) : List (String × α) :=
  entries.foldl (fun done entry => insert done entry.1 entry.2) []

/-- Adds an entry to a list that is ordered by key, or replaces the value where the key is
present. Keys are ordered by code points, which is the order of their UTF-8 bytes. -/
def insertSorted (key : String) (value : α) : List (String × α) → List (String × α)
  | [] => [(key, value)]
  | (first, old) :: rest =>
    if key < first then (key, value) :: (first, old) :: rest
    else if key = first then (key, value) :: rest
    else (first, old) :: insertSorted key value rest

/-- The entries ordered by key, with the last value of a repeated key. -/
def sorted (entries : List (String × α)) : List (String × α) :=
  entries.foldl (fun done entry => insertSorted entry.1 entry.2 done) []

end ClusterStack.Entries
