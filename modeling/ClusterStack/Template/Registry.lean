import ClusterStack.Entries

/-!
# Registries

A registry holds values under distinct keys, in the order in which they were registered. Nothing in
it is ever replaced.
-/

set_option autoImplicit false

namespace ClusterStack

/-- Values under distinct keys. -/
structure Registry (α : Type) where
  entries : List (String × α)
  distinct : (Entries.keys entries).Nodup

namespace Registry

variable {α : Type}

def empty : Registry α :=
  ⟨[], List.nodup_nil⟩

instance : Inhabited (Registry α) := ⟨empty⟩

def keys (registry : Registry α) : List String :=
  Entries.keys registry.entries

def size (registry : Registry α) : Nat :=
  registry.entries.length

def get? (registry : Registry α) (key : String) : Option α :=
  Entries.get? registry.entries key

def add (registry : Registry α) (key : String) (value : α) (free : key ∉ registry.keys) :
    Registry α where
  entries := registry.entries ++ [(key, value)]
  distinct := by
    have apart : (registry.keys ++ [key]).Nodup := by
      rw [List.nodup_append]
      refine ⟨registry.distinct, by simp, ?_⟩
      intro other present last equal
      simp only [List.mem_singleton] at equal
      rintro rfl
      exact free (equal ▸ present)
    simpa [keys, Entries.keys] using apart

/-- Whether two registries hold equal values under the same keys, in whatever order. -/
def same (equal : α → α → Bool) (a b : Registry α) : Bool :=
  a.size == b.size && a.entries.all fun entry =>
    match b.get? entry.1 with
    | some other => equal entry.2 other
    | none => false

end Registry

end ClusterStack
