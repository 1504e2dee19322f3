import ClusterStack.Json.Printer
import ClusterStack.Template.Value

/-!
# Tags

The tags of a cluster's resources, in the order in which they are given.
-/

set_option autoImplicit false

namespace ClusterStack

/-- Tags with their values. -/
structure Tags where
  entries : List (String × Value)
  deriving Repr, Inhabited

namespace Tags

/-- The value of a tag: numbers and booleans become texts, anything else is kept. -/
def valueOfInput : Json → Value
  | .number number => .string number.text
  | .bool flag => .string (if flag then "true" else "false")
  | other => .ofInput other

def ofSpec (tags : List (String × Json)) : Tags :=
  ⟨tags.map fun (key, value) => (key, valueOfInput value)⟩

def isEmpty (tags : Tags) : Bool :=
  tags.entries.isEmpty

def toValue? (tags : Tags) : Option Value :=
  if tags.isEmpty then none
  else
    some (.list (tags.entries.map fun (key, value) =>
      .map [("Key", .string key), ("Value", value)]))

end Tags

end ClusterStack
