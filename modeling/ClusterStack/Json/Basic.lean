import ClusterStack.Entries
import ClusterStack.Number.Numeral

/-!
# JSON trees

A JSON tree keeps the members of an object as a list. `Json.sorted` orders the members of every
object by key and keeps the last of repeated members; it is the form in which trees are compared.
-/

set_option autoImplicit false

namespace ClusterStack

/-- A JSON value. -/
inductive Json where
  | null
  | bool (value : Bool)
  | number (value : Number)
  | string (value : String)
  | array (items : List Json)
  | object (members : List (String × Json))
  deriving Repr, Inhabited

namespace Json

def ofNat (n : Nat) : Json :=
  .number (.integer n)

def asString? : Json → Option String
  | .string value => some value
  | _ => none

def get? (json : Json) (key : String) : Option Json :=
  match json with
  | .object members => Entries.get? members key
  | _ => none

mutual

/-- The tree with the members of every object ordered by key. -/
def sorted : Json → Json
  | .null => .null
  | .bool value => .bool value
  | .number value => .number value
  | .string value => .string value
  | .array items => .array (sortedItems items)
  | .object members => .object (Entries.sorted (sortedMembers members))

/-- Every item with the members of its objects ordered by key. -/
def sortedItems : List Json → List Json
  | [] => []
  | item :: rest => sorted item :: sortedItems rest

/-- Every member with the members of its objects ordered by key, the members themselves in place. -/
def sortedMembers : List (String × Json) → List (String × Json)
  | [] => []
  | (key, value) :: rest => (key, sorted value) :: sortedMembers rest

end

mutual

def beq : Json → Json → Bool
  | .null, .null => true
  | .bool a, .bool b => a == b
  | .number a, .number b => decide (a = b)
  | .string a, .string b => a == b
  | .array a, .array b => beqItems a b
  | .object a, .object b => beqMembers a b
  | _, _ => false

def beqItems : List Json → List Json → Bool
  | [], [] => true
  | a :: as, b :: bs => beq a b && beqItems as bs
  | _, _ => false

def beqMembers : List (String × Json) → List (String × Json) → Bool
  | [], [] => true
  | (k, a) :: as, (l, b) :: bs => k == l && beq a b && beqMembers as bs
  | _, _ => false

end

instance : BEq Json := ⟨beq⟩

mutual

/-- The tree with both zeros of floating-point numbers made one and members ordered by key. -/
def canonical : Json → Json
  | .number (.real value) => .number (.real value.unsignedZero)
  | .array items => .array (canonicalItems items)
  | .object members => .object (Entries.sorted (canonicalMembers members))
  | other => other

def canonicalItems : List Json → List Json
  | [] => []
  | item :: rest => canonical item :: canonicalItems rest

def canonicalMembers : List (String × Json) → List (String × Json)
  | [] => []
  | (key, value) :: rest => (key, canonical value) :: canonicalMembers rest

end

end Json

end ClusterStack
