import ClusterStack.Json.Basic
import ClusterStack.Number.Real64

/-!
# Property values

The values of resource properties and outputs: literals, references to other resources, and
expressions that the caller supplies and that are never looked into.
-/

set_option autoImplicit false

namespace ClusterStack

/-- A value of a property or an output. -/
inductive Value where
  | string (text : String)
  | int (number : Int)
  | real (number : Binary64)
  | bool (flag : Bool)
  | list (items : List Value)
  | map (entries : List (String × Value))
  /-- A reference to a resource, or to a pseudo parameter such as `AWS::Region`. -/
  | ref (target : String)
  | attribute (target name : String)
  | join (delimiter : String) (parts : List Value)
  | select (index : Nat) (inner : Value)
  | zones (region : Value)
  | expression (raw : Json)
  deriving Repr, Inhabited

namespace Value

def region : Value :=
  .ref "AWS::Region"

def noValue : Value :=
  .ref "AWS::NoValue"

def strings (texts : List String) : Value :=
  .list (texts.map .string)

def ofNat (n : Nat) : Value :=
  .int n

/-- A floating-point number. JSON has none that is not finite, and has null in its place. -/
def ofReal64 : Real64 → Value
  | .finite number => .real number
  | .infinite _ => .expression .null
  | .nan => .expression .null

/-- A map of arbitrary entries: a repeated key keeps its first place and its last value. -/
def ofEntries (entries : List (String × Value)) : Value :=
  .map (Entries.ofList entries)

def present (entries : List (String × Option Value)) : Value :=
  .map (entries.filterMap fun entry => entry.2.map (entry.1, ·))

mutual

/-- A value of the description as a property value: scalars and arrays are literals, an object is
an expression, and so is null. -/
def ofInput : Json → Value
  | .string text => .string text
  | .bool flag => .bool flag
  | .number (.integer value) =>
    if Number.fitsSigned value then .int value
    else .real ((Binary64.ofInt? value).getD (Binary64.zero false))
  | .number (.real value) => .real value
  | .array items => .list (ofInputs items)
  | .null => .expression .null
  | .object members => .expression (.object members)

def ofInputs : List Json → List Value
  | [] => []
  | item :: rest => ofInput item :: ofInputs rest

end

def asString? : Value → Option String
  | .string text => some text
  | _ => none

def asList? : Value → Option (List Value)
  | .list items => some items
  | _ => none

def get? (value : Value) (key : String) : Option Value :=
  match value with
  | .map entries => Entries.get? entries key
  | _ => none

mutual

/-- The targets of references and attributes, in order of appearance. An expression has none. -/
def references : Value → List String
  | .ref target => [target]
  | .attribute target _ => [target]
  | .list items => itemReferences items
  | .join _ parts => itemReferences parts
  | .map entries => entryReferences entries
  | .select _ inner => references inner
  | .zones region => references region
  | .string _ | .int _ | .real _ | .bool _ | .expression _ => []

def itemReferences : List Value → List String
  | [] => []
  | item :: rest => references item ++ itemReferences rest

def entryReferences : List (String × Value) → List String
  | [] => []
  | (_, value) :: rest => references value ++ entryReferences rest

end

mutual

/-- The value in the template language, with the members of objects ordered by key. -/
def toJson : Value → Json
  | .string text => .string text
  | .int number => .number (.integer number)
  | .real number => .number (.real number)
  | .bool flag => .bool flag
  | .list items => .array (itemsToJson items)
  | .map entries => .object (Entries.sorted (entriesToJson entries))
  | .ref target => .object [("Ref", .string target)]
  | .attribute target name => .object [("Fn::GetAtt", .array [.string target, .string name])]
  | .join delimiter parts =>
    .object [("Fn::Join", .array [.string delimiter, .array (itemsToJson parts)])]
  | .select index inner => .object [("Fn::Select", .array [.ofNat index, toJson inner])]
  | .zones region => .object [("Fn::GetAZs", toJson region)]
  | .expression raw => raw

def itemsToJson : List Value → List Json
  | [] => []
  | item :: rest => toJson item :: itemsToJson rest

def entriesToJson : List (String × Value) → List (String × Json)
  | [] => []
  | (key, value) :: rest => (key, toJson value) :: entriesToJson rest

end

mutual

/-- The form in which values are compared: entries ordered by key, and both zeros made one. -/
def canonical : Value → Value
  | .real number => .real number.unsignedZero
  | .list items => .list (canonicalItems items)
  | .map entries => .map (Entries.sorted (canonicalEntries entries))
  | .join delimiter parts => .join delimiter (canonicalItems parts)
  | .select index inner => .select index (canonical inner)
  | .zones region => .zones (canonical region)
  | .expression raw => .expression raw.canonical
  | other => other

def canonicalItems : List Value → List Value
  | [] => []
  | item :: rest => canonical item :: canonicalItems rest

/-- The entries with their values in the form in which they are compared. -/
def canonicalEntries : List (String × Value) → List (String × Value)
  | [] => []
  | (key, value) :: rest => (key, canonical value) :: canonicalEntries rest

end

mutual

def beq : Value → Value → Bool
  | .string a, .string b => a == b
  | .int a, .int b => a == b
  | .real a, .real b => decide (a = b)
  | .bool a, .bool b => a == b
  | .list a, .list b => beqItems a b
  | .map a, .map b => beqEntries a b
  | .ref a, .ref b => a == b
  | .attribute a m, .attribute b n => a == b && m == n
  | .join d a, .join e b => d == e && beqItems a b
  | .select i a, .select j b => i == j && beq a b
  | .zones a, .zones b => beq a b
  | .expression a, .expression b => a == b
  | _, _ => false

def beqItems : List Value → List Value → Bool
  | [], [] => true
  | a :: as, b :: bs => beq a b && beqItems as bs
  | _, _ => false

def beqEntries : List (String × Value) → List (String × Value) → Bool
  | [], [] => true
  | (k, a) :: as, (l, b) :: bs => k == l && beq a b && beqEntries as bs
  | _, _ => false

end

instance : BEq Value := ⟨beq⟩

/-- Whether two values are equal: the order of entries does not matter, nor the sign of zero. -/
def same (a b : Value) : Bool :=
  a.canonical == b.canonical

end Value

end ClusterStack
