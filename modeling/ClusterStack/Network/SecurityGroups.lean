import ClusterStack.Template.Value

/-!
# Security groups of an existing network

They are given as a list, as a single group, as a text to be split, or as an expression that only
the deployment resolves.
-/

set_option autoImplicit false

namespace ClusterStack

/-- The security groups of an existing network. -/
inductive SecurityGroups where
  | list (groups : List Value)
  /-- An expression that resolves to a list on deployment. -/
  | expression (raw : Json)
  /-- The pieces of a literal text between the occurrences of a delimiter. -/
  | split (delimiter source : String)
  deriving Repr

namespace SecurityGroups

def splitArguments? (members : List (String × Json)) : Option (String × String) :=
  match Entries.get? members "Fn::Split" with
  | some (.array [.string delimiter, .string source]) => some (delimiter, source)
  | _ => none

def ofInput : Json → SecurityGroups
  | .array items => .list (Value.ofInputs items)
  | .string group => .list [.string group]
  | .object members =>
    match splitArguments? members with
    | some (delimiter, source) => .split delimiter source
    | none => .expression (.object members)
  | other => .expression other

/-- The pieces of a text between the occurrences of a non-empty delimiter, where `skip` characters of
an occurrence are still to be passed and `piece` holds the current piece back to front. -/
def piecesFrom (delimiter : List Char) (skip : Nat) (piece : List Char) :
    List Char → List (List Char)
  | [] => [piece.reverse]
  | c :: rest =>
    match skip with
    | more + 1 => piecesFrom delimiter more piece rest
    | 0 =>
      if delimiter.isPrefixOf (c :: rest) then
        piece.reverse :: piecesFrom delimiter (delimiter.length - 1) [] rest
      else
        piecesFrom delimiter 0 (c :: piece) rest

/-- The pieces of a text between the occurrences of a delimiter. The empty delimiter occurs before
and after every character. -/
def pieces (delimiter source : String) : List String :=
  if delimiter.isEmpty then
    "" :: source.toList.map String.singleton ++ [""]
  else
    (piecesFrom delimiter.toList 0 [] source.toList).map String.ofList

def toList? : SecurityGroups → Option (List Value)
  | .list groups => some groups
  | .split delimiter source => some ((pieces delimiter source).map .string)
  | .expression _ => none

def toValue (groups : SecurityGroups) : Value :=
  match groups with
  | .expression raw => .expression raw
  | groups => .list (groups.toList?.getD [])

end SecurityGroups

end ClusterStack
