import ClusterStack.Document.Basic
import ClusterStack.Document.Token

/-!
# Reading documents

The tokens of a text build a tree on a stack of the containers that are still open. Where a token
does not fit, a malformed place ends the innermost container and the tree is closed there.
-/

set_option autoImplicit false

namespace ClusterStack

/-- Where a document comes from. The three agree on well-shaped documents; they differ in what they
tell about others and in how scalars are understood. -/
inductive Format where
  | json
  /-- A JSON tree that has been read before. -/
  | tree
  /-- A JSON text that is read as YAML, which it is as well. -/
  | flow
  deriving DecidableEq, Repr

namespace Document

/-- Containers nest at most this deep in a value that is used. -/
def maxDepth : Format → Nat
  | .json | .tree => 127
  | .flow => 128

/-- A container that is still open, its content held back to front. -/
inductive Frame where
  | array (items : List Document)
  | object (members : List (Option String × Document))
  /-- An object in which the value of a member is being read. -/
  | member (members : List (Option String × Document)) (name : Option String)
  deriving Repr

/-- What may come next. -/
inductive Expecting where
  | value
  | firstItem
  | firstName
  | name
  | colon (name : Option String)
  | separator
  deriving Repr

/-- A tree under construction, or a finished one and whether more text follows it. -/
inductive Building where
  | inside (frames : List Frame) (next : Expecting)
  | finished (root : Document) (followed : Bool)
  | broken (root : Document)
  deriving Repr

/-- The value of a number. A YAML number is the nearest floating-point number where it is no
integer of up to 128 bits, and a text where it is beyond all of them. -/
def ofNumeral (format : Format) (n : Numeral) (spelling : String) : Document :=
  match format with
  | .flow =>
    if n.isIntegral && Number.fits n.integer then
      .number (.integer n.integer) spelling
    else if n.isIntegral && Number.fitsWide n.integer then
      .wide n.integer
    else match n.nearest? with
      | some value => .number (.real value) spelling
      | none => .string spelling
  | _ =>
    match n.value? with
    | some value => .number value spelling
    | none => .unusable

namespace Building

def close (inner : Document) : List Frame → Document
  | [] => inner
  | .array items :: rest => close (.array (inner :: items).reverse) rest
  | .object members :: rest => close (.object members.reverse) rest
  | .member members name :: rest => close (.object ((name, inner) :: members).reverse) rest

/-- The text breaks off where a value, a name or a separator is expected. -/
def breakOff (frames : List Frame) (next : Expecting) : Building :=
  match next, frames with
  | .colon name, .object members :: rest =>
    .broken (close (.object ((name, .malformed) :: members).reverse) rest)
  | _, .object members :: rest =>
    .broken (close (.object ((none, .malformed) :: members).reverse) rest)
  | _, frames => .broken (close .malformed frames)

def plug (value : Document) (frames : List Frame) : Building :=
  match frames with
  | [] => .finished value false
  | .array items :: rest => .inside (.array (value :: items) :: rest) .separator
  | .object members :: rest => .inside (.object members :: rest) .separator
  | .member members name :: rest => .inside (.object ((name, value) :: members) :: rest) .separator

/-- A container inside these open ones is not nested too deep. -/
def isShallow (format : Format) (frames : List Frame) : Bool :=
  (frames.drop (maxDepth format - 1)).isEmpty

/-- A container is complete; one that is nested too deep has no value. -/
def plugContainer (format : Format) (value : Document) (frames : List Frame) : Building :=
  plug (if isShallow format frames then value else .unusable) frames

def acceptValue (format : Format) (frames : List Frame) (next : Expecting) :
    Token → Building
  | .null => plug .null frames
  | .bool value => plug (.bool value) frames
  | .number value spelling => plug (ofNumeral format value spelling) frames
  | .string (some value) => plug (.string value) frames
  | .string none => plug .unusable frames
  | .openArray => .inside (.array [] :: frames) .firstItem
  | .openObject => .inside (.object [] :: frames) .firstName
  | _ => breakOff frames next

/-- A token as the format understands it: in a YAML text a string whose escapes do not name
characters breaks the text off, even where its value is not used. -/
def understood (format : Format) (token : Token) : Token :=
  match format, token with
  | .flow, .string none => .bad
  | _, token => token

def accept (format : Format) (state : Building) (token : Token) : Building :=
  match state with
  | .broken root => .broken root
  | .finished root _ => .finished root true
  | .inside frames next =>
    match next, understood format token, frames with
    | .firstItem, .closeArray, .array _ :: rest => plugContainer format (.array []) rest
    | .firstName, .closeObject, .object _ :: rest => plugContainer format (.object []) rest
    | .firstName, .string name, frames => .inside frames (.colon name)
    | .name, .string name, frames => .inside frames (.colon name)
    | .colon name, .colon, .object members :: rest =>
      .inside (.member members name :: rest) .value
    | .separator, .comma, .array items :: rest => .inside (.array items :: rest) .value
    | .separator, .comma, .object members :: rest => .inside (.object members :: rest) .name
    | .separator, .closeArray, .array items :: rest =>
      plugContainer format (.array items.reverse) rest
    | .separator, .closeObject, .object members :: rest =>
      plugContainer format (.object members.reverse) rest
    | .value, token, frames => acceptValue format frames .value token
    | .firstItem, token, frames => acceptValue format frames .firstItem token
    | next, _, frames => breakOff frames next

def finish (state : Building) : Document × Bool :=
  match state with
  | .finished root followed => (root, followed)
  | .broken root => (root, false)
  | .inside frames next =>
    match breakOff frames next with
    | .broken root => (root, false)
    | _ => (.malformed, false)

end Building

/-- The document that a text starts with, and whether more text follows it. -/
def read (format : Format) (text : String) : Document × Bool :=
  ((Token.scanText text).foldl (Building.accept format) (.inside [] .value)).finish

end Document

/-- The tree of a JSON text; `none` when the text is not one value. -/
def Json.parse? (text : String) : Option Json :=
  match Document.read .json text with
  | (root, false) => root.toJson?
  | (_, true) => none

end ClusterStack
