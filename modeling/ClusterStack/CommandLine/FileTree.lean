/-!
# File trees

The files of a system as seen from a working directory, as far as reading and writing them can
succeed or fail. What lies outside the working directory is known in outline only: the directories
above it, the root, the directories that every system has there, and the null device.
-/

set_option autoImplicit false

namespace ClusterStack

/-- Why a file cannot be read or written. -/
inductive FileProblem where
  | missing
  | isDirectory
  | notDirectory
  | nameTooLong
  | other (reason : String)
  deriving DecidableEq, Repr

def FileProblem.message : FileProblem → String
  | .missing => "No such file or directory (os error 2)"
  | .isDirectory => "Is a directory (os error 21)"
  | .notDirectory => "Not a directory (os error 20)"
  | .nameTooLong => "File name too long (os error 36)"
  | .other reason => reason

/-- Where the way to a place starts. -/
inductive Origin where
  /-- The directory this many steps above the working directory. -/
  | above (steps : Nat)
  | root
  deriving DecidableEq, Repr

/-- A place in the file system: the names on the way down from its origin. -/
structure Place where
  origin : Origin
  names : List String
  deriving DecidableEq, Repr

namespace Place

def below (names : List String) : Place :=
  ⟨.above 0, names⟩

/-- The null device, which takes everything and holds nothing. -/
def nullDevice : Place :=
  ⟨.root, ["dev", "null"]⟩

def start (path : String) : Place :=
  ⟨if path.startsWith "/" then .root else .above 0, []⟩

def enter (place : Place) (name : String) : Place :=
  { place with names := place.names ++ [name] }

/-- The directory that holds a place; the root holds itself. -/
def parent (place : Place) : Place :=
  match place.names, place.origin with
  | [], .above steps => ⟨.above (steps + 1), []⟩
  | [], .root => place
  | _ :: _, _ => { place with names := place.names.dropLast }

def leadsTo (place other : Place) : Bool :=
  place.origin = other.origin && place.names.isPrefixOf other.names && place != other

end Place

/-- Files by their places. -/
structure FileTree where
  files : List (Place × String)
  deriving DecidableEq, Repr

namespace FileTree

def rootDirectories : List String :=
  ["bin", "dev", "etc", "home", "lib", "opt", "proc", "root", "run", "sbin", "sys", "tmp", "usr",
   "var"]

def maxNameSize : Nat := 255

def maxPathSize : Nat := 4095

def ofFiles (files : List (List String × String)) : FileTree :=
  ⟨files.map fun entry => (.below entry.1, entry.2)⟩

def file? (tree : FileTree) (place : Place) : Option String :=
  if place = .nullDevice then some ""
  else (tree.files.find? (·.1 == place)).map (·.2)

/-- A place is a directory if no names lead to it, if it is on the way to a file, or if every system
has it. -/
def isDirectory (tree : FileTree) (place : Place) : Bool :=
  place.names.isEmpty || tree.files.any (fun entry => place.leadsTo entry.1) ||
    (place.origin = .root && rootDirectories.any fun name => place.names = [name])

def namesOf (path : String) : Except FileProblem (List String) :=
  if maxPathSize < path.utf8ByteSize then .error .nameTooLong else .ok (path.splitOn "/")

/-- The place to which names lead from a place on the way; only directories can be passed. -/
def walk (tree : FileTree) (place : Place) : List String → Except FileProblem Place
  | [] => .ok place
  | name :: rest =>
    if (tree.file? place).isSome then .error .notDirectory
    else if !tree.isDirectory place then .error .missing
    else if name = "" ∨ name = "." then tree.walk place rest
    else if name = ".." then tree.walk place.parent rest
    else if maxNameSize < name.utf8ByteSize then .error .nameTooLong
    else tree.walk (place.enter name) rest

def read (tree : FileTree) (path : String) : Except FileProblem String := do
  let place ← tree.walk (.start path) (← namesOf path)
  match tree.file? place with
  | some content => .ok content
  | none => .error (if tree.isDirectory place then .isDirectory else .missing)

/-- Puts a file at a place, instead of the one that is there. -/
def put (tree : FileTree) (place : Place) (content : String) : FileTree :=
  if place = .nullDevice then tree
  else ⟨tree.files.filter (·.1 != place) ++ [(place, content)]⟩

/-- The place at which a path asks for a file. Its directory must exist. -/
def placeFor (tree : FileTree) (path : String) : Except FileProblem Place := do
  match (← namesOf path).reverse.dropWhile (· = "") with
  | [] => .error .isDirectory
  | name :: above =>
    let directory ← tree.walk (.start path) above.reverse
    if (tree.file? directory).isSome then .error .notDirectory
    else if !tree.isDirectory directory then .error .missing
    else if path.endsWith "/" || name = "." || name = ".." then .error .isDirectory
    else if maxNameSize < name.utf8ByteSize then .error .nameTooLong
    else
      let place := directory.enter name
      if tree.isDirectory place then .error .isDirectory else .ok place

def write (tree : FileTree) (path content : String) : Except FileProblem FileTree :=
  (tree.placeFor path).map fun place => tree.put place content

/-- The files below the working directory that are not in an earlier tree, or were different
there. -/
def changedSince (tree earlier : FileTree) : List (List String × String) :=
  tree.files.filterMap fun entry =>
    if entry.1.origin = .above 0 ∧ earlier.file? entry.1 ≠ some entry.2 then
      some (entry.1.names, entry.2)
    else
      none

end FileTree

end ClusterStack
