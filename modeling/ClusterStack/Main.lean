import ClusterStack.CommandLine.Report

/-!
# The program

Reads the manifest, carries out what the report asks for, and tells the result by its exit status. Of YAML
it reads what is JSON too.
-/

set_option autoImplicit false

namespace ClusterStack

/-- The reason why a file cannot be read or written. Its number may be reported with either sign. -/
def FileProblem.ofError (error : IO.Error) : FileProblem :=
  match error with
  | .noFileOrDirectory _ _ _ => .missing
  | .inappropriateType _ code _ =>
    let number := min code (0 - code)
    if number = 20 then .notDirectory else if number = 21 then .isDirectory
    else .other (toString error)
  | .invalidArgument _ code _ =>
    if min code (0 - code) = 36 then .nameTooLong else .other (toString error)
  | error => .other (toString error)

def attempt {α : Type} (action : IO α) : IO (Except FileProblem α) := do
  try
    let value ← action
    return .ok value
  catch error =>
    return .error (FileProblem.ofError error)

def tellFailure (invocation : Invocation) (failure : Failure) : IO UInt32 := do
  IO.eprintln ("Error: " ++ failure.message invocation.file)
  return 1

def Invocation.run (invocation : Invocation) : IO UInt32 := do
  IO.print invocation.preamble
  let content ← attempt (IO.FS.readFile invocation.file)
  match invocation.deliver YamlReader.flow content with
  | .error failure => tellFailure invocation failure
  | .ok (.print text) =>
    IO.print text
    return 0
  | .ok (.write output content note) =>
    match ← attempt (IO.FS.writeFile output content) with
    | .error problem => tellFailure invocation (.unwritable output problem)
    | .ok () =>
      IO.print note
      return 0

end ClusterStack

def main (arguments : List String) : IO UInt32 := do
  match ClusterStack.Invocation.ofArguments? arguments with
  | some invocation => invocation.run
  | none =>
    IO.eprintln ("Usage: clusterstack compile [FILE] [-s STAGE] [-o OUTPUT] [--compact]\n" ++
      "       clusterstack validate [FILE] [-s STAGE]")
    return 2
