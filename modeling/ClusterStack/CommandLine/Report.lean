import ClusterStack.CommandLine.FileTree
import ClusterStack.CommandLine.Invocation
import ClusterStack.Compile
import ClusterStack.Manifest
import ClusterStack.Template.Rendering

/-!
# Reports

What an invocation answers: the template, a note that it has been written, a summary of it, or the
reason why there is none. Whoever runs the program hands in a reader of YAML and the content of the
manifest, and carries out what the report asks for.
-/

set_option autoImplicit false

namespace ClusterStack

/-- Why an invocation fails. -/
inductive Failure where
  | unreadable (problem : FileProblem)
  | unsupported (extension : String)
  /-- The file holds no manifest, for this reason. -/
  | unparsable (reason : String)
  | refused (error : CompileError)
  | unwritable (output : String) (problem : FileProblem)
  deriving DecidableEq, Repr

def Failure.message (file : String) : Failure → String
  | .unreadable problem => "Failed to read " ++ file ++ ": " ++ problem.message
  | .unsupported extension =>
    s!"Unsupported manifest extension '{extension}' for {file} (expected .yml, .yaml or .json)"
  | .unparsable reason => s!"Failed to parse {file}: {reason}"
  | .refused error => "Failed to compile " ++ file ++ ": " ++ error.message
  | .unwritable output problem => "Failed to write " ++ output ++ ": " ++ problem.message

/-- Reads a manifest from its content, in the language that its extension says. -/
def Manifest.parse (yaml : YamlReader) (file content : String) : Except Failure Manifest :=
  let extension := Text.lower (fileExtension file)
  if extension = "json" then (Manifest.ofText .json content).mapError .unparsable
  else if extension = "yml" ∨ extension = "yaml" then (yaml content).mapError .unparsable
  else .error (.unsupported extension)

/-- The number of resources of each type, by the types' names in order. -/
def Template.countsByType (template : Template) : List (String × Nat) :=
  let types := template.resources.entries.map fun entry => entry.2.kind.typeName
  Entries.sorted (types.map fun type => (type, types.count type))

namespace Invocation

def preamble (invocation : Invocation) : String :=
  match invocation.action with
  | .compile _ _ => ""
  | .validate => "Validating...\n"

def template (yaml : YamlReader) (invocation : Invocation) (content : Except FileProblem String) :
    Except Failure Template := do
  let text ← content.mapError Failure.unreadable
  let manifest ← Manifest.parse yaml invocation.file text
  (compileAll (manifest.deployment invocation.stage) manifest.clusters).mapError Failure.refused

end Invocation

namespace Template

/-- The text of the template's document, on one line or indented. -/
def documentText (template : Template) (compact : Bool) : String :=
  if compact then template.document.compact else template.document.indented 0

/-- The summary of a template: how much it holds, the resources by type, and the outputs. -/
def summary (template : Template) : String :=
  let resources := template.resources.size
  let outputs := template.outputs.size
  let counts := template.countsByType.map fun (type, count) => s!"  • {type} × {count}\n"
  let keys := template.outputs.keys.map fun key => s!"  output {key}\n"
  s!"✓ {resources} resources and {outputs} outputs compiled successfully.\n" ++
    String.join (counts ++ keys)

def writtenNote (template : Template) (output : String) : String :=
  let resources := template.resources.size
  let outputs := template.outputs.size
  s!"✓ Wrote {resources} resources and {outputs} outputs to {output}\n"

end Template

/-- What is left to do for a template that has been compiled. -/
inductive Delivery where
  | print (text : String)
  /-- Write a file, and print the note once that is done. -/
  | write (output content note : String)
  deriving DecidableEq, Repr

def Action.deliver (action : Action) (template : Template) : Delivery :=
  match action with
  | .compile none compact => .print (template.documentText compact ++ "\n")
  | .compile (some output) compact =>
    .write output (template.documentText compact ++ "\n") (template.writtenNote output)
  | .validate => .print template.summary

def Invocation.deliver (yaml : YamlReader) (invocation : Invocation)
    (content : Except FileProblem String) : Except Failure Delivery :=
  (invocation.template yaml content).map invocation.action.deliver

/-- What a run of the program leaves behind. -/
structure Outcome where
  status : Nat
  stdout : String
  stderr : String
  tree : FileTree
  deriving DecidableEq, Repr

namespace Outcome

def misuse (tree : FileTree) : Outcome :=
  ⟨2, "", "", tree⟩

def failed (invocation : Invocation) (tree : FileTree) (failure : Failure) : Outcome :=
  ⟨1, invocation.preamble, "Error: " ++ failure.message invocation.file, tree⟩

def printed (invocation : Invocation) (tree : FileTree) (text : String) : Outcome :=
  ⟨0, invocation.preamble ++ text, "", tree⟩

end Outcome

def Invocation.runOn (yaml : YamlReader) (invocation : Invocation) (tree : FileTree) : Outcome :=
  match invocation.deliver yaml (tree.read invocation.file) with
  | .error failure => .failed invocation tree failure
  | .ok (.print text) => .printed invocation tree text
  | .ok (.write output content note) =>
    match tree.write output content with
    | .error problem => .failed invocation tree (.unwritable output problem)
    | .ok changed => .printed invocation changed note

/-- A run of the program with the reader of YAML that is at hand. -/
def runProgram (arguments : List String) (tree : FileTree) : Outcome :=
  match Invocation.ofArguments? arguments with
  | none => .misuse tree
  | some invocation => invocation.runOn YamlReader.flow tree

end ClusterStack
