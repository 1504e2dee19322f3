import ClusterStack.Error
import ClusterStack.Template.Registry
import ClusterStack.Template.Resource

/-!
# Templates

A template collects resources and outputs under distinct keys and only ever grows. A declaration is
one thing to enter; a shared resource may be declared by several components, as long as they agree.
-/

set_option autoImplicit false

namespace ClusterStack

/-- The resources and outputs of a deployment, each in the order in which they were entered. -/
structure Template where
  resources : Registry Resource
  outputs : Registry Output

/-- One thing to enter into a template. -/
inductive Declaration where
  | resource (key : String) (definition : Resource)
  /-- A resource that is entered once however often it is declared. -/
  | sharedResource (key : String) (definition : Resource)
  | output (key : String) (definition : Output)
  deriving Repr

namespace Template

def empty : Template :=
  ⟨.empty, .empty⟩

instance : Inhabited Template := ⟨empty⟩

def isEmpty (template : Template) : Bool :=
  template.resources.entries.isEmpty && template.outputs.entries.isEmpty

def addResource (template : Template) (key : String) (resource : Resource) :
    Except CompileError Template :=
  if free : key ∉ template.resources.keys then
    .ok { template with resources := template.resources.add key resource free }
  else
    .error (.duplicateResource key)

/-- Enters a resource under a free key, or confirms the equal resource that is there. -/
def addSharedResource (template : Template) (key : String) (resource : Resource) :
    Except CompileError Template :=
  match template.resources.get? key with
  | some existing =>
    if existing.same resource then .ok template else .error (.duplicateResource key)
  | none => template.addResource key resource

def addOutput (template : Template) (key : String) (output : Output) :
    Except CompileError Template :=
  if free : key ∉ template.outputs.keys then
    .ok { template with outputs := template.outputs.add key output free }
  else
    .error (.duplicateOutput key)

def declare (template : Template) : Declaration → Except CompileError Template
  | .resource key definition => template.addResource key definition
  | .sharedResource key definition => template.addSharedResource key definition
  | .output key definition => template.addOutput key definition

/-- Enters declarations one after the other, up to the first that is refused; the template reached,
and the reason for stopping, if any. -/
def declareUntilRefused (template : Template) : List Declaration → Template × Option CompileError
  | [] => (template, none)
  | declaration :: rest =>
    match template.declare declaration with
    | .ok larger => larger.declareUntilRefused rest
    | .error error => (template, some error)

def declareAll (template : Template) (declarations : List Declaration) :
    Except CompileError Template :=
  declarations.foldlM declare template

def ofDeclarations (declarations : List Declaration) : Except CompileError Template :=
  empty.declareAll declarations

/-- The entries of a template as declarations, resources first. -/
def declarations (template : Template) : List Declaration :=
  template.resources.entries.map (fun entry => .resource entry.1 entry.2) ++
    template.outputs.entries.map (fun entry => .output entry.1 entry.2)

def merge (template other : Template) : Except CompileError Template :=
  template.declareAll other.declarations

/-- Adds the entries of another template up to the first that is refused. -/
def mergeUntilRefused (template other : Template) : Template × Option CompileError :=
  template.declareUntilRefused other.declarations

/-- Whether two templates are equal: the order of keys does not matter. -/
def same (a b : Template) : Bool :=
  a.resources.same Resource.same b.resources && a.outputs.same Output.same b.outputs

end Template

end ClusterStack
