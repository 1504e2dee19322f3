import ClusterStack.Json.Printer
import ClusterStack.Template.Basic

/-!
# Rendering templates

A template is written in two ways: as a text that keeps resources, outputs, the parts of a resource
and its properties in their own order, and as a document whose objects are ordered by key.
-/

set_option autoImplicit false

namespace ClusterStack

/-- The members of a resource in the order in which they are written. -/
def Resource.layout (resource : Resource) : Json :=
  let policy := match resource.deletionPolicy with
    | some policy => [("DeletionPolicy", Json.string policy.name)]
    | none => []
  let dependencies :=
    if resource.dependsOn.isEmpty then []
    else [("DependsOn", Json.array (resource.dependsOn.map .string))]
  .object ([("Type", Json.string resource.kind.typeName)] ++ policy ++ dependencies ++
    [("Properties", Json.object (Value.entriesToJson resource.properties))])

def Output.layout (output : Output) : Json :=
  .object [
    ("Description", .string output.description),
    ("Export", .object [("Name", .string output.exportName)]),
    ("Value", output.value.toJson)]

namespace Template

/-- The whole template, in the order in which it is written. -/
def layout (template : Template) : Json :=
  .object [
    ("Resources", .object (template.resources.entries.map fun (key, resource) =>
      (key, resource.layout))),
    ("Outputs", .object (template.outputs.entries.map fun (key, output) => (key, output.layout)))]

def text (template : Template) : String :=
  template.layout.compact

/-- The document of a template, with the members of every object ordered by key. -/
def document (template : Template) : Json :=
  template.layout.sorted

end Template

end ClusterStack
