import ClusterStack.Naming.Role
import ClusterStack.Spec.Shape

/-!
# Manifests

A manifest names the host service, may name the stage, and describes the clusters. It is a JSON or
a YAML file, as its extension says. How YAML is read is left open: it is for whoever runs the program
to supply a reader of it. One is given here, for the YAML texts that are JSON texts too.
-/

set_option autoImplicit false

namespace ClusterStack

/-- What a manifest file holds. -/
structure Manifest where
  service : String
  stage : Option String
  clusters : List ClusterSpec
  deriving Repr

namespace Manifest

/-- The section about the platform, of which only the stage matters. -/
def providerSchema : Schema :=
  .record "ProviderSection" true [.optional "stage" .text]

instance : Described Manifest where
  schema := .record "Manifest" true [
    .required "service" .text,
    .defaulted "provider" providerSchema,
    .defaulted "ecs" (.sequence (Described.schema ClusterSpec))]
  build
    | (service, (stage, ()), clusters, ()) => ⟨service, stage, clusters.map Described.build⟩

/-- The stage to deploy to: the one asked for, else the manifest's, else `dev`. -/
def stageFor (manifest : Manifest) (requested : Option String) : String :=
  (requested.or manifest.stage).getD "dev"

def deployment (manifest : Manifest) (requested : Option String) : Deployment :=
  .ofService (manifest.stageFor requested) manifest.service

/-- What is told of a text that is not well formed. -/
def malformedText : String := "<malformed>"

/-- Reads a manifest from a JSON text, by the rules of a format; or tells what is wrong with it. -/
def ofText (format : Format) (content : String) : Except String Manifest :=
  (Described.ofText Manifest format content).mapError fun fault =>
    if (Json.parse? content).isNone then malformedText else (fault.text? format).getD malformedText

end Manifest

/-- How YAML is read: the manifest that is in a text, or what is wrong with the text. -/
abbrev YamlReader := String → Except String Manifest

/-- Reads the YAML texts that are JSON texts too; any other is as good as malformed to it. -/
def YamlReader.flow : YamlReader :=
  Manifest.ofText .flow

/-- The extension of a file: what follows the last point of its name, unless the name starts with
that point. -/
def fileExtension (path : String) : String :=
  let name := (path.toList.reverse.takeWhile (· ≠ '/'))
  match name.dropWhile (· ≠ '.') with
  | '.' :: _ :: _ => String.ofList (name.takeWhile (· ≠ '.')).reverse
  | _ => ""

end ClusterStack
