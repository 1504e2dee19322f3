import ClusterStack.Cluster.Resources
import ClusterStack.Dependency.Graph

/-!
# Compiling clusters

A cluster compiles to a template whose references are all resolved; several clusters compile to one
template, provided that no two of their names fall together. Nothing is returned unless everything
fits.
-/

set_option autoImplicit false

namespace ClusterStack

def Cluster.compile (cluster : Cluster) (deployment : Deployment) :
    Except CompileError Template := do
  let declarations ← cluster.declarations deployment
  let template ← Template.ofDeclarations declarations
  template.checkReferences cluster.externalDependencies
  return template

def compile (deployment : Deployment) (spec : ClusterSpec) : Except CompileError Template := do
  let cluster ← Cluster.resolve deployment spec
  cluster.compile deployment

/-- The prefixes in use, each with the cluster or service that uses it. -/
abbrev PrefixClaims := Registry String

namespace PrefixClaims

def claim (claims : PrefixClaims) (entry : String × String) : Except CompileError PrefixClaims :=
  let (name, owner) := entry
  match search : claims.get? name with
  | some first =>
    .error (.invalidConfig owner s!"name normalizes to '{name}', already used by {first}")
  | none => .ok (Registry.add claims name owner (Entries.not_mem_keys_of_get?_eq_none search))

end PrefixClaims

/-- The prefixes of a cluster and its services, with their owners. -/
def Cluster.prefixes (cluster : Cluster) : List (String × String) :=
  (cluster.clusterPrefix, s!"cluster '{cluster.name}'") ::
    cluster.services.map fun service =>
      (service.servicePrefix, s!"service '{service.name}' of cluster '{cluster.name}'")

/-- What has become of the clusters so far. -/
structure Compilation where
  claims : PrefixClaims
  template : Template
  deriving Inhabited

namespace Compilation

def start : Compilation :=
  ⟨Registry.empty, Template.empty⟩

def compileCluster (deployment : Deployment) (compilation : Compilation) (spec : ClusterSpec) :
    Except CompileError (PrefixClaims × Template) := do
  let cluster ← Cluster.resolve deployment spec
  let claims ← cluster.prefixes.foldlM PrefixClaims.claim compilation.claims
  let template ← cluster.compile deployment
  return (claims, template)

/-- Takes a further cluster in. One without a network is passed over. -/
def next (deployment : Deployment) (compilation : Compilation) (spec : ClusterSpec) :
    Except CompileError Compilation :=
  if spec.vpc.isNone then .ok compilation
  else do
    let (claims, compiled) ← compilation.compileCluster deployment spec
    let template ← compilation.template.merge compiled
    return ⟨claims, template⟩

end Compilation

def compileAll (deployment : Deployment) (specs : List ClusterSpec) :
    Except CompileError Template :=
  (specs.foldlM (Compilation.next deployment) .start).map (·.template)

end ClusterStack
