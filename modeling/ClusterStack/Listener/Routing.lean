import ClusterStack.Spec.Basic

/-!
# Routing

The rules by which requests reach a service, and the conditions that all of them share.
-/

set_option autoImplicit false

namespace ClusterStack

/-- A routing rule: a path, a method unless all methods match, and a priority. -/
structure RouteRule where
  path : String
  method : Option String
  priority : Nat
  deriving DecidableEq, Repr

/-- The routing of a service. -/
structure Routing where
  rules : List RouteRule
  hostnames : Option (List String)
  sourceIps : Option (List String)
  headers : List (String × List String)
  deriving DecidableEq, Repr

namespace Routing

/-- A method that restricts a rule: the star and any spelling of `ANY` do not. -/
def restrictingMethod (method : String) : Bool :=
  method != "*" && method.toList.map Char.toLower != ['a', 'n', 'y']

def ruleOfSpec : PathRuleSpec → RouteRule
  | .path path => ⟨path, none, 1⟩
  | .rule path method priority => ⟨path, method.filter restrictingMethod, priority.getD 1⟩

/-- The rules of a description; a path that is left out matches everything. -/
def rulesOfSpec (spec : ServiceSpec) : List RouteRule :=
  match spec.path with
  | none => [⟨"*", none, spec.priority.getD 1⟩]
  | some (.single path) => [⟨path, none, spec.priority.getD 1⟩]
  | some (.rules rules) => rules.map ruleOfSpec

def ofSpec (spec : ServiceSpec) : Routing where
  rules := rulesOfSpec spec
  hostnames := spec.hostname.map OneOrMany.toList
  sourceIps := spec.limitSourceIps.map OneOrMany.toList
  headers := spec.limitHeaders.map fun header => (header.name, header.value.toList)

end Routing

end ClusterStack
