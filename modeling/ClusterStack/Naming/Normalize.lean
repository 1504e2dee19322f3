import ClusterStack.Text.CaseMapping

/-!
# Normalized names

Names given by people are turned into tokens of ASCII letters and digits: the lower-case text is cut
into runs of letters and digits, and each run starts with a capital. The name of the host service
follows a looser rule, which keeps everything but hyphens.
-/

set_option autoImplicit false

namespace ClusterStack

/-- Capitalizes the first letter of each run and drops what stands between runs; `fresh` tells that
the next letter or digit starts a run. -/
def joinRuns (fresh : Bool) : List Char → List Char
  | [] => []
  | c :: rest =>
    if c.isAlphanum then (if fresh then c.toUpper else c) :: joinRuns false rest
    else joinRuns true rest

/-- The token of a name: `my web-api v2` becomes `MyWebApiV2`. -/
def normalizeName (name : String) : String :=
  String.ofList (joinRuns true (Text.lower name).toList)

/-- The prefix that a host service's name contributes: hyphens are dropped, the first character is
capitalized, and underscores are spelled out. -/
def normalizeServiceName (service : String) : String :=
  let capitalized := Text.capitalize (service.toList.filter (· ≠ '-'))
  String.ofList (capitalized.flatMap fun c => if c = '_' then "Underscore".toList else [c])

end ClusterStack
