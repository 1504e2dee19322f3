import ClusterStack.Number.Layout

/-!
# Floating-point numbers

The numbers of the 64-bit binary format, with those that are not finite. A JSON text has finite numbers
only. A YAML text has the others too, which it spells `.inf`, `-.inf` and `.nan`.
-/

set_option autoImplicit false

namespace ClusterStack

/-- A number in the 64-bit binary format. -/
inductive Real64 where
  | finite (number : Binary64)
  | infinite (negative : Bool)
  | nan
  deriving DecidableEq, Repr

namespace Real64

def finite? : Real64 → Option Binary64
  | .finite number => some number
  | .infinite _ => none
  | .nan => none

/-- The number as it is written inside an expression. -/
def text : Real64 → String
  | .finite number => number.text .plain
  | .infinite false => "inf"
  | .infinite true => "-inf"
  | .nan => "NaN"

end Real64

end ClusterStack
