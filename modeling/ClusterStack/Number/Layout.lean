import ClusterStack.Number.Shortest

/-!
# Decimal texts

How a number is laid out as text. A layout says which of two equally near decimals is written, which
numbers are written without an exponent, and whether a whole number keeps a fractional part; the
exponent, when there is one, always shows its sign.
-/

set_option autoImplicit false

namespace ClusterStack

/-- The decisions of a decimal text. -/
structure DecimalLayout where
  /-- Where a number goes that lies in the middle between two shortest decimals. -/
  tie : Tie
  /-- Numbers whose first digit has this power of ten are written without an exponent. -/
  positional : Int → Bool
  /-- A whole number written without an exponent ends in `.0`. -/
  keepsFraction : Bool

namespace DecimalLayout

/-- Numbers of a JSON text: an exponent below the fifth decimal and from the seventeenth digit on,
and a tie to the even digit. -/
def json : DecimalLayout :=
  ⟨.toEven, fun exponent => -5 ≤ exponent && exponent < 16, true⟩

/-- Numbers inside an expression: never an exponent, no fractional part on a whole number, and a tie
away from zero. -/
def plain : DecimalLayout :=
  ⟨.up, fun _ => true, false⟩

/-- Numbers inside a message about a YAML document: never an exponent, always a fractional part, and
a tie away from zero. -/
def plainFraction : DecimalLayout :=
  ⟨.up, fun _ => true, true⟩

end DecimalLayout

def digitChar (digit : Nat) : Char :=
  Char.ofNat (48 + digit)

namespace Digits

def positionalText (keepsFraction : Bool) (d : Digits) : String :=
  let chars := d.digits.map digitChar
  if d.exponent < 0 then
    String.ofList (['0', '.'] ++ List.replicate (-d.exponent - 1).toNat '0' ++ chars)
  else
    let whole := d.exponent.toNat + 1
    let integral := chars.take whole ++ List.replicate (whole - chars.length) '0'
    match chars.drop whole with
    | [] => String.ofList (integral ++ if keepsFraction then ['.', '0'] else [])
    | decimals => String.ofList (integral ++ '.' :: decimals)

def exponentText (d : Digits) : String :=
  let mantissa := match d.digits.map digitChar with
    | [] => []
    | [digit] => [digit]
    | digit :: decimals => digit :: '.' :: decimals
  let sign := if d.exponent < 0 then "-" else "+"
  s!"{String.ofList mantissa}e{sign}{d.exponent.natAbs}"

def text (layout : DecimalLayout) (d : Digits) : String :=
  if layout.positional d.exponent then d.positionalText layout.keepsFraction else d.exponentText

end Digits

/-- The number as text under a layout; a negative zero keeps its sign. -/
def Binary64.text (layout : DecimalLayout) (x : Binary64) : String :=
  (if x.negative then "-" else "") ++ (x.shortest layout.tie).text layout

end ClusterStack
