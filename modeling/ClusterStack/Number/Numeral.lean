import ClusterStack.Number.Binary64

/-!
# Numerals

A numeral is a number as it is spelled: sign, digits before the point, digits after it, exponent.
Its value is an integer when it is spelled as one and fits 64 bits, and otherwise a binary
floating-point number.

The floating-point value is found in two steps. The digits are collected into a significand below
`2 ^ 64`; digits that would exceed it are dropped, and count for the scale when they stand before
the point. The significand is then rounded, and multiplied or divided by rounded powers of ten. Where
each of these steps is exact, which holds for up to fifteen digits and moderate scales, the value is
the nearest one.
-/

set_option autoImplicit false

namespace ClusterStack

/-- A number of a document: an integer of 64 bits, signed or not, or a floating-point number. -/
inductive Number where
  | integer (value : Int)
  | real (value : Binary64)
  deriving DecidableEq, Repr, Inhabited

/-- A number as it is spelled. -/
structure Numeral where
  negative : Bool
  whole : List Nat
  /-- The digits after the point; `none` without a point. -/
  decimals : Option (List Nat)
  /-- The exponent; `none` without an exponent. -/
  exponent : Option Int
  deriving DecidableEq, Repr

def Number.fitsSigned (value : Int) : Bool :=
  -0x8000000000000000 ≤ value && value < 0x8000000000000000

def Number.fits (value : Int) : Bool :=
  -0x8000000000000000 ≤ value && value < 0x10000000000000000

def Number.fitsWide (value : Int) : Bool :=
  -0x80000000000000000000000000000000 ≤ value && value < 0x100000000000000000000000000000000

namespace Numeral

def maxWord : Nat := 0xffffffffffffffff

/-- The significand while digits are collected, and the power of ten it is to be scaled by. -/
structure Scaled where
  significand : Nat
  scale : Int
  deriving DecidableEq, Repr

/-- The number that a list of digits spells, most significant digit first. -/
def natOfDigits (digits : List Nat) : Nat :=
  digits.foldl (fun value digit => value * 10 + digit) 0

def collectWhole (start : Scaled) : List Nat → Scaled
  | [] => start
  | digit :: rest =>
    if start.significand * 10 + digit ≤ maxWord then
      collectWhole { start with significand := start.significand * 10 + digit } rest
    else
      { start with scale := start.scale + (rest.length + 1) }

def collectDecimals (start : Scaled) : List Nat → Scaled
  | [] => start
  | digit :: rest =>
    if start.significand * 10 + digit ≤ maxWord then
      collectDecimals ⟨start.significand * 10 + digit, start.scale - 1⟩ rest
    else
      start

def power10 (n : Nat) : Binary64 :=
  (Binary64.ofNat? (Nat.pow 10 n)).getD (Binary64.zero false)

/-- Scales by a power of ten in one step when the power is a floating-point number itself, and
otherwise by `10 ^ 308` first, as often as needed but only until nothing is left. -/
def scaleBy? (x : Binary64) (scale : Int) : Option Binary64 :=
  if scale.natAbs ≤ 308 then
    if 0 ≤ scale then x.mul? (power10 scale.natAbs) else x.div? (power10 scale.natAbs)
  else if x.isZero then some x
  else if 0 ≤ scale then none
  else do
    let smaller ← x.div? (power10 308)
    scaleBy? smaller (scale + 308)
termination_by (-scale).toNat
decreasing_by omega

/-- The floating-point value; `none` when it is beyond all finite numbers. -/
def real? (n : Numeral) : Option Binary64 := do
  let collected := collectDecimals (collectWhole ⟨0, 0⟩ n.whole) (n.decimals.getD [])
  let start ← Binary64.ofNat? collected.significand
  let magnitude ← scaleBy? start (collected.scale + n.exponent.getD 0)
  return if n.negative then magnitude.neg else magnitude

/-- The nearest floating-point number; `none` when it is beyond all finite numbers. Scales far
outside the format are settled by the place of the first digit. -/
def nearest? (n : Numeral) : Option Binary64 :=
  let decimals := n.decimals.getD []
  let digits := natOfDigits (n.whole ++ decimals)
  let scale : Int := n.exponent.getD 0 - decimals.length
  let top := scale + (Nat.toDigits 10 digits).length
  if digits = 0 ∨ top < -400 then some (Binary64.zero n.negative)
  else if 400 < top then none
  else Binary64.ofRatio? n.negative (digits * Nat.pow 10 scale.toNat)
      (Nat.pow 10 (-scale).toNat)

def isIntegral (n : Numeral) : Bool :=
  n.decimals.isNone && n.exponent.isNone

def integer (n : Numeral) : Int :=
  if n.negative then -(natOfDigits n.whole : Int) else natOfDigits n.whole

/-- The value in a JSON document. A negative zero is a floating-point number. -/
def value? (n : Numeral) : Option Number :=
  let value := n.integer
  if n.isIntegral && !(n.negative && value == 0) && Number.fits value then
    some (.integer value)
  else
    n.real?.map .real

end Numeral

end ClusterStack
