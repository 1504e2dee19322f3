/-!
# Finite binary floating-point numbers

A finite number of the 64-bit binary format is a sign and a magnitude, the magnitude being
`significand * 2 ^ exponent`. All arithmetic is exact arithmetic on natural numbers followed by one
rounding to the nearest representable number, a half going to the even significand.
-/

set_option autoImplicit false

namespace ClusterStack

/-- Where a value goes that lies in the middle between its two neighbours. -/
inductive Tie where
  | toEven
  | up
  deriving DecidableEq, Repr

/-- The weight of the leading bit of a full significand, which is `2 ^ 52`. Magnitudes step over to
the next exponent at its multiples. -/
def Binary64.leadingBit : Nat := 0x10000000000000

/-- A finite number in the 64-bit binary format. The field `magnitude` is the bit pattern without
its sign, so that magnitudes are ordered as the numbers are. -/
structure Binary64 where
  negative : Bool
  magnitude : Nat
  finite : magnitude < 2047 * Binary64.leadingBit
  deriving DecidableEq, Repr

namespace Binary64

def zero (negative : Bool) : Binary64 :=
  ⟨negative, 0, by decide⟩

instance : Inhabited Binary64 := ⟨zero false⟩

def isZero (x : Binary64) : Bool :=
  x.magnitude == 0

/-- The two zeros are one number: the number without the sign of zero. -/
def unsignedZero (x : Binary64) : Binary64 :=
  if x.isZero then zero false else x

def neg (x : Binary64) : Binary64 :=
  { x with negative := !x.negative }

def significand (x : Binary64) : Nat :=
  if x.magnitude < leadingBit then x.magnitude else leadingBit + x.magnitude % leadingBit

def exponent (x : Binary64) : Int :=
  (max (x.magnitude / leadingBit) 1 : Nat) - 1075

/-- The magnitude as a fraction with a positive denominator. -/
def fraction (x : Binary64) : Nat × Nat :=
  (x.significand <<< x.exponent.toNat, 1 <<< (-x.exponent).toNat)

/-- The quotient of two natural numbers to the nearest integer; `tie` says where a half goes. -/
def roundQuotient (tie : Tie) (num den : Nat) : Nat :=
  let quotient := num / den
  let twice := 2 * (num % den)
  if twice < den then quotient
  else if den < twice then quotient + 1
  else match tie with
    | .toEven => quotient + quotient % 2
    | .up => quotient + 1

/-- The exponent of the largest power of two that is not above `num / den`. -/
def floorLog2 (num den : Nat) : Int :=
  let guess : Int := (num.log2 : Int) - den.log2
  if den <<< guess.toNat ≤ num <<< (-guess).toNat then guess else guess - 1

/-- The number nearest to the fraction `num / den`; `none` when it lies beyond all finite numbers. -/
def ofRatio? (negative : Bool) (num den : Nat) : Option Binary64 :=
  let scale : Int := max (-1074) (floorLog2 num den - 52)
  let rounded := roundQuotient .toEven (num <<< (-scale).toNat) (den <<< scale.toNat)
  let magnitude := (scale + 1074).toNat * leadingBit + rounded
  if num = 0 then some (zero negative)
  else if finite : magnitude < 2047 * leadingBit then some ⟨negative, magnitude, finite⟩
  else none

def ofNat? (n : Nat) : Option Binary64 :=
  ofRatio? false n 1

def ofInt? (i : Int) : Option Binary64 :=
  ofRatio? (i < 0) i.natAbs 1

/-- The rounded product; `none` when it is beyond all finite numbers. -/
def mul? (x y : Binary64) : Option Binary64 :=
  ofRatio? (x.negative != y.negative) (x.fraction.1 * y.fraction.1) (x.fraction.2 * y.fraction.2)

/-- The rounded quotient; `none` when the divisor is zero or the quotient is beyond all finite
numbers. -/
def div? (x y : Binary64) : Option Binary64 :=
  if y.isZero then none
  else
    ofRatio? (x.negative != y.negative) (x.fraction.1 * y.fraction.2) (x.fraction.2 * y.fraction.1)

end Binary64

end ClusterStack
