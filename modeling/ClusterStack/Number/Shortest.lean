import ClusterStack.Number.Binary64

/-!
# Shortest decimal digits

The fewest decimal digits that still name a given binary floating-point number, and among those the
digits nearest to it; of two that are equally near, a tie rule takes one. A decimal names a number when it lies between the midpoints to the number's
two neighbours; the midpoints themselves count when the significand is even.
-/

set_option autoImplicit false

namespace ClusterStack

/-- Decimal digits without trailing zeros, and the power of ten of the first one: `digits = [2, 5]`
with `exponent = 3` is two thousand five hundred. -/
structure Digits where
  digits : List Nat
  exponent : Int
  deriving DecidableEq, Repr

namespace Binary64

/-- The fraction `num / den` lies where every number rounds to the positive number `x`. -/
def Names (x : Binary64) (num den : Nat) : Prop :=
  let unit := 4 * (den <<< x.exponent.toNat)
  let point := 4 * (num <<< (-x.exponent).toNat)
  let centre := x.significand * unit
  let below := if x.significand = leadingBit ∧ 2 * leadingBit ≤ x.magnitude then unit / 4 else unit / 2
  let above := unit / 2
  if x.significand % 2 = 0 then centre - below ≤ point ∧ point ≤ centre + above
  else centre - below < point ∧ point < centre + above

instance (x : Binary64) (num den : Nat) : Decidable (x.Names num den) := by
  unfold Names
  exact inferInstance

def floorLog10 (num den : Nat) : Int :=
  let guess : Int := (Nat.toDigits 10 num).length - (Nat.toDigits 10 den).length
  if den * Nat.pow 10 guess.toNat ≤ num * Nat.pow 10 (-guess).toNat then guess else guess - 1

/-- The multiple of `10 ^ grid` that names the positive number `x` and is nearest to it, in units of
`10 ^ grid`; of two equally near ones the one that `tie` says. -/
def nearestOnGrid? (tie : Tie) (x : Binary64) (grid : Int) : Option Nat :=
  let num := x.fraction.1 * Nat.pow 10 (-grid).toNat
  let den := x.fraction.2 * Nat.pow 10 grid.toNat
  let low := num / den
  let names (candidate : Nat) : Bool :=
    decide (x.Names (candidate * Nat.pow 10 grid.toNat) (Nat.pow 10 (-grid).toNat))
  match names low, names (low + 1) with
  | true, true => some (roundQuotient tie num den)
  | true, false => some low
  | false, true => some (low + 1)
  | false, false => none

/-- The decimal digits of a natural number, without the zeros at its end. -/
def significantDigits (n : Nat) : List Nat :=
  ((Nat.toDigits 10 n).map fun c => c.toNat - 48).reverse.dropWhile (· == 0) |>.reverse

/-- Looks for a name with `count` digits, then with more, at most `fuel` further ones. -/
def shortestFrom (tie : Tie) (x : Binary64) (top : Int) (count : Nat) : Nat → Digits
  | 0 => ⟨[0], 0⟩
  | fuel + 1 =>
    let grid := top - count + 1
    match x.nearestOnGrid? tie grid with
    | some n => ⟨significantDigits n, grid + (Nat.toDigits 10 n).length - 1⟩
    | none => shortestFrom tie x top (count + 1) fuel

/-- The shortest digits of the magnitude of a number; seventeen digits always suffice. -/
def shortest (tie : Tie) (x : Binary64) : Digits :=
  if x.isZero then ⟨[0], 0⟩
  else shortestFrom tie x (floorLog10 x.fraction.1 x.fraction.2) 1 17

end Binary64

end ClusterStack
