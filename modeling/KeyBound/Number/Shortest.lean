import KeyBound.Number.Binary64

/-!
# Shortest decimals

The decimal with the fewest digits that reads back as a given double, and of those the nearest. The
reals that round to a double form an interval around it, whose ends belong to it exactly when the
significand is even; a grid of decimals meets that interval if one of the two grid neighbours of
the value lies in it, so the first grid with a hit has the fewest digits.
-/

set_option autoImplicit false

namespace KeyBound

/-- A positive decimal `digits * 10 ^ exponent`. -/
structure Decimal where
  digits : Nat
  exponent : Int
  deriving DecidableEq, Repr

namespace Decimal

def ratio (d : Decimal) : Nat × Nat :=
  (d.digits * Nat.pow 10 d.exponent.toNat, Nat.pow 10 (-d.exponent).toNat)

def digitCount (n : Nat) : Nat := if n = 0 then 0 else (Nat.toDigits 10 n).length

/-- The exponent of the leading digit of a positive quotient. -/
def leadingExponent (num den : Nat) : Int :=
  if den ≤ num then (digitCount (num / den) : Int) - 1
  else -(digitCount ((den + num - 1) / num - 1) : Int)

/-- Removes zeros from the end of the digits, at most `fuel` of them. -/
def strip : Nat → Decimal → Decimal
  | 0, d => d
  | fuel + 1, d =>
    if d.digits % 10 = 0 ∧ d.digits ≠ 0 then strip fuel ⟨d.digits / 10, d.exponent + 1⟩ else d

end Decimal

namespace Binary64

def covers (x : Binary64) (d : Decimal) : Bool :=
  let below := if x.significand = Nat.pow 2 52 ∧ leastExponent < x.exponent then 1 else 2
  let (low, unit) := scaled (4 * x.significand - below) (x.exponent - 2)
  let (high, _) := scaled (4 * x.significand + 2) (x.exponent - 2)
  let (num, den) := d.ratio
  if x.significand % 2 = 0 then low * den ≤ num * unit && num * unit ≤ high * den
  else low * den < num * unit && num * unit < high * den

/-- The decimals next to a positive double on the grid `10 ^ exponent`, the nearer one first and the
lower one first in a tie. -/
def gridNeighbours (x : Binary64) (exponent : Int) : List Decimal :=
  let (num, den) := x.ratio
  let num := num * Nat.pow 10 (-exponent).toNat
  let den := den * Nat.pow 10 exponent.toNat
  let low : Decimal := ⟨num / den, exponent⟩
  let high : Decimal := ⟨num / den + 1, exponent⟩
  if 2 * (num % den) ≤ den then [low, high] else [high, low]

/-- The first grid with a hit, from `count` digits on; seventeen digits always suffice. -/
def searchGrids (x : Binary64) (leading : Int) : (fuel count : Nat) → Decimal
  | 0, count => ((x.gridNeighbours (leading - count + 1)).head?).getD ⟨0, 0⟩
  | fuel + 1, count =>
    match (x.gridNeighbours (leading - count + 1)).find? (fun d => d.digits != 0 && x.covers d) with
    | some d => d
    | none => searchGrids x leading fuel (count + 1)

/-- The shortest decimal that reads back as a positive double. -/
def shortest (x : Binary64) : Decimal :=
  let (num, den) := x.ratio
  (searchGrids x (Decimal.leadingExponent num den) 16 1).strip 17

end Binary64

end KeyBound
