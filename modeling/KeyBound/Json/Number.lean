import KeyBound.Number.Shortest

/-!
# JSON numbers

A number literal and its value. Literals without fraction and exponent are integers if they fit 64
bits, with or without sign; all others become doubles: the first nineteen or twenty significant
digits are taken as an integer, rounded, and scaled by a rounded power of ten. A literal beyond the
largest double has no value.
-/

set_option autoImplicit false

namespace KeyBound.Json

/-- A literal as the grammar divides it; digits are numbers below ten. -/
structure NumberLiteral where
  negative : Bool
  whole : List Nat
  fraction : List Nat
  /-- Whether the exponent is negative, and its digits. -/
  exponent : Option (Bool × List Nat)
  deriving DecidableEq, Repr

inductive Number where
  | integer (value : Int)
  | float (value : Binary64)
  deriving DecidableEq, Repr

def greatestUnsigned : Nat := Nat.pow 2 64 - 1

def ofDigits (digits : List Nat) : Nat := digits.foldl (fun n d => n * 10 + d) 0

/-- Takes digits as long as the number they form, after what has been read, fits 64 bits; gives the
number and the digits left over. -/
def takeSignificand : Nat → List Nat → Nat × List Nat
  | n, [] => (n, [])
  | n, d :: rest =>
    if greatestUnsigned < n * 10 + d then (n, d :: rest) else takeSignificand (n * 10 + d) rest

/-- The double nearest to `10 ^ k`, for `k` up to 308. -/
def powerOfTen? (k : Nat) : Option Binary64 := Binary64.nearest false (Nat.pow 10 k) 1

/-- Scales a double by a power of ten: at once up to `10 ^ 308` in either direction, and by repeated
division below that. The fuel bounds the number of divisions. -/
def scale? : Nat → Binary64 → Int → Option Binary64
  | 0, x, _ => some { x with significand := 0, exponent := Binary64.leastExponent }
  | fuel + 1, x, exponent =>
    if exponent.natAbs ≤ 308 then do
      let power ← powerOfTen? exponent.natAbs
      if 0 ≤ exponent then x.mul? power else x.div? power
    else if x.isZero then some x
    else if 0 ≤ exponent then none
    else do
      let power ← powerOfTen? 308
      scale? fuel (← x.div? power) (exponent + 308)

def double? (significand : Nat) (exponent : Int) : Option Binary64 := do
  scale? 8 (← Binary64.nearest false significand 1) exponent

namespace NumberLiteral

/-- Greatest exponent that is not saturated. -/
def exponentLimit : Nat := Nat.pow 2 31 - 1

def magnitude? (literal : NumberLiteral) : Option Binary64 :=
  let (significand, dropped) := takeSignificand 0 literal.whole
  let (significand, unread) := takeSignificand significand literal.fraction
  let point : Int :=
    (dropped.length : Int) - ((literal.fraction.length - unread.length : Nat) : Int)
  match literal.exponent with
  | none => double? significand point
  | some (negative, digits) =>
    let n := ofDigits digits
    if exponentLimit < n then
      if significand ≠ 0 ∧ !negative then none
      else some ⟨false, 0, Binary64.leastExponent⟩
    else double? significand (if negative then point - n else point + n)

/-- The value of a literal, if it is not beyond the largest double. Minus zero is a double. -/
def value? (literal : NumberLiteral) : Option Number :=
  let asDouble : Option Number :=
    literal.magnitude?.map fun x => .float { x with negative := literal.negative }
  match literal.fraction, literal.exponent with
  | [], none =>
    let n := ofDigits literal.whole
    if literal.negative then
      if n = 0 ∨ Nat.pow 2 63 < n then asDouble else some (.integer (-(n : Int)))
    else if n ≤ greatestUnsigned then some (.integer n)
    else asDouble
  | _, _ => asDouble

end NumberLiteral

end KeyBound.Json
