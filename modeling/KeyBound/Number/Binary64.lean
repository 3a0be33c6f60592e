/-!
# Double-precision numbers

Finite IEEE 754 doubles in exact arithmetic. `Binary64.nearest` rounds a quotient of natural
numbers, a tie to the even significand; sums are not needed here, and products and quotients are
rounded quotients of exact ones.
-/

set_option autoImplicit false

namespace KeyBound

/-- A finite double: a sign and the magnitude `significand * 2 ^ exponent`. Values built by
`nearest` are in normal form: the significand is below `2 ^ 53`, and below `2 ^ 52` only with the
least exponent, -1074. -/
structure Binary64 where
  negative : Bool
  significand : Nat
  exponent : Int
  deriving DecidableEq, Repr, Inhabited

namespace Binary64

def leastExponent : Int := -1074

def greatestExponent : Int := 971

/-- `n * 2 ^ e` as a quotient. -/
def scaled (n : Nat) (e : Int) : Nat × Nat := (n * Nat.pow 2 e.toNat, Nat.pow 2 (-e).toNat)

/-- A quotient rounded to a natural number, a half to the even neighbour. -/
def roundQuotient (num den : Nat) : Nat :=
  let q := num / den
  let r := num % den
  if 2 * r < den then q else if den < 2 * r then q + 1 else if q % 2 = 0 then q else q + 1

/-- The double nearest to `num / den`, for a positive denominator; `none` where it would be
infinite. -/
def nearest (negative : Bool) (num den : Nat) : Option Binary64 :=
  if num = 0 then
    some ⟨negative, 0, leastExponent⟩
  else
    let guess : Int := (num.log2 : Int) - (den.log2 : Int) - 52
    let exponent :=
      let (p, q) := scaled den guess
      if num * q < p * Nat.pow 2 52 then guess - 1 else guess
    let exponent := max exponent leastExponent
    let (p, q) := scaled den exponent
    let m := roundQuotient (num * q) p
    let (m, exponent) := if m = Nat.pow 2 53 then (Nat.pow 2 52, exponent + 1) else (m, exponent)
    if greatestExponent < exponent then none else some ⟨negative, m, exponent⟩

def ratio (x : Binary64) : Nat × Nat := scaled x.significand x.exponent

def isZero (x : Binary64) : Bool := x.significand == 0

def mul? (x y : Binary64) : Option Binary64 :=
  let (p, q) := x.ratio
  let (r, s) := y.ratio
  nearest (x.negative != y.negative) (p * r) (q * s)

/-- The rounded quotient by a divisor other than zero, or `none` where it would be infinite. -/
def div? (x y : Binary64) : Option Binary64 :=
  let (p, q) := x.ratio
  let (r, s) := y.ratio
  nearest (x.negative != y.negative) (p * s) (q * r)

end Binary64

end KeyBound
