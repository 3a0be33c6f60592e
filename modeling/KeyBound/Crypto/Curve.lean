/-!
# The curve P-256

Multiples of the base point, by doubling and adding in projective coordinates, so that no division
is needed. A private key is a number below the order; its public key is that multiple of the base
point.
-/

set_option autoImplicit false

namespace KeyBound.Curve

def prime : Nat := 0xffffffff00000001000000000000000000000000ffffffffffffffffffffffff

def order : Nat := 0xffffffff00000000ffffffffffffffffbce6faada7179e84f3b9cac2fc632551

/-- A point as `(x / z ^ 2, y / z ^ 3)`; the point at infinity has `z = 0`. -/
structure Point where
  x : Nat
  y : Nat
  z : Nat
  deriving DecidableEq, Repr

def infinity : Point := ⟨1, 1, 0⟩

def base : Point :=
  ⟨0x6b17d1f2e12c4247f8bce6e563a440f277037d812deb33a0f4a13945d898c296,
    0x4fe342e2fe1a7f9b8ee7eb4a7c0f9e162bce33576b315ececbb6406837bf51f5, 1⟩

def mul (a b : Nat) : Nat := a * b % prime

def add (a b : Nat) : Nat := (a + b) % prime

def sub (a b : Nat) : Nat := (a + prime - b % prime) % prime

def double (p : Point) : Point :=
  if p.z = 0 ∨ p.y = 0 then infinity
  else
    let zz := mul p.z p.z
    let yy := mul p.y p.y
    let beta := mul p.x yy
    let alpha := mul 3 (mul (sub p.x zz) (add p.x zz))
    let x := sub (mul alpha alpha) (mul 8 beta)
    let z := sub (sub (mul (add p.y p.z) (add p.y p.z)) yy) zz
    ⟨x, sub (mul alpha (sub (mul 4 beta) x)) (mul 8 (mul yy yy)), z⟩

def plus (p q : Point) : Point :=
  if p.z = 0 then q
  else if q.z = 0 then p
  else
    let pzz := mul p.z p.z
    let qzz := mul q.z q.z
    let u1 := mul p.x qzz
    let u2 := mul q.x pzz
    let s1 := mul (mul p.y q.z) qzz
    let s2 := mul (mul q.y p.z) pzz
    if u1 = u2 then if s1 = s2 then double p else infinity
    else
      let h := sub u2 u1
      let r := sub s2 s1
      let hh := mul h h
      let hhh := mul h hh
      let v := mul u1 hh
      let x := sub (sub (mul r r) hhh) (mul 2 v)
      ⟨x, sub (mul r (sub v x)) (mul s1 hhh), mul h (mul p.z q.z)⟩

def times : (bits : Nat) → Nat → Point → Point
  | 0, _, _ => infinity
  | bits + 1, n, p =>
    let rest := times bits (n / 2) (double p)
    if n % 2 = 1 then plus rest p else rest

def hasCoordinates (p : Point) (x y : Nat) : Bool :=
  let zz := mul p.z p.z
  p.z != 0 && x < prime && y < prime && mul x zz == p.x && mul y (mul zz p.z) == p.y

def isKeyPair (secret x y : Nat) : Bool :=
  0 < secret && secret < order && hasCoordinates (times 256 secret base) x y

end KeyBound.Curve
