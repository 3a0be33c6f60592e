import KeyBound.Crypto.Der
import KeyBound.Crypto.Sha256

/-!
# RSA keys

The components of a private key, and signatures with it. Components are compared with each other
only as far as the signature needs it; whether they belong together shows in the signature, which is
given out only if the public exponent leads back from it.
-/

set_option autoImplicit false

namespace KeyBound

structure RsaKey where
  modulus : Nat
  publicExponent : Nat
  privateExponent : Nat
  prime1 : Nat
  prime2 : Nat
  exponent1 : Nat
  exponent2 : Nat
  coefficient : Nat

namespace RsaKey

def bits (n : Nat) : Nat := if n = 0 then 0 else n.log2 + 1

def parse? (bytes : Bytes) : Option RsaKey := do
  let body ← Der.whole? Der.sequenceTag bytes
  let (version, rest) ← Der.integer? body
  if version ≠ 0 then none
  let (modulus, rest) ← Der.positive? rest
  let (publicExponent, rest) ← Der.positive? rest
  let (privateExponent, rest) ← Der.positive? rest
  let (prime1, rest) ← Der.positive? rest
  let (prime2, rest) ← Der.positive? rest
  let (exponent1, rest) ← Der.positive? rest
  let (exponent2, rest) ← Der.positive? rest
  let (coefficient, rest) ← Der.positive? rest
  if rest.isEmpty then
    some ⟨modulus, publicExponent, privateExponent, prime1, prime2, exponent1, exponent2,
      coefficient⟩
  else none

/-- Whether a key is tried at all: an odd modulus of 2048 to 4096 bits, half of which is a multiple
of 512; an odd public exponent of at least 65537 and at most 33 bits; two odd numbers of half the
bits whose product is a multiple of the modulus; odd exponents below the numbers they belong to; an
odd private exponent of more than half the bits; and the inverse of the second number over the
first. -/
def isSound (key : RsaKey) : Bool :=
  let size := bits key.modulus
  let half := (size + 1) / 2
  2048 ≤ (size + 7) / 8 * 8 && size ≤ 4096 && half % 512 == 0 && key.modulus % 2 == 1 &&
    key.publicExponent % 2 == 1 && 65537 ≤ key.publicExponent &&
    key.publicExponent < Nat.pow 2 33 &&
    bits key.prime1 == half && key.prime1 % 2 == 1 &&
    bits key.prime2 == half && key.prime2 % 2 == 1 &&
    key.prime1 * key.prime2 % key.modulus == 0 &&
    key.privateExponent % 2 == 1 && half < bits key.privateExponent &&
    key.privateExponent < key.modulus &&
    key.exponent1 % 2 == 1 && key.exponent1 < key.prime1 &&
    key.exponent2 % 2 == 1 && key.exponent2 < key.prime2 &&
    key.coefficient < key.prime1 && key.coefficient * key.prime2 % key.prime1 == 1

/-! ## Signatures -/

/-- A power over a modulus, by the lowest bits of the exponent. -/
def power (modulus : Nat) : (bits : Nat) → (base exponent : Nat) → Nat
  | 0, _, _ => 1 % modulus
  | bits + 1, base, exponent =>
    let rest := power modulus bits (base * base % modulus) (exponent / 2)
    if exponent % 2 = 1 then base * rest % modulus else rest

/-- What stands before a hash of 256 bits that is signed. -/
def hashMark : Bytes :=
  [0x30, 0x31, 0x30, 0x0D, 0x06, 0x09, 0x60, 0x86, 0x48, 0x01, 0x65, 0x03, 0x04, 0x02, 0x01, 0x05,
    0x00, 0x04, 0x20]

/-- The hash of a message as a number of some bytes: after two marks, ones fill up to a zero. -/
def padded (size : Nat) (message : Bytes) : Nat :=
  let hash := hashMark ++ Sha256.hash message
  Der.number (0x00 :: 0x01 :: List.replicate (size - 3 - hash.length) 0xFF ++ 0x00 :: hash)

/-- The number whose power with the public exponent a given one is, if the key finds it. The powers
with either exponent are put together. -/
def root? (key : RsaKey) (n : Nat) : Option Nat :=
  let p := key.prime1
  let q := key.prime2
  let first := power p (bits p) (n % p) key.exponent1
  let second := power q (bits q) (n % q) key.exponent2
  let factor := key.coefficient * (first + p - second % p) % p
  let found := (second + factor * q) % key.modulus
  if power key.modulus 33 found key.publicExponent = n then some found else none

def sign? (key : RsaKey) (message : Bytes) : Option Nat :=
  if key.isSound then key.root? (padded ((bits key.modulus + 7) / 8) message) else none

end RsaKey

end KeyBound
