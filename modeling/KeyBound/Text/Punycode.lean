import KeyBound.Text.Utf8

/-!
# Punycode

A label of a domain name beyond ASCII, written in letters and digits: its ASCII characters, a
hyphen, and for every other character how far to go on from the one before, counted over all
characters and all places, as numbers of variable length whose digits shift with the distances seen
so far.
-/

set_option autoImplicit false

namespace KeyBound.Punycode

def digit (n : Nat) : Char := if n < 26 then Char.ofNat (97 + n) else Char.ofNat (22 + n)

def value? (c : Char) : Option Nat :=
  let n := c.toNat
  if 97 ≤ n ∧ n ≤ 122 then some (n - 97)
  else if 65 ≤ n ∧ n ≤ 90 then some (n - 65)
  else if 48 ≤ n ∧ n ≤ 57 then some (n - 22)
  else none

/-- How many digits are counted as one step while the distance is brought below 456. -/
def adaptLoop : (fuel : Nat) → Nat → Nat → Nat
  | 0, k, delta => k + 36 * delta / (delta + 38)
  | fuel + 1, k, delta =>
    if 455 < delta then adaptLoop fuel (k + 36) (delta / 35) else k + 36 * delta / (delta + 38)

/-- The shift of the digits after a distance, among a number of characters. -/
def adapt (delta count : Nat) (first : Bool) : Nat :=
  let delta := if first then delta / 700 else delta / 2
  adaptLoop 12 0 (delta + delta / count)

/-- The least value of a digit that another one follows. -/
def threshold (k bias : Nat) : Nat :=
  if k ≤ bias then 1 else if bias + 26 ≤ k then 26 else k - bias

def writeNumber (bias : Nat) : (fuel : Nat) → Nat → Nat → List Char
  | 0, _, n => [digit (n % 36)]
  | fuel + 1, k, n =>
    let t := threshold k bias
    if n < t then [digit n]
    else digit (t + (n - t) % (36 - t)) :: writeNumber bias fuel (k + 36) ((n - t) / (36 - t))

/-- What writing has come to: the distance so far, the shift, and the number of characters
written. -/
structure Progress where
  delta : Nat
  bias : Nat
  written : Nat

/-- Passes over the label once for the character `n`: distances grow at smaller characters and are
written at each `n`. -/
def writePass (basic n : Nat) : Progress → List Char → Progress × List Char
  | progress, [] => (progress, [])
  | progress, c :: rest =>
    if c.toNat < n then
      writePass basic n { progress with delta := progress.delta + 1 } rest
    else if c.toNat = n then
      let digits := writeNumber progress.bias 16 36 progress.delta
      let first := progress.written == basic
      let bias := adapt progress.delta (progress.written + 1) first
      let (progress, others) := writePass basic n ⟨0, bias, progress.written + 1⟩ rest
      (progress, digits ++ others)
    else writePass basic n progress rest

/-- Writes the characters from `n` on, in ascending order. -/
def writeFrom (basic : Nat) (label : List Char) : (fuel : Nat) → Nat → Progress → List Char
  | 0, _, _ => []
  | fuel + 1, n, progress =>
    match ((label.map Char.toNat).filter (n ≤ ·)).min? with
    | none => []
    | some m =>
      let delta := progress.delta + (m - n) * (progress.written + 1)
      let (progress, digits) := writePass basic m { progress with delta } label
      digits ++ writeFrom basic label fuel (m + 1) { progress with delta := progress.delta + 1 }

def encode (label : List Char) : List Char :=
  let plain := label.filter (·.toNat < 0x80)
  plain ++ (if plain.isEmpty then [] else ['-']) ++
    writeFrom plain.length label (label.length + 1) 0x80 ⟨0, 72, plain.length⟩

def readNumber? (bias : Nat) : (k weight n : Nat) → List Char → Option (Nat × List Char)
  | _, _, _, [] => none
  | k, weight, n, c :: rest => do
    let d ← value? c
    let n := n + d * weight
    let t := threshold k bias
    if d < t then some (n, rest) else readNumber? bias (k + 36) (weight * (36 - t)) n rest

/-- Reads distances and puts the characters they lead to into their places. -/
def readFrom? : (fuel : Nat) → (i n bias : Nat) → List Char → List Char → Option (List Char)
  | _, _, _, _, label, [] => some label
  | 0, _, _, _, _, _ => none
  | fuel + 1, i, n, bias, label, digits => do
    let (distance, rest) ← readNumber? bias 36 1 0 digits
    let place := i + distance
    let count := label.length + 1
    let n := n + place / count
    if n < 0x110000 ∧ ¬(0xD800 ≤ n ∧ n < 0xE000) then
      let bias := adapt distance count (i == 0 && label.all (·.toNat < 0x80))
      let i := place % count
      readFrom? fuel (i + 1) n bias (label.take i ++ Char.ofNat n :: label.drop i) rest
    else none

/-- The ASCII characters of a written form and the digits after the last hyphen. A hyphen with
nothing before it is not written, so it is taken for a digit, which it is not. -/
def split (text : List Char) : List Char × List Char :=
  let reversed := text.reverse
  match ((reversed.dropWhile (· != '-')).drop 1).reverse with
  | [] => ([], text)
  | plain => (plain, (reversed.takeWhile (· != '-')).reverse)

def decode? (text : List Char) : Option (List Char) :=
  let (plain, digits) := split text
  readFrom? (text.length + 1) 0 0x80 72 plain digits

end KeyBound.Punycode
