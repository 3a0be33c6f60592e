import KeyBound.Domain.Label
import KeyBound.Text.Percent

/-!
# Hosts

The host of a URL: a domain, an address of 32 or 128 bits, or a name that is not looked into, for
schemes without a notion of domains. A domain whose last label is a number has to be an address.
-/

set_option autoImplicit false

namespace KeyBound

inductive Host where
  | domain (name : List Char)
  | ipv4 (address : Nat)
  /-- An address as eight numbers of sixteen bits. -/
  | ipv6 (pieces : List Nat)
  /-- A name of a scheme without domains; it may be empty. -/
  | verbatim (text : List Char)
  deriving DecidableEq, Repr

namespace Host

def isForbidden (c : Char) : Bool :=
  c = '\x00' || c = '\t' || c = '\n' || c = '\r' || c = ' ' || c = '#' || c = '/' || c = ':' ||
    c = '<' || c = '>' || c = '?' || c = '@' || c = '[' || c = '\\' || c = ']' || c = '^' || c = '|'

def isForbiddenInDomain (c : Char) : Bool := isForbidden c || Percent.isControl c || c = '%'

/-! ## Addresses of 32 bits -/

def number? (base : Nat) (text : List Char) : Option Nat :=
  text.foldlM (fun n c => do
    let d ← Hex.value? c
    if d < base then some (n * base + d) else none) 0

/-- A number of an address, octal after a zero and hexadecimal after `0x`. -/
def part? : List Char → Option Nat
  | [] => none
  | '0' :: 'x' :: rest => number? 16 rest
  | '0' :: 'X' :: rest => number? 16 rest
  | ['0'] => some 0
  | '0' :: rest => number? 8 rest
  | text => number? 10 text

/-- The parts of a domain between points, without the empty one after a point at the end. -/
def parts (text : List Char) : List (List Char) :=
  let parts := Text.splitAt '.' text
  match parts.reverse with
  | [] :: rest => if rest.isEmpty then parts else rest.reverse
  | _ => parts

def endsInNumber (text : List Char) : Bool :=
  match (parts text).getLast? with
  | none => false
  | some [] => false
  | some last => last.all Char.isDigit || (part? last).isSome

/-- The address of some numbers: each but the last is one byte, the last fills what is left. -/
def addressOf? : (place : Nat) → List Nat → Option Nat
  | _, [] => none
  | place, [last] => if last < Nat.pow 256 (place + 1) then some last else none
  | 0, _ :: _ :: _ => none
  | place + 1, n :: rest => do
    if n < 256 then some (n * Nat.pow 256 (place + 1) + (← addressOf? place rest)) else none

def ipv4? (text : List Char) : Option Nat := do
  addressOf? 3 (← (parts text).mapM part?)

def ipv4Bytes (address : Nat) : List Nat :=
  [address / Nat.pow 256 3 % 256, address / Nat.pow 256 2 % 256, address / 256 % 256, address % 256]

def ipv4Text (address : Nat) : List Char :=
  Text.join '.' ((ipv4Bytes address).map (Nat.toDigits 10))

/-! ## Addresses of 128 bits -/

/-- A piece of one to four hexadecimal digits. -/
def piece? (text : List Char) : Option Nat :=
  if 1 ≤ text.length ∧ text.length ≤ 4 then number? 16 text else none

/-- One byte in decimal, without leading zeros. -/
def byte? (text : List Char) : Option Nat := do
  let n ← number? 10 text
  match text with
  | [] => none
  | '0' :: _ :: _ => none
  | _ => if n < 256 then some n else none

/-- The two pieces of four bytes with points between them. -/
def dotted? (text : List Char) : Option (List Nat) := do
  match ← (Text.splitAt '.' text).mapM byte? with
  | [a, b, c, d] => some [a * 256 + b, c * 256 + d]
  | _ => none

/-- The pieces of some groups; only the last group may have points, and only at the end of the
address. -/
def groups? (atEnd : Bool) : List (List Char) → Option (List Nat)
  | [] => some []
  | [last] => if atEnd ∧ last.contains '.' then dotted? last else (piece? last).map ([·])
  | group :: rest => do some ((← piece? group) :: (← groups? atEnd rest))

def groups (text : List Char) : List (List Char) :=
  if text.isEmpty then [] else Text.splitAt ':' text

def splitGap : List Char → Option (List Char × List Char)
  | [] => none
  | ':' :: ':' :: rest => some ([], rest)
  | c :: rest => (splitGap rest).map fun (before, after) => (c :: before, after)

/-- Reads an address; a pair of colons stands for at least one piece of zero. -/
def ipv6? (text : List Char) : Option (List Nat) :=
  match splitGap text with
  | none => do
    let pieces ← groups? true (groups text)
    if pieces.length = 8 then some pieces else none
  | some (before, after) => do
    let left ← groups? false (groups before)
    let right ← groups? true (groups after)
    let count := left.length + right.length
    if count ≤ 7 then some (left ++ List.replicate (8 - count) 0 ++ right) else none

def zeros (pieces : List Nat) : Nat := (pieces.takeWhile (· == 0)).length

/-- The place and the length of the first longest run of zeros. -/
def longestRun : (place : Nat) → List Nat → Nat × Nat
  | place, [] => (place, 0)
  | place, p :: rest =>
    let (later, length) := longestRun (place + 1) rest
    let here := zeros (p :: rest)
    if here < length ∨ here = 0 then (later, length) else (place, here)

/-- Pieces between colons, in lower-case digits. -/
def piecesText (pieces : List Nat) : List Char := Text.join ':' (pieces.map Hex.lowerDigits)

/-- The text of an address: the first longest run of two zeros or more becomes a pair of colons. -/
def ipv6Text (pieces : List Nat) : List Char :=
  let (place, length) := longestRun 0 pieces
  if length < 2 then piecesText pieces
  else piecesText (pieces.take place) ++ ':' :: ':' :: piecesText (pieces.drop (place + length))

/-! ## Domains -/

def domain? (text : List Char) : Option (List Char) := do
  let name ← Domain.ascii? text
  if name.isEmpty ∨ name.any isForbiddenInDomain then none else some name

/-! ## Reading and writing -/

def bracketed? : List Char → Option (List Char)
  | '[' :: rest =>
    match rest.reverse with
    | ']' :: inner => some inner.reverse
    | _ => none
  | _ => none

def parse? (text : List Char) : Option Host :=
  match text with
  | '[' :: _ => do some (.ipv6 (← ipv6? (← bracketed? text)))
  | _ => do
    let name ← domain? (← Utf8.decode? (Percent.decode (Utf8.encode text)))
    if endsInNumber name then some (.ipv4 (← ipv4? name)) else some (.domain name)

def parseName? (text : List Char) : Option Host :=
  match text with
  | '[' :: _ => do some (.ipv6 (← ipv6? (← bracketed? text)))
  | _ =>
    if text.any isForbidden then none
    else some (.verbatim (Percent.encode Percent.isControl text))

def text : Host → List Char
  | .domain name => name
  | .ipv4 address => ipv4Text address
  | .ipv6 pieces => '[' :: ipv6Text pieces ++ [']']
  | .verbatim text => text

/-- Whether a host is the machine itself: the domain `localhost` in any case, an address that starts
with 127, or the address one. -/
def isLoopback : Host → Bool
  | .domain name => Text.sameIgnoringCase name "localhost".toList
  | .ipv4 address => address / Nat.pow 256 3 == 127
  | .ipv6 pieces => pieces == [0, 0, 0, 0, 0, 0, 0, 1]
  | .verbatim _ => false

end Host

end KeyBound
