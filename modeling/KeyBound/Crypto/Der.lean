import KeyBound.Crypto.Sha256
import KeyBound.Time.Calendar

/-!
# Distinguished encoding

Two readers of nested tagged values. `Der.element?` reads one element and insists on the shortest
form of its length; keys are read with it before they sign. `Der.blocks?` reads a whole document
and forgives longer forms; what kind of key a document holds is decided on its blocks.
-/

set_option autoImplicit false

namespace KeyBound.Der

/-! ## Elements -/

structure Element where
  tag : UInt8
  content : Bytes
  rest : Bytes

/-- The content of a length and what follows it, if there is as much. -/
def takeContent? (tag : UInt8) (length : Nat) (bytes : Bytes) : Option Element :=
  if length ≤ bytes.length then some ⟨tag, bytes.take length, bytes.drop length⟩ else none

/-- Reads one element. Its length takes at most two bytes more than the first, and no more than it
needs. -/
def element? : Bytes → Option Element
  | tag :: a :: rest =>
    if tag.toNat % 32 = 31 then none
    else if a < 0x80 then takeContent? tag a.toNat rest
    else if a = 0x81 then
      match rest with
      | b :: rest => if b < 0x80 then none else takeContent? tag b.toNat rest
      | [] => none
    else if a = 0x82 then
      match rest with
      | b :: c :: rest => if b = 0 then none else takeContent? tag (b.toNat * 256 + c.toNat) rest
      | _ => none
    else none
  | _ => none

def expect? (tag : UInt8) (bytes : Bytes) : Option (Bytes × Bytes) := do
  let element ← element? bytes
  if element.tag = tag then some (element.content, element.rest) else none

/-- The number that bytes stand for, the most significant first. -/
def number (bytes : Bytes) : Nat := bytes.foldl (fun n b => n * 256 + b.toNat) 0

/-- Tags that keys are made of. -/
def integerTag : UInt8 := 0x02
def bitStringTag : UInt8 := 0x03
def octetStringTag : UInt8 := 0x04
def sequenceTag : UInt8 := 0x30

/-- The content of an integer that is not negative, in its shortest form. -/
def natural? : Bytes → Option Nat
  | [] => none
  | [a] => if a < 0x80 then some a.toNat else none
  | a :: b :: rest =>
    if a = 0 then if b < 0x80 then none else some (number (b :: rest))
    else if a < 0x80 then some (number (a :: b :: rest))
    else none

def integer? (bytes : Bytes) : Option (Nat × Bytes) := do
  let (content, rest) ← expect? integerTag bytes
  some (← natural? content, rest)

def positive? (bytes : Bytes) : Option (Nat × Bytes) := do
  let (n, rest) ← integer? bytes
  if n = 0 then none else some (n, rest)

def whole? (tag : UInt8) (bytes : Bytes) : Option Bytes := do
  let (content, rest) ← expect? tag bytes
  if rest.isEmpty then some content else none

/-! ## Blocks -/

/-- A block of a document, as far as the kind of a key depends on it. -/
inductive Block where
  | sequence (items : List Block)
  | identifier (arcs : List Nat)
  /-- A bit string or an octet string. -/
  | bytes (content : Bytes)
  | other

/-- Reads a number of seven bits a byte. -/
def base128? : (sofar : Nat) → Bytes → Option (Nat × Bytes)
  | _, [] => none
  | n, b :: rest =>
    let n := n * 128 + b.toNat % 128
    if b < 0x80 then some (n, rest) else base128? n rest

/-- The numbers of seven bits a byte that fill a byte string. The fuel bounds their count. -/
def arcs? : (fuel : Nat) → Bytes → Option (List Nat)
  | _, [] => some []
  | 0, _ :: _ => none
  | fuel + 1, bytes => do
    let (n, rest) ← base128? 0 bytes
    some (n :: (← arcs? fuel rest))

/-- The arcs of an object identifier; its first byte holds two of them. -/
def identifier? : Bytes → Option (List Nat)
  | [] => none
  | b :: rest => do
    let first := min (b.toNat / 40) 2
    some (first :: (b.toNat - first * 40) :: (← arcs? rest.length rest))

/-- Reads the length of a block: one byte, or up to eight after one that tells how many. -/
def length? : Bytes → Option (Nat × Bytes)
  | [] => none
  | a :: rest =>
    if a < 0x80 then some (a.toNat, rest)
    else
      let count := a.toNat - 0x80
      if 8 < count ∨ rest.length < count then none
      else some (number (rest.take count), rest.drop count)

def isPrintable (b : UInt8) : Bool :=
  let c := Char.ofNat b.toNat
  c.isAlphanum || " '()+,-./:=?".toList.contains c

def decimal? (digits : Bytes) : Option Nat :=
  if digits.all fun b => 0x30 ≤ b && b ≤ 0x39 then
    some (digits.foldl (fun n b => n * 10 + (b.toNat - 0x30)) 0)
  else none

/-- Whether fourteen digits are a date and time. -/
def isTimestamp (digits : Bytes) : Bool :=
  match decimal? digits with
  | some n =>
    let date : Date := ⟨(n / Nat.pow 10 10 : Nat), n / Nat.pow 10 8 % 100, n / Nat.pow 10 6 % 100⟩
    digits.length == 14 && date.isValid && n / 10000 % 100 < 24 && n / 100 % 100 < 60 &&
      n % 100 < 60
  | none => false

/-- Whether the content of a time with two digits for the year is sound. -/
def isShortTime (content : Bytes) : Bool :=
  content.length == 13 && content.getLast? == some 0x5A &&
    isTimestamp ((if content.headD 0 < 0x35 then [0x32, 0x30] else [0x31, 0x39]) ++ content.take 12)

/-- Whether some bytes are a fraction of a second, of any number of digits, and the mark of
universal time. -/
def isFractionAndMark (bytes : Bytes) : Bool :=
  bytes.getLast? == some 0x5A && (decimal? bytes.dropLast).isSome

/-- Whether the content of a time with four digits for the year is sound. The point before the
fraction of a second may be missing, unless the year has a sign. -/
def isLongTime : Bytes → Bool
  | [] => false
  | sign :: content =>
    let (signed, digits) :=
      if sign = 0x2B ∨ sign = 0x2D then (true, content) else (false, sign :: content)
    isTimestamp (digits.take 14) &&
      match digits.drop 14 with
      | [] => false
      | point :: fraction =>
        if point = 0x2E then isFractionAndMark fraction
        else !signed && isFractionAndMark (point :: fraction)

/-- The block of a primitive type with a given tag, if its content is sound. -/
def primitive? (tag : Nat) (content : Bytes) : Option Block :=
  let sound (condition : Bool) : Option Block := if condition then some .other else none
  match tag with
  | 0x01 => sound (content.length == 1)
  | 0x03 =>
    match content with
    | [] => some (.bytes [])
    | unused :: bits => if bits.length * 8 < unused.toNat then none else some (.bytes bits)
  | 0x04 => some (.bytes content)
  | 0x06 => (identifier? content).map .identifier
  | 0x0C | 0x14 | 0x1C | 0x1E => sound (Utf8.decode? content).isSome
  | 0x13 => sound (content.all isPrintable)
  | 0x17 => sound (isShortTime content)
  | 0x18 => sound (isLongTime content)
  | _ => some .other

/-- Reads blocks one after the other. Blocks of other than universal classes are not looked into. A
sequence or set may not be empty. The fuel bounds their count and depth. -/
def readBlocks : (fuel : Nat) → Bytes → Option (List Block)
  | _, [] => some []
  | 0, _ :: _ => none
  | fuel + 1, first :: rest => do
    let (tag, rest) ←
      if first.toNat % 32 = 31 then base128? 0 rest else some (first.toNat % 32, rest)
    let (length, rest) ← length? rest
    if rest.length < length then none
    let content := rest.take length
    let block ←
      if 0x40 ≤ first then some .other
      else if tag = 0x10 ∨ tag = 0x11 then do
        let items ← readBlocks fuel content
        if items.isEmpty then none
        else some (if tag = 0x10 then .sequence items else .other)
      else primitive? tag content
    some (block :: (← readBlocks fuel (rest.drop length)))

def blocks? (bytes : Bytes) : Option (List Block) := do
  let blocks ← readBlocks bytes.length bytes
  if blocks.isEmpty then none else some blocks

mutual

/-- The first value that a function gives to an identifier in a block, depth first. -/
def Block.findIdentifier? {α : Type} (f : List Nat → Option α) : Block → Option α
  | .sequence items => findIdentifier? f items
  | .identifier arcs => f arcs
  | .bytes _ | .other => none

def findIdentifier? {α : Type} (f : List Nat → Option α) : List Block → Option α
  | [] => none
  | block :: rest => (block.findIdentifier? f).or (findIdentifier? f rest)

end

mutual

def Block.firstBytes? : Block → Option Bytes
  | .sequence items => firstBytes? items
  | .bytes content => some content
  | .identifier _ | .other => none

def firstBytes? : List Block → Option Bytes
  | [] => none
  | block :: rest => block.firstBytes?.or (firstBytes? rest)

end

end KeyBound.Der
