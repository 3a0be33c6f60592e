import KeyBound.Json.Number
import KeyBound.Text.Hex

/-!
# JSON texts

A JSON text read as far as it goes. `Json.read` never fails: where the grammar stops to apply, the
document has a node that says so, and everything before it is kept. What a reader of some type
then reports depends on the order in which it looks at the nodes, so a type error ahead of a
syntax error wins.

Two readings of a literal are kept apart. A value that is passed over needs to be delimited only:
escapes must be escapes and digits must be digits. A value that is used also needs paired
surrogates, valid UTF-8 and a number that a double can hold.
-/

set_option autoImplicit false

namespace KeyBound.Json

/-- Why a text is not JSON: it ends too early, or something stands where it may not. -/
inductive Defect where
  | truncated
  | malformed
  deriving DecidableEq, Repr

/-- A piece of a string literal: a byte that stands for itself, an escaped character, or an escaped
UTF-16 unit. -/
inductive Piece where
  | byte (b : UInt8)
  | char (c : Char)
  | unit (n : Nat)
  deriving DecidableEq, Repr

mutual

/-- A JSON text, or as much of one as there is. -/
inductive Doc where
  | null
  | bool (value : Bool)
  | number (literal : NumberLiteral)
  | string (pieces : List Piece)
  | array (items : Items)
  | object (members : Members)
  /-- The text ends before a value. -/
  | absent
  /-- No value starts here, or one of the words breaks off. -/
  | broken (defect : Defect)
  /-- A number breaks off. -/
  | brokenNumber (defect : Defect)
  /-- A string breaks off after some pieces. -/
  | brokenString (pieces : List Piece) (defect : Defect)

/-- The items of an array up to its bracket, or up to what stands in its way. -/
inductive Items where
  | closed
  /-- Neither a comma nor the bracket follows. -/
  | broken (defect : Defect)
  /-- A comma follows, but no item. -/
  | trailing (defect : Defect)
  | item (value : Doc) (rest : Items)

/-- The members of an object up to its brace, or up to what stands in its way. -/
inductive Members where
  | closed
  /-- Neither a comma nor the brace follows. -/
  | broken (defect : Defect)
  /-- The opening brace or a comma calls for a key, but none follows. -/
  | unkeyed (defect : Defect)
  /-- A key breaks off after some pieces. -/
  | brokenKey (pieces : List Piece) (defect : Defect)
  /-- No colon follows a key. -/
  | keyAlone (key : List Piece) (defect : Defect)
  | member (key : List Piece) (value : Doc) (rest : Members)

end

/-! ## Literals -/

def isSpace (b : UInt8) : Bool := b = 0x20 || b = 0x09 || b = 0x0A || b = 0x0D

def skipSpace (bytes : Bytes) : Bytes := bytes.dropWhile isSpace

def escaped? (b : UInt8) : Option Char :=
  if b = 0x22 then some '"'
  else if b = 0x5C then some '\\'
  else if b = 0x2F then some '/'
  else if b = 0x62 then some '\x08'
  else if b = 0x66 then some '\x0c'
  else if b = 0x6E then some '\n'
  else if b = 0x72 then some '\r'
  else if b = 0x74 then some '\t'
  else none

def unit? (a b c d : UInt8) : Option Nat := do
  some ((((← Hex.byteValue? a) * 16 + (← Hex.byteValue? b)) * 16 +
    (← Hex.byteValue? c)) * 16 + (← Hex.byteValue? d))

/-- Reads a string literal after its opening quote: the pieces, and what follows the closing quote
or the reason why there is none. Four bytes must follow an escaped `u` before their digits count. -/
def readString : Bytes → List Piece × Except Defect Bytes
  | [] => ([], .error .truncated)
  | b :: rest =>
    if b = 0x22 then ([], .ok rest)
    else if b = 0x5C then
      match rest with
      | [] => ([], .error .truncated)
      | e :: rest =>
        if e = 0x75 then
          match rest with
          | p :: q :: r :: s :: rest =>
            match unit? p q r s with
            | some n =>
              let (pieces, result) := readString rest
              (.unit n :: pieces, result)
            | none => ([], .error .malformed)
          | _ => ([], .error .truncated)
        else
          match escaped? e with
          | some c =>
            let (pieces, result) := readString rest
            (.char c :: pieces, result)
          | none => ([], .error .malformed)
    else if b < 0x20 then ([], .error .malformed)
    else
      let (pieces, result) := readString rest
      (.byte b :: pieces, result)

def isDigit (b : UInt8) : Bool := 0x30 ≤ b && b ≤ 0x39

def readDigits (bytes : Bytes) : List Nat × Bytes :=
  ((bytes.takeWhile isDigit).map (·.toNat - 48), bytes.dropWhile isDigit)

def readSomeDigits (bytes : Bytes) : Except Defect (List Nat × Bytes) :=
  match bytes with
  | [] => .error .truncated
  | b :: _ => if isDigit b then .ok (readDigits bytes) else .error .malformed

def readExponent : Bytes → Except Defect (Option (Bool × List Nat) × Bytes)
  | [] => .ok (none, [])
  | b :: rest =>
    if b = 0x65 ∨ b = 0x45 then
      let (negative, rest) :=
        match rest with
        | [] => (false, [])
        | sign :: after =>
          if sign = 0x2D then (true, after)
          else if sign = 0x2B then (false, after) else (false, rest)
      (readSomeDigits rest).map fun (digits, rest) => (some (negative, digits), rest)
    else .ok (none, b :: rest)

def readFraction : Bytes → Except Defect (List Nat × Bytes)
  | [] => .ok ([], [])
  | b :: rest => if b = 0x2E then readSomeDigits rest else .ok ([], b :: rest)

/-- The whole part of a number: a single zero, or digits that start with another one. -/
def readWhole (bytes : Bytes) : Except Defect (List Nat × Bytes) := do
  let (digits, rest) ← readSomeDigits bytes
  match digits with
  | 0 :: _ :: _ => .error .malformed
  | _ => .ok (digits, rest)

def readNumber (negative : Bool) (bytes : Bytes) : Except Defect (NumberLiteral × Bytes) := do
  let (whole, rest) ← readWhole bytes
  let (fraction, rest) ← readFraction rest
  let (exponent, rest) ← readExponent rest
  .ok (⟨negative, whole, fraction, exponent⟩, rest)

def readWord : (word : Bytes) → Bytes → Except Defect Bytes
  | [], bytes => .ok bytes
  | _ :: _, [] => .error .truncated
  | w :: word, b :: rest => if w = b then readWord word rest else .error .malformed

def wordNode (word : Bytes) (value : Doc) (bytes : Bytes) : Doc × Option Bytes :=
  match readWord word bytes with
  | .ok rest => (value, some rest)
  | .error defect => (.broken defect, none)

def numberNode (negative : Bool) (bytes : Bytes) : Doc × Option Bytes :=
  match readNumber negative bytes with
  | .ok (literal, rest) => (.number literal, some rest)
  | .error defect => (.brokenNumber defect, none)

/-! ## Documents -/

mutual

/-- Reads one value; what follows it is missing where the value breaks off. The fuel bounds the
number of nested calls. -/
def readValue : Nat → Bytes → Doc × Option Bytes
  | 0, _ => (.broken .malformed, none)
  | fuel + 1, bytes =>
    match skipSpace bytes with
    | [] => (.absent, none)
    | b :: rest =>
      if b = 0x22 then
        match readString rest with
        | (pieces, .ok rest) => (.string pieces, some rest)
        | (pieces, .error defect) => (.brokenString pieces defect, none)
      else if b = 0x5B then
        let (items, rest) := readItems fuel true rest
        (.array items, rest)
      else if b = 0x7B then
        let (members, rest) := readMembers fuel true rest
        (.object members, rest)
      else if b = 0x6E then wordNode [0x75, 0x6C, 0x6C] .null rest
      else if b = 0x74 then wordNode [0x72, 0x75, 0x65] (.bool true) rest
      else if b = 0x66 then wordNode [0x61, 0x6C, 0x73, 0x65] (.bool false) rest
      else if b = 0x2D then numberNode true rest
      else if isDigit b then numberNode false (b :: rest)
      else (.broken .malformed, none)

def readItems : Nat → (first : Bool) → Bytes → Items × Option Bytes
  | 0, _, _ => (.broken .malformed, none)
  | fuel + 1, first, bytes =>
    match skipSpace bytes with
    | [] => (.broken .truncated, none)
    | b :: rest =>
      if b = 0x5D then (.closed, some rest)
      else if first then readItem fuel (b :: rest)
      else if b = 0x2C then
        match skipSpace rest with
        | [] => (.trailing .truncated, none)
        | c :: rest =>
          if c = 0x5D then (.trailing .malformed, none) else readItem fuel (c :: rest)
      else (.broken .malformed, none)

def readItem : Nat → Bytes → Items × Option Bytes
  | 0, _ => (.broken .malformed, none)
  | fuel + 1, bytes =>
    match readValue fuel bytes with
    | (value, none) => (.item value (.broken .malformed), none)
    | (value, some rest) =>
      let (items, rest) := readItems fuel false rest
      (.item value items, rest)

/-- Reads members from the opening brace or the end of a member on. -/
def readMembers : Nat → (first : Bool) → Bytes → Members × Option Bytes
  | 0, _, _ => (.broken .malformed, none)
  | fuel + 1, first, bytes =>
    match skipSpace bytes with
    | [] => (.broken .truncated, none)
    | b :: rest =>
      if b = 0x7D then (.closed, some rest)
      else if first then
        if b = 0x22 then readMember fuel rest else (.unkeyed .malformed, none)
      else if b = 0x2C then
        match skipSpace rest with
        | [] => (.unkeyed .truncated, none)
        | c :: rest => if c = 0x22 then readMember fuel rest else (.unkeyed .malformed, none)
      else (.broken .malformed, none)

def readMember : Nat → Bytes → Members × Option Bytes
  | 0, _ => (.broken .malformed, none)
  | fuel + 1, bytes =>
    match readString bytes with
    | (pieces, .error defect) => (.brokenKey pieces defect, none)
    | (pieces, .ok rest) =>
      match skipSpace rest with
      | [] => (.keyAlone pieces .truncated, none)
      | colon :: rest =>
        if colon = 0x3A then
          match readValue fuel rest with
          | (value, none) => (.member pieces value (.broken .malformed), none)
          | (value, some rest) =>
            let (members, rest) := readMembers fuel false rest
            (.member pieces value members, rest)
        else (.keyAlone pieces .malformed, none)

end

/-- Reads the value at the head of a text. Each byte of the text is the first of at most three
nested calls, which fixes the fuel. -/
def read (bytes : Bytes) : Doc × Option Bytes := readValue (3 * bytes.length + 3) bytes

/-! ## Passing over a value -/

mutual

/-- The reason why a value cannot be passed over, if there is one. -/
def Doc.defect? : Doc → Option Defect
  | .null | .bool _ | .number _ | .string _ => none
  | .array items => items.defect?
  | .object members => members.defect?
  | .absent => some .truncated
  | .broken defect => some defect
  | .brokenNumber _ => some .malformed
  | .brokenString _ defect => some defect

def Items.defect? : Items → Option Defect
  | .closed => none
  | .broken defect | .trailing defect => some defect
  | .item value rest => value.defect?.or rest.defect?

def Members.defect? : Members → Option Defect
  | .closed => none
  | .broken defect | .unkeyed defect | .brokenKey _ defect | .keyAlone _ defect => some defect
  | .member _ value rest => value.defect?.or rest.defect?

end

/-! ## The text of a string literal -/

/-- Whether a UTF-16 unit starts a surrogate pair. -/
def isLeading (n : Nat) : Bool := 0xD800 ≤ n && n ≤ 0xDBFF

def isTrailing (n : Nat) : Bool := 0xDC00 ≤ n && n ≤ 0xDFFF

/-- The bytes of some pieces: escaped units are joined in pairs, and one without its partner is
malformed. Where the literal breaks off, `cut` says why, and a leading unit just before that is not
malformed yet. -/
def pieceBytes (cut : Option Defect) : List Piece → Except Defect Bytes
  | [] =>
    match cut with
    | none => .ok []
    | some defect => .error defect
  | .byte b :: rest => (pieceBytes cut rest).map (b :: ·)
  | .char c :: rest => (pieceBytes cut rest).map (Utf8.encodeChar c ++ ·)
  | .unit n :: rest =>
    if isTrailing n then .error .malformed
    else if isLeading n then
      match rest with
      | .unit m :: rest =>
        if isTrailing m then
          let c := Char.ofNat ((n - 0xD800) * 0x400 + (m - 0xDC00) + 0x10000)
          (pieceBytes cut rest).map (Utf8.encodeChar c ++ ·)
        else .error .malformed
      | [] => .error (cut.getD .malformed)
      | _ => .error .malformed
    else (pieceBytes cut rest).map (Utf8.encodeChar (Char.ofNat n) ++ ·)

def textOf (pieces : List Piece) : Except Defect String := do
  match utf8? (← pieceBytes none pieces) with
  | some text => .ok text
  | none => .error .malformed

/-- What a reader of text reports of a literal that breaks off. -/
def cutDefect (pieces : List Piece) (defect : Defect) : Defect :=
  match pieceBytes (some defect) pieces with
  | .error found => found
  | .ok _ => defect

end KeyBound.Json
