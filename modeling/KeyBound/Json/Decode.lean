import KeyBound.Json.Document
import KeyBound.Json.Value

/-!
# Decoding JSON

Decoders turn a document into a value of some type, or say why not and where. They look at a
document from left to right, so the first thing wrong with it decides, be it the grammar or the
type. Arrays and objects may be nested 127 deep.

A record is written as an object whose unknown members are passed over, or as an array of its
fields in order. Of a field that stands twice, neither counts: the record is refused. A colon that
is missing is a defect of the object, not of its member.
-/

set_option autoImplicit false

namespace KeyBound.Json

/-- What went wrong: the text ends too early, is not JSON, or is JSON of another shape. -/
inductive Cause where
  | truncated
  | malformed
  | mismatched
  deriving DecidableEq, Repr

def Defect.cause : Defect → Cause
  | .truncated => .truncated
  | .malformed => .malformed

inductive Step where
  | key (name : String)
  | index (i : Nat)
  /-- The member after the last one that could be read. -/
  | unknownKey
  deriving DecidableEq, Repr

/-- What went wrong, and the way from the root to the innermost value that was being read. -/
structure Failure where
  cause : Cause
  path : List Step
  deriving DecidableEq, Repr

namespace Failure

def here (cause : Cause) : Failure := ⟨cause, []⟩

/-- A failure seen from one step further out. -/
def under (step : Step) (failure : Failure) : Failure :=
  { failure with path := step :: failure.path }

end Failure

/-- What a parser says of a text that it refuses, and where it stood then. -/
structure Report where
  reason : String
  line : Nat
  column : Nat
  deriving DecidableEq, Repr

def Report.silent : Report := ⟨"", 0, 0⟩

def Step.text : Step → List Char
  | .key name => name.toList
  | .index i => '[' :: natText i ++ [']']
  | .unknownKey => ['?']

/-- The text of the steps after the first: keys follow a point, indices do not. -/
def Step.textAfter : Step → List Char
  | .index i => (Step.index i).text
  | step => '.' :: step.text

/-- The text of a path; the root is a point. -/
def pathText : List Step → String
  | [] => "."
  | step :: rest => String.ofList (step.text ++ rest.flatMap Step.textAfter)

/-- Reads a value below some number of further levels of nesting. -/
abbrev Decoder (α : Type) := (depth : Nat) → Doc → Except Failure α

/-- The number of levels that the nesting of a text may not reach. -/
def depthLimit : Nat := 128

def descend : (depth : Nat) → Except Failure Nat
  | 0 | 1 => .error (.here .malformed)
  | depth + 1 => .ok depth

def within {α : Type} (step : Step) (result : Except Failure α) : Except Failure α :=
  result.mapError (Failure.under step)

/-- What is wrong with a value where one of another kind was called for. A text or a number has to
be sound before its kind counts. -/
def mismatch : Doc → Cause
  | .null | .bool _ | .array _ | .object _ => .mismatched
  | .number literal => if literal.value?.isSome then .mismatched else .malformed
  | .string pieces =>
    match textOf pieces with
    | .ok _ => .mismatched
    | .error defect => defect.cause
  | .absent => .truncated
  | .broken defect | .brokenNumber defect => defect.cause
  | .brokenString pieces defect => (cutDefect pieces defect).cause

/-! ## Scalars -/

def decodeBool : Decoder Bool
  | _, .bool b => .ok b
  | _, doc => .error (.here (mismatch doc))

/-- An integer of a closed range, written without fraction and exponent. -/
def decodeInteger (low high : Int) : Decoder Int
  | _, .number literal =>
    match literal.value? with
    | some (.integer n) => if low ≤ n ∧ n ≤ high then .ok n else .error (.here .mismatched)
    | some (.float _) => .error (.here .mismatched)
    | none => .error (.here .malformed)
  | _, doc => .error (.here (mismatch doc))

def decodeNatBelow (bound : Nat) : Decoder Nat :=
  fun depth doc => (decodeInteger 0 (bound - 1) depth doc).map Int.toNat

def decodeInt64 : Decoder Int := decodeInteger (-(Nat.pow 2 63 : Nat)) ((Nat.pow 2 63 : Nat) - 1)

def decodeText : Decoder String
  | _, .string pieces => (textOf pieces).mapError fun defect => .here defect.cause
  | _, doc => .error (.here (mismatch doc))

def decodeNullable {α : Type} (value : Decoder α) : Decoder (Option α)
  | _, .null => .ok none
  | depth, doc => (value depth doc).map some

/-! ## Lists and tables -/

def decodeItems {α : Type} (item : Decoder α) (depth : Nat) :
    (index : Nat) → Items → Except Failure (List α)
  | _, .closed => .ok []
  | _, .broken defect | _, .trailing defect => .error (.here defect.cause)
  | index, .item value rest => do
    let first ← within (.index index) (item depth value)
    let others ← decodeItems item depth (index + 1) rest
    .ok (first :: others)

def decodeList {α : Type} (item : Decoder α) : Decoder (List α)
  | depth, .array items => do decodeItems item (← descend depth) 0 items
  | _, doc => .error (.here (mismatch doc))

def keyText (pieces : List Piece) : Except Failure String :=
  (textOf pieces).mapError fun defect => ⟨defect.cause, [.unknownKey]⟩

def decodeEntries {α : Type} (value : Decoder α) (depth : Nat) :
    List (String × α) → Members → Except Failure (List (String × α))
  | entries, .closed => .ok entries
  | _, .broken defect | _, .unkeyed defect => .error ⟨defect.cause, [.unknownKey]⟩
  | _, .brokenKey pieces defect => .error ⟨(cutDefect pieces defect).cause, [.unknownKey]⟩
  | _, .keyAlone key defect => (keyText key).bind fun _ => .error (.here defect.cause)
  | entries, .member key doc rest => do
    let key ← keyText key
    let found ← within (.key key) (value depth doc)
    decodeEntries value depth (setMember key found entries) rest

/-- A table from texts to values; the last entry of a key counts. -/
def decodeTable {α : Type} (value : Decoder α) : Decoder (List (String × α))
  | depth, .object members => do decodeEntries value (← descend depth) [] members
  | _, doc => .error (.here (mismatch doc))

mutual

def decodeValue : Decoder Value
  | _, .null => .ok .null
  | _, .bool b => .ok (.bool b)
  | _, .number literal =>
    match literal.value? with
    | some n => .ok (.number n)
    | none => .error (.here .malformed)
  | _, .string pieces =>
    match textOf pieces with
    | .ok text => .ok (.text text)
    | .error defect => .error (.here defect.cause)
  | depth, .array items => do .ok (.array (← decodeValueItems (← descend depth) 0 items))
  | depth, .object members => do .ok (.object (← decodeValueMembers (← descend depth) [] members))
  | _, .absent => .error (.here .truncated)
  | _, .broken defect | _, .brokenNumber defect => .error (.here defect.cause)
  | _, .brokenString pieces defect => .error (.here (cutDefect pieces defect).cause)

def decodeValueItems (depth : Nat) : (index : Nat) → Items → Except Failure (List Value)
  | _, .closed => .ok []
  | _, .broken defect | _, .trailing defect => .error (.here defect.cause)
  | index, .item value rest => do
    let first ← within (.index index) (decodeValue depth value)
    let others ← decodeValueItems depth (index + 1) rest
    .ok (first :: others)

/-- The members of an object, put into those before them; the last one of a key counts. -/
def decodeValueMembers (depth : Nat) :
    List (String × Value) → Members → Except Failure (List (String × Value))
  | before, .closed => .ok before
  | _, .broken defect | _, .unkeyed defect => .error ⟨defect.cause, [.unknownKey]⟩
  | _, .brokenKey pieces defect => .error ⟨(cutDefect pieces defect).cause, [.unknownKey]⟩
  | _, .keyAlone key defect => (keyText key).bind fun _ => .error (.here defect.cause)
  | before, .member key doc rest => do
    let key ← keyText key
    let value ← within (.key key) (decodeValue depth doc)
    decodeValueMembers depth (setMember key value before) rest

end

/-! ## Labels -/

/-- Whether nothing but null and the closing brace follows, as after the label of an enumeration. -/
def decodeLabelTail (value : Doc) (rest : Members) : Except Failure Unit :=
  match value with
  | .null =>
    match rest with
    | .closed => .ok ()
    | .broken defect => .error (.here defect.cause)
    | _ => .error (.here .malformed)
  | doc => .error (.here (mismatch doc))

/-- One of some labelled values, written as its label or as an object with the label as its only key
and null as its value. -/
def decodeLabel {α : Type} (ofLabel? : String → Option α) : Decoder α
  | _, .string pieces => do
    let text ← (textOf pieces).mapError fun defect => Failure.here defect.cause
    match ofLabel? text with
    | some a => .ok a
    | none => .error (.here .mismatched)
  | _, .brokenString pieces defect => .error (.here (cutDefect pieces defect).cause)
  | _, .absent => .error (.here .truncated)
  | depth, .object members => do
    let _ ← descend depth
    match members with
    | .member key value rest =>
      let text ← (textOf key).mapError fun defect => Failure.here defect.cause
      match ofLabel? text with
      | none => .error (.here .mismatched)
      | some a =>
        decodeLabelTail value rest
        .ok a
    | .keyAlone key defect =>
      let text ← (textOf key).mapError fun defect => Failure.here defect.cause
      .error (.here (if (ofLabel? text).isSome then defect.cause else .mismatched))
    | .brokenKey pieces defect => .error (.here (cutDefect pieces defect).cause)
    | .broken defect | .unkeyed defect => .error (.here defect.cause)
    | .closed => .error (.here .malformed)
  | _, _ => .error (.here .malformed)

/-! ## Records -/

/-- A field: its key, whether it has to stand, and what its value does to the record. A field that
need not stand may be missing from an object and from the end of an array. -/
structure Field (α : Type) where
  name : String
  required : Bool
  update : Decoder (α → α)

def Field.ofDecoder {α β : Type} (name : String) (required : Bool) (value : Decoder β)
    (put : β → α → α) : Field α :=
  ⟨name, required, fun depth doc => (value depth doc).map put⟩

def field? {α : Type} (key : String) (fields : List (Field α)) : Option (Field α) :=
  fields.find? (·.name == key)

/-- Reads the members of a record into it, and checks in the end that no required field is
missing. -/
def decodeMembers {α : Type} (fields : List (Field α)) (depth : Nat) :
    (seen : List String) → α → Members → Except Failure α
  | seen, record, .closed =>
    if fields.all fun field => !field.required || seen.contains field.name then
      .ok record
    else .error (.here .mismatched)
  | _, _, .broken defect | _, _, .unkeyed defect => .error ⟨defect.cause, [.unknownKey]⟩
  | _, _, .brokenKey pieces defect => .error ⟨(cutDefect pieces defect).cause, [.unknownKey]⟩
  | seen, _, .keyAlone key defect => do
    let key ← keyText key
    let isRepeated := (field? key fields).isSome && seen.contains key
    .error (.here (if isRepeated then .mismatched else defect.cause))
  | seen, record, .member key doc rest => do
    let key ← keyText key
    match field? key fields with
    | some field =>
      if seen.contains key then .error (.here .mismatched)
      else
        let update ← within (.key key) (field.update depth doc)
        decodeMembers fields depth (key :: seen) (update record) rest
    | none =>
      match doc.defect? with
      | some defect => .error ⟨defect.cause, [.key key]⟩
      | none => decodeMembers fields depth seen record rest

/-- Reads the items of an array as the fields of a record in order. -/
def decodePositions {α : Type} (depth : Nat) :
    (index : Nat) → List (Field α) → α → Items → Except Failure α
  | _, [], record, .closed => .ok record
  | _, [], _, .broken defect => .error (.here defect.cause)
  | _, [], _, _ => .error (.here .malformed)
  | _, fields, record, .closed =>
    if fields.all (!·.required) then .ok record else .error (.here .mismatched)
  | _, _ :: _, _, .broken defect | _, _ :: _, _, .trailing defect => .error (.here defect.cause)
  | index, field :: fields, record, .item value rest => do
    let update ← within (.index index) (field.update depth value)
    decodePositions depth (index + 1) fields (update record) rest

/-- A record, from what it is before any field is read. -/
def decodeRecord {α : Type} (blank : α) (fields : List (Field α)) : Decoder α
  | depth, .object members => do decodeMembers fields (← descend depth) [] blank members
  | depth, .array items => do decodePositions (← descend depth) 0 fields blank items
  | _, doc => .error (.here (mismatch doc))

/-! ## Texts -/

/-- Decodes the value at the head of a text, whatever follows it. -/
def decodeHead {α : Type} (decoder : Decoder α) (bytes : Bytes) : Except Failure α :=
  decoder depthLimit (read bytes).1

/-- As much of a text as a parser takes to read the value at its head: the value and what precedes
it, or all of it if the value breaks off. -/
def headText (bytes : Bytes) : Bytes :=
  match (read bytes).2 with
  | some rest => bytes.take (bytes.length - rest.length)
  | none => bytes

def decodeWhole {α : Type} (decoder : Decoder α) (bytes : Bytes) : Except Failure α := do
  let (doc, rest) := read bytes
  let value ← decoder depthLimit doc
  match rest with
  | some rest => if (skipSpace rest).isEmpty then .ok value else .error (.here .malformed)
  | none => .ok value

end KeyBound.Json
