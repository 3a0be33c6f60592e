import KeyBound.Text.Blank
import KeyBound.Time.Calendar
import KeyBound.Time.Instant

/-!
# Dates of message headers

The date format of mail and HTTP headers, such as `Tue, 14 Nov 2023 22:13:20 GMT`. Between its
parts may stand blanks and comments in parentheses. The name of the weekday may be left out and is
not checked against the date, seconds may be left out, and years may have two digits. The sixtieth
second is read as the last nanosecond before midnight, at the end of a month in universal time only.

Every reader takes its part from the head of a text and gives back what follows.
-/

set_option autoImplicit false

namespace KeyBound

/-- A date and time with the distance of its zone from universal time. -/
structure MailDate where
  /-- Nanoseconds since 1970 in universal time. -/
  nanos : Int
  /-- Seconds that the zone is ahead of universal time. -/
  offset : Int
  deriving DecidableEq, Repr

namespace MailDate

/-- The number of comments that may stand inside one another. -/
def commentLimit : Nat := 31

/-- Passes over the rest of a comment that is some levels deep. A backslash takes the character
after it along. -/
def endOfComment? : (depth : Nat) → List Char → Option (List Char)
  | _, [] => none
  | _, ['\\'] => none
  | depth, '\\' :: _ :: rest => endOfComment? depth rest
  | depth, '(' :: rest => if commentLimit ≤ depth then none else endOfComment? (depth + 1) rest
  | depth, ')' :: rest => if depth ≤ 1 then some rest else endOfComment? (depth - 1) rest
  | depth, _ :: rest => endOfComment? depth rest

def isFolding (c : Char) : Bool := c == ' ' || c == '\t'

/-- Passes over blanks and comments. The fuel bounds the number of comments. -/
def skipComments : (fuel : Nat) → List Char → List Char
  | 0, text => text
  | fuel + 1, text =>
    match text.dropWhile isFolding with
    | '(' :: rest =>
      match endOfComment? 1 rest with
      | some rest => skipComments fuel rest
      | none => '(' :: rest
    | rest => rest

def optionalGap (text : List Char) : List Char := skipComments (text.length + 1) text

/-- Passes over blanks and comments, of which there must be some. -/
def gap? (text : List Char) : Option (List Char) :=
  let rest := optionalGap text
  if rest.length < text.length then some rest else none

def blanks? (text : List Char) : Option (List Char) :=
  let rest := text.dropWhile isFolding
  if rest.length < text.length then some rest else none

def mark? (c : Char) : List Char → Option (List Char)
  | [] => none
  | d :: rest => if c = d then some rest else none

def digits? : (count : Nat) → List Char → Option (Nat × List Char)
  | 0, text => some (0, text)
  | _ + 1, [] => none
  | count + 1, c :: rest => do
    if c.isDigit then
      let (n, rest) ← digits? count rest
      some ((c.toNat - 48) * Nat.pow 10 count + n, rest)
    else none

def word? (word text : List Char) : Option (List Char) :=
  if Text.sameIgnoringCase (text.take word.length) word then some (text.drop word.length) else none

/-- The first of some named values whose name is at the head of a text. -/
def named? {α : Type} : List (String × α) → List Char → Option (α × List Char)
  | [], _ => none
  | (name, value) :: others, text =>
    match word? name.toList text with
    | some rest => some (value, rest)
    | none => named? others text

def weekdays : List (String × Unit) :=
  ["Mon", "Tue", "Wed", "Thu", "Fri", "Sat", "Sun"].map (·, ())

def months : List (String × Nat) :=
  [("Jan", 1), ("Feb", 2), ("Mar", 3), ("Apr", 4), ("May", 5), ("Jun", 6), ("Jul", 7), ("Aug", 8),
    ("Sep", 9), ("Oct", 10), ("Nov", 11), ("Dec", 12)]

/-- The zones with names of three letters, and how many hours they are ahead of universal time. -/
def zones : List (String × Int) :=
  [("GMT", 0), ("EST", -5), ("EDT", -4), ("CST", -6), ("CDT", -5), ("MST", -7),
    ("MDT", -6), ("PST", -8), ("PDT", -7)]

/-- Passes over the name of a weekday and its comma. -/
def weekday? (text : List Char) : Option (List Char) :=
  match named? weekdays text with
  | some (_, rest) => (mark? ',' rest).map optionalGap
  | none => some text

def day? (text : List Char) : Option (Nat × List Char) :=
  match digits? 2 text with
  | some found => some found
  | none => digits? 1 text

/-- A year of four digits, or of two that stand for one between 1950 and 2049, and what separates it
from the time. -/
def year? (text : List Char) : Option (Nat × List Char) :=
  match digits? 4 text with
  | some (year, rest) => do if year < 1900 then none else some (year, ← blanks? rest)
  | none => do
    let (year, rest) ← digits? 2 text
    some (if year < 50 then year + 2000 else year + 1900, ← gap? rest)

def second? (text : List Char) : Option (Nat × List Char) :=
  match mark? ':' (optionalGap text) with
  | some rest => digits? 2 (optionalGap rest)
  | none => some (0, text)

/-- Hours and minutes after a sign. The sign is that of the hours, and the minutes take theirs from
them; without hours they count forward. -/
def numericZone? (text : List Char) : Option (Int × List Char) := do
  let (negative, rest) ←
    match text with
    | '+' :: rest => some (false, rest)
    | '-' :: rest => some (true, rest)
    | _ => none
  let (hours, rest) ← digits? 2 rest
  let (minutes, rest) ← digits? 2 rest
  if 25 < hours ∨ 59 < minutes then none
  else
    let seconds : Int := hours * 3600 + minutes * 60
    some (if negative ∧ 0 < hours then -seconds else seconds, rest)

/-- A zone: a name, or hours and minutes. The short names of universal time, `UT` and any letter
other than J, have to end the text. -/
def zone? (text : List Char) : Option (Int × List Char) :=
  match text with
  | [] => none
  | [c] => if c.isAlpha ∧ c.toUpper ≠ 'J' then some (0, []) else none
  | [_, _] => (word? "UT".toList text).map fun rest => (0, rest)
  | _ =>
    match named? zones text with
    | some (hours, rest) => some (hours * 3600, rest)
    | none => numericZone? text

def secondsPerDay : Int := 86400

/-- Whether some second of universal time is the last one of a month. -/
def endsMonth (unix : Int) : Bool :=
  unix.fmod secondsPerDay == secondsPerDay - 1 && (Date.ofDays (unix.fdiv secondsPerDay)).endsMonth

/-- The date and time of parts that have been read, if there is such a time. -/
def ofParts? (date : Date) (hour minute second : Nat) (offset : Int) : Option MailDate :=
  if !date.isValid ∨ 23 < hour ∨ 59 < minute then none
  else
    let minutes := date.toDays * 1440 + hour * 60 + minute
    if second < 60 then some ⟨(minutes * 60 + second - offset) * nanosPerSecond, offset⟩
    else if second = 60 ∧ endsMonth (minutes * 60 + 59 - offset) then
      some ⟨(minutes * 60 + 60 - offset) * nanosPerSecond - 1, offset⟩
    else none

def parse? (text : List Char) : Option MailDate := do
  let rest ← weekday? (optionalGap text)
  let (day, rest) ← day? rest
  let (month, rest) ← named? months (← gap? rest)
  let (year, rest) ← year? (← gap? rest)
  let (hour, rest) ← digits? 2 rest
  let rest ← mark? ':' (optionalGap rest)
  let (minute, rest) ← digits? 2 (optionalGap rest)
  let (second, rest) ← second? rest
  let (offset, rest) ← zone? (← gap? rest)
  if (optionalGap rest).isEmpty then ofParts? ⟨year, month, day⟩ hour minute second offset else none

/-- The whole seconds since 1970, rounded down. -/
def seconds (date : MailDate) : Int := date.nanos.fdiv nanosPerSecond

/-- The whole milliseconds since 1970, rounded toward it. -/
def millis (date : MailDate) : Int := date.nanos.tdiv nanosPerMilli

end MailDate

end KeyBound
