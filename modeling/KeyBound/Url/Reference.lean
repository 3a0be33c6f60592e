import KeyBound.Url.Basic

/-!
# URL references

Texts that name a URL, on their own or relative to another. `Url.join?` resolves a reference
against a base; `Url.parse?` reads a URL without one.
-/

set_option autoImplicit false

namespace KeyBound.Url

/-! ## Parts of a reference -/

/-- Tabs and line breaks, which are passed over wherever they stand in a reference. -/
def isBreak (c : Char) : Bool := c == '\t' || c == '\n' || c == '\r'

def withoutBreaks (text : List Char) : List Char := text.filter (!isBreak ·)

/-- Passes over a number of characters and the breaks before them. -/
def dropWithBreaks : Nat → List Char → List Char
  | 0, text => text
  | _ + 1, [] => []
  | n + 1, c :: rest => if isBreak c then dropWithBreaks (n + 1) rest else dropWithBreaks n rest

/-- A reference cut at its marks. -/
structure Parts where
  /-- Everything before the query. -/
  head : List Char
  /-- The head with its breaks. -/
  written : List Char
  query : Option (List Char)
  fragment : Option (List Char)

/-- The end of the head with its breaks, for the end without them. -/
def Parts.withBreaks (parts : Parts) (path : List Char) : List Char :=
  dropWithBreaks (parts.head.length - path.length) parts.written

/-- Removes control characters and spaces around a reference. -/
def trim (text : List Char) : List Char := Text.stripWhere (·.toNat ≤ 0x20) text

def cut (mark : Char) (text : List Char) : List Char × Option (List Char) :=
  match Text.splitOnce mark text with
  | some (before, after) => (before, some after)
  | none => (text, none)

/-- Cuts a reference at its first hash sign, and what stands before that at its first question
mark. -/
def parts (text : List Char) : Parts :=
  let (rest, fragment) := cut '#' text
  let (head, query) := cut '?' rest
  ⟨withoutBreaks head, head, query.map withoutBreaks, fragment.map withoutBreaks⟩

def isSchemeChar (c : Char) : Bool := c.isAlphanum || c == '+' || c == '-' || c == '.'

def splitScheme? (head : List Char) : Option (List Char × List Char) :=
  match head with
  | c :: _ =>
    if c.isAlpha then
      match head.dropWhile isSchemeChar with
      | ':' :: rest => some ((head.takeWhile isSchemeChar).map Char.toLower, rest)
      | _ => none
    else none
  | [] => none

/-- Whether a character ends a segment; special schemes take a backslash for a slash. -/
def isSlash (special : Option Special) (c : Char) : Bool :=
  c == '/' || (special.isSome && c == '\\')

def startsWithSlashes (special : Option Special) : List Char → Bool
  | a :: b :: _ => isSlash special a && isSlash special b
  | _ => false

def encodeQuery (special : Option Special) (query : Option (List Char)) : Option (List Char) :=
  query.map (Percent.encode (if special.isSome then Percent.inSpecialQuery else Percent.inQuery))

def encodeFragment (fragment : Option (List Char)) : Option (List Char) :=
  fragment.map (Percent.encode Percent.inFragment)

/-! ## Paths -/

/-- Whether a segment stands for the directory it is in. -/
def isSingleDot (segment : List Char) : Bool :=
  match segment.map Char.toLower with
  | ['.'] | ['%', '2', 'e'] => true
  | _ => false

/-- Whether a segment stands for the directory above. -/
def isDoubleDot (segment : List Char) : Bool :=
  match segment.map Char.toLower with
  | ['.', '.'] | ['.', '%', '2', 'e'] | ['%', '2', 'e', '.']
  | ['%', '2', 'e', '%', '2', 'e'] => true
  | _ => false

/-- Whether a segment names a drive: a letter and a colon or a bar. -/
def isDrive : List Char → Bool
  | [letter, c] => letter.isAlpha && (c == ':' || c == '|')
  | _ => false

/-- Whether a segment starts with a drive: nothing follows it, or a backslash that is no slash. -/
def startsWithDrive : List Char → Bool
  | letter :: c :: rest => isDrive [letter, c] && (rest.isEmpty || rest.head? == some '\\')
  | _ => false

/-- Goes up from the last segment, which comes first. No path leaves a drive, in any scheme. -/
def goUp : List (List Char) → List (List Char)
  | [] => []
  | last :: before => if startsWithDrive last then last :: before else before

/-- Cuts a segment after a drive that a break follows, if the segment goes on. -/
def cutAfterDrive? (segment : List Char) : Option (List Char × List Char) :=
  match segment.dropWhile isBreak with
  | [] => none
  | letter :: rest =>
    match rest.dropWhile isBreak with
    | ':' :: c :: rest =>
      let rest := withoutBreaks rest
      if letter.isAlpha ∧ isBreak c ∧ !rest.isEmpty then some ([letter, ':'], rest) else none
    | _ => none

/-- How far a walk along segments has come. -/
structure Walk where
  /-- The segments so far, the last of which comes first. -/
  before : List (List Char)
  /-- Whether a drive has been put at the start of a file. -/
  hasDrive : Bool

/-- Walks along one segment. A drive at the start of a file is written with a colon; if a break cuts
it off from what follows, both become segments, even dots. -/
def Walk.enter (special : Option Special) (walk : Walk) (segment : List Char) : Walk :=
  let plain := withoutBreaks segment
  let encode := Percent.encode Percent.inPath
  if isDoubleDot plain then { walk with before := goUp walk.before }
  else if isSingleDot plain then walk
  else if special = some .file ∧ walk.before = [] then
    match cutAfterDrive? segment with
    | some (drive, rest) => { walk with before := [encode rest, drive] }
    | none =>
      if isDrive plain then ⟨[plain.take 1 ++ [':']], true⟩
      else { walk with before := [encode plain] }
  else { walk with before := encode plain :: walk.before }

/-- Walks along segments. A dot segment at the end leaves an empty one. -/
def Walk.along (special : Option Special) (walk : Walk) (segments : List (List Char)) : Walk :=
  let walk := segments.foldl (enter special) walk
  match segments.getLast? with
  | none => walk
  | some last =>
    let last := withoutBreaks last
    if isSingleDot last || isDoubleDot last then { walk with before := [] :: walk.before } else walk

/-- The segments that a walk along some leads to, from those before, the last of which comes
first. -/
def walk (special : Option Special) (before segments : List (List Char)) : List (List Char) :=
  ((Walk.mk before false).along special segments).before.reverse

def splitPath (special : Option Special) : List Char → List (List Char)
  | [] => [[]]
  | c :: rest =>
    if isSlash special c then
      [] :: splitPath special rest
    else
      match splitPath special rest with
      | [] => [[c]]
      | part :: parts => (c :: part) :: parts

/-- The path that follows a host: empty, or from a slash on. Special schemes have a slash always. -/
def pathAfterHost (special : Option Special) : List Char → List (List Char)
  | [] => if special.isSome then [[]] else []
  | c :: rest =>
    walk special [] (splitPath special (if isSlash special c then rest else c :: rest))

/-! ## Authorities -/

/-- Cuts user name and password from what follows, at the last sign that can end them. -/
def splitUserinfo (special : Option Special) (text : List Char) : Option (List Char) × List Char :=
  match ((text.takeWhile (!isSlash special ·)).reverse).dropWhile (· != '@') with
  | [] => (none, text)
  | _ :: userinfo => (some userinfo.reverse, text.drop (userinfo.length + 1))

/-- Cuts a host from what follows, at a slash or at a colon outside brackets. -/
def splitHost (special : Option Special) : (inBrackets : Bool) → List Char → List Char × List Char
  | _, [] => ([], [])
  | inBrackets, c :: rest =>
    if isSlash special c ∨ (c = ':' ∧ !inBrackets) then ([], c :: rest)
    else
      let inBrackets := if c = '[' then true else if c = ']' then false else inBrackets
      let (host, rest) := splitHost special inBrackets rest
      (c :: host, rest)

/-- Reads a port, which is left out if it is the usual one, and gives back the path after it. A
backslash ends a port in any scheme. -/
def port? (special : Option Special) : List Char → Option (Option Nat × List Char)
  | ':' :: rest =>
    let digits := rest.takeWhile Char.isDigit
    let path := rest.drop digits.length
    let n := digits.foldl (fun n c => n * 10 + (c.toNat - 48)) 0
    if !path.isEmpty ∧ path.head? ≠ some '/' ∧ path.head? ≠ some '\\' ∨ 65535 < n then none
    else if digits.isEmpty ∨ special.bind Special.port? = some n then some (none, path)
    else some (some n, path)
  | path => some (none, path)

/-- Reads a URL from its authority on. A host may be empty only in other schemes than the special
ones, without user name, password and port. -/
def afterSlashes? (scheme : List Char) (rest : List Char) (parts : Parts) : Option Url := do
  let special := special? scheme
  let (userinfo, rest) := splitUserinfo special rest
  let (username, password) := cut ':' (userinfo.getD [])
  let password := password.getD []
  let (hostText, rest) := splitHost special false rest
  let isBare := username.isEmpty && password.isEmpty && rest.head? != some ':'
  let isEnd := rest.isEmpty && parts.query.isNone && parts.fragment.isNone
  if hostText.isEmpty ∧ (special.isSome ∨ !isBare ∨ userinfo = some [] ∧ !isEnd) then none
  let host ← if special.isSome then Host.parse? hostText else Host.parseName? hostText
  let (port, path) ← port? special rest
  some {
    scheme
    username := Percent.encode Percent.inUserinfo username
    password := Percent.encode Percent.inUserinfo password
    host := some host
    port
    path := .segments (pathAfterHost special path)
    query := encodeQuery special parts.query
    fragment := encodeFragment parts.fragment }

/-! ## Files -/

/-- A file URL of a host and the segments of a path, with their breaks. A drive at their start
belongs to no host, and empty segments at their start are left out. -/
def fileUrl (host : Option Host) (segments : List (List Char)) (parts : Parts) : Url :=
  let noHost := Host.verbatim []
  let walk := (Walk.mk [] false).along (some .file) segments
  { scheme := "file".toList
    username := []
    password := []
    host := some (if walk.hasDrive then noHost else host.getD noHost)
    port := none
    path := .segments
      (match walk.before.reverse.dropWhile List.isEmpty with
      | [] => [[]]
      | segments => segments)
    query := encodeQuery (some .file) parts.query
    fragment := encodeFragment parts.fragment }

/-- Reads a file URL after two slashes: a drive is a path, and `localhost` is no host. Without a
host the slash before the path starts a segment of its own. -/
def fileAfterSlashes? (rest : List Char) (parts : Parts) : Option Url := do
  let special := some Special.file
  let hostText := rest.takeWhile (!isSlash special ·)
  let path := rest.drop hostText.length
  let segments (path : List Char) := splitPath special (parts.withBreaks path)
  if isDrive hostText then some (fileUrl none (segments rest) parts)
  else if hostText.isEmpty then some (fileUrl none (segments path) parts)
  else
    let host ← Host.parse? hostText
    if host = .domain "localhost".toList then some (fileUrl none (segments path) parts)
    else some (fileUrl (some host) (segments (path.drop 1)) parts)

def file? (rest : List Char) (parts : Parts) : Option Url :=
  let special := some Special.file
  if startsWithSlashes special rest then fileAfterSlashes? (rest.drop 2) parts
  else
    let path := if (rest.head?.map (isSlash special)).getD false then rest.drop 1 else rest
    some (fileUrl none (splitPath special (parts.withBreaks path)) parts)

/-! ## References -/

/-- What follows the slashes before an authority: two plain ones, or as many as there are if some
are backslashes. -/
def dropSlashes (special : Option Special) : List Char → List Char
  | '/' :: '/' :: rest => rest
  | text => text.dropWhile (isSlash special)

/-- Resolves what follows the scheme against the segments of a base with the same scheme. -/
def relativeTo? (base : Url) (list : List (List Char)) (rest : List Char) (parts : Parts) :
    Option Url :=
  let special := special? base.scheme
  let fragment := encodeFragment parts.fragment
  let query := encodeQuery special parts.query
  let along (before : List (List Char)) (path : List Char) : Url :=
    { base with path := .segments (walk special before (splitPath special path)), query, fragment }
  match rest with
  | [] => some { base with query := if parts.query.isSome then query else base.query, fragment }
  | c :: after =>
    if startsWithSlashes special rest then
      afterSlashes? base.scheme (dropSlashes special rest) parts
    else if isSlash special c then some (along [] after)
    else some (along (list.reverse.drop 1) rest)

/-- Reads what follows a scheme that is not special. -/
def plain? (scheme rest : List Char) (parts : Parts) : Option Url :=
  let url (path : UrlPath) : Url :=
    { scheme, username := [], password := [], host := none, port := none, path,
      query := encodeQuery none parts.query, fragment := encodeFragment parts.fragment }
  match rest with
  | '/' :: '/' :: after => afterSlashes? scheme after parts
  | '/' :: after => some (url (.segments (walk none [] (splitPath none after))))
  | _ => some (url (.verbatim (Percent.encode Percent.isControl rest)))

def absolute? (base : Option Url) (scheme rest : List Char) (parts : Parts) : Option Url :=
  match special? scheme with
  | none => plain? scheme rest parts
  | some .file => file? rest parts
  | special =>
    let fresh := afterSlashes? scheme (rest.dropWhile (isSlash special)) parts
    match base with
    | none => fresh
    | some base =>
      if base.scheme = scheme ∧ !startsWithSlashes special rest then
        match base.path with
        | .segments list => relativeTo? base list rest parts
        | .verbatim _ => fresh
      else fresh

def resolve? (base : Option Url) (reference : List Char) : Option Url := do
  let parts := parts reference
  match splitScheme? parts.head with
  | some (scheme, rest) => absolute? base scheme rest parts
  | none =>
    let base ← base
    match base.path with
    | .verbatim _ =>
      if parts.head.isEmpty ∧ parts.query.isNone ∧ parts.fragment.isSome then
        some { base with fragment := encodeFragment parts.fragment }
      else none
    | .segments list => relativeTo? base list parts.head parts

def parse? (text : String) : Option Url := resolve? none (trim text.toList)

def join? (base : Url) (reference : String) : Option Url :=
  resolve? (some base) (trim reference.toList)

end KeyBound.Url
