import KeyBound.Http.Header

/-!
# Link headers

The entries of link headers: a target in angle brackets and parameters, one of which names the
relations of the target. Commas separate entries and semicolons parameters, where neither a bracket
nor a quote is open.
-/

set_option autoImplicit false

namespace KeyBound

inductive LinkDefect where
  /-- An entry does not follow the format. -/
  | malformed (entry : String)
  /-- A value is not text. -/
  | nonText
  deriving DecidableEq, Repr

def LinkDefect.message : LinkDefect → String
  | .malformed entry => "Malformed Link header value: " ++ entry ++ "."
  | .nonText => "Link header value is not valid text."

structure Link where
  target : List Char
  relations : List (List Char)
  deriving DecidableEq, Repr

namespace Link

/-! ## Separators -/

/-- What a scan has to know of the characters before: how many brackets are open, or that a quote
is, and whether a backslash came just before. -/
inductive Scan where
  | outside (depth : Nat)
  | quoted (escaped : Bool)
  deriving DecidableEq, Repr

/-- A scan that has just begun, or just passed a separator. -/
def Scan.start : Scan := .outside 0

/-- What a scan knows after a character. Brackets count outside quotes only, and quotes outside
brackets only. -/
def Scan.next : Scan → Char → Scan
  | .quoted true, _ => .quoted false
  | .quoted false, c =>
    if c = '\\' then .quoted true else if c = '"' then .outside 0 else .quoted false
  | .outside depth, c =>
    if c = '"' ∧ depth = 0 then .quoted false
    else if c = '<' then .outside (depth + 1)
    else if c = '>' then .outside (depth - 1)
    else .outside depth

/-- Cuts a text at a separator, wherever a scan from its start finds neither a quote nor a bracket
open. -/
def splitFrom (separator : Char) : Scan → List Char → List (List Char)
  | _, [] => [[]]
  | scan, c :: rest =>
    if c = separator ∧ scan = .start then
      [] :: splitFrom separator .start rest
    else
      match splitFrom separator (scan.next c) rest with
      | [] => [[c]]
      | part :: parts => (c :: part) :: parts

def splitUnquoted (separator : Char) (text : List Char) : List (List Char) :=
  splitFrom separator .start text

/-! ## Entries -/

/-- The target at the head of a trimmed entry and its parameters, without the blanks around them.
The parameters are on one line. -/
def splitTarget? (entry : List Char) : Option (List Char × List Char) :=
  match entry with
  | '<' :: rest =>
    let isInner (c : Char) : Bool := c != '<' && c != '>'
    match rest.dropWhile isInner with
    | '>' :: params =>
      let params := params.dropWhile isBlank
      if params.contains '\n' then none
      else some (Text.trim (rest.takeWhile isInner), Text.trim params)
    | _ => none
  | _ => none

def relationsOf (value : List Char) : List (List Char) :=
  Text.wordsWhere isAsciiBlank (Text.stripWhere (· == '"') (Text.trim value))

/-- The relations that the first parameter of that name names; none if a parameter has no value. -/
def relations? : List (List Char) → Option (Option (List (List Char)))
  | [] => some none
  | param :: rest => do
    let (name, value) ← Text.splitOnce '=' param
    let later ← relations? rest
    if Text.sameIgnoringCase (Text.trim name) "rel".toList then some (some (relationsOf value))
    else some later

def parse? (entry : List Char) : Option Link := do
  let (target, params) ← splitTarget? (Text.trim entry)
  if params.isEmpty ∨ params.head? = some ';' then
    let found ← relations? (((splitUnquoted ';' params).map Text.trim).filter (!·.isEmpty))
    match ← found with
    | [] => none
    | relations => some ⟨target, relations⟩
  else none

def parse (entry : List Char) : Except LinkDefect Link :=
  match parse? entry with
  | some link => .ok link
  | none => .error (.malformed (String.ofList entry))

/-- Whether a link has a relation, in any case. -/
def hasRelation (link : Link) (relation : List Char) : Bool :=
  link.relations.any (Text.sameIgnoringCase relation)

/-! ## Headers -/

/-- The entries of a text; blank ones do not count. -/
def entries (text : List Char) : List (List Char) :=
  (splitUnquoted ',' text).filter (!Text.isAllBlank ·)

/-- The links of some values in order. The first value that is not text and the first entry that is
malformed end the reading, whichever comes first. -/
def readAll : List HeaderValue → Except LinkDefect (List Link)
  | [] => .ok []
  | value :: rest => do
    match value.chars? with
    | none => .error .nonText
    | some text =>
      let links ← (entries text).mapM parse
      .ok (links ++ (← readAll rest))

def next? (headers : Headers) : Except LinkDefect (Option (List Char)) := do
  let links ← readAll (headers.getAll "link")
  .ok ((links.find? (·.hasRelation "next".toList)).map (·.target))

end Link

end KeyBound
