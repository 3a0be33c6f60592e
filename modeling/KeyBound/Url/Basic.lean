import KeyBound.Url.Host

/-!
# URLs

An absolute URL in its parts, and its text. The parts hold what is written: user names, paths,
queries and fragments are kept percent-encoded.
-/

set_option autoImplicit false

namespace KeyBound

/-- The path of a URL: segments, each after a slash, or a text that is not looked into. -/
inductive UrlPath where
  | segments (list : List (List Char))
  | verbatim (text : List Char)
  deriving DecidableEq, Repr

structure Url where
  scheme : List Char
  username : List Char
  password : List Char
  host : Option Host
  /-- Absent where it is the usual one of the scheme. -/
  port : Option Nat
  path : UrlPath
  query : Option (List Char)
  fragment : Option (List Char)
  deriving DecidableEq, Repr

namespace Url

/-- The schemes whose URLs have a domain and hierarchical path. -/
inductive Special where
  | http
  | https
  | ws
  | wss
  | ftp
  | file
  deriving DecidableEq, Repr

def special? (scheme : List Char) : Option Special :=
  match String.ofList scheme with
  | "http" => some .http
  | "https" => some .https
  | "ws" => some .ws
  | "wss" => some .wss
  | "ftp" => some .ftp
  | "file" => some .file
  | _ => none

def Special.port? : Special → Option Nat
  | .http | .ws => some 80
  | .https | .wss => some 443
  | .ftp => some 21
  | .file => none

def hasScheme (url : Url) (scheme : String) : Bool := url.scheme == scheme.toList

/-- The text of a path; a path that starts with an empty segment is kept apart from a host. -/
def pathText (url : Url) : List Char :=
  match url.path with
  | .verbatim text => text
  | .segments list =>
    let text := list.flatMap ('/' :: ·)
    match url.host, list with
    | none, [] :: _ :: _ => '/' :: '.' :: text
    | _, _ => text

/-- User name and password, with the sign that ends them. -/
def userinfoText (url : Url) : List Char :=
  if url.username.isEmpty ∧ url.password.isEmpty then []
  else url.username ++ (if url.password.isEmpty then [] else ':' :: url.password) ++ ['@']

/-- A part that may be missing, after its mark. -/
def marked (mark : Char) : Option (List Char) → List Char
  | none => []
  | some text => mark :: text

def text (url : Url) : List Char :=
  let authority :=
    match url.host with
    | none => []
    | some host =>
      '/' :: '/' :: url.userinfoText ++ host.text ++ marked ':' (url.port.map (Nat.toDigits 10))
  url.scheme ++ ':' :: authority ++ url.pathText ++ marked '?' url.query ++ marked '#' url.fragment

def toText (url : Url) : String := String.ofList url.text

/-- The URL up to its path. A path that is not looked into also loses the spaces at its end, which
would not survive being read. -/
def withoutQuery (url : Url) : Url :=
  let path :=
    match url.path with
    | .verbatim text => .verbatim ((text.reverse.dropWhile (· == ' ')).reverse)
    | path => path
  { url with path, query := none, fragment := none }

end Url

end KeyBound
