import KeyBound.Text.Base64
import KeyBound.Text.Blank

/-!
# Armoured documents

A binary document as text: a tag, Base64 with blanks anywhere in it, and the tag again. Only the
first document of a text is read. Lines before an empty line are headers and have to look like some.
-/

set_option autoImplicit false

namespace KeyBound

structure Pem where
  tag : List Char
  content : Bytes

namespace Pem

/-- What follows a mark in a text, while some of the mark is still awaited. The search never goes
back: a character that ends a match starts none itself, so that a sixth hyphen hides a mark that
starts with five. -/
def after? (mark : List Char) : (awaited : List Char) → List Char → Option (List Char)
  | [], text => some text
  | _ :: _, [] => none
  | a :: awaited, c :: text => after? mark (if c = a then awaited else mark) text

def cutAt? (mark text : List Char) : Option (List Char × List Char) :=
  (after? mark mark text).map fun rest =>
    (text.take (text.length - rest.length - mark.length), rest)

/-- The lines of a text; a line break at the end starts none. -/
def lines (text : List Char) : List (List Char) :=
  match (Text.splitAt '\n' text).reverse with
  | [] :: rest => rest.reverse
  | parts => parts.reverse

/-- Cuts headers from the text of a document, at the first empty line. -/
def splitHeaders (body : List Char) : List Char × List Char :=
  match cutAt? ['\n', '\n'] body with
  | some found => found
  | none => (cutAt? ['\r', '\n', '\r', '\n'] body).getD ([], body)

def parse? (text : List Char) : Option Pem := do
  let (_, rest) ← cutAt? "-----BEGIN ".toList text
  let (tag, rest) ← cutAt? "-----".toList rest
  let rest := rest.dropWhile fun c => c == ' ' || c == '\t' || c == '\n' || c == '\r'
  let (body, rest) ← cutAt? "-----END ".toList rest
  let (closing, _) ← cutAt? "-----".toList rest
  let (headers, data) := splitHeaders body
  if tag.isEmpty ∨ tag ≠ closing then none
  let content ← Base64.decodePadded? Base64.standard (data.filter (!isBlank ·))
  if (lines headers).all (·.contains ':') then some ⟨tag, content⟩ else none

end Pem

end KeyBound
