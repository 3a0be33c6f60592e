import KeyBound.Domain.Direction
import KeyBound.Domain.Joining
import KeyBound.Text.Composed
import KeyBound.Text.Punycode

/-!
# Labels of domains

A domain beyond ASCII and its form in ASCII. The domain is folded and composed; every label beyond
ASCII is encoded, and a label that is encoded already has to be the code of one that could stand
there itself.
-/

set_option autoImplicit false

namespace KeyBound.Domain

def isAscii (text : List Char) : Bool := text.all (·.toNat < 0x80)

/-- What an encoded label starts with. -/
def codeMark : List Char := "xn--".toList

/-- How long the text of a label beyond ASCII may be, and how long the code of one. -/
def longestText : Nat := 1000
def longestCode : Nat := 2000

/-- The text that a label stands for. Only a label in ASCII may be encoded, and only one beyond
ASCII that folding and composing leave as it is may have been. -/
def labelText? (label : List Char) : Option (List Char) :=
  if codeMark.isPrefixOf label then do
    let code := label.drop codeMark.length
    if longestCode < code.length ∨ !isAscii label then none
    let text ← Punycode.decode? code
    if !isAscii text && text.all isFolded && Text.composed text == text then some text else none
  else some label

/-- Whether the text of a label may stand in a domain: it does not start with a mark, its joiners
are where they may be, and beyond ASCII it is not too long. -/
def isSound (text : List Char) : Bool :=
  !((text.head?.map isMark).getD false) && areJoinersSound [] text &&
    (isAscii text || text.length ≤ longestText)

def encodeLabel (label : List Char) : List Char :=
  if isAscii label then label else codeMark ++ Punycode.encode label

def ascii? (domain : List Char) : Option (List Char) := do
  let folded ← domain.mapM fold?
  let folded := folded.flatten
  let labels := Text.splitAt '.' (if isAscii folded then folded else Text.composed folded)
  let texts ← labels.mapM labelText?
  if texts.all isSound && (!texts.any hasRightToLeft || texts.all isOrdered) then
    some (Text.join '.' (labels.map encodeLabel))
  else none

end KeyBound.Domain
