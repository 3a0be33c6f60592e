import KeyBound.Text.Graphic
import KeyBound.Text.Hex
import KeyBound.Text.Mark

/-!
# Quoted text

Text in quotes, as diagnostic output shows it. Quotes, backslashes and characters that would not be
seen are escaped.
-/

set_option autoImplicit false

namespace KeyBound.Quoted

/-- Characters that are shown by their number, since they would not be seen on their own. -/
def isHidden (c : Char) : Bool := isExtender c || !isGraphic c

def escapeChar (c : Char) : List Char :=
  if c = '"' then ['\\', '"']
  else if c = '\\' then ['\\', '\\']
  else if c = '\t' then ['\\', 't']
  else if c = '\r' then ['\\', 'r']
  else if c = '\n' then ['\\', 'n']
  else if c = '\x00' then ['\\', '0']
  else if isHidden c then ['\\', 'u', '\x7b'] ++ Hex.lowerDigits c.toNat ++ ['\x7d']
  else [c]

def display (text : String) : String :=
  String.ofList ('"' :: text.toList.flatMap escapeChar ++ ['"'])

end KeyBound.Quoted
