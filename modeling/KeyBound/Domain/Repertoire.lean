import KeyBound.Text.Graphic
import KeyBound.Text.Mark

/-!
# Characters of domains

Domains follow a later edition of the character standard than quoted text. It has more characters,
and takes a few marks for wider ones.
-/

set_option autoImplicit false

namespace KeyBound.Domain

/-- The ranges of characters that domains have beyond those of quoted text. -/
def addedRanges : Ranges :=
  [(0x208F, 0x208F), (0x20C2, 0x20C2), (0x11B0A, 0x11B0A), (0x12550, 0x12686), (0x16D80, 0x16DA9),
    (0x18E00, 0x19191), (0x1F6D9, 0x1F6D9), (0x1FA8B, 0x1FA8D), (0x1FACC, 0x1FACC),
    (0x1FADD, 0x1FADD), (0x1FAEB, 0x1FAEB), (0x1FAF9, 0x1FAFA), (0x2B81E, 0x2B81E),
    (0x3D000, 0x3FC3F)]

/-- Marks that take a place of their own in domains. -/
def widenedRanges : Ranges :=
  [(0x1B3A, 0x1B3A), (0x1B3C, 0x1B3C), (0x1B42, 0x1B42)]

def isKnown (c : Char) : Bool := isGraphic c || addedRanges.contain c

def isPlaceless (c : Char) : Bool := isNonspacingMark c && !widenedRanges.contain c

end KeyBound.Domain
