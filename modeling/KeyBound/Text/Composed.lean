import KeyBound.Text.CombiningClass
import KeyBound.Text.Composition

/-!
# Composed text

The composed form of a text, in which texts that look the same and mean the same are the same.
Characters are taken apart, marks on one character are put in the order of their classes, and what
composes is put together again.
-/

set_option autoImplicit false

namespace KeyBound.Text

/-- The characters that one stands for in the end. The fuel bounds how often one is taken apart. -/
def takeApart : (fuel : Nat) → Char → List Char
  | 0, c => [c]
  | fuel + 1, c =>
    match Composition.decompose? c with
    | some (first, second) => takeApart fuel first ++ [second]
    | none => [c]

/-- Puts a character before a text in order: a mark goes past those of lower classes. -/
def insertMark (c : Char) : List Char → List Char
  | [] => [c]
  | d :: rest =>
    if 0 < combiningClass d ∧ combiningClass d < combiningClass c then d :: insertMark c rest
    else c :: d :: rest

/-- Puts marks in the order of their classes; those of one class keep theirs. -/
def orderMarks (text : List Char) : List Char := text.foldr insertMark []

/-- Puts together what follows a character and the marks on it that did not compose. A mark composes
with the character unless one of its own class or a higher one, or of none, stands between. -/
def putTogether (start : Char) (marks : List Char) : List Char → List Char
  | [] => start :: marks
  | c :: rest =>
    let isFree := match marks.getLast? with
      | none => true
      | some last => combiningClass last < combiningClass c
    match if isFree then Composition.compose? start c else none with
    | some whole => putTogether whole marks rest
    | none =>
      if combiningClass c = 0 then start :: marks ++ putTogether c [] rest
      else putTogether start (marks ++ [c]) rest

def composed (text : List Char) : List Char :=
  match orderMarks (text.flatMap (takeApart 4)) with
  | [] => []
  | start :: rest => putTogether start [] rest

end KeyBound.Text
