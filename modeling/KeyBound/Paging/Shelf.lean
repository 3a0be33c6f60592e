import KeyBound.Paging.Cursor

/-!
# Prepared pages

A collection whose pages are given in the order in which they are fetched, whatever is asked for. It
keeps what was asked for.
-/

set_option autoImplicit false

namespace KeyBound

/-- How the next fetches end, and what was asked for so far. -/
structure Shelf (α : Type) where
  pages : List (Except Error (Page α))
  asked : List (Option String)

namespace Shelf

def exhausted : Error := .transport ⟨.other, true⟩

def fetch {α : Type} : Fetcher (Shelf α) α := fun shelf target =>
  let asked := shelf.asked ++ [target]
  match shelf.pages with
  | [] => (.error exhausted, ⟨[], asked⟩)
  | page :: rest => (page, ⟨rest, asked⟩)

end Shelf

end KeyBound
