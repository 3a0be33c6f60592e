import KeyBound.Error
import KeyBound.Text.Quoted

/-!
# Cursors

One traversal of a collection that comes in pages, each of which names the next one by a link. Items
are handed out one by one; a page is fetched only when there are none left of those before.

A fetch takes the pointer to the next page out of the cursor and puts one back when it ends: the
pointer to the page after, or the same again if it failed.
-/

set_option autoImplicit false

namespace KeyBound

structure Page (α : Type) where
  items : List α
  headers : Headers

inductive NextPage where
  /-- At the first page. -/
  | unfetched
  | url (target : String)
  /-- Nowhere, and that is an error which is still to be told. -/
  | invalid (defect : LinkDefect)
  | exhausted
  deriving DecidableEq, Repr

/-- A traversal: items that were fetched and not handed out, and where it goes on. -/
structure Cursor (α : Type) where
  buffered : List α
  next : NextPage
  pagesFetched : Nat
  deriving DecidableEq, Repr

abbrev Fetcher (σ α : Type) := σ → Option String → Except Error (Page α) × σ

namespace Cursor

def start {α : Type} : Cursor α := ⟨[], .unfetched, 0⟩

def isExhausted {α : Type} (cursor : Cursor α) : Bool :=
  cursor.buffered.isEmpty && cursor.next == .exhausted

/-- What a cursor does when it is asked for an item: hand one out, end, tell an error, or fetch a
page. -/
inductive Turn (α : Type) where
  | item (value : α) (cursor : Cursor α)
  | finished (cursor : Cursor α)
  | failed (error : Error) (cursor : Cursor α)
  /-- The page to fetch, and the cursor while it is being fetched. -/
  | fetch (target : Option String) (cursor : Cursor α)

def turn {α : Type} (cursor : Cursor α) : Turn α :=
  match cursor.buffered with
  | item :: rest => .item item { cursor with buffered := rest }
  | [] =>
    let waiting := { cursor with next := .exhausted }
    match cursor.next with
    | .unfetched => .fetch none waiting
    | .url target => .fetch (some target) waiting
    | .invalid defect => .failed (.pagination defect) waiting
    | .exhausted => .finished waiting

/-- Where a traversal goes on after a page with some headers. -/
def nextOf (headers : Headers) : NextPage :=
  match Link.next? headers with
  | .ok (some target) => .url (String.ofList target)
  | .ok none => .exhausted
  | .error defect => .invalid defect

def receive {α : Type} (cursor : Cursor α) (page : Page α) : Cursor α :=
  ⟨cursor.buffered ++ page.items, nextOf page.headers, cursor.pagesFetched + 1⟩

def restore {α : Type} (cursor : Cursor α) (target : Option String) : Cursor α :=
  match target with
  | some url => { cursor with next := .url url }
  | none => { cursor with next := .unfetched }

/-- The next item, after as many fetches as it takes. The fuel bounds their number; without an
answer it was spent. -/
def nextItem {σ α : Type} (fetch : Fetcher σ α) :
    (fuel : Nat) → Cursor α → σ → Option (Except Error (Option α) × Cursor α × σ)
  | 0, _, _ => none
  | fuel + 1, cursor, s =>
    match cursor.turn with
    | .item value cursor => some (.ok (some value), cursor, s)
    | .finished cursor => some (.ok none, cursor, s)
    | .failed error cursor => some (.error error, cursor, s)
    | .fetch target cursor =>
      match fetch s target with
      | (.ok page, s) => nextItem fetch fuel (cursor.receive page) s
      | (.error error, s) => some (.error error, cursor.restore target, s)

def drain {σ α : Type} (fetch : Fetcher σ α) (fuel : Nat) :
    (limit : Nat) → Cursor α → σ → Option ((List α × Option Error) × Cursor α × σ)
  | 0, cursor, s => some (([], none), cursor, s)
  | limit + 1, cursor, s =>
    match nextItem fetch fuel cursor s with
    | none => none
    | some (.error error, cursor, s) => some (([], some error), cursor, s)
    | some (.ok none, cursor, s) => some (([], none), cursor, s)
    | some (.ok (some item), cursor, s) =>
      (drain fetch fuel limit cursor s).map fun ((items, failure), rest) =>
        ((item :: items, failure), rest)

/-! ## Streams -/

/-- The next entry of a stream, which is a cursor until its first error or its end. A stream that
has answered that there is no entry may not be asked again, and aborts whoever does; here it gives
the same answer every time. -/
def streamNext {σ α : Type} (fetch : Fetcher σ α) (fuel : Nat) :
    Option (Cursor α) → σ → Option (Option (Except Error α) × Option (Cursor α) × σ)
  | none, s => some (none, none, s)
  | some cursor, s =>
    (nextItem fetch fuel cursor s).map fun (result, cursor, s) =>
      match result with
      | .ok (some item) => (some (.ok item), some cursor, s)
      | .ok none => (none, none, s)
      | .error error => (some (.error error), none, s)

def collect {σ α : Type} (fetch : Fetcher σ α) (fuel : Nat) :
    (limit : Nat) → Option (Cursor α) → σ → Option (List (Except Error α) × σ)
  | 0, _, s => some ([], s)
  | limit + 1, cursor, s =>
    match streamNext fetch fuel cursor s with
    | none => none
    | some (none, _, s) => some ([], s)
    | some (some entry, cursor, s) =>
      (collect fetch fuel limit cursor s).map fun (entries, s) => (entry :: entries, s)

/-! ## Diagnostic output -/

def nextText : NextPage → String
  | .unfetched => "Unfetched"
  | .url target => "Url(" ++ Quoted.display target ++ ")"
  | .invalid (.malformed entry) =>
    "Invalid(MalformedLink \x7b value: " ++ Quoted.display entry ++ " \x7d)"
  | .invalid .nonText => "Invalid(NonTextLink)"
  | .exhausted => "Exhausted"

def debugText {α : Type} (cursor : Cursor α) : String :=
  "PageCursor \x7b buffered: " ++ toString cursor.buffered.length ++ ", next: " ++
    nextText cursor.next ++ ", pages_fetched: " ++ toString cursor.pagesFetched ++ ", .. \x7d"

end Cursor

end KeyBound
