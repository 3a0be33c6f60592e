import KeyBound.Proofs.Client.TokenCache
import KeyBound.Proofs.Paging.Traversal

/-!
# What an application does with a client

Every call that an application can make, one after the other and in any order, with the answer to
each. Cursors stay open between the calls; documents and items are of one type.
-/

set_option autoImplicit false

namespace KeyBound

open Acquisition

variable {α : Type}

/-- A cursor on a collection, which is read by a decoder from its first page on. -/
structure OpenCursor (α : Type) where
  decoder : Json.Decoder α
  first : Url
  cursor : Cursor α

/-- A client, and the cursors that were opened with it, in order. -/
structure Workspace (α : Type) where
  session : Session
  cursors : List (OpenCursor α)

namespace Workspace

def start (config : ClientConfig) : Workspace α := ⟨.start config.nonceValidity, []⟩

end Workspace

inductive Operation (α : Type) where
  | tokens (call : TokenCall)
  /-- Looks at the token that the client keeps. -/
  | held
  | send (request : Request)
  | getJson (decoder : Json.Decoder α) (path : String)
  | paginate (decoder : Json.Decoder α) (path : String)
  /-- Asks a cursor for an item; the fuel bounds the turns that it takes. -/
  | next (place : Nat) (fuel : Nat)
  /-- Shows the client. -/
  | debug

inductive Answer (α : Type) where
  | token (result : Except Error AccessToken)
  | held (token : Option AccessToken)
  | response (result : Except Error Response)
  | document (result : Except Error α)
  | opened (result : Except Error Unit)
  /-- An item or the end, unless the call is still on its way. -/
  | item (result : Option (Except Error (Option α)))
  | shown (text : String)
  | done

def Answer.error? : Answer α → Option Error
  | token (.error error) | response (.error error) | document (.error error)
  | opened (.error error) | item (some (.error error)) => some error
  | _ => none

namespace Operation

def ofTokens : Option (Except Error AccessToken) → Answer α
  | some result => .token result
  | none => .done

/-- A cursor asks for its pages until it has an answer. -/
def nextOf (env : Environment) (config : ClientConfig) (asked : OpenCursor α)
    (fuel : Nat) (session : Session) :
    Option (Except Error (Option α)) × Traversal Session α :=
  Traversal.call (Api.pages asked.decoder env config asked.first) fuel ⟨asked.cursor, session, []⟩

def perform (env : Environment) (config : ClientConfig) (space : Workspace α) :
    Operation α → Answer α × Workspace α
  | tokens call =>
    let (result, session) := call.perform env config space.session
    (ofTokens result, { space with session })
  | held => (.held space.session.cached, space)
  | send request =>
    let (result, session) := Api.send env config request space.session
    (.response result, { space with session })
  | getJson decoder path =>
    let (result, session) := Api.getJson decoder env config path space.session
    (.document result, { space with session })
  | paginate decoder path =>
    match config.resolve path with
    | .error error => (.opened (.error error), space)
    | .ok first =>
      (.opened (.ok ()), { space with cursors := space.cursors ++ [⟨decoder, first, .start⟩] })
  | next place fuel =>
    match space.cursors[place]? with
    | none => (.item none, space)
    | some asked =>
      let (result, traversal) := nextOf env config asked fuel space.session
      (.item result, ⟨traversal.fetcher,
        space.cursors.set place { asked with cursor := traversal.cursor }⟩)
  | debug => (.shown (Api.debugText env config space.session), space)

def performAll (env : Environment) (config : ClientConfig) :
    List (Operation α) → Workspace α → List (Answer α) × Workspace α
  | [], space => ([], space)
  | operation :: operations, space =>
    let (answer, space) := operation.perform env config space
    let (answers, space) := performAll env config operations space
    (answer :: answers, space)

end Operation

end KeyBound
