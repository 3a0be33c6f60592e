import KeyBound.Client.Config
import KeyBound.Client.Session

/-!
# Scripted servers

A server that gives prepared replies in order, and an environment around it whose clock and chance
are as plain as can be: no two looks at the clock show the same instant, and no two keys are equal.
-/

set_option autoImplicit false

namespace KeyBound

/-- The replies of a server in order. Requests to the token endpoint may have replies of their
own. -/
structure Script where
  replies : List Reply
  tokenReplies : Option (List Reply)

namespace Script

/-- The reply where none is left. -/
def exhausted : Reply := ⟨.zero, .ok ⟨418, [], utf8 "script exhausted"⟩⟩

/-- Whether a request is answered by a reply to token requests. -/
def isTokenRequest (script : Script) (request : Request) : Bool :=
  script.tokenReplies.isSome && request.url.pathText == ClientConfig.tokenPath.toList

def repliesTo (script : Script) (toToken : Bool) : List Reply :=
  if toToken then script.tokenReplies.getD [] else script.replies

def count (script : Script) (toToken : Bool) (requests : List Request) : Nat :=
  requests.countP fun request => script.isTokenRequest request == toToken

def respond (script : Script) (before : List Request) (request : Request) : Reply :=
  let toToken := script.isTokenRequest request
  ((script.repliesTo toToken)[script.count toToken before]?).getD exhausted

def unused (script : Script) (requests : List Request) : Nat :=
  let left (toToken : Bool) :=
    (script.repliesTo toToken).length - script.count toToken requests
  left false + left true

def size (script : Script) : Nat :=
  (script.repliesTo false).length + (script.repliesTo true).length

end Script

/-- A draw that is told by its number from all others. -/
def Draw.numbered (n : Nat) : Draw :=
  let name := toString n
  ⟨⟨name, name⟩, name, [0]⟩

/-- The environment of a scripted server. The clock goes on by a nanosecond with each look. -/
def Environment.scripted (script : Script) (base : Instant) (cancelAt : Option Delay) :
    Environment where
  respond := script.respond
  clock looks _ := (Instant.ofNanos? (base.nanos + looks)).getD base
  draw := .numbered
  explain _ _ := .silent
  cancelAt

end KeyBound
