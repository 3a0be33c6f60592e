import KeyBound.Http.Header
import KeyBound.Time.MailDate

/-!
# Rate limits

How long to wait after a response that was rate limited. Both the end of the limit and the current
time are taken from the response, so that the clock of the client does not matter.
-/

set_option autoImplicit false

namespace KeyBound.RateLimit

def resetHeader : String := "x-rate-limit-reset"

/-- The greatest number of seconds that is read. -/
def greatestSecond : Nat := Nat.pow 2 63 - 1

/-- The positive number that an entry of digits stands for. -/
def second? (entry : List Char) : Option Nat :=
  let entry := Text.trim entry
  if entry.isEmpty ∨ !entry.all Char.isDigit then none
  else
    let n := entry.foldl (fun n c => n * 10 + (c.toNat - 48)) 0
    if 0 < n ∧ n ≤ greatestSecond then some n else none

/-- The numbers among the entries of the header, which are separated by commas. -/
def seconds (headers : Headers) : List Nat :=
  ((headers.getAll resetHeader).filterMap HeaderValue.chars?).flatMap fun line =>
    (Text.splitAt ',' line).filterMap second?

/-- The least of them. -/
def reset? (headers : Headers) : Option Nat := (seconds headers).min?

def serverDate? (headers : Headers) : Option MailDate := do
  MailDate.parse? (Text.trim (← headers.chars? "date"))

/-- When a limit ends and what time it is, by the server's own clock. -/
structure Clock where
  resetAt : Instant
  serverNow : MailDate

def clock? (headers : Headers) : Option Clock := do
  let reset ← reset? headers
  let serverNow ← serverDate? headers
  some ⟨← Instant.ofSeconds? reset, serverNow⟩

/-- The least delay, which is also added to the time until the limit ends. -/
def margin : Int := 1000

/-- The delay in milliseconds until a second after the limit has ended. -/
def Clock.millis (clock : Clock) : Int :=
  max (clock.resetAt.seconds * 1000 - clock.serverNow.millis + margin) margin

/-- The delay that a response demands, if it tells both times. -/
def delay? (headers : Headers) : Option Delay :=
  (clock? headers).map fun clock => .ofMillis clock.millis.toNat

end KeyBound.RateLimit
