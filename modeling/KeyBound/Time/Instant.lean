/-!
# Instants and spans

Instants of the years -9999 to 9999, in nanoseconds since 1970. Going on from an instant by a span
is partial: it fails exactly where those years end. Delays are spans that have no sign.
-/

set_option autoImplicit false

namespace KeyBound

def nanosPerSecond : Nat := 1000000000

def nanosPerMilli : Nat := 1000000

/-- The first second of the year -9999. -/
def firstSecond : Int := -377705116800

/-- The last second of the year 9999. -/
def lastSecond : Int := 253402300799

/-- Whether a number of nanoseconds since 1970 lies in the years -9999 to 9999. -/
def inCalendar (nanos : Int) : Prop :=
  firstSecond * nanosPerSecond ≤ nanos ∧ nanos < (lastSecond + 1) * nanosPerSecond

instance (nanos : Int) : Decidable (inCalendar nanos) := by unfold inCalendar; infer_instance

/-- A length of time, of either sign. -/
structure Span where
  nanos : Int
  deriving DecidableEq, Repr, Inhabited

namespace Span

def ofSeconds (n : Int) : Span := ⟨n * nanosPerSecond⟩

def ofMinutes (n : Int) : Span := ofSeconds (n * 60)

def ofHours (n : Int) : Span := ofSeconds (n * 3600)

/-- The span itself, or none if it is negative. -/
def clamped (span : Span) : Span := ⟨max span.nanos 0⟩

end Span

/-- A length of time without a sign. -/
structure Delay where
  nanos : Nat
  deriving DecidableEq, Repr, Inhabited

namespace Delay

def zero : Delay := ⟨0⟩

def ofMillis (n : Nat) : Delay := ⟨n * nanosPerMilli⟩

def millis (delay : Delay) : Nat := delay.nanos / nanosPerMilli

def plus (a b : Delay) : Delay := ⟨a.nanos + b.nanos⟩

/-- How much longer the first delay is, or no time if it is not. -/
def minus (a b : Delay) : Delay := ⟨a.nanos - b.nanos⟩

def times (a : Delay) (n : Nat) : Delay := ⟨a.nanos * n⟩

def atMost (a b : Delay) : Delay := ⟨min a.nanos b.nanos⟩

/-- The longest time that a timer runs: thirty years of 365 days. -/
def longestTimer : Delay := ofMillis (30 * 365 * 86400 * 1000)

def atLeast (a b : Delay) : Delay := ⟨max a.nanos b.nanos⟩

instance : LE Delay := ⟨fun a b => a.nanos ≤ b.nanos⟩

instance : LT Delay := ⟨fun a b => a.nanos < b.nanos⟩

instance (a b : Delay) : Decidable (a ≤ b) := Nat.decLe a.nanos b.nanos

instance (a b : Delay) : Decidable (a < b) := Nat.decLt a.nanos b.nanos

end Delay

structure Instant where
  nanos : Int
  valid : inCalendar nanos
  deriving DecidableEq

namespace Instant

/-- The instant some nanoseconds after 1970 began, if it lies in the years -9999 to 9999. -/
def ofNanos? (nanos : Int) : Option Instant :=
  if valid : inCalendar nanos then some ⟨nanos, valid⟩ else none

def ofSeconds? (seconds : Int) : Option Instant := ofNanos? (seconds * nanosPerSecond)

def add? (t : Instant) (span : Span) : Option Instant := ofNanos? (t.nanos + span.nanos)

/-- The whole seconds since 1970, rounded down. -/
def seconds (t : Instant) : Int := t.nanos.fdiv nanosPerSecond

instance : LE Instant := ⟨fun a b => a.nanos ≤ b.nanos⟩

instance : LT Instant := ⟨fun a b => a.nanos < b.nanos⟩

instance (a b : Instant) : Decidable (a ≤ b) := Int.decLe a.nanos b.nanos

instance (a b : Instant) : Decidable (a < b) := Int.decLt a.nanos b.nanos

end Instant

end KeyBound
