import Retrieval.Decimal.Word

/-!
Points in time, to the nanosecond, within the range of a calendar of about 262,000 years to either
side. A minute may have one second more at its end, and how far two instants lie apart depends on
the seconds added between them.
-/

namespace Retrieval

def nanosPerMilli : Nat := 1000000

def nanosPerSecond : Nat := 1000000000

def secondsPerDay : Int := 86400

namespace Instant

def firstSecond : Int := -8334601228800

def lastSecond : Int := 8210266876799

end Instant

/-- A point in time. An added second is a continuation of the one before it. -/
structure Instant where
  /-- Whole seconds since the beginning of 1970, the added ones left out. -/
  second : Int
  /-- The time since then. In an added second it is a whole second or more. -/
  nanos : Nat := 0
  notEarlier : Instant.firstSecond ≤ second := by decide
  notLater : second ≤ Instant.lastSecond := by decide
  short : nanos < 2 * nanosPerSecond := by decide
  deriving DecidableEq, Repr

namespace Instant

instance : Inhabited Instant := ⟨{ second := 0 }⟩

instance : LT Instant where
  lt left right :=
    left.second < right.second ∨ left.second = right.second ∧ left.nanos < right.nanos

instance (left right : Instant) : Decidable (left < right) :=
  inferInstanceAs (Decidable (_ ∨ _))

def of? (second : Int) (nanos : Nat) : Option Instant :=
  if inside : firstSecond ≤ second ∧ second ≤ lastSecond ∧ nanos < 2 * nanosPerSecond then
    some ⟨second, nanos, inside.1, inside.2.1, inside.2.2⟩
  else
    none

def isAdded (instant : Instant) : Bool :=
  nanosPerSecond ≤ instant.nanos

/-- Nanoseconds since the beginning of 1970. An added second counts like the one after it. -/
def ticks (instant : Instant) : Int :=
  instant.second * nanosPerSecond + instant.nanos

def ofTicks? (ticks : Int) : Option Instant :=
  of? (ticks / nanosPerSecond) (ticks % nanosPerSecond).toNat

def ofMillis? (millis : Int) : Option Instant :=
  ofTicks? (millis * nanosPerMilli)

/-- The instant that lies a span of nanoseconds ahead, if the calendar has it. From within an added
second, a span that stays there, or leads back by less than a second, is counted as it is. A span
beyond leaves the added second out, and a longer one back counts it like the second after it. -/
def later? (instant : Instant) (span : Int) : Option Instant :=
  if instant.isAdded then
    if 2 * nanosPerSecond ≤ instant.nanos + span then
      ofTicks? (instant.ticks - nanosPerSecond + span)
    else if span ≤ -nanosPerSecond then
      ofTicks? (instant.ticks + span)
    else
      of? instant.second (instant.nanos + span).toNat
  else
    ofTicks? (instant.ticks + span)

/-- A span of time in nanoseconds. The longest whole milliseconds of 64 bits are a span in either
direction, but no more. -/
def span? (millis nanos : Int) : Option Int :=
  if millis.natAbs < Decimal.bound63 then some (millis * nanosPerMilli + nanos) else none

def millisAndNanos (instant : Instant) : Int × Int :=
  (instant.ticks.fdiv nanosPerMilli, instant.ticks.fmod nanosPerMilli)

def secondOfDay (instant : Instant) : Int :=
  instant.second.emod secondsPerDay

/-- The added seconds to count from one instant to another. The added second that one of them
lies in counts for a later time of day, on whatever day. -/
def addedBetween (start finish : Instant) : Int :=
  if start.secondOfDay < finish.secondOfDay && start.isAdded then 1
  else if finish.secondOfDay < start.secondOfDay && finish.isAdded then -1
  else 0

def nanosBetween (start finish : Instant) : Int :=
  (finish.second - start.second + addedBetween start finish) * nanosPerSecond +
    (finish.nanos - start.nanos)

def millisBetween (start finish : Instant) : Nat :=
  (nanosBetween start finish).natAbs / nanosPerMilli

end Instant

end Retrieval
