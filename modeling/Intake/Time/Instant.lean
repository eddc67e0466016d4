import Intake.Time.Calendar
import Intake.Time.Duration

/-! Instants on the clock: points in time to the nanosecond, between two bounds a calendar can name. -/

namespace Intake

namespace Instant

/-- The first instant, at the start of the year -262143, in nanoseconds since 1970. -/
def firstNanos : Int := Date.toDays ⟨-262143, 1, 1⟩ * 86400000000000

/-- The last instant, at the end of the year 262142, in nanoseconds since 1970. -/
def lastNanos : Int := (Date.toDays ⟨262142, 12, 31⟩ + 1) * 86400000000000 - 1

end Instant

/-- A point in time. A leap second shares its nanoseconds with the last second of its minute. -/
structure Instant where
  nanos : Int
  leap : Bool
  after : Instant.firstNanos ≤ nanos
  before : nanos ≤ Instant.lastNanos
  endsMinute : leap = true → 59000000000 ≤ nanos % 60000000000
deriving DecidableEq, Repr

namespace Instant

/-- The instant of so many nanoseconds since 1970, absent beyond the bounds. -/
def ofParts? (nanos : Int) (leap : Bool) : Option Instant :=
  if inside : firstNanos ≤ nanos ∧ nanos ≤ lastNanos ∧
      (leap = true → 59000000000 ≤ nanos % 60000000000) then
    some ⟨nanos, leap, inside.1, inside.2.1, inside.2.2⟩
  else none

/-- The instant so many nanoseconds after the start of 1970, absent beyond the bounds. -/
def ofNanos? (nanos : Int) : Option Instant := ofParts? nanos false

/-- The last instant there is. -/
def latest : Instant := ⟨lastNanos, false, by decide, by decide, by simp⟩

/-- The first instant there is. -/
def earliest : Instant := ⟨firstNanos, false, by decide, by decide, by simp⟩

/-- Where an instant stands among all others: each second has room for a leap second behind it. -/
def place (t : Instant) : Int :=
  t.nanos / 1000000000 * 2000000000 + t.nanos % 1000000000 + if t.leap then 1000000000 else 0

instance : LE Instant := ⟨fun a b => a.place ≤ b.place⟩

instance : LT Instant := ⟨fun a b => a.place < b.place⟩

instance (a b : Instant) : Decidable (a ≤ b) := inferInstanceAs (Decidable (a.place ≤ b.place))

instance (a b : Instant) : Decidable (a < b) := inferInstanceAs (Decidable (a.place < b.place))

/-- The earlier of two instants. -/
def earlier (a b : Instant) : Instant := if a ≤ b then a else b

/-- The instant so many nanoseconds away, absent when no calendar names it. A span that starts in a
leap second counts what it covers of that one, and no span counts any other. -/
def move? (t : Instant) (span : Int) : Option Instant :=
  -- Within its own second an instant may lie in the leap second that follows it.
  let reached := t.nanos % 1000000000 + span
  if t.leap ∧ reached < 0 then ofNanos? (t.nanos + 1000000000 + span)
  else ofParts? (t.nanos + span) (t.leap && reached < 1000000000)

/-- The instant a duration later, absent when no calendar names it. -/
def plus? (t : Instant) (d : Duration) : Option Instant := t.move? d.nanos

/-- The instant a duration later, the last one standing for all that no calendar names. -/
def plus (t : Instant) (d : Duration) : Instant := (t.plus? d).getD latest

/-- The instant so many milliseconds away, held at the bounds. -/
def shift (t : Instant) (millis : Int) : Instant :=
  (t.move? (millis * 1000000)).getD (if millis < 0 then earliest else latest)

/-- The nanoseconds since 1970, a leap second counting as the second after the one it follows. -/
def sinceEpoch (t : Instant) : Int := if t.leap then t.nanos + 1000000000 else t.nanos

/-- The second of the day in which an instant lies, its leap second included. -/
def secondOfDay (t : Instant) : Int := t.nanos / 1000000000 % 86400

/-- The nanoseconds from one instant to another. A leap second in which one of them lies counts as
well when the other one's time of day is later. -/
def since (now start : Instant) : Int :=
  let span := now.sinceEpoch - start.sinceEpoch
  if start.leap ∧ start.secondOfDay < now.secondOfDay then span + 1000000000
  else if now.leap ∧ now.secondOfDay < start.secondOfDay then span - 1000000000
  else span

end Instant

end Intake
