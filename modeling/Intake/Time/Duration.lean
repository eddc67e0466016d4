import Intake.Text.Digits

/-! Spans of time to the nanosecond, held at the longest one, and their text. -/

namespace Intake

/-- The longest duration: the largest 64-bit count of seconds and one nanosecond short of another. -/
def Duration.greatestNanos : Nat := 18446744073709551615999999999

/-- A span of time, counted in nanoseconds. -/
structure Duration where
  nanos : Nat
  bounded : nanos ≤ Duration.greatestNanos
deriving DecidableEq, Repr

namespace Duration

/-- The duration of so many nanoseconds, the longest one standing for all that lie above it. -/
def ofNanos (nanos : Nat) : Duration :=
  ⟨min nanos greatestNanos, Nat.min_le_right _ _⟩

/-- The empty span. -/
def zero : Duration := ofNanos 0

/-- The duration of whole seconds and the nanoseconds beyond them. -/
def ofParts (seconds nanos : Nat) : Duration := ofNanos (seconds * 1000000000 + nanos)

/-- The duration of whole seconds. -/
def ofSeconds (seconds : Nat) : Duration := ofParts seconds 0

/-- The duration of whole milliseconds. -/
def ofMillis (millis : Nat) : Duration := ofNanos (millis * 1000000)

/-- The whole seconds of a duration. -/
def seconds (d : Duration) : Nat := d.nanos / 1000000000

/-- The nanoseconds beyond the whole seconds. -/
def subsecond (d : Duration) : Nat := d.nanos % 1000000000

/-- The whole milliseconds of a duration. -/
def millis (d : Duration) : Nat := d.nanos / 1000000

/-- A duration repeated, held at the longest one. -/
def scale (d : Duration) (factor : Nat) : Duration := ofNanos (d.nanos * factor)

/-- The shorter of two durations. -/
def shorter (a b : Duration) : Duration := if a.nanos ≤ b.nanos then a else b

/-- The digits behind the point, without the zeros that end them. -/
def fraction (width n : Nat) : List Char :=
  match ((paddedDigits width n).reverse.dropWhile (· == '0')).reverse with
  -- A whole number of units is written without a point.
  | [] => []
  | digits => '.' :: digits

/-- A count in one unit: the whole units, the rest as a fraction, and the unit's name. -/
def inUnit (nanos digits : Nat) (unit : String) : String :=
  let size := Nat.pow 10 digits
  s!"{nanos / size}{String.ofList (fraction digits (nanos % size))}{unit}"

/-- A duration is written in the largest unit of which it holds a whole one. -/
def text (d : Duration) : String :=
  if 1000000000 ≤ d.nanos then inUnit d.nanos 9 "s"
  else if 1000000 ≤ d.nanos then inUnit d.nanos 6 "ms"
  else if 1000 ≤ d.nanos then inUnit d.nanos 3 "µs"
  else s!"{d.nanos}ns"

end Duration

end Intake
