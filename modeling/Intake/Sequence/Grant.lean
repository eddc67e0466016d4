import Intake.Sequence.Segment

/-! Numbers granted to a caller, and when. -/

namespace Intake

/-- Consecutive numbers granted to one caller at one time. -/
structure Grant where
  range : NumberRange
  grantedAt : Instant
deriving DecidableEq

namespace Grant

/-- The first number of a grant. -/
def start (g : Grant) : SequenceNumber := g.range.start

/-- The last number of a grant. -/
def last (g : Grant) : SequenceNumber := g.range.last

/-- How many numbers a grant counts. -/
def count (g : Grant) : UInt64 := g.range.count

/-- The numbers of a grant in order. -/
def numbers (g : Grant) : List SequenceNumber := g.range.numbers

end Grant

end Intake
