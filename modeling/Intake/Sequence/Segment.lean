import Intake.Message.Basic

/-! Blocks of consecutive sequence numbers, and the cached rest of a block. -/

namespace Intake

/-- A block of consecutive numbers, both ends included. -/
structure Segment where
  first : SequenceNumber
  last : SequenceNumber
deriving DecidableEq, Repr

namespace Segment

/-- The block of so many numbers after a given one, absent when empty or past the largest number. -/
def following? (previous count : UInt64) : Option Segment :=
  if count = 0 then none
  else do
    -- Both ends have to be words.
    let first ← Word.checkedAdd previous 1
    let last ← Word.checkedAdd previous count
    return ⟨⟨first⟩, ⟨last⟩⟩

/-- How many numbers a block holds. -/
def length (s : Segment) : UInt64 := s.last.value - s.first.value + 1

end Segment

/-- Consecutive numbers handed to one caller. -/
structure NumberRange where
  start : SequenceNumber
  count : UInt64
deriving DecidableEq, Repr

namespace NumberRange

/-- The last number of a range, held at the largest number. -/
def last (r : NumberRange) : SequenceNumber :=
  ⟨Word.saturatingAdd r.start.value (Word.saturatingSub r.count 1)⟩

/-- The numbers of a range in order, at most so many of them. -/
def firstNumbers (r : NumberRange) (limit : Nat) : List SequenceNumber :=
  (List.range (min limit (r.last.value.toNat - r.start.value.toNat + 1))).map fun i =>
    ⟨r.start.value + UInt64.ofNat i⟩

/-- The numbers of a range in order, from its start to its last one. -/
def numbers (r : NumberRange) : List SequenceNumber :=
  r.firstNumbers (r.last.value.toNat - r.start.value.toNat + 1)

end NumberRange

/-- What taking numbers from a cached block gives. -/
inductive TakeOutcome where
  | taken (range : NumberRange)
  | notFound
  | exhausted
deriving DecidableEq, Repr

/-- What putting a block into the cache gives. -/
inductive InstallOutcome where
  | installed
  | superseded
deriving DecidableEq, Repr

/-- The rest of a block: the last number handed out, and the last one to hand out. -/
structure CachedSegment where
  current : UInt64
  last : UInt64
  touchedAt : Instant
deriving DecidableEq

namespace CachedSegment

/-- A block of which nothing is handed out yet. -/
def fresh (segment : Segment) (now : Instant) : CachedSegment :=
  -- The number before the first one counts as handed out.
  ⟨segment.first.value - 1, segment.last.value, now⟩

/-- How many numbers are left. -/
def remaining (c : CachedSegment) : UInt64 := c.last - c.current

/-- Hands out so many numbers, or none of them when fewer are left. -/
def take (c : CachedSegment) (need : UInt64) (now : Instant) : TakeOutcome × CachedSegment :=
  -- A range is never split between two blocks.
  if need = 0 ∨ c.remaining < need then (.exhausted, c)
  else (.taken ⟨⟨c.current + 1⟩, need⟩, ⟨c.current + need, c.last, now⟩)

/-- Only a block that starts after everything this one could still hand out may replace it. -/
def isSupersededBy (c : CachedSegment) (segment : Segment) : Bool := c.last < segment.first.value

end CachedSegment

end Intake
