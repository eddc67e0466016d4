import Intake.Sequence.Segment

/-! The durable watermarks of a conversation, which only ever rise. -/

namespace Intake

/-- Watermarks that are out of order. -/
structure WatermarkViolation where
  issued : UInt64
  committed : UInt64
  retained : UInt64
deriving DecidableEq, Repr

/-- The text of watermarks out of order. -/
def WatermarkViolation.message (v : WatermarkViolation) : String :=
  s!"watermarks out of order: min={v.retained} max={v.committed} issued={v.issued}"

/-- The highest number reserved, the highest known stored, and the lowest still kept. -/
structure Watermarks where
  conversation : Conversation
  issued : UInt64
  committed : UInt64
  retained : UInt64
  updatedAt : Instant
deriving DecidableEq

namespace Watermarks

/-- The watermarks of a conversation without numbers. -/
def empty (conversation : Conversation) (now : Instant) : Watermarks :=
  ⟨conversation, 0, 0, 0, now⟩

/-- Watermarks read from a store, refused unless each is at most the one above it. -/
def ofStored (conversation : Conversation) (issued committed retained : UInt64)
    (updatedAt : Instant) : Except WatermarkViolation Watermarks :=
  if committed < retained ∨ issued < committed then .error ⟨issued, committed, retained⟩
  else .ok ⟨conversation, issued, committed, retained, updatedAt⟩

/-- The highest number that may be in use anywhere. -/
def highWater (w : Watermarks) : SequenceNumber :=
  -- A stored number may lie above the reserved ones when it came from elsewhere.
  ⟨if w.issued ≤ w.committed then w.committed else w.issued⟩

/-- Reserves the next numbers, or changes nothing when there are none or too few left. -/
def reserve (w : Watermarks) (count : UInt64) (now : Instant) : Option (Segment × Watermarks) :=
  (Segment.following? w.issued count).map fun segment =>
    (segment, { w with issued := segment.last.value, updatedAt := now })

/-- Raises the highest reserved number to a floor. -/
def raiseIssued (w : Watermarks) (floor : SequenceNumber) (now : Instant) : Watermarks :=
  if w.issued < floor.value then { w with issued := floor.value, updatedAt := now } else w

/-- Raises the highest stored number, and with it the highest reserved one. -/
def raiseCommitted (w : Watermarks) (stored : SequenceNumber) (now : Instant) : Watermarks :=
  if w.committed < stored.value then
    { w with
      committed := stored.value
      -- A stored number was reserved by someone, whatever the ledger knew of it.
      issued := if w.issued ≤ stored.value then stored.value else w.issued
      updatedAt := now }
  else w

/-- Raises the lowest kept number, never past the highest stored one. -/
def raiseRetained (w : Watermarks) (floor : SequenceNumber) (now : Instant) : Watermarks :=
  -- What is not stored yet cannot have been dropped.
  let target := if floor.value ≤ w.committed then floor.value else w.committed
  if w.retained < target then { w with retained := target, updatedAt := now } else w

end Watermarks

end Intake
