import Intake.Allocator.SingleCounter

/-! Allocation of sequence numbers, in either way, over a shared ledger. -/

namespace Intake

/-- A way to allocate sequence numbers. -/
inductive Allocator where
  | segmented (config : SegmentConfig)
  | singleCounter (config : CounterConfig)

namespace Allocator

/-- Grants so many consecutive numbers of a conversation. -/
def allocate (allocator : Allocator) (conversation : Conversation) (need : UInt64) :
    Attempt AllocationError Grant :=
  match allocator with
  | .segmented config => Segmented.allocate config conversation need
  | .singleCounter config => SingleCounter.allocate config conversation need

/-- Moves the allocator past a floor: the ledger first, then what is cached is dropped. -/
def reconcile (allocator : Allocator) (conversation : Conversation) (floor : SequenceNumber) :
    Attempt AllocationError Unit := do
  -- Blocks that are reserved after this call lie above the floor.
  Attempt.onLedger (Procedure.raiseIssued conversation floor)
  match allocator with
  | .segmented _ => Attempt.onCache (Procedure.dropSegment conversation)
  | .singleCounter _ => Attempt.onCache (Procedure.dropCounter conversation)

/-- Notes that a number is stored. -/
def recordCommitted (conversation : Conversation) (stored : SequenceNumber) :
    Attempt AllocationError Unit :=
  Attempt.onLedger (Procedure.raiseCommitted conversation stored)

/-- Notes that numbers below a floor are no longer kept. -/
def recordRetained (conversation : Conversation) (floor : SequenceNumber) :
    Attempt AllocationError Unit :=
  Attempt.onLedger (Procedure.raiseRetained conversation floor)

/-- The watermarks of a conversation. -/
def watermarks (conversation : Conversation) : Attempt AllocationError (Option Watermarks) :=
  Attempt.onLedger (Procedure.loadWatermarks conversation)

end Allocator

end Intake
