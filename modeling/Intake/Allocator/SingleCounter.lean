import Intake.Allocator.Segmented

/-! Allocation by one increment of a counter, which is seeded from the ledger under a lock. -/

namespace Intake

namespace SingleCounter

/-- Increments the counter, if there is one, and grants the numbers up to its new value. -/
def tryIncrement (config : CounterConfig) (conversation : Conversation) (need : UInt64) :
    Attempt AllocationError (Option Grant) := do
  match ← Attempt.onCache (Procedure.increment conversation need config.lifetime) with
  | none => return none
  | some last =>
    -- The counter is at the last number of the grant.
    let start : SequenceNumber := ⟨Word.saturatingSub last need + 1⟩
    return some ⟨⟨start, need⟩, ← ExceptT.lift Procedure.now⟩

/-- Starts the counter at the highest number that may be in use. -/
def seed (config : CounterConfig) (conversation : Conversation) : Attempt AllocationError Unit := do
  let watermarks ← Attempt.onLedger (Procedure.loadWatermarks conversation)
  -- A conversation without watermarks starts from nothing.
  let floor := (watermarks.map Watermarks.highWater).getD SequenceNumber.zero
  let _ ← Attempt.onCache (Procedure.seedCounter conversation floor.value config.lifetime)
  return ()

/-- Seeds the counter under the lock, or waits while another owner of the lock does. -/
def coldStart (config : CounterConfig) (conversation : Conversation) :
    Attempt AllocationError Unit := do
  let token ← ExceptT.lift Procedure.freshToken
  if ← Attempt.onCache (Procedure.lock conversation token config.lockLifetime) then
    let seeded ← ExceptT.lift (seed config conversation).run
    -- The lock is released whatever came of the seeding, and a failure to release is passed over.
    let _ ← ExceptT.lift (Procedure.unlock conversation token)
    ExceptT.mk (pure seeded)
  -- Another owner is starting the counter, so the next round may find it.
  else ExceptT.lift (Plan.pause config.pollInterval)

/-- The rounds that are left: increment, and if there is no counter start one. -/
def allocateIn (config : CounterConfig) (conversation : Conversation) (need : UInt64) :
    Nat → Attempt AllocationError Grant
  | 0 => do
    -- The last round may have seeded the counter.
    match ← tryIncrement config conversation need with
    | some grant => return grant
    | none => throw (.retriesExhausted conversation (roundsOf config.maxAttempts))
  | rounds + 1 => do
    match ← tryIncrement config conversation need with
    | some grant => return grant
    | none =>
      coldStart config conversation
      allocateIn config conversation need rounds

/-- Grants so many consecutive numbers of a conversation. -/
def allocate (config : CounterConfig) (conversation : Conversation) (need : UInt64) :
    Attempt AllocationError Grant :=
  if need = 0 then throw .zeroNeed
  else allocateIn config conversation need (roundsOf config.maxAttempts).toNat

end SingleCounter

end Intake
