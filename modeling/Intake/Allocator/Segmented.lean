import Intake.Allocator.Config
import Intake.Sequence.Grant
import Intake.Service.Request

/-! Allocation from a cached block, which is reserved from the ledger when it runs dry. -/

namespace Intake

namespace Attempt

/-- A call on the ledger as a step of an allocation. -/
def onLedger {α : Type} (call : Procedure (Except LedgerError α)) : Attempt AllocationError α :=
  ExceptT.adapt .ledger (ExceptT.mk call)

/-- A call on a cache as a step of an allocation. -/
def onCache {α : Type} (call : Procedure (Except CacheError α)) : Attempt AllocationError α :=
  ExceptT.adapt .cache (ExceptT.mk call)

end Attempt

namespace Segmented

/-- The rounds that are left: take, and if that fails reserve a block, install it, take again. -/
def allocateIn (config : SegmentConfig) (conversation : Conversation) (need : UInt64) :
    Nat → Attempt AllocationError Grant
  | 0 => throw (.retriesExhausted conversation (roundsOf config.maxAttempts))
  | rounds + 1 => do
    match ← Attempt.onCache (Procedure.take conversation need) with
    | .taken range => return ⟨range, ← ExceptT.lift Procedure.now⟩
    | _ =>
      -- The block has room for the need, but others may take from it before this caller does.
      let block := config.blockSize.forNeed need
      let segment ← Attempt.onLedger (Procedure.reserve conversation block)
      -- A block that is superseded is given up, and its numbers are never granted.
      let _ ← Attempt.onCache (Procedure.install conversation segment config.lifetime)
      match ← Attempt.onCache (Procedure.take conversation need) with
      | .taken range => return ⟨range, ← ExceptT.lift Procedure.now⟩
      | _ => allocateIn config conversation need rounds

/-- Grants so many consecutive numbers of a conversation. -/
def allocate (config : SegmentConfig) (conversation : Conversation) (need : UInt64) :
    Attempt AllocationError Grant :=
  if need = 0 then throw .zeroNeed
  else allocateIn config conversation need (roundsOf config.maxAttempts).toNat

end Segmented

end Intake
