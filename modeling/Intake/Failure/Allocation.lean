import Intake.Failure.Services

/-! Why no sequence numbers could be allocated. -/

namespace Intake

/-- Failures of an allocation. -/
inductive AllocationError where
  | zeroNeed
  | ledger (source : LedgerError)
  | cache (source : CacheError)
  | retriesExhausted (conversation : Conversation) (attempts : UInt32)
  | timedOut (operation : String) (after : Duration)
deriving DecidableEq

namespace AllocationError

/-- The text of a failed allocation, which is the service's own where a service failed. -/
def message : AllocationError → String
  | .zeroNeed => "at least one sequence number must be requested"
  | .ledger source => source.message
  | .cache source => source.message
  | .retriesExhausted conversation attempts =>
    s!"allocation for {conversation.text} gave up after {attempts} attempts"
  | .timedOut operation after => s!"allocation step {operation} timed out after {after.text}"

/-- Whether the ledger holds watermarks that cannot be trusted. -/
def isInconsistency : AllocationError → Bool
  | .ledger (.inconsistent _ _) => true
  | _ => false

end AllocationError

instance : LawfulTransient AllocationError where
  isTransient
    | .ledger source => Transient.isTransient source
    | .cache source => Transient.isTransient source
    | .retriesExhausted _ _ | .timedOut _ _ => true
    | .zeroNeed => false
  timedOut := .timedOut
  timedOut_isTransient := fun _ _ => rfl

end Intake
