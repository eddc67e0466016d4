import Intake.Retry.Policy

/-! Settings of a save. -/

namespace Intake

/-- How often a save tries again, how long it waits for a call, and how much it puts up with. -/
structure SaveConfig where
  retry : RetryPolicy
  callTimeout : Duration
  maxSequenceConflicts : UInt32
  maxServerIdCollisions : UInt32
deriving DecidableEq

namespace SaveConfig

/-- The standard retries, two seconds a call, and three conflicts of either kind. -/
def standard : SaveConfig := ⟨RetryPolicy.standard, Duration.ofSeconds 2, 3, 3⟩

/-- The standard settings with retries that do not wait. -/
def withoutDelays : SaveConfig := { standard with retry := RetryPolicy.immediate 3 }

end SaveConfig

end Intake
