import Intake.Time.Duration

/-! How often to try again after a failure that may pass, and how long to wait in between. -/

namespace Intake

/-- Bounded attempts with delays that grow by a factor up to a limit. -/
structure RetryPolicy where
  maxAttempts : UInt32
  initialBackoff : Duration
  multiplier : UInt32
  maxBackoff : Duration
deriving DecidableEq, Repr

namespace RetryPolicy

/-- Three attempts, with delays of fifty milliseconds that double up to a second. -/
def standard : RetryPolicy := ⟨3, Duration.ofMillis 50, 2, Duration.ofSeconds 1⟩

/-- So many attempts without delays. -/
def immediate (maxAttempts : UInt32) : RetryPolicy := ⟨maxAttempts, Duration.zero, 1, Duration.zero⟩

/-- The power of a 32-bit factor, held at the largest 32-bit word. -/
def growth (multiplier : UInt32) (exponent : Nat) : Nat :=
  -- From the thirty-second power on the result no longer changes.
  min (Nat.pow multiplier.toNat (min exponent 32)) 4294967295

/-- The delay after an attempt, counted from one. -/
def backoffFor (policy : RetryPolicy) (attempt : UInt32) : Duration :=
  let factor := growth policy.multiplier (attempt.toNat - 1)
  (policy.initialBackoff.scale factor).shorter policy.maxBackoff

end RetryPolicy

end Intake
