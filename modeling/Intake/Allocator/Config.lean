import Intake.Sequence.BlockSize
import Intake.Time.Duration

/-! Settings of the two ways to allocate sequence numbers. -/

namespace Intake

/-- Settings for allocation from cached blocks. -/
structure SegmentConfig where
  blockSize : BlockSize
  lifetime : Duration
  maxAttempts : UInt32

/-- Adaptive blocks that live an hour after their last use, and four rounds. -/
def SegmentConfig.standard : SegmentConfig := ⟨.adaptive, Duration.ofSeconds 3600, 4⟩

/-- Settings for allocation from a counter. -/
structure CounterConfig where
  lifetime : Duration
  lockLifetime : Duration
  pollInterval : Duration
  maxAttempts : UInt32
deriving DecidableEq

/-- Counters that live an hour, locks that live five seconds, and fifty rounds. -/
def CounterConfig.standard : CounterConfig :=
  ⟨Duration.ofSeconds 3600, Duration.ofSeconds 5, Duration.ofMillis 20, 50⟩

/-- A limit on rounds, of which there is at least one. -/
def roundsOf (maxAttempts : UInt32) : UInt32 := if maxAttempts = 0 then 1 else maxAttempts

/-- There is at least one round. -/
theorem roundsOf_pos (maxAttempts : UInt32) : 0 < (roundsOf maxAttempts).toNat := by
  -- A setting of zero means one round, so the other case has a setting that is not zero.
  unfold roundsOf
  split
  · decide
  · rename_i limited
    exact Nat.pos_of_ne_zero fun none' => limited (UInt32.toNat_inj.mp none')

end Intake
