import Mathlib.Algebra.Order.Ring.Nat
import Intake.Retry.Policy

/-! Delays between attempts in exact numbers: they grow by a factor up to a limit, unless the power of the
factor reaches the largest word before the delay reaches its limit. -/

namespace Intake

namespace Duration

/-- A duration repeated lasts as many times as long, up to the longest one. -/
theorem scale_nanos (d : Duration) (factor : Nat) :
    (d.scale factor).nanos = min (d.nanos * factor) greatestNanos := rfl

/-- The shorter of two durations lasts the lesser of the two times. -/
theorem shorter_nanos (a b : Duration) : (a.shorter b).nanos = min a.nanos b.nanos := by
  -- Durations are compared by their nanoseconds.
  unfold shorter
  split
  · rename_i below
    exact (Nat.min_eq_left below).symm
  · rename_i above
    exact (Nat.min_eq_right (Nat.le_of_not_le above)).symm

/-- Cut at a limit, a duration repeated lasts its exact time: the longest duration is no limit of its own. -/
theorem scale_shorter_nanos (d limit : Duration) (factor : Nat) :
    ((d.scale factor).shorter limit).nanos = min (d.nanos * factor) limit.nanos := by
  -- No limit lies above the longest duration.
  have bounded := limit.bounded
  rw [shorter_nanos, scale_nanos]
  omega

end Duration

namespace RetryPolicy

variable (policy : RetryPolicy)

/-- The growth of a delay is the power of the factor, held at the largest 32-bit word. -/
theorem growth_eq (multiplier : UInt32) (exponent : Nat) :
    growth multiplier exponent = min (multiplier.toNat ^ exponent) (UInt32.size - 1) := by
  show min (multiplier.toNat ^ min exponent 32) 4294967295 = min (multiplier.toNat ^ exponent) 4294967295
  rcases Nat.le_total exponent 32 with few | many
  · rw [Nat.min_eq_left few]
  -- Only factors from two on reach the largest word, and they reach it at the thirty-second power.
  rw [Nat.min_eq_right many]
  rcases Nat.lt_or_ge multiplier.toNat 2 with small | large
  · obtain none | one : multiplier.toNat = 0 ∨ multiplier.toNat = 1 := by omega
    · rw [none, Nat.zero_pow (by omega), Nat.zero_pow (by omega)]
    · rw [one, Nat.one_pow, Nat.one_pow]
  · have reached : 2 ^ 32 ≤ multiplier.toNat ^ 32 := Nat.pow_le_pow_left large 32
    have beyond : multiplier.toNat ^ 32 ≤ multiplier.toNat ^ exponent :=
      Nat.pow_le_pow_right (by omega) many
    omega

/-- The nanoseconds that a delay is asked to last: exponential growth from the first one, cut at the
greatest. -/
def exactBackoff (attempt : Nat) : Nat :=
  min (policy.initialBackoff.nanos * policy.multiplier.toNat ^ (attempt - 1)) policy.maxBackoff.nanos

/-- The growth of a delay is held at the largest word before the delay has reached its limit. -/
structure Stalls (attempt : Nat) : Prop where
  waits : 0 < policy.initialBackoff.nanos
  full : UInt32.size ≤ policy.multiplier.toNat ^ (attempt - 1)
  below : policy.initialBackoff.nanos * (UInt32.size - 1) < policy.maxBackoff.nanos

/-- The nanoseconds of a delay. -/
theorem backoffFor_nanos (attempt : UInt32) :
    (policy.backoffFor attempt).nanos = min (policy.initialBackoff.nanos *
      min (policy.multiplier.toNat ^ (attempt.toNat - 1)) (UInt32.size - 1)) policy.maxBackoff.nanos := by
  -- Scaling saturates only above every bound, so that the bound hides it.
  unfold backoffFor
  dsimp only
  rw [Duration.scale_shorter_nanos, growth_eq]

variable {policy}

/-- A delay whose growth stalls lasts as many times the first one as the largest word says, which is
shorter than it was asked to last. -/
theorem Stalls.nanos {attempt : UInt32} (stalls : policy.Stalls attempt.toNat) :
    (policy.backoffFor attempt).nanos = policy.initialBackoff.nanos * (UInt32.size - 1) ∧
      (policy.backoffFor attempt).nanos < policy.exactBackoff attempt.toNat := by
  obtain ⟨waits, full, below⟩ := stalls
  -- The power is held at the largest word, and so many first delays are still below the limit.
  have factor := Nat.min_eq_right (Nat.le_trans (Nat.sub_le _ 1) full)
  have held : (policy.backoffFor attempt).nanos = policy.initialBackoff.nanos * (UInt32.size - 1) := by
    rw [backoffFor_nanos, factor, Nat.min_eq_left (Nat.le_of_lt below)]
  have further : policy.initialBackoff.nanos * (UInt32.size - 1) <
      policy.initialBackoff.nanos * policy.multiplier.toNat ^ (attempt.toNat - 1) :=
    Nat.mul_lt_mul_of_pos_left (Nat.lt_of_lt_of_le (by decide) full) waits
  exact ⟨held, held ▸ Nat.lt_min.mpr ⟨further, below⟩⟩

/-- A delay whose growth does not stall lasts as long as it is asked to. -/
theorem backoffFor_of_not_stalls {attempt : UInt32} (steady : ¬ policy.Stalls attempt.toNat) :
    (policy.backoffFor attempt).nanos = policy.exactBackoff attempt.toNat := by
  rw [backoffFor_nanos, exactBackoff]
  rcases Nat.lt_or_ge (policy.multiplier.toNat ^ (attempt.toNat - 1)) UInt32.size with fits | full
  · rw [Nat.min_eq_left (Nat.le_sub_one_of_lt fits)]
  have held : UInt32.size - 1 ≤ policy.multiplier.toNat ^ (attempt.toNat - 1) :=
    Nat.le_trans (Nat.sub_le _ 1) full
  rw [Nat.min_eq_right held]
  rcases Nat.eq_zero_or_pos policy.initialBackoff.nanos with none | waits
  · rw [none, Nat.zero_mul, Nat.zero_mul]
  -- The limit is reached by the largest word already, and all the more by the power itself.
  have reached : policy.maxBackoff.nanos ≤ policy.initialBackoff.nanos * (UInt32.size - 1) :=
    Nat.le_of_not_lt fun below => steady ⟨waits, full, below⟩
  have beyond : policy.initialBackoff.nanos * (UInt32.size - 1) ≤
      policy.initialBackoff.nanos * policy.multiplier.toNat ^ (attempt.toNat - 1) :=
    Nat.mul_le_mul_left _ held
  rw [Nat.min_eq_right reached, Nat.min_eq_right (Nat.le_trans reached beyond)]

/-- A later delay is no shorter where the factor is one at least. -/
theorem backoffFor_mono {attempt later : UInt32} (grows : 1 ≤ policy.multiplier) (onward : attempt ≤ later) :
    (policy.backoffFor attempt).nanos ≤ (policy.backoffFor later).nanos := by
  have steps : attempt.toNat - 1 ≤ later.toNat - 1 :=
    Nat.sub_le_sub_right (UInt32.le_iff_toNat_le.mp onward) 1
  have power : policy.multiplier.toNat ^ (attempt.toNat - 1) ≤
      policy.multiplier.toNat ^ (later.toNat - 1) :=
    Nat.pow_le_pow_right (UInt32.le_iff_toNat_le.mp grows) steps
  -- Whatever holds the power, multiplies it or cuts it keeps the order.
  rw [backoffFor_nanos, backoffFor_nanos]
  gcongr

/-- A delay lasts exactly as long as it is asked to, unless its growth stalls, and then it is too short.
In no case is it longer than asked or longer than the greatest one. -/
theorem backoff_exact_iff (policy : RetryPolicy) (attempt : UInt32) :
    let delay := (policy.backoffFor attempt).nanos
    (delay = policy.exactBackoff attempt.toNat ↔ ¬ policy.Stalls attempt.toNat) ∧
      (policy.Stalls attempt.toNat → delay = policy.initialBackoff.nanos * (UInt32.size - 1)) ∧
      delay ≤ policy.exactBackoff attempt.toNat ∧
      delay ≤ policy.maxBackoff.nanos ∧
      (1 ≤ policy.multiplier → ∀ later, attempt ≤ later → delay ≤ (policy.backoffFor later).nanos) := by
  intro delay
  -- A delay that stalls is below the exact one, and every other delay is the exact one.
  have limited : delay ≤ policy.maxBackoff.nanos := by
    show (policy.backoffFor attempt).nanos ≤ _
    rw [backoffFor_nanos]
    exact Nat.min_le_right _ _
  refine ⟨⟨fun exact stalls => ?_, backoffFor_of_not_stalls⟩, fun stalls => stalls.nanos.1, ?_, limited,
    fun grows later onward => backoffFor_mono grows onward⟩
  · exact Nat.ne_of_lt stalls.nanos.2 exact
  · by_cases stalls : policy.Stalls attempt.toNat
    · exact Nat.le_of_lt stalls.nanos.2
    · exact Nat.le_of_eq (backoffFor_of_not_stalls stalls)

/-- Delays that double from one nanosecond up to ten seconds. -/
def doubling : RetryPolicy := ⟨3, Duration.ofNanos 1, 2, Duration.ofSeconds 10⟩

/-- After the thirty-third attempt the delay that doubles is too short, and after the next one it is no
longer than before, while both are below the limit. -/
theorem doubling_stalls :
    doubling.Stalls 33 ∧
      (doubling.backoffFor 33).nanos = 4294967295 ∧ doubling.exactBackoff 33 = 4294967296 ∧
      (doubling.backoffFor 34).nanos = 4294967295 ∧ doubling.exactBackoff 34 = 8589934592 ∧
      doubling.maxBackoff.nanos = 10000000000 := by
  -- All of it is arithmetic on the settings.
  refine ⟨⟨by decide, by decide, by decide⟩, ?_⟩
  decide

/-- A delay that stalls is no longer than the one after the next attempt. -/
theorem doubling_waits_on :
    doubling.Stalls 33 ∧
      (doubling.backoffFor 33).nanos = doubling.initialBackoff.nanos * (UInt32.size - 1) ∧
      (1 : UInt32) ≤ doubling.multiplier ∧ (33 : UInt32) ≤ 34 ∧
      (doubling.backoffFor 33).nanos ≤ (doubling.backoffFor 34).nanos := by
  -- That the settings stall is arithmetic, and what follows from it is the theorem's.
  have stalls : doubling.Stalls 33 := ⟨by decide, by decide, by decide⟩
  obtain ⟨-, held, -, -, onward⟩ := backoff_exact_iff doubling 33
  exact ⟨stalls, held stalls, by decide, by decide, onward (by decide) 34 (by decide)⟩

end RetryPolicy

end Intake
