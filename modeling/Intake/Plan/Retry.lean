import Intake.Failure.Transient
import Intake.Plan.Basic
import Intake.Retry.Policy

/-! Deadlines that fail a call, and calls repeated while their failures may pass. -/

namespace Intake

namespace Plan

variable {I : Interface} {ε α : Type} [Transient ε]

/-- Runs a plan with a deadline, and fails as the service does when it passes. -/
def withDeadline (operation : String) (limit : Duration) (body : Plan I (Except ε α)) :
    Plan I (Except ε α) :=
  -- What the service itself answers in time stands, a failure included.
  .within limit body fun outcome =>
    .done (outcome.getD (.error (Transient.timedOut operation limit)))

/-- Attempts numbered from the given one, as many more as are left after it. -/
def retryFrom (policy : RetryPolicy) (limit : Duration) (operation : String)
    (attempt : Plan I (Except ε α)) : Nat → UInt32 → Plan I (Except ε α)
  -- The last attempt is not followed by a wait, whatever it comes to.
  | 0, _ => withDeadline operation limit attempt
  | left + 1, number => do
    match ← withDeadline operation limit attempt with
    | .ok value => return .ok value
    | .error failure =>
      -- Only a failure that may pass is worth another attempt.
      if Transient.isTransient failure then
        pause (policy.backoffFor number)
        retryFrom policy limit operation attempt left (number + 1)
      else return .error failure

/-- Repeats an attempt while it fails in a way that may pass, as often as the policy allows. -/
def retryTransient (policy : RetryPolicy) (limit : Duration) (operation : String)
    (attempt : Plan I (Except ε α)) : Plan I (Except ε α) :=
  retryFrom policy limit operation attempt (policy.maxAttempts.toNat - 1) 1

end Plan

end Intake
