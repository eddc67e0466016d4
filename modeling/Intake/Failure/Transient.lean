import Intake.Time.Duration

/-! Failures that may pass, and the failure of a call that took too long. -/

namespace Intake

/-- Failures of a service: which of them may pass, and which one a missed deadline is. -/
class Transient (ε : Type) where
  isTransient : ε → Bool
  timedOut : String → Duration → ε

/-- A service whose missed deadlines may pass. -/
class LawfulTransient (ε : Type) extends Transient ε where
  timedOut_isTransient : ∀ operation after,
    Transient.isTransient (Transient.timedOut operation after : ε) = true

end Intake
