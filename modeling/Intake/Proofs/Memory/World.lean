import Intake.Memory.World
import Intake.Proofs.Plan.Completion

/-! Plans run alone against the services in memory. -/

namespace Intake

namespace World

/-- Runs a plan alone, and gives its value and the services after it. -/
def perform {α : Type} (plan : Procedure α) (w : World) : α × World :=
  ((run plan).start w).map id Timeline.state

/-- What a plan completes with is what it gives when it is run. -/
theorem perform_of_completes {α : Type} {plan : Procedure α} {ends : α → World → Prop} {w : World}
    (completes : plan.Completes answer ends w) : ends (perform plan w).1 (perform plan w).2 := by
  -- A plan that completes is not cut, so the run from the start of the clock gives its value.
  obtain ⟨value, after, ran, ended⟩ := completes.run [] 0
  unfold perform Timed.start run
  rw [ran]
  exact ended

end World

end Intake
