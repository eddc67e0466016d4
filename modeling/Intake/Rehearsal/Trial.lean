import Intake.Plan.Retry
import Intake.Plan.Timed

/-! Trials of retries and deadlines: one attempt, repeated, with scripted outcomes. -/

namespace Intake.Rehearsal

/-- The failure of an attempt, which may pass or not, or the deadline that it missed. -/
inductive TrialError where
  | passing (reason : String)
  | lasting (reason : String)
  | timedOut (operation : String) (after : Duration)
deriving DecidableEq

/-- The text of a failed attempt. -/
def TrialError.message : TrialError → String
  | .passing reason => reason
  | .lasting reason => reason
  | .timedOut operation after => s!"{operation} timed out after {after.text}"

instance : LawfulTransient TrialError where
  isTransient
    | .passing _ | .timedOut _ _ => true
    | .lasting _ => false
  timedOut := .timedOut
  timedOut_isTransient := fun _ _ => rfl

/-- How one attempt goes: its outcome, after a wait. -/
structure Outcome (α : Type) where
  delay : Duration
  result : Except TrialError α

/-- The outcomes still to come, of which the last one repeats, and the attempts so far. -/
structure Trial (α : Type) where
  current : Outcome α
  later : List (Outcome α)
  attempts : Nat

namespace Trial

variable {α : Type}

/-- The only request is one more attempt. -/
abbrev Attempts (α : Type) : Interface := ⟨Unit, fun _ => Except TrialError α⟩

/-- The plan of one attempt. -/
def attempt : Plan (Attempts α) (Except TrialError α) := .ask () .done

/-- The outcome of the next attempt. -/
def next (trial : Trial α) : Outcome α × Trial α :=
  let attempts := trial.attempts + 1
  match trial.later with
  | following :: later => (trial.current, ⟨following, later, attempts⟩)
  | [] => (trial.current, { trial with attempts })

/-- Makes one attempt. -/
def answer : (request : Unit) → Timed (Trial α) (Except TrialError α)
  | () => do
    let outcome ← Timed.transform next
    Timed.wait outcome.delay
    return outcome.result

/-- Runs a plan of attempts over the given outcomes. -/
def run (plan : Plan (Attempts α) (Except TrialError α)) (first : Outcome α)
    (later : List (Outcome α)) : Except TrialError α × Timeline (Trial α) :=
  Timed.start (Plan.run answer plan) ⟨first, later, 0⟩

end Trial

end Intake.Rehearsal
