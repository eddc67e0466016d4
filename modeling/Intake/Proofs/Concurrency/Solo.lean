import Intake.Proofs.Concurrency.Schedule
import Intake.Proofs.Memory.World
import Intake.Proofs.Plan.Outcome

/-! A plan that runs alone in virtual time takes steps that it may also take as a caller at a site. -/

namespace Intake

/-- Waiting takes time alone. -/
theorem Timed.state_of_wait {σ : Type} {span : Duration} {deadlines : List Nat}
    {line after : Timeline σ} {outcome : Except (Fin deadlines.length) Unit}
    (waited : wait span deadlines line = (outcome, after)) : after.state = line.state := by
  -- A wait moves the time alone, whether it ends in time or is cut by a deadline.
  unfold wait at waited
  dsimp only at waited
  split at waited
  · split at waited <;> cases waited <;> rfl
  · cases waited
    rfl

namespace Plan

variable {I : Interface} {σ α : Type}

/-- The moves of a caller whose calls are answered in the one way. -/
def Answered (answer : (request : I.Request) → σ → I.Reply request × σ) (request : I.Request) (s : σ)
    (reply : I.Reply request) (after : σ) : Prop :=
  answer request s = (reply, after)

/-- What a run leaves of a plan: its value, or the wait in which a deadline cuts it. -/
def LeftBy {place : Type} : Except place α → Plan I α → Prop
  | .ok value, rest => rest = .done value
  | .error _, rest => rest.Waits

/-- In virtual time a plan runs to its end, or to a wait in which a deadline cuts it. -/
theorem runs_of_run {answer : (request : I.Request) → σ → I.Reply request × σ} {plan : Plan I α}
    {deadlines : List Nat} {line after : Timeline σ} {outcome : Except (Fin deadlines.length) α}
    (ran : plan.run (fun request => Timed.transform (answer request)) deadlines line =
      (outcome, after)) :
    ∃ rest, Runs Waits (Answered answer) plan line.state rest after.state ∧ LeftBy outcome rest := by
  -- The induction is on the plan. A deadline cuts its bounded part where that waits.
  induction plan generalizing deadlines line after with
  | done value =>
    cases ran
    exact ⟨.done value, .stays _ _, rfl⟩
  | ask request next ih =>
    obtain ⟨rest, runs, left⟩ := ih _ ran
    exact ⟨rest, .calls (.ask next) rfl runs, left⟩
  | sleep span next ih =>
    unfold Plan.run Timed.bind at ran
    dsimp only at ran
    rcases waited : Timed.wait span deadlines line with ⟨place | woken, middle⟩
    · rw [waited] at ran
      cases ran
      exact ⟨.sleep span next, Timed.state_of_wait waited ▸ .stays _ _, trivial⟩
    · rw [waited] at ran
      obtain ⟨rest, runs, left⟩ := ih ran
      rw [Timed.state_of_wait waited] at runs
      exact ⟨rest, .goes (.wakes span next) runs, left⟩
  | within limit body next ihBody ihNext =>
    unfold Plan.run Timed.bind Timed.within at ran
    dsimp only at ran
    rcases bounded : body.run (fun request => Timed.transform (answer request))
      ((line.elapsed + limit.ticks) :: deadlines) line with ⟨part, middle⟩
    obtain ⟨rest, runs, left⟩ := ihBody bounded
    have bounds := runs.within limit next
    rw [bounded] at ran
    rcases part with ⟨place, inForce⟩ | part
    · cases place with
      | zero =>
        -- The deadline itself cuts the bounded part, and what follows goes on.
        obtain ⟨last, goesOn, ends⟩ := ihNext none ran
        exact ⟨last, bounds.trans (.goes (.cut limit next left) goesOn), ends⟩
      | succ outer =>
        cases ran
        exact ⟨.within limit rest next, bounds, left⟩
    · obtain rfl : rest = .done part := left
      obtain ⟨last, goesOn, ends⟩ := ihNext (some part) ran
      exact ⟨last, bounds.trans (.goes (.inTime limit part next) goesOn), ends⟩

/-- What a plan ends with from the start of the clock it may run to. -/
theorem runs_of_start {answer : (request : I.Request) → σ → I.Reply request × σ} {plan : Plan I α}
    {s : σ} {value : α} {line : Timeline σ}
    (started : (plan.run fun request => Timed.transform (answer request)).start s = (value, line)) :
    Runs Waits (Answered answer) plan s (.done value) line.state := by
  -- At the start no deadline is open, so that none can have cut the run.
  unfold Timed.start at started
  rcases ran : plan.run (fun request => Timed.transform (answer request)) [] ⟨0, s⟩ with
    ⟨place | last, line'⟩
  · exact place.elim0
  · rw [ran] at started
    cases started
    obtain ⟨rest, runs, left⟩ := runs_of_run ran
    obtain rfl : rest = .done value := left
    exact runs

end Plan

/-- What a plan performs it may run to. -/
theorem World.runs_of_perform {α : Type} {plan : Procedure α} {w after : World} {value : α}
    (performed : perform plan w = (value, after)) :
    plan.Runs Plan.Waits (Plan.Answered answer) w (.done value) after := by
  -- Performing is the run from the start of the clock with the time left out.
  rcases ended : (plan.run fun request => Timed.transform (answer request)).start w with ⟨last, line⟩
  have runs := Plan.runs_of_start ended
  unfold perform run at performed
  rw [ended] at performed
  cases performed
  exact runs

namespace Site

variable {I : Interface} {σ J : Type} {R : J → Type}

/-- What a plan may run to, the caller that began last may come to as well. -/
theorem leads_of_runs {setting : Setting I σ R} {cuts : {β : Type} → Plan I β → Prop}
    {services after : σ} {callers : List (Caller I R)} {job : J} {plan rest : Plan I (R job)}
    (runs : plan.Runs cuts setting.reacts services rest after) :
    Relation.ReflTransGen (Step setting) ⟨services, callers ++ [(⟨job, plan⟩ : Caller I R)]⟩
      ⟨after, callers ++ [⟨job, rest⟩]⟩ := by
  -- The induction is on the steps of the plan, each of it a step of the site.
  induction runs with
  | stays => exact .refl
  | calls called reacted _ ih => exact .head (.calls_last called reacted) ih
  | goes goes _ ih => exact .trans (.single (.passes_last goes.passes)) ih

end Site

end Intake
