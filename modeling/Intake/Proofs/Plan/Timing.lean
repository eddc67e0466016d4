import Intake.Plan.Timed

/-! Computations in virtual time, one step after the other: what a wait, a deadline and a sequence come to,
given what their parts come to. -/

namespace Intake.Timed

variable {σ α β : Type} {deadlines : List Nat} {line after : Timeline σ}

/-- A value is there at once. -/
theorem pure_apply (value : α) (deadlines : List Nat) (line : Timeline σ) :
    (Timed.pure value : Timed σ α) deadlines line = (.ok value, line) := rfl

/-- After a computation that ends the next one goes on. -/
theorem bind_of_ok {first : Timed σ α} {value : α} (ran : first deadlines line = (.ok value, after))
    (second : α → Timed σ β) : first.bind second deadlines line = second value deadlines after := by
  unfold Timed.bind
  rw [ran]

/-- A computation that is cut is not followed by another one. -/
theorem bind_of_cut {first : Timed σ α} {place : Fin deadlines.length}
    (ran : first deadlines line = (.error place, after)) (second : α → Timed σ β) :
    first.bind second deadlines line = (.error place, after) := by
  unfold Timed.bind
  rw [ran]

/-- What ends before its deadline is not cut by it. -/
theorem within_of_ok {limit : Duration} {body : Timed σ α} {value : α}
    (ran : body ((line.elapsed + limit.ticks) :: deadlines) line = (.ok value, after)) :
    within limit body deadlines line = (.ok (some value), after) := by
  unfold within
  rw [ran]

/-- What is cut by its own deadline comes to nothing. -/
theorem within_of_cut {limit : Duration} {body : Timed σ α}
    (ran : body ((line.elapsed + limit.ticks) :: deadlines) line =
      (.error ⟨0, Nat.zero_lt_succ _⟩, after)) :
    within limit body deadlines line = (.ok none, after) := by
  -- The deadline that cut the body is its own, which is the first on the list.
  unfold within
  rw [ran]

/-- Without a deadline a wait lasts as long as it is to. -/
theorem wait_of_free (span : Duration) (elapsed : Nat) (state : σ) :
    wait span [] ⟨elapsed, state⟩ = (.ok (), ⟨elapsed + span.waited, state⟩) := rfl

/-- A wait that would end after the only deadline is cut by it. -/
theorem wait_of_late {span : Duration} {deadline elapsed : Nat} (state : σ)
    (late : deadline < elapsed + span.waited) :
    wait span [deadline] ⟨elapsed, state⟩ = (.error ⟨0, Nat.zero_lt_succ _⟩, ⟨deadline, state⟩) := by
  unfold wait
  -- A single deadline is the earliest one.
  dsimp only [earliestDeadline]
  rw [if_pos late]
  rfl

/-- A wait that ends with the only deadline or before it lasts as long as it is to. -/
theorem wait_of_early {span : Duration} {deadline elapsed : Nat} (state : σ)
    (early : elapsed + span.waited ≤ deadline) :
    wait span [deadline] ⟨elapsed, state⟩ = (.ok (), ⟨elapsed + span.waited, state⟩) := by
  -- A wait that ends at the very deadline still ends in time.
  unfold wait
  dsimp only [earliestDeadline]
  rw [if_neg (Nat.not_lt.mpr early)]

/-- Three computations in a row may be grouped either way. -/
theorem bind_assoc {γ : Type} (first : Timed σ α) (second : α → Timed σ β) (third : β → Timed σ γ) :
    (first.bind second).bind third = first.bind fun value => (second value).bind third := by
  funext deadlines line
  rcases ran : first deadlines line with ⟨outcome, after⟩
  cases outcome with
  | error place => rw [bind_of_cut ran, bind_of_cut (bind_of_cut ran second)]
  | ok value =>
    rw [bind_of_ok ran]
    -- What the first two come to is what the second one comes to from there.
    have same := bind_of_ok ran second
    rcases ended : second value deadlines after with ⟨outcome, later⟩
    rw [ended] at same
    cases outcome with
    | error place => rw [bind_of_cut same, bind_of_cut ended]
    | ok value => rw [bind_of_ok same, bind_of_ok ended]

end Intake.Timed

namespace Intake.Plan

variable {I : Interface} {σ α β : Type}

/-- Of two plans in a row the second one runs after the first one. -/
theorem run_bind (answer : (request : I.Request) → Timed σ (I.Reply request)) (plan : Plan I α)
    (second : α → Plan I β) :
    (plan.bind second).run answer = (plan.run answer).bind fun value => (second value).run answer := by
  -- The induction is on the plan. What is bounded by a deadline is not changed by what comes behind it.
  induction plan with
  | done value => rfl
  | ask request next ih => simp only [bind, run, ih, Timed.bind_assoc]
  | sleep span next ih => simp only [bind, run, ih, Timed.bind_assoc]
  | within limit body next _ ih => simp only [bind, run, ih, Timed.bind_assoc]

end Intake.Plan
