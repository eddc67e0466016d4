/-! Outcomes of steps that may fail, and when something made of them is a success. -/

namespace Intake

variable {ε ε' α β : Type}

/-- An outcome has a value to give exactly when it is a success with it. -/
theorem toOption_eq_some {outcome : Except ε α} {value : α} :
    outcome.toOption = some value ↔ outcome = .ok value := by
  cases outcome <;> simp [Except.toOption]

/-- One outcome after another is a success when both are. -/
theorem bind_eq_ok {first : Except ε α} {second : α → Except ε β} {value : β} :
    first.bind second = .ok value ↔ ∃ middle, first = .ok middle ∧ second middle = .ok value := by
  cases first <;> simp [Except.bind]

/-- A success is kept when failures are renamed. -/
theorem renamed_ok (rename : ε → ε') (value : α) :
    (Except.ok value).mapError rename = .ok value := rfl

end Intake
