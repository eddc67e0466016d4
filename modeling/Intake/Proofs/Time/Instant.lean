import Intake.Time.Instant

/-! The order of instants, and how it goes with the spans that are added to them. -/

namespace Intake

namespace Instant

/-- Readings of a clock that is never set back. -/
def Ascending (clocks : List Instant) : Prop := clocks.Pairwise (· ≤ ·)

variable {a b c : Instant}

/-- An instant is no later than itself. -/
theorem le_refl (a : Instant) : a ≤ a := Int.le_refl a.place

/-- The order of instants is transitive. -/
theorem le_trans (first : a ≤ b) (second : b ≤ c) : a ≤ c := Int.le_trans first second

/-- What is no later than an instant lies before all that lie behind that one. -/
theorem lt_of_le_of_lt (first : a ≤ b) (second : b < c) : a < c := Int.lt_of_le_of_lt first second

/-- Of two instants one is no later than the other. -/
theorem le_total (a b : Instant) : a ≤ b ∨ b ≤ a := Int.le_total a.place b.place

/-- Nothing lies before the first instant. -/
theorem earliest_le (a : Instant) : earliest ≤ a := by
  -- The earliest instant has the lowest place, and none before it can be named.
  show earliest.place ≤ a.place
  have bound := a.after
  simp only [place, earliest, Bool.false_eq_true, ↓reduceIte]
  split <;> omega

/-- The earlier of two instants is no later than the first one. -/
theorem earlier_le_left (a b : Instant) : a.earlier b ≤ a := by
  -- The order is total, so what is not earlier is at least as late.
  unfold earlier
  split
  · exact le_refl a
  · rename_i later
    exact (le_total a b).resolve_left later

/-- The earlier of two instants is no later than the second one. -/
theorem earlier_le_right (a b : Instant) : a.earlier b ≤ b := by
  unfold earlier
  split
  · assumption
  · exact le_refl b

/-- What is reached by a span lies no earlier than its start. -/
theorem le_of_plus? {now later : Instant} {d : Duration} (reached : now.plus? d = some later) :
    now ≤ later := by
  -- Within a second the places of instants differ as they do, and each second has twice its length.
  have sub : 0 ≤ now.nanos % 1000000000 := Int.emod_nonneg _ (by decide)
  have forward : ¬ (now.leap = true ∧ now.nanos % 1000000000 + (d.nanos : Int) < 0) := by
    intro back
    omega
  unfold plus? move? ofParts? at reached
  simp only [forward, ↓reduceIte] at reached
  split at reached
  · cases reached
    show now.place ≤ place _
    simp only [place]
    by_cases leaps : now.leap = true
    · by_cases within : now.nanos % 1000000000 + (d.nanos : Int) < 1000000000
      · simp only [leaps, Bool.true_and, within, decide_true, ↓reduceIte]
        omega
      · simp only [leaps, Bool.true_and, within, decide_false, Bool.false_eq_true, ↓reduceIte]
        omega
    · rw [Bool.not_eq_true] at leaps
      simp only [leaps, Bool.false_and, Bool.false_eq_true, ↓reduceIte]
      omega
  · cases reached

/-- A span leads on, or to the last instant there is. -/
theorem plus_cases (now : Instant) (d : Duration) : now ≤ now.plus d ∨ now.plus d = latest := by
  -- Only where no later instant can be named does the sum stop at the latest.
  unfold plus
  cases reached : now.plus? d with
  | some later => exact .inl (le_of_plus? reached)
  | none => exact .inr rfl

/-- Whatever is added to the latest instant, there is none behind it. -/
theorem latest_plus (d : Duration) : latest.plus d = latest := by
  -- An instant that is reached lies no later than the latest one, from which it was reached.
  unfold plus plus? move?
  simp only [latest, Bool.false_eq_true, false_and, ↓reduceIte, Bool.false_and]
  unfold ofParts?
  split
  · rename_i inside
    have nothing : lastNanos + (d.nanos : Int) = lastNanos := by omega
    simp only [nothing, Option.getD_some]
  · rfl

end Instant

end Intake
