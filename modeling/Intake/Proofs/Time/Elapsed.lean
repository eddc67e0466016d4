import Intake.Proofs.Time.Instant

/-! The time between two instants, which leaves out a leap second at the end of a day when only the earlier
one lies in it. -/

namespace Intake

namespace Instant

variable {start now past : Instant} {span back : Int}

/-- What the time between two instants leaves out: the leap second of the earlier one, when that ends a day
and the later one lies in another day. -/
def leftOut (start now : Instant) : Int :=
  if start.leap ∧ start.secondOfDay = 86399 ∧ now.secondOfDay < 86399 then 1000000000 else 0

/-- What is left out is never negative. -/
theorem leftOut_nonneg (start now : Instant) : 0 ≤ start.leftOut now := by
  unfold leftOut
  split <;> decide

/-- Between an instant and itself there is no time. -/
theorem since_self (t : Instant) : t.since t = 0 := by
  unfold since
  simp only [Int.lt_irrefl, and_false, ↓reduceIte, Int.sub_self]

/-- A leap second is the last one of a minute. -/
theorem secondOfDay_of_leap {t : Instant} (leaps : t.leap = true) : t.secondOfDay % 60 = 59 := by
  have ends := t.endsMinute leaps
  unfold secondOfDay
  omega

/-- What lies a second or more back is in no leap second. -/
theorem nanos_of_back (long : 1000000000 ≤ back) (reached : now.move? (-back) = some past) :
    past.leap = false ∧ past.nanos = now.sinceEpoch - back := by
  -- A second or more takes any instant out of its leap second, so that no fraction of it is left over.
  have before : now.nanos % 1000000000 + -back < 0 := by omega
  unfold move? ofNanos? ofParts? at reached
  unfold sinceEpoch
  cases leaps : now.leap
  all_goals
    simp only [leaps, before, Bool.false_eq_true, and_true, ↓reduceIte, Bool.false_and] at reached ⊢
    split at reached
    · cases reached
      refine ⟨rfl, ?_⟩
      dsimp only
      omega
    · cases reached

/-- What lies more than a second back is before the last instant there is. -/
theorem lt_latest_of_back (long : 1000000000 < back) (reached : now.move? (-back) = some past) :
    past < latest := by
  -- The largest instant lies inside the last leap second, which moving back by more than a second
  -- leaves.
  obtain ⟨plain, nanos⟩ := nanos_of_back (Int.le_of_lt long) reached
  have bound := now.before
  have before : past.nanos < lastNanos := by
    unfold sinceEpoch at nanos
    split at nanos <;> omega
  show past.place < latest.place
  simp only [place, plain, latest, Bool.false_eq_true, ↓reduceIte]
  omega

/-- A start that is less than a span ago is later than what lies the whole span back, and what it leaves
out. -/
theorem back_lt_of_since_lt (order : start ≤ now) (recent : now.since start < span)
    (short : span ≤ 58000000000) (long : 1000000000 ≤ back) (far : span + start.leftOut now ≤ back)
    (reached : now.move? (-back) = some past) : past < start := by
  obtain ⟨plain, nanos⟩ := nanos_of_back long reached
  -- Two instants so close lie in different days only if the earlier one is in the last minute of its day,
  -- and a leap second of the later one comes after its first minute.
  have ends := @secondOfDay_of_leap start
  have ends' := @secondOfDay_of_leap now
  change start.place ≤ now.place at order
  show past.place < start.place
  unfold leftOut at far
  unfold since sinceEpoch at recent
  unfold sinceEpoch at nanos
  unfold place at order ⊢
  unfold secondOfDay at *
  rw [plain]
  cases leaps : start.leap <;> cases leaps' : now.leap
  all_goals
    simp only [leaps, leaps', Bool.false_eq_true, ↓reduceIte, false_and, true_and, forall_const,
      false_implies] at *
  · -- Neither lies in a leap second: the time between them is the difference of their nanoseconds.
    omega
  · -- Only the later one does, at the later time of day, so that nothing is taken off.
    split at recent <;> omega
  · -- Only the earlier one does, which is what may be left out.
    split at recent <;> split at far <;> omega
  · -- Both do, and in the same one: two leap seconds are further apart.
    split at recent
    · split at far <;> omega
    · split at recent <;> split at far <;> omega

end Instant

end Intake
