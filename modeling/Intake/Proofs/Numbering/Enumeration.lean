import Intake.Proofs.Numbering.Span
import Intake.Proofs.Samples
import Intake.Sequence.Grant

/-! The numbers that a grant lists, which are those it counts unless it counts none or more than there are
words. -/

namespace Intake

/-- The first so many numbers of a range are the start of all its numbers. -/
theorem NumberRange.firstNumbers_eq_take (r : NumberRange) (limit : Nat) :
    r.firstNumbers limit = r.numbers.take limit := by
  unfold numbers firstNumbers
  rw [← List.map_take, List.take_range, Nat.min_self]

namespace Grant

/-- A grant that lists as many numbers as it counts, one after the other from its start on, and ends with the
last one of them, if there is one. -/
structure Enumerates (g : Grant) : Prop where
  numbers : g.numbers.map (·.value.toNat) = List.range' g.start.value.toNat g.count.toNat
  ends : ∀ n, g.numbers.getLast? = some n → n = g.last

variable {g : Grant}

/-- How many numbers a grant lists: one if it counts none, and only those up to the greatest word if it counts
more. -/
def listed (g : Grant) : Nat := min (max 1 g.count.toNat) (UInt64.size - g.start.value.toNat)

/-- A grant lists so many numbers, one after the other from its start on. -/
theorem numbers_toNat (g : Grant) :
    g.numbers.map (·.value.toNat) = List.range' g.start.value.toNat g.listed := by
  -- The last number that is listed is cut at the end of the words, and so is the count.
  have bound := g.start.value.toNat_lt_size
  have ends := g.range.last_toNat_eq
  refine g.range.numbers_toNat_eq.trans ?_
  rw [ends]
  unfold listed start count at *
  congr 1
  omega

/-- A grant ends with the last number that it lists. -/
theorem numbers_getLast? (g : Grant) : g.numbers.getLast? = some g.last := by
  have order : g.range.start.value ≤ g.range.last.value := by
    rw [UInt64.le_iff_toNat_le, g.range.last_toNat_eq]
    have bound := g.range.start.value.toNat_lt_size
    omega
  unfold numbers last NumberRange.numbers NumberRange.firstNumbers
  rw [Nat.min_self, List.range_succ, List.map_append, List.map_singleton, List.getLast?_concat]
  -- The distance between the ends leads from the one to the other.
  rw [← UInt64.toNat_sub_of_le _ _ order, UInt64.ofNat_toNat, UInt64.add_comm, UInt64.sub_add_cancel]

/-- A grant lists its numbers in order from its start on. It lists as many as it counts exactly when it
counts some and none lies behind the greatest word. -/
theorem enumerates_iff (g : Grant) :
    g.numbers.map (·.value.toNat) = List.range' g.start.value.toNat g.listed ∧
      g.numbers.getLast? = some g.last ∧
      (∀ limit, g.range.firstNumbers limit = g.numbers.take limit) ∧
      (g.Enumerates ↔ 0 < g.count.toNat ∧ g.start.value.toNat + g.count.toNat ≤ UInt64.size) := by
  refine ⟨g.numbers_toNat, g.numbers_getLast?, g.range.firstNumbers_eq_take, ?_⟩
  have bound := g.start.value.toNat_lt_size
  constructor
  · intro enumerates
    -- Both lists are the same, so they have as many numbers.
    have lengths := congrArg List.length (g.numbers_toNat.symm.trans enumerates.numbers)
    rw [List.length_range', List.length_range'] at lengths
    unfold listed at lengths
    omega
  · rintro ⟨some, fits⟩
    refine ⟨?_, fun n last => ?_⟩
    · have counted : g.listed = g.count.toNat := by
        unfold listed
        omega
      rw [g.numbers_toNat, counted]
    · rw [g.numbers_getLast?] at last
      exact (Option.some.inj last).symm

/-- A grant that counts no numbers. -/
def emptyGrant : Grant := ⟨⟨⟨5⟩, 0⟩, Sample.clock⟩

/-- A grant that counts no numbers lists its start all the same. -/
theorem emptyGrant_lists_its_start :
    emptyGrant.start.value.toNat + emptyGrant.count.toNat ≤ UInt64.size ∧
      emptyGrant.numbers = [⟨5⟩] ∧ ¬ emptyGrant.Enumerates := by
  refine ⟨by decide, by decide, fun enumerates => ?_⟩
  exact absurd enumerates.numbers (by decide)

end Grant

end Intake
