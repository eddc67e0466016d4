import Intake.Sequence.Segment
import Intake.Sequence.Watermarks

/-! The numbers that blocks, the cached rest of a block, and granted ranges stand for. -/

namespace Intake

/-- Consecutive numbers, both ends included, none if the ends are the wrong way round. -/
structure Span where
  first : Nat
  last : Nat
deriving DecidableEq

/-- Whether a number lies in a span. -/
def Span.holds (s : Span) (n : Nat) : Bool := s.first ≤ n ∧ n ≤ s.last

/-- A number lies in a span when it lies between the ends. -/
@[simp] theorem Span.holds_eq_true {s : Span} {n : Nat} :
    s.holds n = true ↔ s.first ≤ n ∧ n ≤ s.last := by
  simp [holds]

/-- Two spans of which one goes on where the other ends hold together what they span. -/
theorem Span.holds_adjacent {a b c : Nat} (lower : a ≤ b) (upper : b ≤ c) (n : Nat) :
    (if (Span.mk (a + 1) c).holds n = true then 1 else 0) =
      (if (Span.mk (a + 1) b).holds n = true then 1 else 0) +
        (if (Span.mk (b + 1) c).holds n = true then 1 else 0) := by
  -- A number of the whole lies on one side of the border, and not on the other.
  simp only [holds_eq_true]
  by_cases below : n ≤ b
  · simp [below, show ¬ b + 1 ≤ n by omega, show n ≤ c by omega]
  · simp [below, show a + 1 ≤ n by omega, show b + 1 ≤ n by omega]

/-- The numbers of a block. -/
def Segment.span (s : Segment) : Span := ⟨s.first.value.toNat, s.last.value.toNat⟩

/-- The numbers of a granted range. -/
def NumberRange.span (r : NumberRange) : Span :=
  ⟨r.start.value.toNat, r.start.value.toNat + r.count.toNat - 1⟩

/-- The last number of a range is held at the greatest word, and at the start of a range that counts none. -/
theorem NumberRange.last_toNat_eq (r : NumberRange) :
    r.last.value.toNat = min (r.start.value.toNat + (r.count.toNat - 1)) (UInt64.size - 1) := by
  unfold last
  rw [Word.saturatingAdd_toNat, Word.saturatingSub_toNat, UInt64.toNat_one]

/-- The last number of a range that ends with a word is the last one of its span. -/
theorem NumberRange.last_toNat {r : NumberRange} (nonempty : 0 < r.count.toNat)
    (fits : r.start.value.toNat + r.count.toNat ≤ UInt64.size) :
    r.last.value.toNat = r.start.value.toNat + (r.count.toNat - 1) := by
  -- Neither of the two held operations reaches its bound.
  rw [last_toNat_eq]
  omega

/-- The numbers of a range are those from its start to its last one. -/
theorem NumberRange.numbers_toNat_eq (r : NumberRange) :
    r.numbers.map (·.value.toNat) =
      List.range' r.start.value.toNat (r.last.value.toNat - r.start.value.toNat + 1) := by
  have ends := r.last.value.toNat_lt_size
  have starts := r.start.value.toNat_lt_size
  unfold numbers firstNumbers
  rw [Nat.min_self, List.map_map, List.range'_eq_map_range]
  refine List.map_congr_left fun i member => ?_
  -- None lies behind the last one, so none of them wraps around.
  rw [List.mem_range] at member
  simp only [Function.comp_apply]
  rw [Word.add_toNat] <;> rw [UInt64.toNat_ofNat_of_lt' (by omega)]
  have order : r.start.value.toNat ≤ r.last.value.toNat := by
    rw [last_toNat_eq]
    omega
  omega

/-- The numbers of a range that ends with a word are as many as it counts, from its start on. -/
theorem NumberRange.numbers_toNat {r : NumberRange} (nonempty : 0 < r.count.toNat)
    (fits : r.start.value.toNat + r.count.toNat ≤ UInt64.size) :
    r.numbers.map (·.value.toNat) = List.range' r.start.value.toNat r.count.toNat := by
  -- With at least one number that fits, the last one is not cut at the end of the words.
  rw [numbers_toNat_eq, last_toNat nonempty fits]
  congr 1
  omega

/-- The span of a range holds its numbers and no others. -/
theorem NumberRange.holds_span {r : NumberRange} (nonempty : 0 < r.count.toNat)
    (fits : r.start.value.toNat + r.count.toNat ≤ UInt64.size) (number : SequenceNumber) :
    r.span.holds number.value.toNat = true ↔ number ∈ r.numbers := by
  -- A number is listed when the natural number that it stands for is, as no two stand for one.
  have listed : number ∈ r.numbers ↔ number.value.toNat ∈ r.numbers.map (·.value.toNat) := by
    simp only [List.mem_map]
    constructor
    · exact fun member => ⟨number, member, rfl⟩
    · intro given
      obtain ⟨⟨other⟩, member, same⟩ := given
      obtain ⟨word⟩ := number
      rwa [show word = other from (UInt64.toNat_inj.mp same).symm]
  rw [listed, numbers_toNat nonempty fits, List.mem_range'_1]
  simp only [Span.holds_eq_true, span]
  omega

/-- The numbers a cached block has still to hand out. -/
def CachedSegment.span (c : CachedSegment) : Span := ⟨c.current.toNat + 1, c.last.toNat⟩

/-- A block follows a number when it holds so many numbers, the next one first. -/
theorem Segment.following?_eq_some {previous count : UInt64} {segment : Segment} :
    Segment.following? previous count = some segment ↔
      0 < count.toNat ∧ previous.toNat + count.toNat < UInt64.size ∧
        segment.span = ⟨previous.toNat + 1, previous.toNat + count.toNat⟩ := by
  -- Both ends are checked sums, and the first one fits whenever the last one does.
  unfold following? span
  by_cases nothing : count = 0
  · subst nothing; simp
  have positive := Word.toNat_pos nothing
  rw [if_neg nothing]
  constructor
  -- A block that is built has the two sums for its ends.
  · intro built
    obtain ⟨first, atFirst, rest⟩ := Option.bind_eq_some_iff.mp built
    obtain ⟨last, atLast, same⟩ := Option.bind_eq_some_iff.mp rest
    obtain ⟨_, firstValue⟩ := Word.checkedAdd_eq_some.mp atFirst
    obtain ⟨fits, lastValue⟩ := Word.checkedAdd_eq_some.mp atLast
    cases same
    exact ⟨positive, fits, by rw [firstValue, lastValue]; rfl⟩
  -- The ends that are asked for are sums that fit, and two words with one value are the same.
  · intro given
    obtain ⟨_, fits, spans⟩ := given
    obtain ⟨⟨first⟩, ⟨last⟩⟩ := segment
    simp only [Span.mk.injEq] at spans
    have atFirst : Word.checkedAdd previous 1 = some first :=
      Word.checkedAdd_eq_some.mpr ⟨by simp; omega, by simpa using spans.1⟩
    have atLast : Word.checkedAdd previous count = some last :=
      Word.checkedAdd_eq_some.mpr ⟨fits, spans.2⟩
    simp [atFirst, atLast]

/-- No block follows a number when it would be empty or reach past the largest word. -/
theorem Segment.following?_eq_none {previous count : UInt64} :
    Segment.following? previous count = none ↔
      count.toNat = 0 ∨ UInt64.size ≤ previous.toNat + count.toNat := by
  constructor
  · intro missing
    rcases Nat.eq_zero_or_pos count.toNat with zero | positive
    · exact .inl zero
    refine .inr (Nat.le_of_not_lt fun fits => ?_)
    -- A block that fits would have been built.
    let segment : Segment :=
      ⟨⟨UInt64.ofNat (previous.toNat + 1)⟩, ⟨UInt64.ofNat (previous.toNat + count.toNat)⟩⟩
    have spans : segment.span = ⟨previous.toNat + 1, previous.toNat + count.toNat⟩ := by
      simp only [segment, span, Span.mk.injEq]
      exact ⟨UInt64.toNat_ofNat_of_lt' (by omega), UInt64.toNat_ofNat_of_lt' fits⟩
    have built := Segment.following?_eq_some.mpr ⟨positive, fits, spans⟩
    rw [missing] at built
    cases built
  · intro refused
    cases built : Segment.following? previous count with
    | none => rfl
    | some segment =>
      obtain ⟨positive, fits, _⟩ := Segment.following?_eq_some.mp built
      omega

/-- A block that starts above zero is cached with all of its numbers to hand out. -/
theorem CachedSegment.span_fresh {segment : Segment} (now : Instant)
    (positive : 0 < segment.span.first) : (CachedSegment.fresh segment now).span = segment.span := by
  -- The cache counts from the number before the first one, which a positive first number has.
  unfold CachedSegment.fresh CachedSegment.span Segment.span at *
  have one : (1 : UInt64) ≤ segment.first.value := by
    rw [UInt64.le_iff_toNat_le]; exact positive
  simp only [UInt64.toNat_sub_of_le _ _ one]
  congr 1
  exact Nat.sub_add_cancel positive

/-- A range that is taken has as many numbers as were asked for. -/
theorem CachedSegment.count_of_taken {c rest : CachedSegment} {need : UInt64} {now : Instant}
    {range : NumberRange} (taken : c.take need now = (.taken range, rest)) : range.count = need := by
  -- Nothing but a whole range is ever handed out.
  unfold take at taken
  split at taken
  · cases taken
  · cases taken; rfl

/-- Taking from a cached block hands out the next numbers, if so many are left and any are asked
for, and otherwise changes nothing. -/
theorem CachedSegment.take_cases {c : CachedSegment} (ordered : c.current.toNat ≤ c.last.toNat)
    (need : UInt64) (now : Instant) :
    (0 < need.toNat ∧ c.current.toNat + need.toNat ≤ c.last.toNat ∧
      ∃ range rest, c.take need now = (.taken range, rest) ∧ range.count = need ∧
        range.span = ⟨c.current.toNat + 1, c.current.toNat + need.toNat⟩ ∧
        rest.current.toNat = c.current.toNat + need.toNat ∧ rest.last = c.last) ∨
    ((need.toNat = 0 ∨ c.last.toNat < c.current.toNat + need.toNat) ∧
      c.take need now = (.exhausted, c)) := by
  -- What is left is the distance to the end, which does not wrap as the block is in order.
  have bound := c.last.toNat_lt_size
  have left : c.remaining.toNat = c.last.toNat - c.current.toNat :=
    UInt64.toNat_sub_of_le _ _ (UInt64.le_iff_toNat_le.mpr ordered)
  unfold take
  by_cases refused : need = 0 ∨ c.remaining < need
  · refine .inr ⟨?_, if_pos refused⟩
    rcases refused with nothing | few
    · exact .inl (by simp [nothing])
    · rw [UInt64.lt_iff_toNat_lt] at few; omega
  · simp only [not_or, UInt64.lt_iff_toNat_lt, Nat.not_lt] at refused
    have positive := Word.toNat_pos refused.1
    have fits : c.current.toNat + need.toNat ≤ c.last.toNat := by omega
    have next : (c.current + 1).toNat = c.current.toNat + 1 := by
      rw [Word.add_toNat (by simp only [UInt64.reduceToNat]; omega)]
      simp only [UInt64.reduceToNat]
    have reached : (c.current + need).toNat = c.current.toNat + need.toNat :=
      Word.add_toNat (by omega)
    refine .inl ⟨positive, fits, _, _, if_neg ?_, rfl, ?_, reached, rfl⟩
    · simp only [not_or, UInt64.lt_iff_toNat_lt, Nat.not_lt]; exact refused
    · simp only [NumberRange.span, next, Span.mk.injEq, true_and]
      omega

end Intake
