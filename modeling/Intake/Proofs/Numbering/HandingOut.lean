import Intake.Proofs.Memory.LedgerHistory
import Intake.Proofs.Samples

/-! A cached block hands out its numbers in order, each of them once and none left out, to whatever calls it
is asked to serve. -/

namespace Intake

/-- A call that takes numbers from a cached block: how many, and when. -/
structure TakeCall where
  need : UInt64
  now : Instant

namespace CachedSegment

/-- Serves calls one after the other: the ranges that are handed out, and the rest of the block. -/
def takeAll (c : CachedSegment) : List TakeCall → List NumberRange × CachedSegment
  | [] => ([], c)
  | call :: calls =>
    match c.take call.need call.now with
    | (.taken range, rest) => (range :: (rest.takeAll calls).1, (rest.takeAll calls).2)
    -- A refused call hands out nothing.
    | (_, rest) => rest.takeAll calls

/-- What a block has handed out when so much of it is left: the numbers from its first to the current one. -/
structure HandedOut (segment : Segment) (ranges : List NumberRange) (c : CachedSegment) : Prop where
  numbers : (ranges.flatMap (·.numbers)).map (·.value.toNat) =
    List.range' segment.first.value.toNat (c.current.toNat + 1 - segment.first.value.toNat)
  inside : ∀ range ∈ ranges, ∀ n ∈ range.numbers,
    segment.first.value ≤ n.value ∧ n.value ≤ segment.last.value
  reached : segment.first.value.toNat ≤ c.current.toNat + 1
  ordered : c.current ≤ c.last
  ends : c.last = segment.last.value

/-- How a block serves a call: in full, if any numbers are asked for and so many are left, and otherwise
not at all. The words that this takes are the numbers they stand for. -/
structure Serves (c : CachedSegment) (call : TakeCall) : Prop where
  remaining : c.remaining.toNat = c.last.toNat - c.current.toNat
  granted : (∃ range, (c.take call.need call.now).1 = .taken range) ↔
    1 ≤ call.need ∧ call.need ≤ c.remaining
  refused : ¬ (1 ≤ call.need ∧ call.need ≤ c.remaining) → c.take call.need call.now = (.exhausted, c)
  exact : call.need ≤ c.remaining → (c.current + call.need).toNat = c.current.toNat + call.need.toNat ∧
    (1 ≤ call.need → (c.current + 1).toNat = c.current.toNat + 1)

variable {c : CachedSegment}

/-- The numbers left of a block in order are counted by its words. -/
theorem remaining_toNat (ordered : c.current.toNat ≤ c.last.toNat) :
    c.remaining.toNat = c.last.toNat - c.current.toNat :=
  UInt64.toNat_sub_of_le _ _ (UInt64.le_iff_toNat_le.mpr ordered)

/-- A block in order serves every call. -/
theorem serves (ordered : c.current.toNat ≤ c.last.toNat) (call : TakeCall) : c.Serves call := by
  have left := remaining_toNat ordered
  have bound := c.last.toNat_lt_size
  have asked : 1 ≤ call.need ∧ call.need ≤ c.remaining ↔
      0 < call.need.toNat ∧ c.current.toNat + call.need.toNat ≤ c.last.toNat := by
    rw [UInt64.le_iff_toNat_le, UInt64.le_iff_toNat_le, left, UInt64.toNat_one]
    omega
  refine ⟨left, ?_, ?_, fun few => ?_⟩
  · rw [asked]
    rcases take_cases ordered call.need call.now with
      ⟨some, fits, range, rest, took, _⟩ | ⟨unfit, took⟩
    · rw [took]
      exact ⟨fun _ => ⟨some, fits⟩, fun _ => ⟨range, rfl⟩⟩
    · rw [took]
      constructor
      · rintro ⟨range, same⟩
        cases same
      · omega
  · rw [asked]
    intro unfit
    rcases take_cases ordered call.need call.now with ⟨some, fits, _⟩ | ⟨_, took⟩
    · exact absurd ⟨some, fits⟩ unfit
    · exact took
  · -- What is handed out ends with the block, and so with a word.
    rw [UInt64.le_iff_toNat_le, left] at few
    refine ⟨Word.add_toNat (by omega), fun some => ?_⟩
    rw [UInt64.le_iff_toNat_le, UInt64.toNat_one] at some
    exact Word.add_toNat (by rw [UInt64.toNat_one]; omega)

/-- What is handed out between two states of a block: the numbers behind the current one of the first, up to
that of the second. -/
structure Gives (c : CachedSegment) (ranges : List NumberRange) (rest : CachedSegment) : Prop where
  numbers : (ranges.flatMap (·.numbers)).map (·.value.toNat) =
    List.range' (c.current.toNat + 1) (rest.current.toNat - c.current.toNat)
  onward : c.current.toNat ≤ rest.current.toNat
  ordered : rest.current.toNat ≤ rest.last.toNat
  ends : rest.last = c.last

/-- A block from which nothing is taken gives nothing. -/
theorem Gives.nothing (ordered : c.current.toNat ≤ c.last.toNat) : c.Gives [] c where
  numbers := by simp
  onward := Nat.le_refl _
  ordered := ordered
  ends := rfl

/-- What a block gives later follows on what it gives before. -/
theorem Gives.trans {middle rest : CachedSegment} {before after : List NumberRange}
    (first : c.Gives before middle) (second : middle.Gives after rest) :
    c.Gives (before ++ after) rest where
  numbers := by
    -- The second run of numbers begins where the first one has ended.
    have border : middle.current.toNat + 1 =
        c.current.toNat + 1 + (middle.current.toNat - c.current.toNat) := by
      have := first.onward
      omega
    have whole : middle.current.toNat - c.current.toNat + (rest.current.toNat - middle.current.toNat) =
        rest.current.toNat - c.current.toNat := by
      have := first.onward
      have := second.onward
      omega
    rw [List.flatMap_append, List.map_append, first.numbers, second.numbers, border,
      List.range'_append_1, whole]
  onward := Nat.le_trans first.onward second.onward
  ordered := second.ordered
  ends := second.ends.trans first.ends

/-- A call that is served is given the numbers up to the new current one. -/
theorem gives_of_taken {rest : CachedSegment} {call : TakeCall} {range : NumberRange}
    (ordered : c.current.toNat ≤ c.last.toNat)
    (took : c.take call.need call.now = (.taken range, rest)) : c.Gives [range] rest := by
  have bound := c.last.toNat_lt_size
  rcases take_cases ordered call.need call.now with
    ⟨some, fits, _, _, same, counts, spans, reached, ends⟩ | ⟨_, same⟩
  · rw [took] at same
    cases same
    have starts : range.start.value.toNat = c.current.toNat + 1 := congrArg Span.first spans
    refine ⟨?_, by omega, by rw [ends]; omega, ends⟩
    -- The range ends where the block does at the latest, and so with a word.
    have listed := NumberRange.numbers_toNat (r := range) (by rw [counts]; exact some)
      (by rw [starts, counts]; omega)
    rw [List.flatMap_singleton, listed, starts, counts, reached, Nat.add_sub_cancel_left]
  · rw [took] at same
    cases same

/-- A call that is not served leaves the block as it is. -/
theorem rest_of_refused {outcome : TakeOutcome} {rest : CachedSegment} {call : TakeCall}
    (ordered : c.current.toNat ≤ c.last.toNat) (took : c.take call.need call.now = (outcome, rest))
    (refused : ∀ range, outcome ≠ .taken range) : rest = c := by
  -- A request either takes a range or leaves the block as it is.
  rcases take_cases ordered call.need call.now with ⟨_, _, range, _, same, _⟩ | ⟨_, same⟩
  · rw [took] at same
    cases same
    exact absurd rfl (refused range)
  · rw [took] at same
    cases same
    rfl

/-- Whatever calls a block in order serves, it gives the numbers up to the new current one. -/
theorem gives_takeAll (calls : List TakeCall) (ordered : c.current.toNat ≤ c.last.toNat) :
    c.Gives (c.takeAll calls).1 (c.takeAll calls).2 := by
  -- A call that is served comes before the others, and any other leaves the block to them as it is.
  induction calls generalizing c with
  | nil => exact .nothing ordered
  | cons call calls ih =>
    unfold takeAll
    split
    · rename_i range rest took
      have given := gives_of_taken ordered took
      exact given.trans (ih given.ordered)
    · rename_i outcome rest refused took
      obtain rfl := rest_of_refused ordered took fun range same => refused range same
      exact ih ordered

/-- What is given of a block from the start on is what it has handed out. -/
theorem Gives.handedOut {segment : Segment} {installed : Instant} {ranges : List NumberRange}
    {rest : CachedSegment} (positive : 0 < segment.span.first)
    (given : (fresh segment installed).Gives ranges rest) : HandedOut segment ranges rest := by
  have starts : (fresh segment installed).current.toNat + 1 = segment.first.value.toNat :=
    congrArg Span.first (span_fresh installed positive)
  obtain ⟨numbers, onward, ordered, ends⟩ := given
  have ends : rest.last = segment.last.value := ends
  rw [starts] at numbers
  rw [show rest.current.toNat - (fresh segment installed).current.toNat =
    rest.current.toNat + 1 - segment.first.value.toNat by omega] at numbers
  refine ⟨numbers, fun range member n listed => ?_, by omega, UInt64.le_iff_toNat_le.mpr ordered, ends⟩
  -- Each number of a range is one of all that are handed out.
  have among : n.value.toNat ∈ (ranges.flatMap (·.numbers)).map (·.value.toNat) :=
    List.mem_map_of_mem (List.mem_flatMap_of_mem member listed)
  rw [numbers, List.mem_range'_1] at among
  rw [UInt64.le_iff_toNat_le, UInt64.le_iff_toNat_le, ← ends]
  omega

/-- A cached block hands out its numbers in order and each of them once. It serves a call in full or not
at all, and then stays as it is. -/
theorem takes_in_order {previous count : UInt64} {segment : Segment}
    (built : Segment.following? previous count = some segment) (installed : Instant)
    (calls : List TakeCall) :
    segment.length = count ∧
      (fresh segment installed).current.toNat + 1 = segment.first.value.toNat ∧
      HandedOut segment ((fresh segment installed).takeAll calls).1
        ((fresh segment installed).takeAll calls).2 ∧
      ∀ call, ((fresh segment installed).takeAll calls).2.Serves call := by
  obtain ⟨some, fits, spans⟩ := Segment.following?_eq_some.mp built
  have positive : 0 < segment.span.first := by
    rw [spans]
    exact Nat.succ_pos _
  -- At the start the block is in order, as the number before its first one is current.
  have whole := span_fresh installed positive
  have starts : (fresh segment installed).current.toNat + 1 = segment.span.first :=
    congrArg Span.first whole
  have ends : (fresh segment installed).last.toNat = segment.span.last := congrArg Span.last whole
  have ordered : (fresh segment installed).current.toNat ≤ (fresh segment installed).last.toNat := by
    rw [spans] at starts ends
    simp only at starts ends
    omega
  have given := gives_takeAll calls ordered
  exact ⟨Segment.length_of_span some spans, starts, given.handedOut positive, serves given.ordered⟩

/-- The block of the three greatest numbers. -/
def lastBlock : Segment := ⟨⟨18446744073709551613⟩, ⟨18446744073709551615⟩⟩

/-- Calls for nothing, for two numbers, for all there are, and for one number twice. -/
def fiveCalls : List TakeCall :=
  [0, 2, 18446744073709551615, 1, 1].map fun need => ⟨need, Sample.clock⟩

/-- The second of the calls takes two numbers and the fourth the third one, so that nothing is left. -/
theorem lastBlock_handed_out :
    Segment.following? 18446744073709551612 3 = some lastBlock ∧
      (fresh lastBlock Sample.clock).takeAll fiveCalls =
        ([⟨⟨18446744073709551613⟩, 2⟩, ⟨⟨18446744073709551615⟩, 1⟩],
          ⟨18446744073709551615, 18446744073709551615, Sample.clock⟩) ∧
      lastBlock.length = 3 ∧
      HandedOut lastBlock [⟨⟨18446744073709551613⟩, 2⟩, ⟨⟨18446744073709551615⟩, 1⟩]
        ⟨18446744073709551615, 18446744073709551615, Sample.clock⟩ := by
  -- The block and the requests are evaluated, and that they are handed out is the theorem's.
  have built : Segment.following? 18446744073709551612 3 = some lastBlock := by decide
  have served : (fresh lastBlock Sample.clock).takeAll fiveCalls =
      ([⟨⟨18446744073709551613⟩, 2⟩, ⟨⟨18446744073709551615⟩, 1⟩],
        ⟨18446744073709551615, 18446744073709551615, Sample.clock⟩) := by decide +kernel
  obtain ⟨length, _, handedOut, _⟩ := takes_in_order built Sample.clock fiveCalls
  rw [served] at handedOut
  exact ⟨built, served, length, handedOut⟩

end CachedSegment

end Intake
