import Intake.Proofs.Database.Column
import Intake.Proofs.Numbering.Span
import Intake.Proofs.Outcome
import Intake.Proofs.Samples
import Intake.Database.WatermarkTable

/-! Reserving numbers on a database, which answers with one signed number: the numbers reserved are those
that the watermarks themselves would reserve, and any other answer is an overflow. -/

namespace Intake

/-- Watermarks reserve the block that follows their highest reserved number. -/
theorem Watermarks.reserve_fst (watermarks : Watermarks) (count : UInt64) (now : Instant) :
    (watermarks.reserve count now).map Prod.fst = Segment.following? watermarks.issued count := by
  -- The second part of a reservation is the raised row, which is not looked at here.
  unfold reserve
  rw [Option.map_map]
  exact Option.map_id_apply

namespace Database.WatermarkTable

variable {conversation : Conversation} {count : UInt64} {issued : Int64} {segment : Segment}

/-- The block of so many numbers that ends with the number answered by a database, if there is one. -/
def reserved (count : UInt64) (issued : Int64) : Option Segment := do
  let block ← (Word.toColumn count).toOption
  let before ← Word.columnSub? issued block
  let previous ← (Word.ofColumn before).toOption
  Segment.following? previous count

/-- A reservation comes to its block, or to an overflow. -/
theorem reserve_eq (conversation : Conversation) (count : UInt64) (issued : Int64) :
    reserve conversation count (.ok [issued]) =
      (reserved count issued).elim (.error (.overflow conversation)) .ok := by
  -- Whichever of the checks on the way fails, the failure is the same.
  unfold reserve reserved
  cases Word.toColumn count with
  | error failure => rfl
  | ok block =>
    simp only [renamed_ok, Except.toOption, bind, Except.bind, Option.bind, theRow]
    cases Word.columnSub? issued block with
    | none => rfl
    | some before =>
      dsimp only
      cases Word.ofColumn before with
      | error failure => rfl
      | ok previous =>
        simp only [renamed_ok]
        cases Segment.following? previous count with
        | none => rfl
        | some segment => rfl

/-- What is reserved follows the number that lies so many below the answer. -/
theorem reserved_eq_following {previous : UInt64}
    (below : (previous.toNat : Int) = issued.toInt - count.toNat) :
    reserved count issued = Segment.following? previous count := by
  -- No more is counted than the answer, so that the count has a column as well as the difference.
  have bound := issued.toInt_lt
  have block : (Int64.ofInt count.toNat).toInt = count.toNat :=
    Int64.toInt_ofInt_of_le (by omega) (by omega)
  have before : (Int64.ofInt previous.toNat).toInt = previous.toNat :=
    Int64.toInt_ofInt_of_le (by omega) (by omega)
  have atBlock := Word.toColumn_eq_ok.mpr block
  have atBefore : Word.columnSub? issued (Int64.ofInt count.toNat) = some (Int64.ofInt previous.toNat) :=
    Word.columnSub?_eq_some.mpr (by rw [before, block, below])
  have atPrevious := Word.ofColumn_eq_ok.mpr before
  simp only [reserved, atBlock, atBefore, atPrevious, Except.toOption, Option.bind_eq_bind,
    Option.bind_some]

/-- There is a number so many below the answer when anything is reserved. -/
theorem following_of_reserved (built : reserved count issued = some segment) :
    ∃ previous : UInt64, (previous.toNat : Int) = issued.toInt - count.toNat ∧
      Segment.following? previous count = some segment := by
  -- Each step of the arithmetic succeeds with the number that it has in the integers.
  unfold reserved at built
  simp only [Option.bind_eq_bind, Option.bind_eq_some_iff, toOption_eq_some, Word.toColumn_eq_ok,
    Word.columnSub?_eq_some, Word.ofColumn_eq_ok] at built
  obtain ⟨block, atBlock, before, atBefore, previous, atPrevious, built⟩ := built
  exact ⟨previous, by omega, built⟩

/-- A block is reserved exactly when it has a number and the answer covers it. -/
theorem exists_reserved :
    (∃ segment, reserved count issued = some segment) ↔
      0 < count.toNat ∧ (count.toNat : Int) ≤ issued.toInt := by
  constructor
  · rintro ⟨segment, built⟩
    obtain ⟨previous, below, built⟩ := following_of_reserved built
    obtain ⟨positive, _, _⟩ := Segment.following?_eq_some.mp built
    exact ⟨positive, by omega⟩
  · rintro ⟨positive, covered⟩
    have bound := issued.toInt_lt
    -- The number below the block is not negative, so that there is a word for it.
    have small : (issued.toInt - count.toNat).toNat < UInt64.size := by
      rw [UInt64.size]
      omega
    have previous := UInt64.toNat_ofNat_of_lt' small
    have below : ((UInt64.ofNat (issued.toInt - count.toNat).toNat).toNat : Int) =
        issued.toInt - count.toNat := by omega
    rw [reserved_eq_following below]
    -- The block ends with the answer, which is far below the largest word.
    refine Option.ne_none_iff_exists'.mp fun missing => ?_
    rw [Segment.following?_eq_none, previous, UInt64.size] at missing
    omega

/-- Whatever is converted, subtracted or added on the way to a block is the number that unbounded integers
give, so that nothing wraps around. -/
structure Exact (count : UInt64) (issued : Int64) : Prop where
  block : ∀ block, Word.toColumn count = .ok block → block.toInt = count.toNat
  before : ∀ block before, Word.toColumn count = .ok block → Word.columnSub? issued block = some before →
    before.toInt = issued.toInt - count.toNat
  previous : ∀ block before previous, Word.toColumn count = .ok block →
    Word.columnSub? issued block = some before → Word.ofColumn before = .ok previous →
    (previous.toNat : Int) = issued.toInt - count.toNat
  ends : ∀ block before previous segment, Word.toColumn count = .ok block →
    Word.columnSub? issued block = some before → Word.ofColumn before = .ok previous →
    Segment.following? previous count = some segment →
    (segment.first.value.toNat : Int) = issued.toInt - count.toNat + 1 ∧
      (segment.last.value.toNat : Int) = issued.toInt

/-- The arithmetic of a reservation is exact. -/
theorem exact (count : UInt64) (issued : Int64) : Exact count issued := by
  -- Each step keeps the number that the steps before it have come to.
  have block : ∀ block, Word.toColumn count = .ok block → block.toInt = count.toNat :=
    fun _ atBlock => Word.toColumn_eq_ok.mp atBlock
  have before : ∀ block before, Word.toColumn count = .ok block →
      Word.columnSub? issued block = some before → before.toInt = issued.toInt - count.toNat :=
    fun _ _ atBlock atBefore => by rw [Word.columnSub?_eq_some.mp atBefore, block _ atBlock]
  have previous : ∀ block before previous, Word.toColumn count = .ok block →
      Word.columnSub? issued block = some before → Word.ofColumn before = .ok previous →
      (previous.toNat : Int) = issued.toInt - count.toNat :=
    fun _ _ _ atBlock atBefore atPrevious => by
      rw [← Word.ofColumn_eq_ok.mp atPrevious, before _ _ atBlock atBefore]
  refine ⟨block, before, previous, fun _ _ _ segment atBlock atBefore atPrevious built => ?_⟩
  have number := previous _ _ _ atBlock atBefore atPrevious
  obtain ⟨_, _, spans⟩ := Segment.following?_eq_some.mp built
  rw [Segment.span, Span.mk.injEq] at spans
  omega

/-- A database reserves a block exactly when the count is positive, has a column and is covered by the
answer. The block is then the one that watermarks in memory reserve. -/
theorem reserve_agrees (conversation : Conversation) (count : UInt64) (issued : Int64) :
    let answer := reserve conversation count (.ok [issued])
    ((∃ segment, answer = .ok segment) ↔ 1 ≤ count.toNat ∧
        (count.toNat : Int) ≤ Int64.maxValue.toInt ∧ (count.toNat : Int) ≤ issued.toInt) ∧
      (∀ segment, answer = .ok segment →
        (segment.first.value.toNat : Int) = issued.toInt - count.toNat + 1 ∧
          (segment.last.value.toNat : Int) = issued.toInt) ∧
      (∀ (watermarks : Watermarks) (now : Instant),
        (watermarks.issued.toNat : Int) = issued.toInt - count.toNat →
          (watermarks.reserve count now).map Prod.fst = answer.toOption) ∧
      ((∀ segment, answer ≠ .ok segment) → answer = .error (.overflow conversation)) ∧
      Exact count issued := by
  intro answer
  have comes : answer = (reserved count issued).elim (.error (.overflow conversation)) .ok :=
    reserve_eq conversation count issued
  have found : ∀ segment, answer = .ok segment ↔ reserved count issued = some segment := by
    intro segment
    rw [comes]
    cases reserved count issued <;> simp
  have given : answer.toOption = reserved count issued := by
    rw [comes]
    cases reserved count issued <;> rfl
  refine ⟨?_, fun segment built => ?_, fun watermarks now below => ?_, fun refused => ?_, exact count issued⟩
  · -- A count that is covered by a signed number has a column.
    have bound := issued.toInt_lt
    simp only [found, exists_reserved, Int64.toInt_maxValue]
    omega
  · obtain ⟨previous, below, built⟩ := following_of_reserved ((found segment).mp built)
    obtain ⟨_, _, spans⟩ := Segment.following?_eq_some.mp built
    rw [Segment.span, Span.mk.injEq] at spans
    omega
  · rw [given, watermarks.reserve_fst, reserved_eq_following below]
  · cases block : reserved count issued with
    | none => rw [comes, block]; rfl
    | some segment => exact absurd ((found segment).mpr block) (refused segment)

/-- The last numbers that a column can count are reserved as watermarks below them reserve them, and an
answer far below zero is an overflow. -/
theorem lastNumbers_reserved :
    let before : Watermarks := ⟨Sample.conversation, 9223372036854775551, 0, 0, Sample.clock⟩
    (before.issued.toNat : Int) = Int64.maxValue.toInt - (256 : UInt64).toNat ∧
      reserve Sample.conversation 256 (.ok [Int64.maxValue]) =
        .ok ⟨⟨9223372036854775552⟩, ⟨9223372036854775807⟩⟩ ∧
      (before.reserve 256 Sample.clock).map Prod.fst =
        (reserve Sample.conversation 256 (.ok [Int64.maxValue])).toOption ∧
      reserve Sample.conversation 1 (.ok [Int64.minValue]) = .error (.overflow Sample.conversation) := by
  -- The end of the column is the largest answer that it can give, and its other end has no block before
  -- it.
  intro before
  have below : (before.issued.toNat : Int) = Int64.maxValue.toInt - (256 : UInt64).toNat := by decide
  have last := reserve_agrees Sample.conversation 256 Int64.maxValue
  have least := reserve_agrees Sample.conversation 1 Int64.minValue
  refine ⟨below, by rfl, last.2.2.1 before Sample.clock below, least.2.2.2.1 fun segment built => ?_⟩
  exact absurd (least.1.mp ⟨segment, built⟩).2.2 (by decide)

end Database.WatermarkTable

end Intake
