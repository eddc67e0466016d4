import Intake.Database.WatermarkTable
import Intake.Proofs.Memory.Ledger
import Intake.Proofs.Samples

/-! Rows of watermarks that anyone may have written: which of them are read, and what is reported of the
others. -/

namespace Intake

/-- Watermarks that are reported because one of them lies above the one it must not pass. -/
def WatermarkViolation.Real (violation : WatermarkViolation) : Prop :=
  violation.committed < violation.retained ∨ violation.issued < violation.committed

namespace Database

/-- The word of a column has the column's number, or zero where that is negative. -/
theorem wordOrZero_toNat (column : Int64) : (wordOrZero column).toNat = column.toInt.toNat := by
  -- A column has one bit less than a word for its number, so the conversion loses nothing.
  unfold wordOrZero Word.ofColumn
  split
  · have bound := column.toInt_lt
    refine UInt64.toNat_ofNat_of_lt' ?_
    show column.toInt.toNat < 18446744073709551616
    omega
  · show (0 : UInt64).toNat = column.toInt.toNat
    rw [UInt64.toNat_zero]
    omega

/-- One column has a greater word than another when it has a greater number, and one above zero. -/
theorem wordOrZero_lt_iff (below above : Int64) :
    wordOrZero below < wordOrZero above ↔ 0 < above ∧ below < above := by
  -- Over the integers the clamped marks are the larger of each mark and zero.
  rw [UInt64.lt_iff_toNat_lt, wordOrZero_toNat, wordOrZero_toNat, Int64.lt_iff_toInt_lt,
    Int64.lt_iff_toInt_lt, Int64.toInt_zero]
  omega

namespace WatermarkRow

variable {row : WatermarkRow} {conversation : Conversation}

/-- The marks of a row are numbers, and each is at most the one above it. -/
structure InOrder (row : WatermarkRow) : Prop where
  kept : 0 ≤ row.retained
  stored : row.retained ≤ row.committed
  reserved : row.committed ≤ row.issued

/-- The watermarks of a conversation that have the very numbers of a row. -/
structure ReadAs (row : WatermarkRow) (conversation : Conversation) (read : Watermarks) : Prop where
  conversation : read.conversation = conversation
  issued : (read.issued.toNat : Int) = row.issued.toInt
  committed : (read.committed.toNat : Int) = row.committed.toInt
  retained : (read.retained.toNat : Int) = row.retained.toInt
  updatedAt : read.updatedAt = row.updatedAt

/-- A report that has the numbers of a row, with zero in place of the negative ones. -/
structure ReportedAs (row : WatermarkRow) (violation : WatermarkViolation) : Prop where
  issued : violation.issued.toNat = row.issued.toInt.toNat
  committed : violation.committed.toNat = row.committed.toInt.toNat
  retained : violation.retained.toNat = row.retained.toInt.toNat

/-- What is reported of a row. -/
def report (row : WatermarkRow) : WatermarkViolation :=
  ⟨wordOrZero row.issued, wordOrZero row.committed, wordOrZero row.retained⟩

/-- The report of a row has its numbers. -/
theorem reportedAs_report (row : WatermarkRow) : row.ReportedAs row.report :=
  ⟨wordOrZero_toNat _, wordOrZero_toNat _, wordOrZero_toNat _⟩

/-- A report is real when a mark above zero has passed the one that bounds it. -/
theorem real_report_iff (row : WatermarkRow) :
    row.report.Real ↔ (0 < row.retained ∧ row.committed < row.retained) ∨
      (0 < row.committed ∧ row.issued < row.committed) :=
  or_congr (wordOrZero_lt_iff _ _) (wordOrZero_lt_iff _ _)

/-- A row in order is read with its numbers. -/
theorem InOrder.toWatermarks (order : row.InOrder) (conversation : Conversation) :
    ∃ read, row.toWatermarks conversation = .ok read ∧ row.ReadAs conversation read := by
  obtain ⟨kept, stored, reserved⟩ := order
  -- From the lowest mark upwards none is negative, and none lies below another.
  rw [Int64.le_iff_toInt_le, Int64.toInt_zero] at kept
  rw [Int64.le_iff_toInt_le] at stored reserved
  have nonneg : ¬ (row.issued < 0 ∨ row.committed < 0 ∨ row.retained < 0) := by
    simp only [Int64.lt_iff_toInt_lt, Int64.toInt_zero]
    omega
  let read : Watermarks := ⟨conversation, wordOrZero row.issued, wordOrZero row.committed,
    wordOrZero row.retained, row.updatedAt⟩
  have ordered : read.InOrder := by
    constructor <;> (rw [UInt64.le_iff_toNat_le, wordOrZero_toNat, wordOrZero_toNat]; omega)
  have readAs : row.ReadAs conversation read := by
    refine ⟨rfl, ?_, ?_, ?_, rfl⟩ <;> (rw [wordOrZero_toNat]; omega)
  refine ⟨read, ?_, readAs⟩
  unfold WatermarkRow.toWatermarks
  dsimp only
  rw [if_neg nonneg, ordered.ofStored]
  rfl

/-- A row out of order is refused with its report. -/
theorem toWatermarks_of_not_inOrder (disorder : ¬ row.InOrder) (conversation : Conversation) :
    row.toWatermarks conversation = .error (.inconsistent conversation row.report) := by
  unfold WatermarkRow.toWatermarks
  dsimp only
  split
  · rfl
  · -- Without a negative mark, one of the others is above the one that bounds it.
    rename_i nonneg
    have passed : row.report.Real := by
      rw [real_report_iff]
      refine Classical.byContradiction fun ordered => disorder ⟨?_, ?_, ?_⟩
      all_goals
        simp only [Int64.lt_iff_toInt_lt, Int64.le_iff_toInt_le, Int64.toInt_zero] at nonneg ordered ⊢
        omega
    have refused : Watermarks.ofStored conversation (wordOrZero row.issued)
        (wordOrZero row.committed) (wordOrZero row.retained) row.updatedAt = .error row.report :=
      if_pos passed
    rw [refused]
    rfl

end WatermarkRow

namespace WatermarkTable

/-- A row is read exactly when its marks are numbers in order. Any other is reported with zero for
negative marks, which need not be out of order itself. -/
theorem load_reports (conversation : Conversation) (row : WatermarkRow) (others : List WatermarkRow) :
    let answer := load conversation (.ok (row :: others))
    ((∃ read, answer = .ok (some read)) ↔ row.InOrder) ∧
      (∀ read, answer = .ok (some read) → row.ReadAs conversation read) ∧
      (¬ row.InOrder → ∃ violation, answer = .error (.inconsistent conversation violation) ∧
        row.ReportedAs violation ∧
        (violation.Real ↔ (0 < row.retained ∧ row.committed < row.retained) ∨
          (0 < row.committed ∧ row.issued < row.committed))) := by
  intro answer
  -- The first row decides, whatever the others are.
  have loaded : answer = (row.toWatermarks conversation).map some := by
    show ((row.toWatermarks conversation).bind fun read => .ok (some read)) = _
    cases row.toWatermarks conversation <;> rfl
  by_cases order : row.InOrder
  · obtain ⟨read, same, readAs⟩ := order.toWatermarks conversation
    rw [same] at loaded
    refine ⟨⟨fun _ => order, fun _ => ⟨read, loaded⟩⟩, fun other found => ?_,
      fun disorder => absurd order disorder⟩
    cases loaded.symm.trans found
    exact readAs
  · rw [WatermarkRow.toWatermarks_of_not_inOrder order] at loaded
    refine ⟨⟨fun ⟨read, found⟩ => ?_, fun order' => absurd order' order⟩, fun read found => ?_,
      fun _ => ⟨row.report, loaded, row.reportedAs_report, row.real_report_iff⟩⟩
    · cases loaded.symm.trans found
    · cases loaded.symm.trans found

/-- A row whose lowest kept number is negative, and whose other marks are in order. -/
def negativeRow : WatermarkRow := ⟨5, 5, -1, Sample.clock⟩

/-- Of a row that is refused for a negative mark, marks in order are reported. -/
theorem negativeRow_reported_in_order :
    ¬ negativeRow.InOrder ∧
      load Sample.conversation (.ok [negativeRow]) =
        .error (.inconsistent Sample.conversation ⟨5, 5, 0⟩) ∧
      ¬ WatermarkViolation.Real ⟨5, 5, 0⟩ := by
  -- The row itself is out of order at its third mark, which the report gives as zero.
  refine ⟨fun order => absurd order.kept (by decide), by rfl, ?_⟩
  unfold WatermarkViolation.Real
  decide

end WatermarkTable

end Database

end Intake
