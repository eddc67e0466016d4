import Intake.Word

/-! Words and the signed columns that store them: what is converted or subtracted keeps its number, and
a result that has no place is refused. -/

namespace Intake.Word

variable {word : UInt64} {column a b difference : Int64}

/-- Words below the number of words that a column stores have one, which has their number. -/
theorem toColumn_eq_ok : toColumn word = .ok column ↔ column.toInt = word.toNat := by
  -- A number that a column has is below the first one that no column stores.
  have bound := column.toInt_lt
  unfold toColumn
  split
  · rename_i fits
    rw [columnSize] at fits
    have exact : (Int64.ofInt word.toNat).toInt = word.toNat :=
      Int64.toInt_ofInt_of_le (by omega) (by omega)
    rw [Except.ok.injEq, ← Int64.toInt_inj, exact]
    exact eq_comm
  · rename_i overflows
    rw [columnSize] at overflows
    constructor
    · intro same; cases same
    · intro same; omega

/-- Columns that are not negative store a word, which has their number. -/
theorem ofColumn_eq_ok : ofColumn column = .ok word ↔ column.toInt = word.toNat := by
  unfold ofColumn
  split
  · rename_i nonneg
    -- A column that is not negative fits a word, as its own largest value is smaller.
    have fits : column.toInt.toNat < UInt64.size := by
      have bound := column.toInt_lt
      show column.toInt.toNat < 18446744073709551616
      omega
    rw [Except.ok.injEq, ← UInt64.toNat_inj, UInt64.toNat_ofNat_of_lt' fits]
    omega
  · constructor
    · intro same; cases same
    · intro same; omega

/-- A checked difference of two columns is the difference of their numbers. -/
theorem columnSub?_eq_some :
    columnSub? a b = some difference ↔ difference.toInt = a.toInt - b.toInt := by
  -- A difference that is the number of a column lies between the bounds that are checked.
  have bounds := And.intro difference.le_toInt difference.toInt_lt
  unfold columnSub?
  dsimp only
  rw [Int64.toInt_minValue, Int64.toInt_maxValue]
  split
  · rename_i fits
    have exact : (Int64.ofInt (a.toInt - b.toInt)).toInt = a.toInt - b.toInt :=
      Int64.toInt_ofInt_of_le fits.1 (by omega)
    rw [Option.some.injEq, ← Int64.toInt_inj, exact]
    exact eq_comm
  · rename_i overflows
    constructor
    · intro same; cases same
    · intro same; omega

end Intake.Word
