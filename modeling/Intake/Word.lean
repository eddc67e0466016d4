/-! Checked and saturating arithmetic on 64-bit words, and the signed columns that store them. -/

namespace Intake

/-- Why a number does not fit the type it is converted to. -/
inductive ConversionError where
  | tooLarge
  | tooSmall
deriving DecidableEq, Repr

/-- The text of a failed conversion. -/
def ConversionError.message : ConversionError → String
  | .tooLarge => "number too large to fit in target type"
  | .tooSmall => "number too small to fit in target type"

namespace Word

/-- The largest 64-bit word. -/
def greatest : UInt64 := 18446744073709551615

/-- The word of a natural number, when the number has one. -/
def ofNat? (n : Nat) : Option UInt64 :=
  if n < UInt64.size then some (UInt64.ofNat n) else none

/-- The word of a natural number, the largest word standing for all that lie above it. -/
def clamp (n : Nat) : UInt64 :=
  if n < UInt64.size then UInt64.ofNat n else greatest

/-- The sum of two words, absent when it needs more than 64 bits. -/
def checkedAdd (a b : UInt64) : Option UInt64 := ofNat? (a.toNat + b.toNat)

/-- The sum of two words, held at the largest word. -/
def saturatingAdd (a b : UInt64) : UInt64 := clamp (a.toNat + b.toNat)

/-- The difference of two words, held at zero. -/
def saturatingSub (a b : UInt64) : UInt64 := clamp (a.toNat - b.toNat)

/-- The product of two words, held at the largest word. -/
def saturatingMul (a b : UInt64) : UInt64 := clamp (a.toNat * b.toNat)

/-- The number of words that a signed column can store. -/
def columnSize : Nat := 9223372036854775808

/-- The signed column that stores a word. -/
def toColumn (word : UInt64) : Except ConversionError Int64 :=
  -- The upper half of the words has no signed counterpart.
  if word.toNat < columnSize then .ok (Int64.ofInt word.toNat) else .error .tooLarge

/-- The word stored in a signed column. -/
def ofColumn (column : Int64) : Except ConversionError UInt64 :=
  -- A negative column holds no word.
  if 0 ≤ column.toInt then .ok (UInt64.ofNat column.toInt.toNat) else .error .tooSmall

/-- The difference of two columns, absent when it needs more than 64 bits. -/
def columnSub? (a b : Int64) : Option Int64 :=
  let difference := a.toInt - b.toInt
  if Int64.minValue.toInt ≤ difference ∧ difference ≤ Int64.maxValue.toInt then
    some (Int64.ofInt difference)
  else none

/-- The largest word is one below the number of words. -/
@[simp] theorem greatest_toNat : greatest.toNat = UInt64.size - 1 := by
  -- Both sides are numerals.
  rfl

/-- Clamping takes the smaller of the number and the largest word. -/
theorem clamp_toNat (n : Nat) : (clamp n).toNat = min n (UInt64.size - 1) := by
  -- Below the size nothing is lost, and from the size on the largest word stands in.
  unfold clamp
  split
  · rename_i fits
    rw [UInt64.toNat_ofNat_of_lt' fits]
    omega
  · rename_i overflows
    rw [greatest_toNat]
    omega

/-- A number has a word exactly when it lies below the number of words. -/
theorem ofNat?_eq_some {n : Nat} {word : UInt64} :
    ofNat? n = some word ↔ n < UInt64.size ∧ word.toNat = n := by
  -- The check before the conversion is what makes the conversion exact.
  unfold ofNat?
  split
  · rename_i fits
    constructor
    · intro same
      cases same
      exact ⟨fits, UInt64.toNat_ofNat_of_lt' fits⟩
    · intro ⟨_, same⟩
      rw [← same, UInt64.ofNat_toNat]
  · rename_i overflows
    constructor
    · intro same; cases same
    · intro ⟨fits, _⟩; exact absurd fits overflows

/-- A checked sum is present exactly when it fits, and is then the sum. -/
theorem checkedAdd_eq_some {a b sum : UInt64} :
    checkedAdd a b = some sum ↔ a.toNat + b.toNat < UInt64.size ∧ sum.toNat = a.toNat + b.toNat :=
  ofNat?_eq_some

/-- A checked sum is missing exactly when it does not fit in a word. -/
theorem checkedAdd_eq_none {a b : UInt64} :
    checkedAdd a b = none ↔ UInt64.size ≤ a.toNat + b.toNat := by
  -- The sum is taken over the naturals, where it cannot wrap around.
  unfold checkedAdd ofNat?
  split
  · rename_i fits
    exact ⟨nofun, fun full => absurd fits (Nat.not_lt.mpr full)⟩
  · rename_i full
    exact ⟨fun _ => Nat.not_lt.mp full, fun _ => rfl⟩

/-- A saturating sum is the sum held at the largest word. -/
theorem saturatingAdd_toNat (a b : UInt64) :
    (saturatingAdd a b).toNat = min (a.toNat + b.toNat) (UInt64.size - 1) := clamp_toNat _

/-- A saturating difference is the difference of natural numbers. -/
theorem saturatingSub_toNat (a b : UInt64) :
    (saturatingSub a b).toNat = a.toNat - b.toNat := by
  -- The difference is no larger than its first operand, which already is a word.
  have bound := a.toNat_lt_size
  rw [saturatingSub, clamp_toNat]
  omega

/-- A word other than zero is positive. -/
theorem toNat_pos {word : UInt64} (nonzero : word ≠ 0) : 0 < word.toNat :=
  Nat.pos_of_ne_zero fun zero => nonzero (UInt64.toNat_inj.mp zero)

/-- A sum that fits is the sum of natural numbers. -/
theorem add_toNat {a b : UInt64} (fits : a.toNat + b.toNat < UInt64.size) :
    (a + b).toNat = a.toNat + b.toNat := by
  rw [UInt64.toNat_add]
  exact Nat.mod_eq_of_lt fits

end Word

end Intake
