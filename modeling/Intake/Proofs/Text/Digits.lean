import Mathlib.Algebra.Order.Ring.Nat
import Intake.Text.Digits

/-! Digits are read as the number they were written for, and nothing behind them is. -/

namespace Intake

/-- The characters that a reader stops at when it has read some digits: none, or one that is no digit. -/
def EndsDigits (rest : List Char) : Prop := ∀ c ∈ rest.head?, c.isDigit = false

/-- A decimal digit is no blank. -/
theorem isBlank_of_isDigit {c : Char} (digit : c.isDigit = true) : isBlank c = false := by
  -- The digits lie between the blanks of the first and those of the second half of the table.
  have bounds : 48 ≤ c.toNat ∧ c.toNat ≤ 57 := by
    simpa [Char.isDigit, UInt32.le_iff_toNat_le] using digit
  rw [isBlank, ← Bool.not_eq_true, List.contains_iff_mem]
  simp only [blankCodePoints, List.mem_cons, List.not_mem_nil, or_false]
  omega

/-- A decimal digit has a value, the number it stands for. -/
theorem digitValue?_of_isDigit {c : Char} (digit : c.isDigit = true) :
    digitValue? c = some (c.toNat - '0'.toNat) := by
  unfold digitValue?
  rw [if_pos (by simpa [Char.isDigit, Char.le_def] using digit)]

/-- Any other character has none. -/
theorem digitValue?_of_not_isDigit {c : Char} (other : c.isDigit = false) : digitValue? c = none := by
  -- The bounds that are checked are those that make a character a digit.
  unfold digitValue?
  rw [if_neg]
  rintro ⟨lower, upper⟩
  have digit : c.isDigit = true := by
    simpa [Char.isDigit, Char.le_def] using And.intro lower upper
  rw [digit] at other
  cases other

/-- Digits are read up to the first character that is none, if so many are allowed. -/
theorem readDigits_append {ds rest : List Char} (digits : ∀ c ∈ ds, c.isDigit = true)
    (ends : EndsDigits rest) {limit : Nat} (fits : ds.length ≤ limit) (value : Nat) :
    readDigits limit (ds ++ rest) value = (Nat.ofDigitChars 10 ds value, ds.length, rest) := by
  induction ds generalizing limit value with
  | nil =>
    -- There is nothing more to read, or something that is no digit.
    cases limit with
    | zero => rfl
    | succ limit =>
      cases rest with
      | nil => rfl
      | cons c rest => simp [readDigits, digitValue?_of_not_isDigit (ends c rfl)]
  | cons c ds ih =>
    cases limit with
    | zero => cases fits
    | succ limit =>
      have first := digitValue?_of_isDigit (digits c List.mem_cons_self)
      have others : ∀ d ∈ ds, d.isDigit = true := fun d member => digits d (List.mem_cons_of_mem c member)
      have shorter : ds.length ≤ limit := Nat.le_of_succ_le_succ fits
      simp only [List.cons_append, readDigits, first, ih others shorter, Nat.ofDigitChars_cons,
        List.length_cons, Nat.mul_comm]

/-- A number is padded with zeros, which are digits, too. -/
theorem isDigit_of_mem_paddedDigits {width n : Nat} {c : Char} (member : c ∈ paddedDigits width n) :
    c.isDigit = true := by
  -- A character in front is a zero, and those behind it are the digits of the number.
  rcases List.mem_append.mp member with zero | digit
  · rw [(List.mem_replicate.mp zero).2]
    rfl
  · exact Nat.isDigit_of_mem_toDigits (by decide) (by decide) digit

/-- The zeros in front of a number do not count. -/
@[simp] theorem ofDigitChars_paddedDigits (width n : Nat) :
    Nat.ofDigitChars 10 (paddedDigits width n) 0 = n := by
  rw [paddedDigits, Nat.ofDigitChars_append, Nat.ofDigitChars_replicate_zero, Nat.mul_zero,
    Nat.ofDigitChars_ten_toDigits]

/-- A number that fits into a width is written in that width. -/
theorem length_paddedDigits {width n : Nat} (positive : 0 < width) (fits : n < 10 ^ width) :
    (paddedDigits width n).length = width := by
  -- The digits fit the width, and zeros fill what is left of it.
  have short := (Nat.length_toDigits_le_iff (b := 10) (by decide) positive).mpr fits
  simp only [paddedDigits, List.length_append, List.length_replicate]
  omega

/-- A number has at least one digit. -/
theorem length_paddedDigits_pos (width n : Nat) : 0 < (paddedDigits width n).length := by
  have some := Nat.length_toDigits_pos (b := 10) (n := n)
  simp only [paddedDigits, List.length_append, List.length_replicate]
  omega

/-- A padded number is read back, if so many digits are allowed and another character follows. -/
theorem readDigits_paddedDigits {width n limit : Nat} {rest : List Char} (ends : EndsDigits rest)
    (fits : (paddedDigits width n).length ≤ limit) :
    readDigits limit (paddedDigits width n ++ rest) 0 = (n, (paddedDigits width n).length, rest) := by
  rw [readDigits_append (fun _ => isDigit_of_mem_paddedDigits) ends fits, ofDigitChars_paddedDigits]

/-- Each hexadecimal digit is read as the value it was written for. -/
theorem hexValue?_hexDigit : ∀ value, value < 16 → hexValue? (hexDigit value) = some value := by
  -- There are sixteen of them.
  decide

/-- Hexadecimal digits are read as the lowest places of the number they were written for. -/
theorem readHex?_hexDigits (width n : Nat) : readHex? (hexDigits width n) = some (n % 16 ^ width) := by
  -- The places read before stand above those that follow.
  have onto : ∀ value, (hexDigits width n).foldlM (fun value c => (hexValue? c).map (value * 16 + ·)) value =
      some (value * 16 ^ width + n % 16 ^ width) := by
    induction width with
    | zero =>
      intro value
      simp [hexDigits, Nat.mod_one]
    | succ width ih =>
      intro value
      have highest := hexValue?_hexDigit (n / 16 ^ width % 16) (Nat.mod_lt _ (by decide))
      simp only [hexDigits, List.foldlM_cons, Nat.pow_eq, highest, Option.map_some, Option.bind_eq_bind,
        Option.bind_some, ih, Nat.mod_pow_succ]
      rw [Nat.add_mul, Nat.mul_assoc, ← Nat.pow_succ', Nat.mul_comm _ (16 ^ width), Nat.add_assoc,
        Nat.add_comm (n % 16 ^ width)]
  have whole := onto 0
  rwa [Nat.zero_mul, Nat.zero_add] at whole

end Intake
