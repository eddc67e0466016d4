import Intake.Text.Blank

/-! Decimal and hexadecimal digits: padded printing, and reading with a limit on the digits. -/

namespace Intake

/-- The decimal digits of a number, with zeros in front up to a width. -/
def paddedDigits (width n : Nat) : List Char :=
  let digits := Nat.toDigits 10 n
  List.replicate (width - digits.length) '0' ++ digits

/-- The value of a decimal digit. -/
def digitValue? (c : Char) : Option Nat :=
  if '0' ≤ c ∧ c ≤ '9' then some (c.toNat - '0'.toNat) else none

/-- Reads at most so many decimal digits onto a value, and says how many it read. -/
def readDigits : Nat → List Char → Nat → Nat × Nat × List Char
  | 0, cs, value => (value, 0, cs)
  | _ + 1, [], value => (value, 0, [])
  | limit + 1, c :: rest, value =>
    match digitValue? c with
    | none => (value, 0, c :: rest)
    | some digit =>
      let (total, count, left) := readDigits limit rest (value * 10 + digit)
      (total, count + 1, left)

/-- The lower-case hexadecimal digit of a value below sixteen. -/
def hexDigit (value : Nat) : Char :=
  if value < 10 then Char.ofNat ('0'.toNat + value) else Char.ofNat ('a'.toNat + (value - 10))

/-- The value of a hexadecimal digit of either case. -/
def hexValue? (c : Char) : Option Nat :=
  if '0' ≤ c ∧ c ≤ '9' then some (c.toNat - '0'.toNat)
  else if 'a' ≤ c ∧ c ≤ 'f' then some (c.toNat - 'a'.toNat + 10)
  else if 'A' ≤ c ∧ c ≤ 'F' then some (c.toNat - 'A'.toNat + 10)
  else none

/-- The hexadecimal digits of a number's lowest places, the highest place first. -/
def hexDigits : Nat → Nat → List Char
  | 0, _ => []
  | width + 1, n => hexDigit (n / Nat.pow 16 width % 16) :: hexDigits width n

/-- The number that hexadecimal digits write, absent when one of them is no digit. -/
def readHex? (cs : List Char) : Option Nat :=
  cs.foldlM (fun value c => (hexValue? c).map (value * 16 + ·)) 0

/-- Every byte as two hexadecimal digits. -/
def hexText (bytes : List UInt8) : String :=
  String.ofList (bytes.flatMap fun byte => hexDigits 2 byte.toNat)

/-- The bytes that pairs of hexadecimal digits write. -/
def readHexBytes? : List Char → Option (List UInt8)
  | [] => some []
  | high :: low :: rest => do
    let byte ← readHex? [high, low]
    let bytes ← readHexBytes? rest
    return UInt8.ofNat byte :: bytes
  | [_] => none

/-- A text of characters that take one byte each has as many bytes as characters. -/
theorem ofList_utf8ByteSize {cs : List Char} (narrow : ∀ c ∈ cs, c.utf8Size = 1) :
    (String.ofList cs).utf8ByteSize = cs.length := by
  induction cs with
  | nil => rfl
  | cons c rest ih =>
    -- The first character stands in front of the text of the rest.
    have split : String.ofList (c :: rest) = String.singleton c ++ String.ofList rest := by
      apply String.toList_inj.mp
      simp
    have first : c.utf8Size = 1 := narrow c List.mem_cons_self
    rw [split, String.utf8ByteSize_append, String.utf8ByteSize_singleton, first,
      ih fun d inRest => narrow d (List.mem_cons_of_mem c inRest), List.length_cons]
    omega

/-- A hexadecimal digit takes one byte. -/
theorem hexDigit_utf8Size : ∀ value, value < 16 → (hexDigit value).utf8Size = 1 := by
  -- There are sixteen of them.
  decide

/-- Every place gets a digit. -/
@[simp] theorem hexDigits_length (width n : Nat) : (hexDigits width n).length = width := by
  induction width with
  | zero => rfl
  | succ width ih => simp [hexDigits, ih]

/-- Hexadecimal digits take one byte each. -/
theorem hexDigits_utf8Size (width n : Nat) : ∀ c ∈ hexDigits width n, c.utf8Size = 1 := by
  induction width with
  | zero => simp [hexDigits]
  | succ width ih =>
    intro c isDigit
    simp only [hexDigits, List.mem_cons] at isDigit
    -- It is the digit of the highest place or one of the others.
    cases isDigit with
    | inl highest => rw [highest]; exact hexDigit_utf8Size _ (Nat.mod_lt _ (by decide))
    | inr lower => exact ih c lower

/-- Bytes in hexadecimal take twice their number. -/
theorem hexText_utf8ByteSize (bytes : List UInt8) :
    (hexText bytes).utf8ByteSize = 2 * bytes.length := by
  -- Digits take one byte each, so that the size is the number of characters.
  have narrow : ∀ c ∈ bytes.flatMap fun byte => hexDigits 2 byte.toNat, c.utf8Size = 1 := by
    intro c isDigit
    obtain ⟨byte, _, ofByte⟩ := List.mem_flatMap.mp isDigit
    exact hexDigits_utf8Size 2 byte.toNat c ofByte
  rw [hexText, ofList_utf8ByteSize narrow]
  clear narrow
  induction bytes with
  | nil => rfl
  | cons byte rest ih =>
    simp only [List.flatMap_cons, List.length_append, ih, hexDigits_length, List.length_cons]
    omega

end Intake
