import Intake.Identity.Uuid
import Intake.Proofs.Text.Digits

/-! The hyphenated text of an identifier is read as that identifier. -/

namespace Intake

namespace Uuid

/-- Thirty-two digits are taken out of their hyphenated form again. -/
theorem ofHyphenated?_hyphenate (n : Nat) :
    ofHyphenated? (hyphenate (hexDigits 32 n)) = ofDigits? (hexDigits 32 n) :=
  -- The groups are cut at the same places, whatever the digits are.
  if_pos rfl

/-- A hyphenated form of thirty-two digits has four hyphens more. -/
theorem length_hyphenate (n : Nat) : (hyphenate (hexDigits 32 n)).length = 36 := rfl

/-- A hyphenated form stands in no braces and behind no name. -/
theorem unwrap_hyphenate (n : Nat) : unwrap (hyphenate (hexDigits 32 n)) = hyphenate (hexDigits 32 n) := by
  -- The name of a resource starts with a letter that is no hexadecimal digit.
  have others : ∀ value, value < 16 → (hexDigit value).toLower ≠ 'u' := by decide
  have first := others (n / Nat.pow 16 31 % 16) (Nat.mod_lt _ (by decide))
  unfold unwrap
  rw [length_hyphenate, if_neg (fun braced => absurd braced.1 (by decide)), if_neg]
  intro named
  exact first (congrArg (fun cs => cs.headD 'u') named)

/-- The text of an identifier is read as that identifier. -/
@[simp] theorem parse?_text (id : Uuid) : parse? id.text = some id := by
  have written : id.text.toList = hyphenate (hexDigits 32 id.value.toNat) := String.toList_ofList
  have full : (hexDigits 32 id.value.toNat).length = 32 := hexDigits_length 32 _
  unfold parse?
  rw [written]
  dsimp only
  rw [length_hyphenate, if_neg (by decide), unwrap_hyphenate, ofHyphenated?_hyphenate, ofDigits?, if_pos full,
    readHex?_hexDigits]
  -- The digits are all there are of 128 bits.
  rw [Nat.mod_eq_of_lt (show id.value.toNat < 16 ^ 32 from id.value.isLt), Option.map_some, ofNat,
    BitVec.ofNat_toNat, BitVec.setWidth_eq]

end Uuid

end Intake
