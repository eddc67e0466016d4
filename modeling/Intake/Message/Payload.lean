import Intake.Hash.Sha256
import Intake.Text.Digits

/-! Message bodies, which are never looked into, and the fingerprints that tell them apart. -/

namespace Intake

/-- A message body, as it came from the transport. -/
structure Payload where
  bytes : List UInt8
deriving DecidableEq, Repr

/-- The bytes of a text as a payload. -/
def Payload.ofText (text : String) : Payload := ⟨text.toUTF8.data.toList⟩

/-- A text that was refused as a fingerprint. -/
structure FingerprintError where
  text : String
deriving DecidableEq, Repr

/-- The text of a refused fingerprint. -/
def FingerprintError.message (e : FingerprintError) : String :=
  s!"invalid fingerprint '{e.text}': expected 1 to 128 characters"

/-- The most bytes a fingerprint may have. -/
def greatestFingerprintLength : Nat := 128

/-- A content hash: a text from 1 to 128 bytes long. -/
structure Fingerprint where
  text : String
  nonempty : 0 < text.utf8ByteSize
  bounded : text.utf8ByteSize ≤ greatestFingerprintLength

namespace Fingerprint

/-- Fingerprints are equal when their texts are. -/
@[ext] theorem ext {a b : Fingerprint} (same : a.text = b.text) : a = b := by
  cases a
  cases b
  cases same
  rfl

instance : DecidableEq Fingerprint := fun a b =>
  decidable_of_iff (a.text = b.text) ⟨ext, congrArg text⟩

/-- Takes a fingerprint that a caller or a store supplies. -/
def ofText (text : String) : Except FingerprintError Fingerprint :=
  if fits : 0 < text.utf8ByteSize ∧ text.utf8ByteSize ≤ greatestFingerprintLength then
    .ok ⟨text, fits.1, fits.2⟩
  else .error ⟨text⟩

/-- The fingerprint of a payload is its SHA-256 digest in hexadecimal. -/
def ofPayload (payload : Payload) : Fingerprint where
  text := hexText (Sha256.hash payload.bytes)
  nonempty := by simp [hexText_utf8ByteSize]
  bounded := by simp [hexText_utf8ByteSize, greatestFingerprintLength]

/-- The text of a fingerprint is that fingerprint again. -/
@[simp] theorem ofText_text (fp : Fingerprint) : ofText fp.text = .ok fp :=
  dif_pos ⟨fp.nonempty, fp.bounded⟩

/-- A text is taken as the fingerprint that has it, if there is one. -/
theorem ofText_eq_ok {text : String} {fp : Fingerprint} : ofText text = .ok fp ↔ fp.text = text := by
  -- What is taken is kept as it is. The other way the checks are the bounds that a fingerprint carries.
  constructor
  · intro taken
    unfold ofText at taken
    split at taken
    · cases taken
      rfl
    · cases taken
  · rintro rfl
    exact fp.ofText_text

end Fingerprint

end Intake
