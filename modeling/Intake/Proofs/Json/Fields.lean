import Intake.Json.Records
import Intake.Proofs.Identity.Uuid
import Intake.Proofs.Outcome
import Intake.Proofs.Text.Trim
import Intake.Proofs.Time.Rfc3339

/-! The JSON values that are read as the fields of messages and claims, and that each field is read from its
own form. -/

namespace Intake

variable {json : Json}

/-- A word is read from the integer that it is. -/
theorem ofJson?_eq_word {word : UInt64} : ofJson? json = some word ↔ json = .integer word.toNat := by
  -- Only an integer can be read, so the one case with content is that of an integer in range.
  constructor
  · intro read
    cases json with
    | integer n =>
      simp only [ofJson?] at read
      split at read
      · rename_i positive
        rw [(Word.ofNat?_eq_some.mp read).2, Int.toNat_of_nonneg positive]
      · cases read
    | null | bool _ | fraction | string _ | array _ | object _ => cases read
  · rintro rfl
    simp only [ofJson?]
    rw [if_pos (Int.natCast_nonneg _), Int.toNat_natCast]
    exact Word.ofNat?_eq_some.mpr ⟨word.toNat_lt_size, rfl⟩

/-- A sequence number is read from the integer that it is. -/
theorem ofJson?_eq_sequence {n : SequenceNumber} :
    ofJson? json = some n ↔ json = .integer n.value.toNat := by
  -- A number is written as its word, so that reading it is reading the word.
  rw [← ofJson?_eq_word]
  show (ofJson? json).map SequenceNumber.mk = some n ↔ _
  rw [Option.map_eq_some_iff]
  constructor
  · rintro ⟨word, read, rfl⟩
    exact read
  · exact fun read => ⟨n.value, read, rfl⟩

/-- An identifier is read from a text that has it between its blanks. -/
theorem ofJson?_eq_identifier {kind : IdentifierKind} {id : Identifier kind} :
    ofJson? json = some id ↔ ∃ text, json = .string text ∧ Trims text id.text := by
  -- The text is trimmed on reading, which is why more texts than its own stand for an identifier.
  constructor
  · intro read
    cases json with
    | string text =>
      exact ⟨text, rfl, trims_iff.mpr (Identifier.ofText_eq_ok.mp (toOption_eq_some.mp read))⟩
    | null | bool _ | integer _ | fraction | array _ | object _ => cases read
  · rintro ⟨text, rfl, trims⟩
    exact toOption_eq_some.mpr (Identifier.ofText_eq_ok.mpr (trims_iff.mp trims))

/-- A fingerprint is read from its own text. -/
theorem ofJson?_eq_fingerprint {fp : Fingerprint} : ofJson? json = some fp ↔ json = .string fp.text := by
  -- Nothing is trimmed here: a fingerprint is read from its own text only.
  constructor
  · intro read
    cases json with
    | string text => rw [Fingerprint.ofText_eq_ok.mp (toOption_eq_some.mp read)]
    | null | bool _ | integer _ | fraction | array _ | object _ => cases read
  · rintro rfl
    exact toOption_eq_some.mpr fp.ofText_text

/-- A server identifier is read from any of its texts. -/
theorem ofJson?_eq_serverId {id : ServerId} :
    ofJson? json = some id ↔ ∃ text, json = .string text ∧ Uuid.parse? text = some id.uuid := by
  -- An identifier is read in each way of writing it that the parser knows.
  constructor
  · intro read
    cases json with
    | string text =>
      obtain ⟨uuid, parsed, rfl⟩ := Option.map_eq_some_iff.mp read
      exact ⟨text, rfl, parsed⟩
    | null | bool _ | integer _ | fraction | array _ | object _ => cases read
  · rintro ⟨text, rfl, parsed⟩
    exact Option.map_eq_some_iff.mpr ⟨id.uuid, parsed, rfl⟩

/-- An instant is read from any of its texts. -/
theorem ofJson?_eq_instant {t : Instant} :
    ofJson? json = some t ↔ ∃ text, json = .string text ∧ Rfc3339.parse? text = some t := by
  -- Every way of writing the time is read, not only the one it is written in.
  constructor
  · intro read
    cases json with
    | string text => exact ⟨text, rfl, read⟩
    | null | bool _ | integer _ | fraction | array _ | object _ => cases read
  · rintro ⟨text, rfl, parsed⟩
    exact parsed

/-- A byte is read from the integer that it is. -/
theorem byteOfJson?_eq_some {byte : UInt8} : byteOfJson? json = some byte ↔ json = .integer byte.toNat := by
  -- The bounds that are checked are those of a byte, so that the conversion loses nothing.
  constructor
  · intro read
    cases json with
    | integer n =>
      simp only [byteOfJson?] at read
      split at read
      · rename_i bounds
        have fits : n.toNat < UInt8.size := by
          unfold UInt8.size
          omega
        cases read
        rw [UInt8.toNat_ofNat_of_lt' fits, Int.toNat_of_nonneg bounds.1]
      · cases read
    | null | bool _ | fraction | string _ | array _ | object _ => cases read
  · rintro rfl
    have bound := byte.toNat_lt_size
    unfold UInt8.size at bound
    simp only [byteOfJson?]
    rw [if_pos (by omega), Int.toNat_natCast, UInt8.ofNat_toNat]

/-- Bytes are read from the integers that they are. -/
theorem mapM_byteOfJson?_eq_some {items : List Json} {bytes : List UInt8} :
    items.mapM byteOfJson? = some bytes ↔ items = bytes.map fun byte => .integer byte.toNat := by
  -- The induction is on the items, each of which stands for one byte.
  induction items generalizing bytes with
  | nil =>
    cases bytes <;> simp
  | cons item items ih =>
    simp only [List.mapM_cons, Option.bind_eq_bind, Option.bind_eq_some_iff, byteOfJson?_eq_some, ih]
    cases bytes with
    | nil => simp
    | cons byte bytes => simp

/-- A payload is read from the array of its bytes. -/
theorem ofJson?_eq_payload {payload : Payload} :
    ofJson? json = some payload ↔ json = .array (payload.bytes.map fun byte => .integer byte.toNat) := by
  -- A payload is written as the list of its bytes, and read from nothing else.
  constructor
  · intro read
    cases json with
    | array items =>
      obtain ⟨bytes, listed, rfl⟩ := Option.map_eq_some_iff.mp read
      rw [mapM_byteOfJson?_eq_some.mp listed]
    | null | bool _ | integer _ | fraction | string _ | object _ => cases read
  · rintro rfl
    exact Option.map_eq_some_iff.mpr ⟨payload.bytes, mapM_byteOfJson?_eq_some.mpr rfl, rfl⟩

/-- The status of a claim is read from its name, alone or as the one field of a record without a value. -/
theorem ofJson?_eq_status {status : ClaimStatus} :
    ofJson? json = some status ↔ json = .string status.text ∨ json = .object [(status.text, .null)] := by
  -- A status is read from its name, or from an object that has the name as its only key.
  constructor
  · intro read
    simp only [ofJson?] at read
    split at read
    · exact .inl (by rw [ClaimStatus.ofText_eq_ok.mp (toOption_eq_some.mp read)])
    · exact .inr (by rw [ClaimStatus.ofText_eq_ok.mp (toOption_eq_some.mp read)])
    · cases read
  · rintro (rfl | rfl)
    · exact toOption_eq_some.mpr status.ofText_text
    · exact toOption_eq_some.mpr status.ofText_text

end Intake
