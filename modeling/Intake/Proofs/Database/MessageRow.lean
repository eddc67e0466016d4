import Intake.Database.MessageRow
import Intake.Proofs.Database.Column
import Intake.Proofs.Outcome
import Intake.Proofs.Samples
import Intake.Proofs.Text.Trim

/-! Messages as rows, and rows as messages: which of them are converted, and that a message is read back
from its own row. -/

namespace Intake

namespace Database

/-- A text that names something: without the blanks at its ends it is from 1 to 255 bytes long. -/
def Names (text : String) : Prop :=
  ∃ core, Trims text core ∧ 1 ≤ core.utf8ByteSize ∧ core.utf8ByteSize ≤ 255

/-- A text names something exactly when it has an identifier for it. -/
theorem names_iff (kind : IdentifierKind) {text : String} :
    Names text ↔ ∃ id : Identifier kind, Trims text id.text := by
  -- What remains after trimming is trimmed, and so it is the text of an identifier.
  constructor
  · rintro ⟨core, trims, nonempty, bounded⟩
    have trimmed : trim core = core := by rw [trims_iff.mp trims, trim_trim]
    exact ⟨⟨core, trimmed, nonempty, bounded⟩, trims⟩
  · rintro ⟨id, trims⟩
    exact ⟨id.text, trims, id.nonempty, id.bounded⟩

section Converted

variable {ε α β : Type} {message : ε → String}

/-- What is converted is what there was before. -/
theorem converted_eq_ok {outcome : Except ε α} {value : α} :
    converted message outcome = .ok value ↔ outcome = .ok value := by
  cases outcome <;> simp [converted, unreadable]

/-- Whatever fails of a conversion, it fails as one. -/
def Converts (outcome : Except StoreError α) : Prop :=
  ∀ failure, outcome = .error failure → ∃ reason, failure = .serialization reason

/-- What is converted fails as a conversion. -/
theorem converts_converted (message : ε → String) (outcome : Except ε α) :
    Converts (converted message outcome) := by
  -- Whatever the reason for a refusal was, it is wrapped as a failure to convert.
  intro failure failed
  cases outcome with
  | ok value => cases failed
  | error reason =>
    cases failed
    exact ⟨message reason, rfl⟩

/-- Conversions in a row fail as one. -/
theorem Converts.bind {first : Except StoreError α} {second : α → Except StoreError β}
    (before : Converts first) (after : ∀ value, Converts (second value)) : Converts (first.bind second) := by
  -- The first failure is the one of the whole.
  cases first with
  | error failure => exact fun other failed => before other (by cases failed; rfl)
  | ok value => exact after value

/-- A value at hand is no failed conversion. -/
theorem converts_ok (value : α) : Converts (.ok value) := by
  intro failure failed
  cases failed

/-- A conversion that gives no value fails as one. -/
theorem Converts.failed {outcome : Except StoreError α} (converts : Converts outcome)
    (missing : ¬ ∃ value, outcome = .ok value) : ∃ reason, outcome = .error (.serialization reason) := by
  -- An outcome that is no success is a failure, of which conversions know only one kind.
  cases outcome with
  | ok value => exact absurd ⟨value, rfl⟩ missing
  | error failure =>
    obtain ⟨reason, rfl⟩ := converts failure rfl
    exact ⟨reason, rfl⟩

end Converted

/-- The sequence number of a column has its number. -/
theorem columnSequence_eq_ok {column : Int64} {sequence : SequenceNumber} :
    columnSequence column = .ok sequence ↔ column.toInt = sequence.value.toNat := by
  -- A column is read as a word, and a refused one is refused in any case.
  rw [← Word.ofColumn_eq_ok]
  unfold columnSequence
  cases Word.ofColumn column with
  | error failure => exact ⟨nofun, nofun⟩
  | ok word => exact ⟨fun same => by cases same; rfl, fun same => by cases same; rfl⟩

/-- A column that holds no sequence number fails as a conversion. -/
theorem converts_columnSequence (column : Int64) : Converts (columnSequence column) := by
  unfold columnSequence
  cases Word.ofColumn column with
  | error failure => exact fun other failed => ⟨failure.message, by cases failed; rfl⟩
  | ok word => exact converts_ok _

namespace MessageRow

variable {row : MessageRow} {m : Message}

/-- A row that holds the fields of a message in its columns, the names written in a certain way. -/
structure Holds (writes : String → String → Prop) (row : MessageRow) (m : Message) : Prop where
  serverId : row.serverId = m.serverId.uuid
  tenant : writes row.tenant m.origin.tenant.text
  conversation : writes row.conversation m.origin.conversation.text
  sender : writes row.sender m.origin.sender.text
  clientMessage : writes row.clientMessage m.origin.clientMessage.text
  seq : row.seq.toInt = m.sequence.value.toNat
  payload : row.payload = m.payload.bytes
  fingerprint : row.fingerprint = m.fingerprint.text
  createdAt : row.createdAt = m.createdAt

/-- A row whose columns are a number and texts that a caller could have given. -/
structure Readable (row : MessageRow) : Prop where
  seq : 0 ≤ row.seq
  tenant : Names row.tenant
  conversation : Names row.conversation
  sender : Names row.sender
  clientMessage : Names row.clientMessage
  fingerprint : 1 ≤ row.fingerprint.utf8ByteSize ∧ row.fingerprint.utf8ByteSize ≤ 128

/-- The row of a message holds its fields. -/
theorem ofMessage_eq_ok : ofMessage m = .ok row ↔ Holds Eq row m := by
  -- Only the number is converted, all other columns are copied.
  unfold ofMessage sequenceColumn
  simp only [bind, bind_eq_ok, converted_eq_ok, Word.toColumn_eq_ok]
  constructor
  · rintro ⟨column, number, same⟩
    cases same
    exact ⟨rfl, rfl, rfl, rfl, rfl, number, rfl, rfl, rfl⟩
  · rintro ⟨serverId, tenant, conversation, sender, clientMessage, seq, payload, fingerprint, createdAt⟩
    refine ⟨row.seq, seq, ?_⟩
    rw [← serverId, ← tenant, ← conversation, ← sender, ← clientMessage, ← payload, ← fingerprint,
      ← createdAt]
    rfl

/-- A row is read as the message whose fields it holds, its names between blanks or not. -/
theorem toMessage_eq_ok : row.toMessage = .ok m ↔ Holds Trims row m := by
  -- Each step of the reading has one field of the message as its only possible outcome.
  unfold toMessage
  simp only [bind, bind_eq_ok, converted_eq_ok, Identifier.ofText_eq_ok, columnSequence_eq_ok,
    Fingerprint.ofText_eq_ok, ← trims_iff]
  constructor
  · rintro ⟨tenant, atTenant, conversation, atConversation, sender, atSender, clientMessage,
      atClientMessage, sequence, atSequence, fingerprint, atFingerprint, same⟩
    cases same
    exact ⟨rfl, atTenant, atConversation, atSender, atClientMessage, atSequence, rfl, atFingerprint.symm,
      rfl⟩
  · rintro ⟨serverId, tenant, conversation, sender, clientMessage, seq, payload, fingerprint, createdAt⟩
    refine ⟨_, tenant, _, conversation, _, sender, _, clientMessage, _, seq, _, fingerprint.symm, ?_⟩
    rw [serverId, payload, createdAt]
    rfl

/-- Whatever is wrong with a row, it fails as a conversion. -/
theorem converts_toMessage (row : MessageRow) : Converts row.toMessage := by
  -- The row is read column by column, and each column fails only by failing to convert.
  refine (converts_converted _ _).bind fun _ => ?_
  refine (converts_converted _ _).bind fun _ => ?_
  refine (converts_converted _ _).bind fun _ => ?_
  refine (converts_converted _ _).bind fun _ => ?_
  refine (converts_columnSequence _).bind fun _ => ?_
  exact (converts_converted _ _).bind fun _ => converts_ok _

/-- A message without a row fails as a conversion. -/
theorem converts_ofMessage (m : Message) : Converts (ofMessage m) :=
  (converts_converted _ _).bind fun _ => converts_ok _

/-- What holds the very names of a message holds them between blanks, too: there are none at their ends. -/
theorem Holds.trims (holds : Holds Eq row m) : Holds Trims row m := by
  -- The names of a message are trimmed already, so a row that has them as they are has them trimmed.
  have between : ∀ {kind : IdentifierKind} {text : String} (id : Identifier kind), text = id.text →
      Trims text id.text := fun id same => trims_iff.mpr (by rw [same, id.trimmed])
  exact { holds with
    tenant := between _ holds.tenant
    conversation := between _ holds.conversation
    sender := between _ holds.sender
    clientMessage := between _ holds.clientMessage }

/-- There is a row for a message when a column has its number. -/
theorem exists_row : (∃ row, Holds Eq row m) ↔
    (m.sequence.value.toNat : Int) ≤ Int64.maxValue.toInt := by
  -- Of all columns only the number is bounded more tightly than what it holds.
  rw [Int64.toInt_maxValue]
  constructor
  · rintro ⟨row, holds⟩
    have bound := row.seq.toInt_lt
    have number := holds.seq
    omega
  · intro fits
    have number : (Int64.ofInt m.sequence.value.toNat).toInt = m.sequence.value.toNat :=
      Int64.toInt_ofInt_of_le (by omega) (by omega)
    exact ⟨⟨_, _, _, _, _, _, _, _, _⟩, ⟨rfl, rfl, rfl, rfl, rfl, number, rfl, rfl, rfl⟩⟩

/-- There is a message for a row when its columns are readable. -/
theorem exists_message : (∃ m, Holds Trims row m) ↔ row.Readable := by
  constructor
  · rintro ⟨m, serverId, tenant, conversation, sender, clientMessage, seq, payload, fingerprint, createdAt⟩
    refine ⟨?_, (names_iff _).mpr ⟨_, tenant⟩, (names_iff _).mpr ⟨_, conversation⟩,
      (names_iff _).mpr ⟨_, sender⟩, (names_iff _).mpr ⟨_, clientMessage⟩, ?_⟩
    · rw [Int64.le_iff_toInt_le, Int64.toInt_zero]
      omega
    · exact fingerprint ▸ ⟨m.fingerprint.nonempty, m.fingerprint.bounded⟩
  · rintro ⟨seq, tenant, conversation, sender, clientMessage, fingerprint⟩
    obtain ⟨tenant, atTenant⟩ := (names_iff .tenant).mp tenant
    obtain ⟨conversation, atConversation⟩ := (names_iff .conversation).mp conversation
    obtain ⟨sender, atSender⟩ := (names_iff .sender).mp sender
    obtain ⟨clientMessage, atClientMessage⟩ := (names_iff .clientMessage).mp clientMessage
    -- A column that is not negative holds the number of a word.
    rw [Int64.le_iff_toInt_le, Int64.toInt_zero] at seq
    have bound := row.seq.toInt_lt
    have number : row.seq.toInt = (UInt64.ofNat row.seq.toInt.toNat).toNat := by
      rw [UInt64.toNat_ofNat_of_lt' (by rw [UInt64.size]; omega)]
      omega
    exact ⟨⟨⟨tenant, conversation, sender, clientMessage⟩, ⟨row.serverId⟩, ⟨_⟩, ⟨row.payload⟩,
      ⟨row.fingerprint, fingerprint.1, fingerprint.2⟩, row.createdAt⟩,
      ⟨rfl, atTenant, atConversation, atSender, atClientMessage, number, rfl, rfl, rfl⟩⟩

/-- A message has a row exactly when its number is one of a signed column, and is what the row is read as.
A row is read exactly when it holds a message, fields trimmed. -/
theorem rows_round_trip :
    (∀ m : Message,
      ((∃ row, ofMessage m = .ok row) ↔ (m.sequence.value.toNat : Int) ≤ Int64.maxValue.toInt) ∧
      (∀ row, ofMessage m = .ok row → row.toMessage = .ok m) ∧
      (Int64.maxValue.toInt < m.sequence.value.toNat →
        ∃ reason, ofMessage m = .error (.serialization reason))) ∧
    ∀ row : MessageRow,
      ((∃ m, row.toMessage = .ok m) ↔ row.Readable) ∧
      (∀ m, row.toMessage = .ok m → Holds Trims row m) ∧
      (¬ row.Readable → ∃ reason, row.toMessage = .error (.serialization reason)) := by
  -- Both conversions succeed exactly on what the rows and messages that correspond allow.
  have stored : ∀ m : Message, (∃ row, ofMessage m = .ok row) ↔
      (m.sequence.value.toNat : Int) ≤ Int64.maxValue.toInt := fun m => by
    simp only [ofMessage_eq_ok, exists_row]
  have read : ∀ row : MessageRow, (∃ m, row.toMessage = .ok m) ↔ row.Readable := fun row => by
    simp only [toMessage_eq_ok, exists_message]
  constructor
  · refine fun m => ⟨stored m, fun row made => ?_, fun large => ?_⟩
    · exact toMessage_eq_ok.mpr (ofMessage_eq_ok.mp made).trims
    · exact (converts_ofMessage m).failed fun found => Int.not_le.mpr large ((stored m).mp found)
  · refine fun row => ⟨read row, fun m => toMessage_eq_ok.mp, fun unreadable => ?_⟩
    exact (converts_toMessage row).failed fun found => unreadable ((read row).mp found)

/-- A message with the greatest number of a signed column. -/
def lastInColumn : Message where
  origin := Sample.origin
  serverId := ⟨⟨0⟩⟩
  sequence := ⟨9223372036854775807⟩
  payload := Sample.hello.payload
  fingerprint := Sample.hello.fingerprint
  createdAt := Sample.clock

/-- The row of the message. -/
def lastRow : MessageRow where
  serverId := ⟨0⟩
  tenant := "tenant"
  conversation := "chat"
  sender := "alice"
  clientMessage := "first"
  seq := 9223372036854775807
  payload := []
  fingerprint := "hello"
  createdAt := Sample.clock

/-- The message is read from its own row and from one with blanks around a name, but not with a number
below zero, and with a greater number it has no row. -/
theorem lastInColumn_round_trips :
    let padded := { lastRow with tenant := "\u00a0tenant\u3000" }
    let negative := { lastRow with seq := -1 }
    let beyond := { lastInColumn with sequence := ⟨9223372036854775808⟩ }
    ofMessage lastInColumn = .ok lastRow ∧ lastRow.toMessage = .ok lastInColumn ∧
      padded.toMessage = .ok lastInColumn ∧ Holds Trims padded lastInColumn ∧
      (¬ negative.Readable ∧ ∃ reason, negative.toMessage = .error (.serialization reason)) ∧
      (Int64.maxValue.toInt < beyond.sequence.value.toNat ∧
        ∃ reason, ofMessage beyond = .error (.serialization reason)) := by
  -- The conversions are computed, and what they say of the three variants is read off the theorem.
  intro padded negative beyond
  have made : ofMessage lastInColumn = .ok lastRow := by decide +kernel
  have read : padded.toMessage = .ok lastInColumn := by decide +kernel
  have unreadable : ¬ negative.Readable := fun readable => absurd readable.seq (by decide)
  have large : Int64.maxValue.toInt < beyond.sequence.value.toNat := by decide
  exact ⟨made, (rows_round_trip.1 lastInColumn).2.1 lastRow made, read,
    (rows_round_trip.2 padded).2.1 lastInColumn read,
    ⟨unreadable, (rows_round_trip.2 negative).2.2 unreadable⟩,
    large, (rows_round_trip.1 beyond).2.2 large⟩

end MessageRow

end Database

end Intake
