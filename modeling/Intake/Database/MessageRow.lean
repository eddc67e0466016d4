import Intake.Failure.Services

/-! Messages as rows of a table, and back. -/

namespace Intake.Database

/-- A row of the table of messages. -/
structure MessageRow where
  serverId : Uuid
  tenant : String
  conversation : String
  sender : String
  clientMessage : String
  seq : Int64
  payload : List UInt8
  fingerprint : String
  createdAt : Instant
deriving DecidableEq

/-- A value that has no place in a column, or none in a message. -/
def unreadable {α : Type} (reason : String) : Except StoreError α := .error (.serialization reason)

/-- Passes a result on, a failure as a value that cannot be converted. -/
def converted {ε α : Type} (message : ε → String) : Except ε α → Except StoreError α
  | .ok value => .ok value
  | .error failure => unreadable (message failure)

/-- The column of a sequence number. -/
def sequenceColumn (sequence : SequenceNumber) : Except StoreError Int64 :=
  converted ConversionError.message (Word.toColumn sequence.value)

/-- The sequence number of a column. -/
def columnSequence (column : Int64) : Except StoreError SequenceNumber :=
  (converted ConversionError.message (Word.ofColumn column)).map SequenceNumber.mk

namespace MessageRow

/-- The row of a message, refused when its sequence number has no column. -/
def ofMessage (m : Message) : Except StoreError MessageRow := do
  let seq ← sequenceColumn m.sequence
  return {
    serverId := m.serverId.uuid
    tenant := m.origin.tenant.text
    conversation := m.origin.conversation.text
    sender := m.origin.sender.text
    clientMessage := m.origin.clientMessage.text
    seq
    payload := m.payload.bytes
    fingerprint := m.fingerprint.text
    createdAt := m.createdAt }

/-- The message of a row, whose texts must be what a caller could have given. -/
def toMessage (row : MessageRow) : Except StoreError Message := do
  let name (kind : IdentifierKind) (text : String) : Except StoreError (Identifier kind) :=
    converted IdentifierError.message (Identifier.ofText kind text)
  let tenant ← name .tenant row.tenant
  let conversation ← name .conversation row.conversation
  let sender ← name .sender row.sender
  let clientMessage ← name .clientMessage row.clientMessage
  let sequence ← columnSequence row.seq
  let fingerprint ← converted FingerprintError.message (Fingerprint.ofText row.fingerprint)
  return {
    origin := ⟨tenant, conversation, sender, clientMessage⟩
    serverId := ⟨row.serverId⟩
    sequence
    payload := ⟨row.payload⟩
    fingerprint
    createdAt := row.createdAt }

end MessageRow

end Intake.Database
