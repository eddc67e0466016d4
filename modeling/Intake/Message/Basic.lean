import Intake.Identity.Identifier
import Intake.Identity.Uuid
import Intake.Message.Payload
import Intake.Time.Instant
import Intake.Word

/-! Messages: where they come from, what they carry, and the receipt for a stored one. -/

namespace Intake

/-- The identifier the server gives a message. -/
structure ServerId where
  uuid : Uuid
deriving DecidableEq, Repr

/-- The text of a server identifier. -/
def ServerId.text (id : ServerId) : String := id.uuid.text

/-- The place of a message in its conversation, counted from one. -/
structure SequenceNumber where
  value : UInt64
deriving DecidableEq, Repr

namespace SequenceNumber

/-- The number before the first one. -/
def zero : SequenceNumber := ⟨0⟩

/-- The number after another, the largest one following itself. -/
def next (n : SequenceNumber) : SequenceNumber := ⟨Word.saturatingAdd n.value 1⟩

/-- The larger of two numbers. -/
def larger (a b : SequenceNumber) : SequenceNumber := if a.value ≤ b.value then b else a

/-- The decimal text of a number. -/
def text (n : SequenceNumber) : String := toString n.value.toNat

end SequenceNumber

/-- Who sent a message, where to, and under which name. -/
structure Origin where
  tenant : TenantId
  conversation : ConversationId
  sender : SenderId
  clientMessage : ClientMessageId
deriving DecidableEq

/-- A stream of messages, within which sequence numbers count. -/
structure Conversation where
  tenant : TenantId
  id : ConversationId
deriving DecidableEq

namespace Conversation

/-- The conversation a message goes to. -/
def ofOrigin (origin : Origin) : Conversation := ⟨origin.tenant, origin.conversation⟩

/-- A conversation is written as its tenant and its identifier, parted by a slash. -/
def text (c : Conversation) : String := s!"{c.tenant.text}/{c.id.text}"

/-- Conversations are ordered by tenant, then by identifier. -/
def order (a b : Conversation) : Ordering := (a.tenant.order b.tenant).then (a.id.order b.id)

end Conversation

/-- What may be stored only once: a client's name for a message, within its sender and tenant. -/
structure ClaimKey where
  tenant : TenantId
  sender : SenderId
  clientMessage : ClientMessageId
deriving DecidableEq

namespace ClaimKey

/-- The key of a message. -/
def ofOrigin (origin : Origin) : ClaimKey :=
  ⟨origin.tenant, origin.sender, origin.clientMessage⟩

/-- A key is written as its three parts, parted by slashes. -/
def text (key : ClaimKey) : String :=
  s!"{key.tenant.text}/{key.sender.text}/{key.clientMessage.text}"

end ClaimKey

/-- The receipt for a stored message. -/
structure Receipt where
  serverId : ServerId
  sequence : SequenceNumber
  createdAt : Instant
deriving DecidableEq

/-- A message in its conversation. -/
structure Message where
  origin : Origin
  serverId : ServerId
  sequence : SequenceNumber
  payload : Payload
  fingerprint : Fingerprint
  createdAt : Instant
deriving DecidableEq

namespace Message

/-- The key under which a message may be stored only once. -/
def key (m : Message) : ClaimKey := ClaimKey.ofOrigin m.origin

/-- The conversation of a message. -/
def conversation (m : Message) : Conversation := Conversation.ofOrigin m.origin

/-- The receipt for a message. -/
def receipt (m : Message) : Receipt := ⟨m.serverId, m.sequence, m.createdAt⟩

end Message

/-- A message handed in, with the client's own fingerprint if it computed one. -/
structure Submission where
  origin : Origin
  payload : Payload
  ownFingerprint : Option Fingerprint
deriving DecidableEq

/-- The client's own fingerprint, or else that of the payload. -/
def Submission.fingerprint (s : Submission) : Fingerprint :=
  s.ownFingerprint.getD (Fingerprint.ofPayload s.payload)

end Intake
