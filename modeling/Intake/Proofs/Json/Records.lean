import Intake.Proofs.Json.Fields
import Intake.Proofs.Samples

/-! Messages, claims, and the keys of claims as JSON records: which values are read as one of them, and that
each is read from its own form. -/

namespace Intake

/-- A record that writes where a message comes from, with blanks around its identifiers or without. -/
def Origin.WrittenAs (origin : Origin) (json : Json) : Prop :=
  ∃ tenant conversation sender clientMessage : String,
    json.fields? ["tenant_id", "conversation_id", "sender_id", "client_message_id"] =
        some [.string tenant, .string conversation, .string sender, .string clientMessage] ∧
      Trims tenant origin.tenant.text ∧ Trims conversation origin.conversation.text ∧
      Trims sender origin.sender.text ∧ Trims clientMessage origin.clientMessage.text

/-- A record that writes a message. -/
def Message.WrittenAs (m : Message) (json : Json) : Prop :=
  ∃ (origin : Json) (serverId createdAt : String),
    json.fields? ["origin", "server_id", "sequence", "payload", "fingerprint", "created_at"] =
        some [origin, .string serverId, .integer m.sequence.value.toNat,
          .array (m.payload.bytes.map fun byte => .integer byte.toNat), .string m.fingerprint.text,
          .string createdAt] ∧
      m.origin.WrittenAs origin ∧ Uuid.parse? serverId = some m.serverId.uuid ∧
      Rfc3339.parse? createdAt = some m.createdAt

/-- A record that writes the key of a claim. -/
def ClaimKey.WrittenAs (key : ClaimKey) (json : Json) : Prop :=
  ∃ tenant sender clientMessage : String,
    json.fields? ["tenant_id", "sender_id", "client_message_id"] =
        some [.string tenant, .string sender, .string clientMessage] ∧
      Trims tenant key.tenant.text ∧ Trims sender key.sender.text ∧
      Trims clientMessage key.clientMessage.text

/-- A record that writes a claim. -/
def Claim.WrittenAs (c : Claim) (json : Json) : Prop :=
  ∃ (serverId : String) (status : Json),
    json.fields? ["server_id", "fingerprint", "status"] =
        some [.string serverId, .string c.fingerprint.text, status] ∧
      Uuid.parse? serverId = some c.serverId.uuid ∧
      (status = .string c.status.text ∨ status = .object [(c.status.text, .null)])

variable {json : Json}

/-- Where a message comes from is read from the records that write it. -/
theorem ofJson?_eq_origin {origin : Origin} : ofJson? json = some origin ↔ origin.WrittenAs json := by
  -- The values of the fields are listed first, and then each of them is read.
  constructor
  · intro read
    obtain ⟨values, listed, read⟩ := Option.bind_eq_some_iff.mp read
    split at read
    · simp only [Option.bind_eq_bind, Option.bind_eq_some_iff, Option.pure_def, Option.some.injEq,
        ofJson?_eq_identifier] at read
      obtain ⟨_, ⟨tenant, rfl, atTenant⟩, _, ⟨conversation, rfl, atConversation⟩, _,
        ⟨sender, rfl, atSender⟩, _, ⟨clientMessage, rfl, atClientMessage⟩, rfl⟩ := read
      exact ⟨tenant, conversation, sender, clientMessage, listed, atTenant, atConversation, atSender,
        atClientMessage⟩
    -- A list of another length is no record.
    · cases read
  · rintro ⟨tenant, conversation, sender, clientMessage, listed, atTenant, atConversation, atSender,
      atClientMessage⟩
    refine Option.bind_eq_some_iff.mpr ⟨_, listed, ?_⟩
    simp only [Option.bind_eq_bind, Option.bind_eq_some_iff, Option.pure_def, Option.some.injEq,
      ofJson?_eq_identifier]
    exact ⟨_, ⟨tenant, rfl, atTenant⟩, _, ⟨conversation, rfl, atConversation⟩, _,
      ⟨sender, rfl, atSender⟩, _, ⟨clientMessage, rfl, atClientMessage⟩, rfl⟩

/-- A message is read from the records that write it. -/
theorem ofJson?_eq_message {m : Message} : ofJson? json = some m ↔ m.WrittenAs json := by
  -- Reading goes through the fields in order, each with the condition that its kind of field is read
  -- on.
  constructor
  · intro read
    obtain ⟨values, listed, read⟩ := Option.bind_eq_some_iff.mp read
    split at read
    · simp only [Option.bind_eq_bind, Option.bind_eq_some_iff, Option.pure_def, Option.some.injEq,
        ofJson?_eq_origin, ofJson?_eq_serverId, ofJson?_eq_sequence, ofJson?_eq_payload,
        ofJson?_eq_fingerprint, ofJson?_eq_instant] at read
      obtain ⟨_, origin, _, ⟨serverId, rfl, atServerId⟩, _, rfl, _, rfl, _, rfl, _,
        ⟨createdAt, rfl, atCreatedAt⟩, rfl⟩ := read
      exact ⟨_, serverId, createdAt, listed, origin, atServerId, atCreatedAt⟩
    · cases read
  · rintro ⟨origin, serverId, createdAt, listed, atOrigin, atServerId, atCreatedAt⟩
    refine Option.bind_eq_some_iff.mpr ⟨_, listed, ?_⟩
    simp only [Option.bind_eq_bind, Option.bind_eq_some_iff, Option.pure_def, Option.some.injEq,
      ofJson?_eq_origin, ofJson?_eq_serverId, ofJson?_eq_sequence, ofJson?_eq_payload,
      ofJson?_eq_fingerprint, ofJson?_eq_instant]
    exact ⟨_, atOrigin, _, ⟨serverId, rfl, atServerId⟩, _, rfl, _, rfl, _, rfl, _,
      ⟨createdAt, rfl, atCreatedAt⟩, rfl⟩

/-- The key of a claim is read from the records that write it. -/
theorem ofJson?_eq_claimKey {key : ClaimKey} : ofJson? json = some key ↔ key.WrittenAs json := by
  -- As for a message, each field adds its own condition.
  constructor
  · intro read
    obtain ⟨values, listed, read⟩ := Option.bind_eq_some_iff.mp read
    split at read
    · simp only [Option.bind_eq_bind, Option.bind_eq_some_iff, Option.pure_def, Option.some.injEq,
        ofJson?_eq_identifier] at read
      obtain ⟨_, ⟨tenant, rfl, atTenant⟩, _, ⟨sender, rfl, atSender⟩, _,
        ⟨clientMessage, rfl, atClientMessage⟩, rfl⟩ := read
      exact ⟨tenant, sender, clientMessage, listed, atTenant, atSender, atClientMessage⟩
    · cases read
  · rintro ⟨tenant, sender, clientMessage, listed, atTenant, atSender, atClientMessage⟩
    refine Option.bind_eq_some_iff.mpr ⟨_, listed, ?_⟩
    simp only [Option.bind_eq_bind, Option.bind_eq_some_iff, Option.pure_def, Option.some.injEq,
      ofJson?_eq_identifier]
    exact ⟨_, ⟨tenant, rfl, atTenant⟩, _, ⟨sender, rfl, atSender⟩, _,
      ⟨clientMessage, rfl, atClientMessage⟩, rfl⟩

/-- A claim is read from the records that write it. -/
theorem ofJson?_eq_claim {c : Claim} : ofJson? json = some c ↔ c.WrittenAs json := by
  -- The status has two forms, so that what was written for it is kept beside the other fields.
  constructor
  · intro read
    obtain ⟨values, listed, read⟩ := Option.bind_eq_some_iff.mp read
    split at read
    · simp only [Option.bind_eq_bind, Option.bind_eq_some_iff, Option.pure_def, Option.some.injEq,
        ofJson?_eq_serverId, ofJson?_eq_fingerprint, ofJson?_eq_status] at read
      obtain ⟨_, ⟨serverId, rfl, atServerId⟩, _, rfl, _, atStatus, rfl⟩ := read
      exact ⟨serverId, _, listed, atServerId, atStatus⟩
    · cases read
  · rintro ⟨serverId, status, listed, atServerId, atStatus⟩
    refine Option.bind_eq_some_iff.mpr ⟨_, listed, ?_⟩
    simp only [Option.bind_eq_bind, Option.bind_eq_some_iff, Option.pure_def, Option.some.injEq,
      ofJson?_eq_serverId, ofJson?_eq_fingerprint, ofJson?_eq_status]
    exact ⟨_, ⟨serverId, rfl, atServerId⟩, _, rfl, _, atStatus, rfl⟩

/-- The text of an identifier stands for it as it is. -/
theorem Identifier.trims_self {kind : IdentifierKind} (id : Identifier kind) : Trims id.text id.text :=
  trims_iff.mpr id.trimmed.symm

/-- The form of a message's origin writes it. -/
theorem Origin.writtenAs_toJson (origin : Origin) : origin.WrittenAs (toJson origin) :=
  ⟨_, _, _, _, rfl, origin.tenant.trims_self, origin.conversation.trims_self, origin.sender.trims_self,
    origin.clientMessage.trims_self⟩

/-- The form of a message writes it. -/
theorem Message.writtenAs_toJson (m : Message) : m.WrittenAs (toJson m) :=
  ⟨toJson m.origin, m.serverId.text, Rfc3339.text m.createdAt, rfl, m.origin.writtenAs_toJson,
    Uuid.parse?_text _, Rfc3339.parse?_text _⟩

/-- The form of a claim's key writes it. -/
theorem ClaimKey.writtenAs_toJson (key : ClaimKey) : key.WrittenAs (toJson key) :=
  ⟨_, _, _, rfl, key.tenant.trims_self, key.sender.trims_self, key.clientMessage.trims_self⟩

/-- The form of a claim writes it. -/
theorem Claim.writtenAs_toJson (c : Claim) : c.WrittenAs (toJson c) :=
  ⟨c.serverId.text, toJson c.status, rfl, Uuid.parse?_text _, .inl rfl⟩

/-- A text of 1 to 255 bytes that neither starts nor ends with a blank. -/
structure ProperName (text : String) : Prop where
  nonempty : text ≠ ""
  first : ∀ c ∈ text.toList.head?, isBlank c = false
  last : ∀ c ∈ text.toList.getLast?, isBlank c = false
  bounded : text.utf8ByteSize ≤ 255

/-- The text of every identifier is a proper name. -/
theorem Identifier.properName {kind : IdentifierKind} (id : Identifier kind) : ProperName id.text where
  -- An empty text would have no bytes, and an identifier has at least one.
  nonempty empty := by
    have some := id.nonempty
    rw [empty] at some
    cases some
  first := id.trims_self.first
  last := id.trims_self.last
  bounded := id.bounded

/-- Messages and claims are read back from their own JSON forms. Whatever JSON is read as a message or a
claim's key writes it, and has proper names and fingerprints. -/
theorem json_round_trips :
    (∀ m : Message, ofJson? (toJson m) = some m) ∧
    (∀ c : Claim, ofJson? (toJson c) = some c) ∧
    (∀ (json : Json) (m : Message), ofJson? json = some m →
      m.WrittenAs json ∧
      (ProperName m.origin.tenant.text ∧ ProperName m.origin.conversation.text ∧
        ProperName m.origin.sender.text ∧ ProperName m.origin.clientMessage.text) ∧
      (1 ≤ m.fingerprint.text.utf8ByteSize ∧ m.fingerprint.text.utf8ByteSize ≤ 128) ∧
      ofJson? (toJson m) = some m) ∧
    ∀ (json : Json) (key : ClaimKey), ofJson? json = some key →
      key.WrittenAs json ∧
      (ProperName key.tenant.text ∧ ProperName key.sender.text ∧ ProperName key.clientMessage.text) ∧
      ofJson? (toJson key) = some key := by
  -- What is written is one of the forms that are read, and the types carry what was validated.
  have messages (m : Message) : ofJson? (toJson m) = some m :=
    ofJson?_eq_message.mpr m.writtenAs_toJson
  have claims (c : Claim) : ofJson? (toJson c) = some c := ofJson?_eq_claim.mpr c.writtenAs_toJson
  have keys (key : ClaimKey) : ofJson? (toJson key) = some key :=
    ofJson?_eq_claimKey.mpr key.writtenAs_toJson
  refine ⟨messages, claims, ?_, ?_⟩
  · intro json m read
    exact ⟨ofJson?_eq_message.mp read,
      ⟨m.origin.tenant.properName, m.origin.conversation.properName, m.origin.sender.properName,
        m.origin.clientMessage.properName⟩,
      ⟨m.fingerprint.nonempty, m.fingerprint.bounded⟩, messages m⟩
  · intro json key read
    exact ⟨ofJson?_eq_claimKey.mp read,
      ⟨key.tenant.properName, key.sender.properName, key.clientMessage.properName⟩, keys key⟩

/-- Where a message comes from, with blanks around its identifiers, its fields in another order, and a field
of another name among them. -/
def Sample.handwrittenOrigin : Json := .object
  [("client_message_id", .string "\tfirst\n"), ("sender_id", .string " alice"), ("topic", .null),
    ("conversation_id", .string "chat\u2003"), ("tenant_id", .string "\u00A0tenant ")]

/-- A message as the array of its values, its server identifier without hyphens, and the time at which it was
stored in a place an hour ahead of Greenwich. -/
def Sample.handwritten : Json := .array
  [Sample.handwrittenOrigin, .string "67E5504410B1426F9247BB680E5FE0C8", .integer 18446744073709551615,
    .array [.integer 104, .integer 105], .string "digest", .string "1970-01-01 01:00:00.000+01:00"]

/-- The message that it writes. -/
def Sample.handwrittenMessage : Message where
  origin := Sample.origin
  serverId := ⟨⟨0x67E5504410B1426F9247BB680E5FE0C8#128⟩⟩
  sequence := ⟨Word.greatest⟩
  payload := .ofText "hi"
  fingerprint := ⟨"digest", by decide, by decide⟩
  createdAt := Sample.clock

/-- The message is read from what was written by hand, and again from its own form, and so is its key. -/
theorem handwritten_read_back :
    ofJson? Sample.handwritten = some Sample.handwrittenMessage ∧
      Sample.handwrittenMessage.WrittenAs Sample.handwritten ∧
      ofJson? (toJson Sample.handwrittenMessage) = some Sample.handwrittenMessage ∧
      ofJson? Sample.handwrittenOrigin = some Sample.handwrittenMessage.key ∧
      ofJson? (toJson Sample.handwrittenMessage.key) = some Sample.handwrittenMessage.key := by
  -- The texts are read by computation, and what follows from that is the theorem's.
  have message : ofJson? Sample.handwritten = some Sample.handwrittenMessage := by decide +kernel
  have key : ofJson? Sample.handwrittenOrigin = some Sample.handwrittenMessage.key := by decide +kernel
  obtain ⟨-, -, messages, keys⟩ := json_round_trips
  obtain ⟨written, -, -, again⟩ := messages _ _ message
  obtain ⟨-, -, keyAgain⟩ := keys _ _ key
  exact ⟨message, written, again, key, keyAgain⟩

end Intake
