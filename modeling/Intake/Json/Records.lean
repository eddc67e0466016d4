import Intake.Claim.Basic
import Intake.Json.Value
import Intake.Sequence.Grant
import Intake.Sequence.Watermarks
import Intake.Time.Rfc3339

/-! The JSON forms of messages, claims, and sequence state. -/

namespace Intake

open Json

instance : JsonForm UInt64 where
  toJson word := .integer word.toNat
  ofJson?
    | .integer n => if 0 ≤ n then Word.ofNat? n.toNat else none
    | _ => none

instance (kind : IdentifierKind) : JsonForm (Identifier kind) where
  toJson id := .string id.text
  ofJson?
    | .string text => (Identifier.ofText kind text).toOption
    | _ => none

instance : JsonForm ServerId where
  toJson id := .string id.text
  ofJson?
    | .string text => (Uuid.parse? text).map ServerId.mk
    | _ => none

instance : JsonForm SequenceNumber where
  toJson n := toJson n.value
  ofJson? json := (ofJson? json).map SequenceNumber.mk

instance : JsonForm Fingerprint where
  toJson fp := .string fp.text
  ofJson?
    | .string text => (Fingerprint.ofText text).toOption
    | _ => none

instance : JsonForm Instant where
  toJson t := .string (Rfc3339.text t)
  ofJson?
    | .string text => Rfc3339.parse? text
    | _ => none

/-- The byte that an integer writes. -/
def byteOfJson? : Json → Option UInt8
  | .integer n => if 0 ≤ n ∧ n < 256 then some (UInt8.ofNat n.toNat) else none
  | _ => none

instance : JsonForm Payload where
  toJson payload := .array (payload.bytes.map fun byte => .integer byte.toNat)
  ofJson?
    | .array items => (items.mapM byteOfJson?).map Payload.mk
    | _ => none

instance : JsonForm ClaimStatus where
  toJson status := .string status.text
  ofJson?
    | .string text => (ClaimStatus.ofText text).toOption
    -- A name may also stand as the one field of a record without a value.
    | .object [(text, .null)] => (ClaimStatus.ofText text).toOption
    | _ => none

instance : JsonForm Origin where
  toJson origin := .object
    [("tenant_id", toJson origin.tenant), ("conversation_id", toJson origin.conversation),
      ("sender_id", toJson origin.sender), ("client_message_id", toJson origin.clientMessage)]
  ofJson? json := do
    match ← json.fields? ["tenant_id", "conversation_id", "sender_id", "client_message_id"] with
    | [tenant, conversation, sender, clientMessage] =>
      return ⟨← ofJson? tenant, ← ofJson? conversation, ← ofJson? sender, ← ofJson? clientMessage⟩
    | _ => none

instance : JsonForm Message where
  toJson m := .object
    [("origin", toJson m.origin), ("server_id", toJson m.serverId),
      ("sequence", toJson m.sequence), ("payload", toJson m.payload),
      ("fingerprint", toJson m.fingerprint), ("created_at", toJson m.createdAt)]
  ofJson? json := do
    match ← json.fields?
      ["origin", "server_id", "sequence", "payload", "fingerprint", "created_at"] with
    | [origin, serverId, sequence, payload, fingerprint, createdAt] =>
      return ⟨← ofJson? origin, ← ofJson? serverId, ← ofJson? sequence, ← ofJson? payload,
        ← ofJson? fingerprint, ← ofJson? createdAt⟩
    | _ => none

instance : JsonForm Receipt where
  toJson r := .object
    [("server_id", toJson r.serverId), ("sequence", toJson r.sequence),
      ("created_at", toJson r.createdAt)]
  ofJson? json := do
    match ← json.fields? ["server_id", "sequence", "created_at"] with
    | [serverId, sequence, createdAt] =>
      return ⟨← ofJson? serverId, ← ofJson? sequence, ← ofJson? createdAt⟩
    | _ => none

instance : JsonForm Conversation where
  toJson c := .object [("tenant_id", toJson c.tenant), ("conversation_id", toJson c.id)]
  ofJson? json := do
    match ← json.fields? ["tenant_id", "conversation_id"] with
    | [tenant, id] => return ⟨← ofJson? tenant, ← ofJson? id⟩
    | _ => none

instance : JsonForm ClaimKey where
  toJson key := .object
    [("tenant_id", toJson key.tenant), ("sender_id", toJson key.sender),
      ("client_message_id", toJson key.clientMessage)]
  ofJson? json := do
    match ← json.fields? ["tenant_id", "sender_id", "client_message_id"] with
    | [tenant, sender, clientMessage] =>
      return ⟨← ofJson? tenant, ← ofJson? sender, ← ofJson? clientMessage⟩
    | _ => none

instance : JsonForm Claim where
  toJson c := .object
    [("server_id", toJson c.serverId), ("fingerprint", toJson c.fingerprint),
      ("status", toJson c.status)]
  ofJson? json := do
    match ← json.fields? ["server_id", "fingerprint", "status"] with
    | [serverId, fingerprint, status] =>
      return ⟨← ofJson? serverId, ← ofJson? fingerprint, ← ofJson? status⟩
    | _ => none

instance : JsonForm Segment where
  toJson s := .object [("start", toJson s.first), ("end", toJson s.last)]
  ofJson? json := do
    match ← json.fields? ["start", "end"] with
    | [first, last] => return ⟨← ofJson? first, ← ofJson? last⟩
    | _ => none

instance : JsonForm NumberRange where
  toJson r := .object [("start", toJson r.start), ("count", toJson r.count)]
  ofJson? json := do
    match ← json.fields? ["start", "count"] with
    | [start, count] => return ⟨← ofJson? start, ← ofJson? count⟩
    | _ => none

instance : JsonForm CachedSegment where
  toJson c := .object
    [("current", toJson c.current), ("end", toJson c.last), ("last_touch", toJson c.touchedAt)]
  ofJson? json := do
    match ← json.fields? ["current", "end", "last_touch"] with
    | [current, last, touchedAt] =>
      return ⟨← ofJson? current, ← ofJson? last, ← ofJson? touchedAt⟩
    | _ => none

instance : JsonForm Grant where
  toJson g := .object [("range", toJson g.range), ("allocated_at", toJson g.grantedAt)]
  ofJson? json := do
    match ← json.fields? ["range", "allocated_at"] with
    | [range, grantedAt] => return ⟨← ofJson? range, ← ofJson? grantedAt⟩
    | _ => none

instance : JsonForm Watermarks where
  toJson w := .object
    [("key", toJson w.conversation), ("issued_seq", toJson w.issued),
      ("max_seq", toJson w.committed), ("min_seq", toJson w.retained),
      ("updated_at", toJson w.updatedAt)]
  ofJson? json := do
    match ← json.fields? ["key", "issued_seq", "max_seq", "min_seq", "updated_at"] with
    | [conversation, issued, committed, retained, updatedAt] =>
      return ⟨← ofJson? conversation, ← ofJson? issued, ← ofJson? committed, ← ofJson? retained,
        ← ofJson? updatedAt⟩
    | _ => none

end Intake
