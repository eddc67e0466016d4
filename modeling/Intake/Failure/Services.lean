import Intake.Claim.Basic
import Intake.Failure.Transient
import Intake.Sequence.Watermarks

/-! Why a call on the ledger, the caches, the claims or the message store fails. -/

namespace Intake

/-- Failures of the durable ledger of watermarks. -/
inductive LedgerError where
  | unavailable (reason : String)
  | timedOut (operation : String) (after : Duration)
  | inconsistent (conversation : Conversation) (violation : WatermarkViolation)
  | overflow (conversation : Conversation)
  | database (reason : String)
deriving DecidableEq

/-- The text of a ledger failure. -/
def LedgerError.message : LedgerError → String
  | .unavailable reason => s!"sequence ledger unavailable: {reason}"
  | .timedOut operation after =>
    s!"sequence ledger operation {operation} timed out after {after.text}"
  | .inconsistent conversation violation =>
    s!"inconsistent ledger state for {conversation.text}: {violation.message}"
  | .overflow conversation => s!"sequence space exhausted for {conversation.text}"
  | .database reason => s!"database error: {reason}"

instance : LawfulTransient LedgerError where
  isTransient
    | .unavailable _ | .timedOut _ _ => true
    | _ => false
  timedOut := .timedOut
  timedOut_isTransient := fun _ _ => rfl

/-- Failures of the caches of blocks and counters. -/
inductive CacheError where
  | unavailable (reason : String)
  | timedOut (operation : String) (after : Duration)
deriving DecidableEq

/-- The text of a cache failure. -/
def CacheError.message : CacheError → String
  | .unavailable reason => s!"sequence cache unavailable: {reason}"
  | .timedOut operation after =>
    s!"sequence cache operation {operation} timed out after {after.text}"

instance : LawfulTransient CacheError where
  isTransient _ := true
  timedOut := .timedOut
  timedOut_isTransient := fun _ _ => rfl

/-- Failures of the index of claims. -/
inductive ClaimError where
  | unavailable (reason : String)
  | timedOut (operation : String) (after : Duration)
  | committedMismatch (key : ClaimKey) (committed attempted : ServerId)
deriving DecidableEq

/-- The text of a failure on a claim. -/
def ClaimError.message : ClaimError → String
  | .unavailable reason => s!"idempotency index unavailable: {reason}"
  | .timedOut operation after =>
    s!"idempotency index operation {operation} timed out after {after.text}"
  | .committedMismatch key committed attempted =>
    s!"idempotency key {key.text} is committed to {committed.text}, not {attempted.text}"

instance : LawfulTransient ClaimError where
  isTransient
    | .unavailable _ | .timedOut _ _ => true
    | _ => false
  timedOut := .timedOut
  timedOut_isTransient := fun _ _ => rfl

/-- Failures of the message store, one for each thing that must be unique among them. -/
inductive StoreError where
  | duplicateSequence (conversation : Conversation) (sequence : SequenceNumber)
  | duplicateClientMessage (key : ClaimKey)
  | duplicateServerId (serverId : ServerId)
  | unavailable (reason : String)
  | timedOut (operation : String) (after : Duration)
  | database (reason : String)
  | serialization (reason : String)
deriving DecidableEq

/-- The text of a store failure. -/
def StoreError.message : StoreError → String
  | .duplicateSequence conversation sequence =>
    s!"duplicate sequence number {sequence.text} in conversation {conversation.text}"
  | .duplicateClientMessage key =>
    s!"duplicate client message id {key.clientMessage.text} from sender {key.sender.text}"
  | .duplicateServerId serverId => s!"duplicate server message id: {serverId.text}"
  | .unavailable reason => s!"message store unavailable: {reason}"
  | .timedOut operation after =>
    s!"message store operation {operation} timed out after {after.text}"
  | .database reason => s!"database error: {reason}"
  | .serialization reason => s!"serialization error: {reason}"

instance : LawfulTransient StoreError where
  isTransient
    | .unavailable _ | .timedOut _ _ => true
    | _ => false
  timedOut := .timedOut
  timedOut_isTransient := fun _ _ => rfl

end Intake
