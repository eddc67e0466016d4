import Intake.Failure.Allocation

/-! Why a message could not be saved, and which save it was. -/

namespace Intake

/-- The save that a failure belongs to. -/
structure SaveContext where
  tenant : TenantId
  conversation : ConversationId
  clientMessage : ClientMessageId
deriving DecidableEq

namespace SaveContext

/-- The context of a message's save. -/
def ofOrigin (origin : Origin) : SaveContext :=
  ⟨origin.tenant, origin.conversation, origin.clientMessage⟩

/-- The text of a context. -/
def text (c : SaveContext) : String :=
  s!"tenant={c.tenant.text} conversation={c.conversation.text} " ++
    s!"client_message_id={c.clientMessage.text}"

end SaveContext

/-- Why a write was given up. -/
inductive WriteFailure where
  | store (source : StoreError)
  | claims (source : ClaimError)
  | sequenceConflicts (attempts : UInt32)
  | serverIdCollisions (attempts : UInt32)
  | claimLost
deriving DecidableEq

/-- The text of a write that was given up, which is the service's own where a service failed. -/
def WriteFailure.message : WriteFailure → String
  | .store source => source.message
  | .claims source => source.message
  | .sequenceConflicts attempts =>
    s!"sequence number still taken after {attempts} reconciliations"
  | .serverIdCollisions attempts => s!"server id still taken after {attempts} candidates"
  | .claimLost => "idempotency claim lost before the message was stored"

/-- Failures of a save. -/
inductive SaveError where
  | allocation (context : SaveContext) (source : AllocationError)
  | conflict (context : SaveContext)
  | writeFailed (context : SaveContext) (reason : WriteFailure)
  | inconsistency (context : SaveContext) (detail : String)
deriving DecidableEq

namespace SaveError

/-- The text of a failed save. -/
def message : SaveError → String
  | .allocation context source =>
    s!"sequence allocation failed for {context.text}: {source.message}"
  | .conflict context => s!"client message id reused with a different payload for {context.text}"
  | .writeFailed context reason => s!"message write failed for {context.text}: {reason.message}"
  | .inconsistency context detail => s!"internal inconsistency for {context.text}: {detail}"

/-- The save that failed. -/
def context : SaveError → SaveContext
  | .allocation context _ => context
  | .conflict context => context
  | .writeFailed context _ => context
  | .inconsistency context _ => context

/-- Whether the same request may be tried again. -/
def isRetryable : SaveError → Bool
  | .allocation _ _ | .writeFailed _ _ => true
  | .conflict _ | .inconsistency _ _ => false

/-- The texts of the failures behind a failed save. -/
def causes : SaveError → List String
  | .allocation _ source => [source.message]
  | .writeFailed _ reason => [reason.message]
  | .conflict _ | .inconsistency _ _ => []

/-- A failed allocation fails its save, fatally when the ledger cannot be trusted. -/
def ofAllocation (context : SaveContext) (source : AllocationError) : SaveError :=
  if source.isInconsistency then .inconsistency context source.message
  else .allocation context source

end SaveError

end Intake
