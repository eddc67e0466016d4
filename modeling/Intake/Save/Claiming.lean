import Intake.Failure.Save
import Intake.Plan.Retry
import Intake.Save.Config
import Intake.Service.Request

/-! The start of a save: its key is claimed, or the message is found to be stored already. -/

namespace Intake

namespace Save

/-- The message stored under a key. -/
def findStored (config : SaveConfig) (context : SaveContext) (key : ClaimKey) :
    Attempt SaveError (Option Message) :=
  ExceptT.adapt (fun source => .writeFailed context (.store source)) <| ExceptT.mk <|
    Plan.retryTransient config.retry config.callTimeout "find_by_client_message"
      (Procedure.findByKey key)

/-- Marks a claim as committed to a stored message. A failure is passed over: the message is stored,
and a later save under the same key makes up for it. -/
def promote (config : SaveConfig) (key : ClaimKey) (stored : Message) : Procedure Unit := do
  let _ ← Plan.withDeadline "mark_committed" config.callTimeout
    (Procedure.commitClaim key stored.serverId stored.fingerprint)
  return ()

/-- What claiming gives: the receipt of a stored message, or an identifier to store one under. -/
inductive Claimed where
  | replay (receipt : Receipt)
  | proceed (serverId : ServerId)

/-- Goes on from a claim that was there already. -/
def resume (config : SaveConfig) (context : SaveContext) (key : ClaimKey)
    (fingerprint : Fingerprint) (claim : Claim) : Attempt SaveError Claimed := do
  -- The claim alone decides this, before the store is asked.
  if claim.fingerprint ≠ fingerprint then throw (.conflict context)
  match ← findStored config context key, claim.status with
  | some stored, status =>
    if stored.fingerprint ≠ fingerprint then throw (.conflict context)
    -- An earlier save may have stored the message without committing its claim.
    if status = .pending then ExceptT.lift (promote config key stored)
    return .replay stored.receipt
  | none, .committed =>
    throw (.inconsistency context "idempotency record is committed but no message is stored")
  -- Nothing is stored yet, so the save goes on with the identifier of the claim.
  | none, .pending => return .proceed claim.serverId

/-- Claims a key for a message of the given fingerprint. -/
def claim (config : SaveConfig) (context : SaveContext) (key : ClaimKey)
    (fingerprint : Fingerprint) : Attempt SaveError Claimed := do
  -- The candidate goes with the claim, so that all saves of a message agree on one.
  let proposed ← ExceptT.lift Procedure.freshServerId
  let outcome ← ExceptT.adapt (fun source => .writeFailed context (.claims source)) <|
    ExceptT.mk <| Plan.retryTransient config.retry config.callTimeout "ensure_pending"
      (Procedure.claim key fingerprint proposed)
  match outcome with
  | .created serverId => return .proceed serverId
  | .existing claim => resume config context key fingerprint claim

end Save

end Intake
