import Intake.Allocator.Basic
import Intake.Save.Claiming

/-! The rest of a save: a number is allocated and the message inserted, whatever gets in the way. -/

namespace Intake

/-- A message on its way into the store, under the identifier it was last given. -/
structure Draft where
  origin : Origin
  payload : Payload
  fingerprint : Fingerprint
  serverId : ServerId

namespace Draft

/-- The key a draft is stored under. -/
def key (d : Draft) : ClaimKey := ClaimKey.ofOrigin d.origin

/-- The conversation a draft goes to. -/
def conversation (d : Draft) : Conversation := Conversation.ofOrigin d.origin

/-- The save a draft belongs to. -/
def context (d : Draft) : SaveContext := SaveContext.ofOrigin d.origin

/-- The message of a draft, at a place in its conversation and a time. -/
def message (d : Draft) (sequence : SequenceNumber) (now : Instant) : Message :=
  ⟨d.origin, d.serverId, sequence, d.payload, d.fingerprint, now⟩

end Draft

namespace Save

/-- Allocates the next number of a draft's conversation. -/
def allocate (config : SaveConfig) (allocator : Allocator) (draft : Draft) :
    Attempt SaveError SequenceNumber := do
  let grant ← ExceptT.adapt (SaveError.ofAllocation draft.context) <| ExceptT.mk <|
    Plan.withDeadline "allocate" config.callTimeout (allocator.allocate draft.conversation 1).run
  return grant.start

/-- Ends a save whose message is stored: its claim is committed and the watermark raised, as far as
these calls succeed. -/
def finish (config : SaveConfig) (message : Message) : Procedure Receipt := do
  promote config message.key message
  let _ ← Plan.withDeadline "record_committed" config.callTimeout
    (Allocator.recordCommitted message.conversation message.sequence).run
  return message.receipt

/-- Ends a save whose key another one stored first, if that one's message is the same. -/
def adopt (config : SaveConfig) (draft : Draft) (winner : Message) : Attempt SaveError Receipt := do
  -- The same key for another message is the client's mistake.
  if winner.fingerprint ≠ draft.fingerprint then throw (.conflict draft.context)
  ExceptT.lift (promote config draft.key winner)
  return winner.receipt

/-- Looks up the message that the store says is there. -/
def adoptWinner (config : SaveConfig) (draft : Draft) : Attempt SaveError Receipt := do
  match ← findStored config draft.context draft.key with
  | some winner => adopt config draft winner
  | none => throw (.inconsistency draft.context
      "store reported a duplicate client message id but holds no such row")

/-- What a change of identifier gives: the draft under the new one, or the receipt of the message
that was stored in the meantime. -/
inductive Renamed where
  | draft (draft : Draft)
  | stored (receipt : Receipt)

/-- Gives a draft and its claim the next candidate for an identifier. -/
def rename (config : SaveConfig) (draft : Draft) : Attempt SaveError Renamed := do
  let candidate ← ExceptT.lift Procedure.freshServerId
  let swapped ← ExceptT.adapt (fun source => .writeFailed draft.context (.claims source)) <|
    ExceptT.mk <| Plan.retryTransient config.retry config.callTimeout "update_server_id_if_pending"
      (Procedure.renameClaim draft.key draft.fingerprint candidate)
  -- The claim has the new identifier too, and everything else of the draft stays.
  if swapped then return .draft { draft with serverId := candidate }
  match ← findStored config draft.context draft.key with
  | some winner => return .stored (← adopt config draft winner)
  | none => throw (.writeFailed draft.context .claimLost)

/-- Moves the allocator past all that is stored, and allocates again. -/
def renumber (config : SaveConfig) (allocator : Allocator) (draft : Draft)
    (occupied : SequenceNumber) : Attempt SaveError SequenceNumber := do
  let greatest ← ExceptT.adapt (fun source => .writeFailed draft.context (.store source)) <|
    ExceptT.mk <| Plan.retryTransient config.retry config.callTimeout "max_sequence"
      (Procedure.greatestSequence draft.conversation)
  -- The place that was taken counts as stored, also if the store does not list it.
  let floor := (greatest.map (·.larger occupied)).getD occupied
  ExceptT.adapt (SaveError.ofAllocation draft.context) <| ExceptT.mk <|
    Plan.withDeadline "reconcile_floor" config.callTimeout
      (allocator.reconcile draft.conversation floor).run
  allocate config allocator draft

/-- What has gone wrong so far in one save. -/
structure Setbacks where
  failures : UInt32
  conflicts : UInt32
  collisions : UInt32

/-- How many rounds of inserting the settings allow. -/
def roundLimit (config : SaveConfig) : Nat :=
  1 + config.maxSequenceConflicts.toNat + config.maxServerIdCollisions.toNat +
    (config.retry.maxAttempts.toNat - 1)

/-- Inserts a draft at a place, and on a setback mends what can be mended and inserts again. -/
def insertIn (config : SaveConfig) (allocator : Allocator) :
    Nat → Setbacks → Draft → SequenceNumber → Attempt SaveError Receipt
  -- The limits end every save before its rounds run out.
  | 0, _, draft, _ => throw (.writeFailed draft.context .claimLost)
  | rounds + 1, setbacks, draft, sequence => do
    -- Each round has its own time, and the one that is stored is the one answered.
    let message := draft.message sequence (← ExceptT.lift Procedure.now)
    let inserted ← ExceptT.lift <|
      Plan.withDeadline "insert" config.callTimeout (Procedure.insert message)
    match inserted with
    | .ok () => ExceptT.lift (finish config message)
    | .error (.duplicateClientMessage _) => adoptWinner config draft
    -- Another message has the identifier, so the draft needs a new one.
    | .error (.duplicateServerId _) =>
      let collisions := setbacks.collisions + 1
      if config.maxServerIdCollisions < collisions then
        throw (.writeFailed draft.context (.serverIdCollisions collisions))
      match ← rename config draft with
      | .draft renamed =>
        insertIn config allocator rounds { setbacks with collisions } renamed sequence
      | .stored receipt => return receipt
    -- Another message has the place, so the draft needs a higher one.
    | .error (.duplicateSequence _ occupied) =>
      let conflicts := setbacks.conflicts + 1
      if config.maxSequenceConflicts < conflicts then
        throw (.writeFailed draft.context (.sequenceConflicts conflicts))
      let next ← renumber config allocator draft occupied
      insertIn config allocator rounds { setbacks with conflicts } draft next
    | .error failure =>
      if Transient.isTransient failure then
        let failures := setbacks.failures + 1
        -- An insert that failed may have taken effect, which the next one finds out by its key.
        if config.retry.maxAttempts ≤ failures then
          throw (.writeFailed draft.context (.store failure))
        ExceptT.lift (Plan.pause (config.retry.backoffFor failures))
        insertIn config allocator rounds { setbacks with failures } draft sequence
      else throw (.writeFailed draft.context (.store failure))

/-- Stores a draft whose key is claimed. -/
def commit (config : SaveConfig) (allocator : Allocator) (draft : Draft) :
    Attempt SaveError Receipt := do
  let sequence ← allocate config allocator draft
  insertIn config allocator (roundLimit config) ⟨0, 0, 0⟩ draft sequence

/-- Shortens the claim of a failed save, so that the client may soon try again. -/
def rollBack (config : SaveConfig) (key : ClaimKey) : Procedure Unit := do
  let _ ← Plan.withDeadline "rollback_short_ttl" config.callTimeout (Procedure.rollBackClaim key)
  return ()

end Save

/-- Stores a message once, with the next number of its conversation, or answers the receipt of the
copy that is stored already. -/
def save (config : SaveConfig) (allocator : Allocator) (submission : Submission) :
    Procedure (Except SaveError Receipt) := do
  let origin := submission.origin
  let fingerprint := submission.fingerprint
  match ← (Save.claim config (.ofOrigin origin) (.ofOrigin origin) fingerprint).run with
  | .error failure => return .error failure
  | .ok (.replay receipt) => return .ok receipt
  | .ok (.proceed serverId) =>
    let draft : Draft := ⟨origin, submission.payload, fingerprint, serverId⟩
    match ← (Save.commit config allocator draft).run with
    | .ok receipt => return .ok receipt
    | .error failure =>
      -- What the claim was for is not stored, as far as this save knows.
      Save.rollBack config draft.key
      return .error failure

end Intake
