import Intake.Proofs.Plan.Protocol
import Intake.Save.Commit

/-! What the routines of a save call on, apart from its numbers and its inserts: the key of the message,
and the mark that its number is stored. -/

namespace Intake

/-- Calls on the key of a message, or that mark its number as stored. -/
def Service.Keyed (origin : Origin) : Request → Prop
  | .freshServerId => True
  | .claim key _ _ | .renameClaim key _ _ | .commitClaim key _ _ | .rollBackClaim key
  | .findByKey key => key = .ofOrigin origin
  | .raiseCommitted conversation _ => conversation = .ofOrigin origin
  | _ => False

namespace Save

variable {config : SaveConfig} {origin : Origin}

/-- Looking for a stored message asks the store for the key. -/
theorem findStored_asks (context : SaveContext) (key : ClaimKey) :
    (findStored config context key).run.Asks (· = Service.Request.findByKey key) :=
  .adapt (.retryTransient (.call rfl))

/-- Marking a claim as committed commits it to the stored message. -/
theorem promote_asks (key : ClaimKey) (stored : Message) :
    (promote config key stored).Asks
      (· = Service.Request.commitClaim key stored.serverId stored.fingerprint) :=
  .bind (.withDeadline (.call rfl)) fun _ => .done _

/-- Rolling a claim back shortens it. -/
theorem rollBack_asks (key : ClaimKey) :
    (rollBack config key).Asks (· = Service.Request.rollBackClaim key) :=
  .bind (.withDeadline (.call rfl)) fun _ => .done _

/-- Going on from an earlier claim calls on the key. -/
theorem resume_keyed (context : SaveContext) (fingerprint : Fingerprint) (claim : Claim) :
    (resume config context (.ofOrigin origin) fingerprint claim).run.Asks
      (Service.Keyed origin) := by
  -- One case for each way out. Only a pending claim whose message is stored is marked.
  unfold resume
  dsimp only
  split
  · exact .done _
  refine .attempt ((findStored_asks context _).permits_one rfl) fun found => ?_
  split
  · split
    · exact .done _
    split
    · exact .lift ((promote_asks _ _).permits_one rfl) fun _ => .done _
    · exact .done _
  · exact .done _
  · exact .done _

/-- Claiming a key calls on it. -/
theorem claim_keyed (context : SaveContext) (fingerprint : Fingerprint) :
    (claim config context (.ofOrigin origin) fingerprint).run.Asks (Service.Keyed origin) := by
  -- The candidate for an identifier is asked for first, also if the key turns out to be claimed.
  refine .lift (.call trivial) fun proposed => ?_
  refine .attempt (.adapt (.retryTransient (.call rfl))) fun outcome => ?_
  cases outcome with
  | created serverId => exact .done _
  | existing claim => exact resume_keyed context fingerprint claim

/-- Adopting a stored message calls on the key of the draft. -/
theorem adopt_keyed (draft : Draft) (winner : Message) :
    (adopt config draft winner).run.Asks (Service.Keyed draft.origin) := by
  -- A message of another content is refused before any call.
  unfold adopt
  dsimp only
  split
  · exact .done _
  · exact .lift ((promote_asks draft.key winner).permits_one rfl) fun _ => .done _

/-- Adopting whatever is stored under the key calls on it. -/
theorem adoptWinner_keyed (draft : Draft) :
    (adoptWinner config draft).run.Asks (Service.Keyed draft.origin) := by
  -- The search names the key, and so does what follows if a winner is found.
  refine .attempt ((findStored_asks draft.context draft.key).permits_one rfl) fun found => ?_
  cases found with
  | none => exact .done _
  | some winner => exact adopt_keyed draft winner

/-- Ending a save whose message is stored calls on its key, and marks its number. -/
theorem finish_keyed (message : Message) :
    (finish config message).Asks (Service.Keyed message.origin) :=
  .bind ((promote_asks message.key message).permits_one rfl) fun _ =>
    .bind (.withDeadline (.adapt (.call rfl))) fun _ => .done _

/-- Giving a draft another identifier calls on its key, and leaves it the origin that it had. -/
theorem rename_keyed (draft : Draft) :
    (rename config draft).run.Keeps (.only (Service.Keyed draft.origin)) (fun _ => True)
      (fun outcome _ => ∀ renamed, outcome = .ok (.draft renamed) → renamed.origin = draft.origin)
      () := by
  -- Only a swapped claim gives a draft. The other ways out are a receipt and a failure.
  have swaps : ∀ candidate,
      (ExceptT.adapt (fun source => SaveError.writeFailed draft.context (.claims source))
        (ExceptT.mk (Plan.retryTransient config.retry config.callTimeout
          "update_server_id_if_pending"
          (Procedure.renameClaim draft.key draft.fingerprint candidate)))).run.Asks
        (Service.Keyed draft.origin) :=
    fun _ => .adapt (.retryTransient (.call rfl))
  have finds : (findStored config draft.context draft.key).run.Asks
      (Service.Keyed draft.origin) :=
    (findStored_asks draft.context draft.key).permits_one rfl
  unfold rename
  refine .lift (.call trivial trivial fun candidate _ _ => ⟨trivial, ?_⟩)
  refine Plan.Keeps.attempt (swaps candidate) (by simp) fun swapped _ _ => ?_
  split
  · exact ⟨trivial, fun _ same => by cases same; rfl⟩
  refine Plan.Keeps.attempt finds (by simp) fun found _ _ => ?_
  cases found with
  | none => exact ⟨trivial, by simp⟩
  | some winner =>
    exact Plan.Keeps.attempt (adopt_keyed draft winner) (by simp) fun _ _ _ =>
      ⟨trivial, fun _ same => by cases same⟩

end Save

end Intake
