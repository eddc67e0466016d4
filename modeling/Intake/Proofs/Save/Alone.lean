import Intake.Proofs.Memory.ClaimIndex
import Intake.Proofs.Save.Settled
import Intake.Save.Commit

/-! Saves that run alone, each on the services that the ones before it left. -/

namespace Intake

/-- The services after a key is claimed with the next candidate for an identifier. -/
def World.claimNext (w : World) (key : ClaimKey) (fingerprint : Fingerprint) : World :=
  { w with
    ids := w.ids.next.2
    claims := (w.claims.claim key fingerprint w.ids.next.1 w.clock).2 }

namespace Save

variable {config : SaveConfig} {w : World}

/-- The message stored under a key is found, and nothing changes. -/
theorem findStored_ends (context : SaveContext) (key : ClaimKey) :
    (findStored config context key).run.Ends World.answer w (.ok (w.store.findByKey key)) w :=
  .adapt_ok (Plan.Ends.retryTransient (.call rfl))

/-- Marking a claim as committed touches no message. -/
theorem promote_completes (settled : w.Settled) (key : ClaimKey) (stored : Message) :
    (promote config key stored).Completes World.answer
      (fun _ after => after.Settled ∧ after.store = w.store) w :=
  ⟨settled.answer rfl, rfl⟩

/-- Shortening a claim leaves services settled. -/
theorem rollBack_completes (settled : w.Settled) (key : ClaimKey) :
    (rollBack config key).Completes World.answer
      (fun _ after => after.Settled ∧ after.store = w.store) w :=
  ⟨settled.answer rfl, rfl⟩

/-- The end of a save whose message is stored leaves services settled. -/
theorem finish_completes (settled : w.Settled) (message : Message) :
    (finish config message).Completes World.answer (fun _ after => after.Settled) w := by
  -- The two calls are answered one after the other, each over settled services.
  have marked : ((World.answer (.commitClaim message.key message.serverId message.fingerprint)
      w).2).Settled := settled.answer rfl
  exact marked.answer rfl

/-- An allocation for a draft ends as the allocator's does, with its first number or its failure. -/
theorem allocate_completes (settled : w.Settled) (allocator : Allocator) (draft : Draft) :
    (allocate config allocator draft).run.Completes World.answer
      (fun outcome after => after.Settled ∧ after.store = w.store ∧
        (w.CanGrant allocator draft.conversation 1 → ∃ sequence, outcome = .ok sequence) ∧
        (¬ w.CanGrant allocator draft.conversation 1 → ∃ failure, outcome = .error failure)) w := by
  -- The deadline makes no difference, and a failure is only renamed.
  have allocated : (ExceptT.adapt (SaveError.ofAllocation draft.context) (ExceptT.mk
      (Plan.withDeadline "allocate" config.callTimeout
        (allocator.allocate draft.conversation 1).run))).run.Completes World.answer
      (fun outcome after => after.Settled ∧ after.store = w.store ∧
        (w.CanGrant allocator draft.conversation 1 → ∃ grant, outcome = .ok grant) ∧
        (¬ w.CanGrant allocator draft.conversation 1 → ∃ failure, outcome = .error failure)) w := by
    refine .adapt (.withDeadline ((allocator.allocate_completes draft.conversation (by decide)
      settled).mono fun outcome after ended => ⟨ended.settled, ended.store, fun chance => ?_,
        fun never => ?_⟩))
    · obtain ⟨grant, rfl⟩ := ended.granted chance
      exact ⟨grant, rfl⟩
    · obtain ⟨failure, rfl⟩ := ended.refused never
      exact ⟨_, rfl⟩
  apply allocated.attempt
  -- A failure means that no number could be granted, and a success that one could.
  · intro failure after ended
    obtain ⟨settled, store, granted, _⟩ := ended
    refine ⟨settled, store, fun chance => ?_, fun _ => ⟨failure, rfl⟩⟩
    obtain ⟨_, impossible⟩ := granted chance
    cases impossible
  · intro grant after ended
    obtain ⟨settled, store, _, refused⟩ := ended
    refine ⟨settled, store, fun _ => ⟨grant.start, rfl⟩, fun never => ?_⟩
    obtain ⟨_, impossible⟩ := refused never
    cases impossible

/-- Adopting a stored message answers its receipt if the fingerprint is the same. -/
theorem adopt_completes (settled : w.Settled) (draft : Draft) (winner : Message) :
    (adopt config draft winner).run.Completes World.answer
      (fun outcome after => after.Settled ∧ after.store = w.store ∧
        (winner.fingerprint = draft.fingerprint → outcome = .ok winner.receipt)) w := by
  -- Marking the claim cannot keep the receipt from being answered.
  unfold adopt
  dsimp only
  split
  · rename_i differ
    exact ⟨settled, rfl, fun same => absurd same differ⟩
  · refine .lift (promote_completes settled draft.key winner) ?_
    intro _ after ended
    obtain ⟨settled, store⟩ := ended
    exact ⟨settled, store, fun _ => rfl⟩

/-- A save that finds its key taken answers the receipt of what is stored under it, if the
fingerprint is the same. -/
theorem adoptWinner_completes (settled : w.Settled) (draft : Draft) :
    (adoptWinner config draft).run.Completes World.answer
      (fun outcome after => after.Settled ∧ after.store = w.store ∧
        ∀ winner, w.store.findByKey draft.key = some winner →
          winner.fingerprint = draft.fingerprint → outcome = .ok winner.receipt) w := by
  -- What is found under the key decides, and the draft itself is given up.
  apply (findStored_ends draft.context draft.key).attempt
  split
  · rename_i winner found
    apply (adopt_completes settled draft winner).mono
    intro outcome after ended
    obtain ⟨settled, store, adopted⟩ := ended
    refine ⟨settled, store, fun winner' found' => ?_⟩
    rw [found] at found'
    cases found'
    exact adopted
  · rename_i missing
    exact ⟨settled, rfl, fun winner found => by rw [missing] at found; cases found⟩

/-- Going on from an earlier claim ends in a conflict if its fingerprint is another one, and else
replays the receipt of what is stored, if that has the same fingerprint. -/
theorem resume_completes (settled : w.Settled) (context : SaveContext) (key : ClaimKey)
    (fingerprint : Fingerprint) (claim : Claim) :
    (resume config context key fingerprint claim).run.Completes World.answer
      (fun outcome after => after.Settled ∧ after.store = w.store ∧
        (claim.fingerprint ≠ fingerprint → outcome = .error (.conflict context)) ∧
        (claim.fingerprint = fingerprint → ∀ row, w.store.findByKey key = some row →
          row.fingerprint = fingerprint → outcome = .ok (.replay row.receipt))) w := by
  -- The claim's fingerprint is looked at first, and only then what is stored under the key.
  unfold resume
  dsimp only
  split
  · rename_i differ
    exact ⟨settled, rfl, fun _ => rfl, fun same => absurd same differ⟩
  rename_i agree
  simp only [ne_eq, Decidable.not_not] at agree
  apply (findStored_ends context key).attempt
  split
  · rename_i row found
    split
    · rename_i differ
      refine ⟨settled, rfl, fun differs => absurd agree differs, fun _ row' found' same => ?_⟩
      rw [found] at found'
      cases found'
      exact absurd same differ
    -- The message that was found is the only one under the key.
    have replayed : ∀ row', w.store.findByKey key = some row' →
        (.ok (.replay row.receipt) : Except SaveError Claimed) = .ok (.replay row'.receipt) := by
      intro row' found'
      rw [found] at found'
      cases found'
      rfl
    split
    · refine .lift (promote_completes settled key row) ?_
      intro _ after ended
      obtain ⟨settled, store⟩ := ended
      exact ⟨settled, store, fun differs => absurd agree differs, fun _ row' found' _ =>
        replayed row' found'⟩
    · exact ⟨settled, rfl, fun differs => absurd agree differs, fun _ row' found' _ =>
        replayed row' found'⟩
  · rename_i missing _
    exact ⟨settled, rfl, fun differs => absurd agree differs, fun _ row found => by
      rw [missing] at found; cases found⟩
  · rename_i missing _
    exact ⟨settled, rfl, fun differs => absurd agree differs, fun _ row found => by
      rw [missing] at found; cases found⟩

/-- The next candidate for an identifier takes nothing but the supply. -/
theorem freshServerId_ends :
    Procedure.freshServerId.Ends World.answer w w.ids.next.1 { w with ids := w.ids.next.2 } :=
  ⟨rfl, rfl⟩

/-- A call that claims a key with a live claim answers that claim. -/
theorem claimCall_of_live (context : SaveContext) {key : ClaimKey} {claim : Claim}
    (lives : w.claims.liveClaim key w.clock = some claim) (fingerprint : Fingerprint)
    (proposed : ServerId) :
    (ExceptT.adapt (fun source => SaveError.writeFailed context (.claims source)) (ExceptT.mk
      (Plan.retryTransient config.retry config.callTimeout "ensure_pending"
        (Procedure.claim key fingerprint proposed)))).run.Ends World.answer w
      (.ok (.existing claim)) w :=
  -- The first attempt is answered by the live claim, and an answered call is not repeated.
  .adapt_ok (Plan.Ends.retryTransient (.call (by
    simp only [World.answer, ClaimIndex.claim_of_live lives])))

/-- A call that claims a key without a live claim makes one. -/
theorem claimCall_of_gone (context : SaveContext) {key : ClaimKey}
    (gone : w.claims.liveClaim key w.clock = none) (fingerprint : Fingerprint)
    (proposed : ServerId) :
    (ExceptT.adapt (fun source => SaveError.writeFailed context (.claims source)) (ExceptT.mk
      (Plan.retryTransient config.retry config.callTimeout "ensure_pending"
        (Procedure.claim key fingerprint proposed)))).run.Ends World.answer w
      (.ok (.created proposed))
      { w with claims := (w.claims.claim key fingerprint proposed w.clock).2 } :=
  -- The first attempt takes the key with the proposed identifier, so that no other is made.
  .adapt_ok (Plan.Ends.retryTransient (.call (by
    simp only [World.answer, ClaimIndex.claim_of_gone gone])))

/-- Claiming a key with a live claim goes on from that claim. -/
theorem claim_completes_of_live (settled : w.Settled) (context : SaveContext) {key : ClaimKey}
    (fingerprint : Fingerprint) {claim : Claim}
    (lives : w.claims.liveClaim key w.clock = some claim) :
    (Save.claim config context key fingerprint).run.Completes World.answer
      (fun outcome after => after.Settled ∧ after.store = w.store ∧
        (claim.fingerprint ≠ fingerprint → outcome = .error (.conflict context)) ∧
        (claim.fingerprint = fingerprint → ∀ row, w.store.findByKey key = some row →
          row.fingerprint = fingerprint → outcome = .ok (.replay row.receipt))) w := by
  -- The identifier that was drawn is left unused, as the claim has its own.
  have claimed := @claimCall_of_live config { w with ids := w.ids.next.2 } context key claim lives
    fingerprint w.ids.next.1
  have settled' : World.Settled { w with ids := w.ids.next.2 } :=
    ⟨settled.consistent, settled.reserved, settled.unlocked⟩
  apply freshServerId_ends.lift
  apply claimed.attempt
  exact resume_completes settled' context key fingerprint claim

/-- Claiming a key with a committed claim ends in the receipt of what is stored, or in a conflict if that
has another fingerprint, and takes nothing but a candidate for an identifier. -/
theorem claim_ends_of_stored (context : SaveContext) {key : ClaimKey} {row : Message}
    (fingerprint : Fingerprint) (stored : w.store.findByKey key = some row)
    (lives : w.claims.liveClaim key w.clock = some ⟨row.serverId, row.fingerprint, .committed⟩) :
    (Save.claim config context key fingerprint).run.Ends World.answer w
      (if row.fingerprint = fingerprint then .ok (.replay row.receipt) else .error (.conflict context))
      { w with ids := w.ids.next.2 } := by
  -- The claim and the message have one fingerprint, and nothing is left to commit.
  apply freshServerId_ends.lift
  apply Plan.Ends.attempt (@claimCall_of_live config { w with ids := w.ids.next.2 } context key _ lives
    fingerprint w.ids.next.1)
  show (resume config context key fingerprint _).run.Completes _ _ _
  unfold resume
  by_cases same : row.fingerprint = fingerprint
  · rw [if_pos same, if_neg (not_not_intro same)]
    apply Plan.Ends.attempt (@findStored_ends config { w with ids := w.ids.next.2 } context key)
    simp only [stored]
    rw [if_neg (not_not_intro same)]
    exact ⟨rfl, rfl⟩
  · rw [if_neg same, if_pos same]
    exact ⟨rfl, rfl⟩

/-- Claiming a key without a live claim makes one, and the save proceeds with the next candidate for an
identifier. -/
theorem claim_ends_of_gone (context : SaveContext) {key : ClaimKey} (fingerprint : Fingerprint)
    (gone : w.claims.liveClaim key w.clock = none) :
    (Save.claim config context key fingerprint).run.Ends World.answer w
      (.ok (.proceed w.ids.next.1)) (w.claimNext key fingerprint) :=
  -- The identifier that is drawn first is the one under which the key is then claimed.
  freshServerId_ends.lift (Plan.Ends.attempt (@claimCall_of_gone config { w with ids := w.ids.next.2 }
    context key gone fingerprint w.ids.next.1) ⟨rfl, rfl⟩)

/-- There is at least one round of inserting. -/
theorem roundLimit_pos (config : SaveConfig) : ∃ rounds, roundLimit config = rounds + 1 :=
  ⟨_, by unfold roundLimit; rw [Nat.add_assoc, Nat.add_assoc, Nat.add_comm]⟩

/-- A draft whose key is taken is not stored: the save answers the receipt of what is stored under the
key, if a number can be granted and the fingerprint is the same. -/
theorem commit_completes_of_taken (settled : w.Settled) (allocator : Allocator) {draft : Draft}
    {row : Message} (taken : w.store.findByKey draft.key = some row)
    (same : row.fingerprint = draft.fingerprint) :
    (commit config allocator draft).run.Completes World.answer
      (fun outcome after => after.Settled ∧ after.store = w.store ∧
        (w.CanGrant allocator draft.conversation 1 → outcome = .ok row.receipt) ∧
        (¬ w.CanGrant allocator draft.conversation 1 → ∃ failure, outcome = .error failure)) w := by
  -- The insert is refused for the key, which leads to what is stored under it.
  apply Plan.Completes.attempt (allocate_completes settled allocator draft)
  · intro failure after ended
    obtain ⟨settled, store, granted, _⟩ := ended
    refine ⟨settled, store, fun chance => ?_, fun _ => ⟨failure, rfl⟩⟩
    obtain ⟨_, impossible⟩ := granted chance
    cases impossible
  · intro sequence after ended
    obtain ⟨settled, store, _, refused⟩ := ended
    obtain ⟨rounds, limit⟩ := roundLimit_pos config
    rw [limit]
    unfold insertIn
    apply Plan.Ends.lift (.call rfl)
    -- The allocation has stored nothing, so the key is still taken.
    have inserted : (Plan.withDeadline "insert" config.callTimeout
        (Procedure.insert (draft.message sequence after.clock))).Ends World.answer after
        (.error (.duplicateClientMessage draft.key)) after := by
      have taken' : after.store.findByKey (draft.message sequence after.clock).key = some row := by
        rw [store]; exact taken
      refine Plan.Completes.withDeadline (Plan.Ends.call ?_)
      simp only [World.answer, MessageStore.insert_of_taken taken']
      rfl
    refine inserted.lift ((adoptWinner_completes settled draft).mono ?_)
    intro outcome later ended
    obtain ⟨settled, store', adopted⟩ := ended
    refine ⟨settled, store'.trans store, fun _ => ?_, fun never => ?_⟩
    · exact adopted row (by rw [store]; exact taken) same
    · obtain ⟨_, impossible⟩ := refused never
      cases impossible

/-- A draft that is renamed leaves services settled. -/
theorem rename_settles (settled : w.Settled) (draft : Draft) :
    (rename config draft).run.Completes World.answer (fun _ after => after.Settled) w := by
  -- No step of a change of identifier is a call that only allocations make.
  have settled' : World.Settled { w with ids := w.ids.next.2 } :=
    ⟨settled.consistent, settled.reserved, settled.unlocked⟩
  apply freshServerId_ends.lift
  have renamed : (ExceptT.adapt (fun source => SaveError.writeFailed draft.context (.claims source))
      (ExceptT.mk (Plan.retryTransient config.retry config.callTimeout "update_server_id_if_pending"
        (Procedure.renameClaim draft.key draft.fingerprint w.ids.next.1)))).run.Completes World.answer
      (fun _ after => after.Settled) { w with ids := w.ids.next.2 } :=
    .adapt (.retryTransient ⟨settled'.answer rfl, fun _ failed => by cases failed⟩)
  refine renamed.attempt (fun _ _ settled => settled) fun swapped after settled => ?_
  split
  · exact settled
  apply (findStored_ends draft.context draft.key).attempt
  split
  · rename_i winner _
    apply (adopt_completes settled draft winner).attempt (fun _ _ ended => ended.1)
    exact fun _ _ ended => ended.1
  · exact settled

/-- Moving the allocator past what is stored and allocating again leaves services settled. -/
theorem renumber_settles (settled : w.Settled) (allocator : Allocator) (draft : Draft)
    (occupied : SequenceNumber) :
    (renumber config allocator draft occupied).run.Completes World.answer
      (fun _ after => after.Settled) w := by
  -- The floor is raised and the cache dropped, and the allocation after it is one like any other.
  have greatest : (ExceptT.adapt (fun source => SaveError.writeFailed draft.context (.store source))
      (ExceptT.mk (Plan.retryTransient config.retry config.callTimeout "max_sequence"
        (Procedure.greatestSequence draft.conversation)))).run.Completes World.answer
      (fun _ after => after.Settled) w :=
    .adapt (.retryTransient ⟨settled, fun _ failed => by cases failed⟩)
  refine greatest.attempt (fun _ _ settled => settled) fun greatest after settled => ?_
  -- Either allocator raises the mark in the ledger first, and then drops what it has cached.
  have reconciled : ∀ floor, (ExceptT.adapt (SaveError.ofAllocation draft.context) (ExceptT.mk
      (Plan.withDeadline "reconcile_floor" config.callTimeout
        (allocator.reconcile draft.conversation floor).run))).run.Completes World.answer
      (fun _ after => after.Settled) after := by
    intro floor
    have raised : (World.answer (.raiseIssued draft.conversation floor) after).2.Settled :=
      settled.answer rfl
    refine .adapt (.withDeadline ?_)
    cases allocator with
    | segmented =>
      show (World.answer (.dropSegment draft.conversation) _).2.Settled
      exact raised.answer rfl
    | singleCounter =>
      show (World.answer (.dropCounter draft.conversation) _).2.Settled
      exact raised.answer rfl
  refine (reconciled _).attempt (fun _ _ settled => settled) fun _ later settled => ?_
  exact (allocate_completes settled allocator draft).mono fun _ _ ended => ended.1

/-- However many rounds of inserting there are, services are settled after them. -/
theorem insertIn_settles (allocator : Allocator) (rounds : Nat) :
    ∀ (setbacks : Setbacks) (draft : Draft) (sequence : SequenceNumber) {w : World}, w.Settled →
      (insertIn config allocator rounds setbacks draft sequence).run.Completes World.answer
        (fun _ after => after.Settled) w := by
  -- The induction is on the rounds that are left. The store in memory fails in no way that may pass.
  induction rounds with
  | zero => exact fun _ _ _ _ settled => settled
  | succ rounds ih =>
    intro setbacks draft sequence w settled
    unfold insertIn
    apply Plan.Ends.lift (.call rfl)
    have settled' : (World.answer (.insert (draft.message sequence w.clock)) w).2.Settled :=
      settled.answer rfl
    have inserted : (Plan.withDeadline "insert" config.callTimeout
        (Procedure.insert (draft.message sequence w.clock))).Ends World.answer w
        (World.answer (.insert (draft.message sequence w.clock)) w).1
        (World.answer (.insert (draft.message sequence w.clock)) w).2 := ⟨rfl, rfl⟩
    apply inserted.lift
    split
    · exact .liftLast (finish_completes settled' _)
    · exact (adoptWinner_completes settled' draft).mono fun _ _ ended => ended.1
    · dsimp only
      split
      · exact settled'
      apply (rename_settles settled' draft).attempt (fun _ _ settled => settled)
      intro renamed after settled
      cases renamed with
      | stored receipt => exact settled
      | draft renamed => exact ih _ _ _ settled
    · dsimp only
      split
      · exact settled'
      apply (renumber_settles settled' allocator draft _).attempt (fun _ _ settled => settled)
      exact fun _ _ settled => ih _ _ _ settled
    -- What is left is a failure that is not retried.
    · rename_i failure _ _ _ failed
      rw [if_neg (by simp [MessageStore.insert_permanent failed])]
      exact settled'

end Save

/-- A save that runs alone on settled services leaves them settled. -/
theorem save_settles (config : SaveConfig) (allocator : Allocator) (submission : Submission)
    {w : World} (settled : w.Settled) :
    (save config allocator submission).Completes World.answer (fun _ after => after.Settled) w := by
  -- Both halves of a save leave services settled, however the first one ends.
  unfold save
  dsimp only
  have claimed : (Save.claim config (.ofOrigin submission.origin) (.ofOrigin submission.origin)
      submission.fingerprint).run.Completes World.answer (fun _ after => after.Settled) w := by
    cases lives : w.claims.liveClaim (.ofOrigin submission.origin) w.clock with
    | some claim =>
      exact (Save.claim_completes_of_live settled _ _ lives).mono fun _ _ ended => ended.1
    | none =>
      apply Plan.Completes.mono (Save.claim_ends_of_gone _ _ lives)
      intro _ _ ended
      obtain ⟨_, rfl⟩ := ended
      exact ⟨settled.consistent, settled.reserved, settled.unlocked⟩
  refine claimed.bind fun outcome after settled => ?_
  split
  · exact settled
  · exact settled
  · rename_i serverId
    have committed : (Save.commit config allocator ⟨submission.origin, submission.payload,
        submission.fingerprint, serverId⟩).run.Completes World.answer (fun _ after => after.Settled)
        after := by
      apply (Save.allocate_completes settled allocator _).attempt (fun _ _ ended => ended.1)
      exact fun sequence _ ended => Save.insertIn_settles allocator _ _ _ sequence ended.1
    refine committed.bind fun outcome later settled => ?_
    split
    · exact settled
    · refine (Save.rollBack_completes settled _).bind fun _ _ ended => ?_
      exact ended.1

end Intake
