import Intake.Proofs.Plan.Outcome
import Intake.Proofs.Save.Scope

/-! The course of a save: it prepares, and then it finds its message to be stored, or stores it, or it
fails. What is said of each of these steps is put together for the save as a whole. -/

namespace Intake

namespace Save

variable {H : Type}

/-- What holds along a save: while it prepares, once its claim was found to be committed, and when it
ends with a receipt. -/
structure Course (cuts : {β : Type} → Procedure β → Prop)
    (moves : (request : Service.Request) → H → Service.Reply request → H → Prop)
    (config : SaveConfig) (origin : Origin) (fingerprint : Fingerprint)
    (preparing committed : H → Prop) (ended : Receipt → H → Prop) : Prop where
  /-- No deadline cuts what has ended. -/
  uncut : ∀ {γ : Type} (value : γ), ¬ cuts (.done value)
  prepares : ∀ request held reply after, Service.Prepares origin request → preparing held →
    moves request held reply after → preparing after
  /-- A message that is not stored leaves the save where it was. -/
  refused : ∀ message held failure after, message.origin = origin → preparing held →
    moves (.insert message) held (.error failure) after → preparing after
  /-- The save may end with its message once that is stored. -/
  inserted : ∀ message held after, message.origin = origin → message.fingerprint = fingerprint →
    preparing held → moves (.insert message) held (.ok ()) after →
    (finish config message).Ensures cuts moves ended after
  /-- The save may end with a message that is found to be stored. -/
  found : ∀ row held after, preparing held →
    moves (.findByKey (.ofOrigin origin)) held (.ok (some row)) after →
    row.fingerprint = fingerprint →
    (promote config (.ofOrigin origin) row).Ensures cuts moves (fun _ => ended row.receipt) after
  sees : ∀ claim proposed held after, preparing held →
    moves (.claim (.ofOrigin origin) fingerprint proposed) held (.ok (.existing claim)) after →
    claim.status = .committed → committed after
  looks : ∀ held reply after, committed held →
    moves (.findByKey (.ofOrigin origin)) held reply after → committed after
  /-- The save may end with a message whose claim is committed without committing it again. -/
  replays : ∀ row held after, committed held →
    moves (.findByKey (.ofOrigin origin)) held (.ok (some row)) after →
    row.fingerprint = fingerprint → ended row.receipt after
  lets : ∀ held, committed held → preparing held

/-- A save ends with a receipt that it may end with, or it fails while it prepares. -/
def Comes (preparing : H → Prop) (ended : Receipt → H → Prop) :
    Except SaveError Receipt → H → Prop
  | .ok receipt, after => ended receipt after
  | .error _, after => preparing after

/-- Claiming ends with a receipt that the save may end with, or the save goes on preparing. -/
def ClaimComes (preparing : H → Prop) (ended : Receipt → H → Prop) :
    Except SaveError Claimed → H → Prop
  | .ok (.replay receipt), after => ended receipt after
  | _, after => preparing after

/-- Renaming ends with a receipt that the save may end with, or the save goes on preparing with what it
had but for the identifier. -/
def RenameComes (preparing : H → Prop) (ended : Receipt → H → Prop) (draft : Draft) :
    Except SaveError Renamed → H → Prop
  | .ok (.stored receipt), after => ended receipt after
  | .ok (.draft renamed), after =>
    preparing after ∧ renamed.origin = draft.origin ∧ renamed.fingerprint = draft.fingerprint
  | .error _, after => preparing after

namespace Course

variable {cuts : {β : Type} → Procedure β → Prop}
  {moves : (request : Service.Request) → H → Service.Reply request → H → Prop}
  {config : SaveConfig} {origin : Origin} {fingerprint : Fingerprint}
  {preparing committed : H → Prop} {ended : Receipt → H → Prop} {held : H}

/-- A plan that prepares goes on preparing. -/
theorem asks (course : Course cuts moves config origin fingerprint preparing committed ended)
    {α : Type} {plan : Procedure α} (prepares : plan.Asks (Service.Prepares origin))
    (start : preparing held) : plan.Ensures cuts moves (fun _ => preparing) held :=
  .of_asks prepares course.prepares start

/-- A row that is found was found by the last look-up. -/
theorem findStored (course : Course cuts moves config origin fingerprint preparing committed ended)
    (context : SaveContext) {steady : H → Prop}
    (kept : ∀ held reply after, steady held →
      moves (.findByKey (.ofOrigin origin)) held reply after → steady after)
    (start : steady held) :
    (Save.findStored config context (.ofOrigin origin)).run.Ensures cuts moves
      (fun outcome after => steady after ∧ ∀ row, outcome = .ok (some row) → ∃ before,
        steady before ∧ moves (.findByKey (.ofOrigin origin)) before (.ok (some row)) after) held := by
  -- The look-up that ends the attempts is the one whose reply is the outcome.
  have looked : (Plan.retryTransient config.retry config.callTimeout "find_by_client_message"
      (Procedure.findByKey (.ofOrigin origin))).Ensures cuts moves
      (fun outcome after => steady after ∧ ∀ row, outcome = .ok (some row) → ∃ before,
        steady before ∧ moves (.findByKey (.ofOrigin origin)) before (.ok (some row)) after)
      held := by
    refine .retryTransient steady (fun held holds => ?_) start
    refine .withDeadline_call rfl course.uncut (fun reply after moved => ?_) fun _ => ?_
    · have holds' := kept held reply after holds moved
      exact ⟨⟨holds', fun row same => ⟨held, holds, by subst same; exact moved⟩⟩, fun _ _ => holds'⟩
    · exact ⟨⟨holds, fun _ same => by cases same⟩, fun _ _ => holds⟩
  exact .adapt (looked.mono fun outcome after shown =>
    ⟨shown.1, fun row same => shown.2 row (Plan.ok_of_renamed same)⟩)

/-- Going on from an earlier claim. -/
theorem resume (course : Course cuts moves config origin fingerprint preparing committed ended)
    (context : SaveContext) (claim : Claim) (start : preparing held)
    (sees : claim.status = .committed → committed held) :
    (Save.resume config context (.ofOrigin origin) fingerprint claim).run.Ensures cuts moves
      (ClaimComes preparing ended) held := by
  have looks : ∀ held reply after, preparing held →
      moves (.findByKey (.ofOrigin origin)) held reply after → preparing after :=
    fun held reply after => course.prepares _ held reply after rfl
  unfold Save.resume
  dsimp only
  split
  · exact .done start
  cases status : claim.status with
  | committed =>
    -- The claim is committed, so that a row of the fingerprint is the end.
    refine .attempt (course.findStored context course.looks (sees status))
      (fun _ after shown => course.lets after shown.1) fun found after shown => ?_
    cases found with
    | none => exact .done (course.lets after shown.1)
    | some row =>
      obtain ⟨before, holds, moved⟩ := shown.2 row rfl
      dsimp only
      split
      · exact .done (course.lets after shown.1)
      · rename_i same
        exact .done (course.replays row before after holds moved (by simpa using same))
  | pending =>
    -- A row that was stored under a pending claim is promoted first.
    refine .attempt (course.findStored context looks start) (fun _ _ shown => shown.1)
      fun found after shown => ?_
    cases found with
    | none => exact .done shown.1
    | some row =>
      obtain ⟨before, holds, moved⟩ := shown.2 row rfl
      dsimp only
      split
      · exact .done shown.1
      · rename_i same
        refine .lift ((course.found row before after holds moved (by simpa using same)).mono ?_)
        exact fun _ _ comes => .done comes

/-- Claiming the key. -/
theorem claim (course : Course cuts moves config origin fingerprint preparing committed ended)
    (context : SaveContext) (start : preparing held) :
    (Save.claim config context (.ofOrigin origin) fingerprint).run.Ensures cuts moves
      (ClaimComes preparing ended) held := by
  -- A claim that was there and is committed was found to be so by the last attempt.
  have claims : ∀ proposed held, preparing held →
      (Plan.retryTransient config.retry config.callTimeout "ensure_pending"
        (Procedure.claim (.ofOrigin origin) fingerprint proposed)).Ensures cuts moves
        (fun outcome after => preparing after ∧ ∀ claim, outcome = .ok (.existing claim) →
          claim.status = .committed → committed after) held := by
    intro proposed held holds
    refine .retryTransient preparing (fun held holds => ?_) holds
    refine .withDeadline_call rfl course.uncut (fun reply after moved => ?_) fun _ => ?_
    · have holds' := course.prepares (.claim _ fingerprint proposed) held reply after rfl holds moved
      refine ⟨⟨holds', fun claim same status => ?_⟩, fun _ _ => holds'⟩
      subst same
      exact course.sees claim proposed held after holds moved status
    · exact ⟨⟨holds, fun _ same => by cases same⟩, fun _ _ => holds⟩
  unfold Save.claim
  refine .lift (.call fun proposed after moved => ?_)
  have holds := course.prepares .freshServerId held proposed after trivial start moved
  have renamed : (ExceptT.adapt (fun source => SaveError.writeFailed context (.claims source))
      (ExceptT.mk (Plan.retryTransient config.retry config.callTimeout "ensure_pending"
        (Procedure.claim (.ofOrigin origin) fingerprint proposed)))).run.Ensures cuts moves
      (fun outcome after => preparing after ∧ ∀ claim, outcome = .ok (.existing claim) →
        claim.status = .committed → committed after) after :=
    .adapt ((claims proposed after holds).mono fun outcome after shown =>
      ⟨shown.1, fun claim same => shown.2 claim (Plan.ok_of_renamed same)⟩)
  refine renamed.attempt (fun _ _ shown => shown.1) fun outcome after shown => ?_
  cases outcome with
  | created serverId => exact .done shown.1
  | existing claim => exact course.resume context claim shown.1 (shown.2 claim rfl)

/-- Adopting the row that the last look-up has found. -/
theorem adoptFound (course : Course cuts moves config origin fingerprint preparing committed ended)
    {draft : Draft} (sameOrigin : draft.origin = origin) (sameFingerprint : draft.fingerprint = fingerprint)
    {row : Message} {before : H} (holds : preparing before) (kept : preparing held)
    (moved : moves (.findByKey (.ofOrigin origin)) before (.ok (some row)) held) :
    (adopt config draft row).run.Ensures cuts moves (Comes preparing ended) held := by
  -- With another fingerprint it is a conflict, before anything is written.
  unfold adopt
  dsimp only
  subst sameOrigin sameFingerprint
  split
  · exact .done kept
  · rename_i same
    refine .lift ((course.found row before held holds moved (by simpa using same)).mono ?_)
    exact fun _ _ comes => .done comes

/-- Adopting whatever is stored under the key. -/
theorem adoptWinner (course : Course cuts moves config origin fingerprint preparing committed ended)
    {draft : Draft} (sameOrigin : draft.origin = origin) (sameFingerprint : draft.fingerprint = fingerprint)
    (start : preparing held) :
    (Save.adoptWinner config draft).run.Ensures cuts moves (Comes preparing ended) held := by
  -- Looking for the winner may repeat the call, and each repetition keeps what is prepared.
  have looks : ∀ held reply after, preparing held →
      moves (.findByKey (.ofOrigin origin)) held reply after → preparing after :=
    fun held reply after => course.prepares _ held reply after rfl
  unfold Save.adoptWinner
  have finds := course.findStored draft.context looks start
  rw [← sameOrigin] at finds
  refine Plan.Ensures.attempt finds (fun _ _ shown => shown.1) fun found after shown => ?_
  cases found with
  | none => exact .done shown.1
  | some row =>
    obtain ⟨before, holds, moved⟩ := shown.2 row rfl
    rw [sameOrigin] at moved
    exact course.adoptFound sameOrigin sameFingerprint holds shown.1 moved

/-- Giving a draft another identifier. -/
theorem rename (course : Course cuts moves config origin fingerprint preparing committed ended)
    {draft : Draft} (sameOrigin : draft.origin = origin) (sameFingerprint : draft.fingerprint = fingerprint)
    (start : preparing held) :
    (Save.rename config draft).run.Ensures cuts moves (RenameComes preparing ended draft) held := by
  subst sameOrigin
  have looks : ∀ held reply after, preparing held →
      moves (.findByKey (.ofOrigin draft.origin)) held reply after → preparing after :=
    fun held reply after => course.prepares _ held reply after rfl
  have swaps : ∀ candidate,
      (ExceptT.adapt (fun source => SaveError.writeFailed draft.context (.claims source))
        (ExceptT.mk (Plan.retryTransient config.retry config.callTimeout
          "update_server_id_if_pending"
          (Procedure.renameClaim draft.key draft.fingerprint candidate)))).run.Asks
        (Service.Prepares draft.origin) :=
    fun _ => .adapt (.retryTransient (.call rfl))
  unfold Save.rename
  refine .lift (.call fun candidate after moved => ?_)
  have holds := course.prepares .freshServerId held candidate after trivial start moved
  refine (course.asks (swaps candidate) holds).attempt (fun _ _ kept => kept) ?_
  intro swapped after holds
  split
  · exact .done ⟨holds, rfl, rfl⟩
  -- The claim has moved on, so that a row may be stored by now.
  refine Plan.Ensures.attempt (course.findStored draft.context looks holds)
    (fun _ _ shown => shown.1) fun found after shown => ?_
  cases found with
  | none => exact .done shown.1
  | some row =>
    obtain ⟨before, holds, moved⟩ := shown.2 row rfl
    refine (course.adoptFound rfl sameFingerprint holds shown.1 moved).attempt
      (fun _ _ kept => kept) fun receipt after comes => ?_
    exact .done comes

/-- Inserting a draft, in as many rounds as it takes. -/
theorem insertIn (course : Course cuts moves config origin fingerprint preparing committed ended)
    (allocator : Allocator) (rounds : Nat) :
    ∀ (setbacks : Setbacks) (draft : Draft) (sequence : SequenceNumber) (held : H),
      draft.origin = origin → draft.fingerprint = fingerprint → preparing held →
      (Save.insertIn config allocator rounds setbacks draft sequence).run.Ensures cuts moves
        (Comes preparing ended) held := by
  -- The induction is on the rounds that are left, in each of which the save prepares until its message
  -- is stored or found to be.
  induction rounds with
  | zero => exact fun _ _ _ _ _ _ start => .done start
  | succ rounds ih =>
    intro setbacks draft sequence held sameOrigin sameFingerprint start
    subst sameOrigin
    unfold Save.insertIn
    refine .lift (.call fun now before moved => ?_)
    have holds := course.prepares .now held now before trivial start moved
    have inserts : (Plan.withDeadline "insert" config.callTimeout
        (Procedure.insert (draft.message sequence now))).Ensures cuts moves
        (fun inserted after => (inserted = .ok () →
          (finish config (draft.message sequence now)).Ensures cuts moves ended after) ∧
          (inserted ≠ .ok () → preparing after)) before := by
      refine .withDeadline_call rfl course.uncut (fun reply after moved => ?_) fun _ => ?_
      · rcases reply with failure | done
        · exact ⟨fun stored => (by cases stored),
            fun _ => course.refused _ before failure after rfl holds moved⟩
        · exact ⟨fun _ => course.inserted _ before after rfl sameFingerprint holds moved,
            fun failed => absurd rfl failed⟩
      · exact ⟨fun stored => (by cases stored), fun _ => holds⟩
    refine .lift (inserts.mono fun inserted after shown => ?_)
    -- One case for each outcome: stored, or the key, the identifier or the place was taken, or failed.
    split
    · exact .liftLast (shown.1 rfl)
    · exact course.adoptWinner rfl sameFingerprint (shown.2 nofun)
    · have holds := shown.2 nofun
      dsimp only
      split
      · exact .done holds
      refine (course.rename rfl sameFingerprint holds).attempt (fun _ _ kept => kept) ?_
      intro renamed later comes
      cases renamed with
      | stored receipt => exact .done comes
      | draft renamed =>
        obtain ⟨holds, sameOrigin, same⟩ := comes
        exact ih _ renamed sequence later sameOrigin (same.trans sameFingerprint) holds
    · have holds := shown.2 nofun
      dsimp only
      split
      · exact .done holds
      refine (course.asks (renumber_prepares allocator draft _) holds).attempt
        (fun _ _ kept => kept) ?_
      exact fun next later holds => ih _ draft next later rfl sameFingerprint holds
    · have holds := shown.2 nofun
      split
      · dsimp only
        split
        · exact .done holds
        · exact .lift (.sleep (.done (ih _ draft sequence after rfl sameFingerprint holds)))
      · exact .done holds

/-- A save ends with a receipt that it may end with, or it fails while it prepares. -/
theorem save {submission : Submission}
    (course : Course cuts moves config submission.origin submission.fingerprint preparing committed
      ended) (allocator : Allocator) (start : preparing held) :
    (Intake.save config allocator submission).Ensures cuts moves (Comes preparing ended) held := by
  -- Claiming may end the save with a replay. Otherwise the message is committed, or its claim rolled back.
  unfold Intake.save
  dsimp only
  refine .bind ((course.claim _ start).mono fun outcome after comes => ?_)
  split
  · exact .done comes
  · exact .done comes
  · rename_i serverId
    let draft : Draft :=
      ⟨submission.origin, submission.payload, submission.fingerprint, serverId⟩
    have commits : (Save.commit config allocator draft).run.Ensures cuts moves
        (Comes preparing ended) after := by
      refine (course.asks (allocate_prepares allocator draft) comes).attempt
        (fun _ _ kept => kept) ?_
      exact fun sequence later holds => course.insertIn allocator _ _ draft sequence later rfl rfl holds
    refine .bind (commits.mono fun outcome later comes => ?_)
    split
    · exact .done comes
    · exact .bind ((course.asks rollBack_prepares comes).mono fun _ _ holds => .done holds)

end Course

end Save

end Intake
