import Intake.Proofs.Save.Agreement

/-! Saves fail for good only for a real cause: a conflict needs another submission of the key, with
another fingerprint, and nothing is ever found to be inconsistent. -/

namespace Intake

variable {submitted : ClaimKey → Fingerprint → Prop} {seen : List (ClaimKey × Message)}

/-- Saves over the services in memory, where any call may fail in any way but one: no service finds what
is not so. -/
def savingDisturbed : Setting services World fun _ : SaveJob => Except SaveError Receipt where
  reacts := World.Reacts Service.Disturbed
  drifts := World.Drifts
  begins job := save job.config job.allocator job.submission

/-- Whatever rows were seen, a step of an allocation does not fail for watermarks that cannot be
trusted. -/
def Trusts (submitted : ClaimKey → Fingerprint → Prop) {α : Type}
    (step : Attempt AllocationError α) : Prop :=
  ∀ seen, step.run.Keeps (vouching submitted) (fun _ => True)
    (fun outcome _ => ∀ failure, outcome = .error failure → failure.isInconsistency = false) seen

namespace Trusts

variable {α β : Type}

/-- A value is no failure. -/
theorem value (value : α) : Trusts submitted (pure value) :=
  fun _ => ⟨trivial, fun _ failed => by cases failed⟩

/-- A failure that is not of the watermarks is to be trusted. -/
theorem failure {failure : AllocationError} (trusted : failure.isInconsistency = false) :
    Trusts submitted (throw failure : Attempt AllocationError α) :=
  fun _ => ⟨trivial, fun _ failed => by cases failed; exact trusted⟩

/-- Two steps in a row are to be trusted when each of them is. -/
theorem bind {first : Attempt AllocationError α} {second : α → Attempt AllocationError β}
    (trusts : Trusts submitted first) (goesOn : ∀ value, Trusts submitted (second value)) :
    Trusts submitted (first >>= second) := fun seen =>
  (trusts seen).attempt (fun _ _ trusted _ failed => by cases failed; exact trusted _ rfl)
    fun value after _ => goesOn value after

/-- A plan that cannot fail is followed by a step that is to be trusted. -/
theorem lift {plan : Procedure α} {second : α → Attempt AllocationError β}
    (keeps : ∀ seen, plan.Keeps (vouching submitted) (fun _ => True) (fun _ _ => True) seen)
    (goesOn : ∀ value, Trusts submitted (second value)) :
    Trusts submitted (ExceptT.lift plan >>= second) := fun seen =>
  .lift ((keeps seen).weaken fun value after _ _ => goesOn value after)

/-- A call on a cache says nothing of the watermarks. -/
theorem onCache {call : Procedure (Except CacheError α)}
    (keeps : ∀ seen, call.Keeps (vouching submitted) (fun _ => True) (fun _ _ => True) seen) :
    Trusts submitted (Attempt.onCache call) := by
  -- Whatever the call failed with is renamed to a failure of the cache.
  refine fun seen => .adapt ((keeps seen).weaken fun outcome _ _ _ => ?_)
  cases outcome with
  | ok value => exact fun _ failed => by cases failed
  | error source => exact fun _ failed => by cases failed; rfl

/-- A call on the ledger is to be trusted when it does not find the watermarks inconsistent. -/
theorem onLedger {call : Procedure (Except LedgerError α)}
    (keeps : ∀ seen, call.Keeps (vouching submitted) (fun _ => True)
      (fun outcome _ => ∀ conversation violation,
        outcome ≠ .error (.inconsistent conversation violation)) seen) :
    Trusts submitted (Attempt.onLedger call) := by
  -- Of all failures of the ledger only one is an inconsistency.
  refine fun seen => .adapt ((keeps seen).weaken fun outcome _ _ consistent => ?_)
  cases outcome with
  | ok value => exact fun _ failed => by cases failed
  | error source =>
    intro _ failed
    cases failed
    cases source with
    | inconsistent conversation violation => exact absurd rfl (consistent conversation violation)
    | unavailable | timedOut | overflow | database => rfl

end Trusts

/-- A call that any saver may make, whatever is answered. -/
theorem vouching_call {request : Service.Request}
    (permitted : (vouching submitted).permits request seen) :
    (Plan.ask request .done : Procedure (Service.Reply request)).Keeps (vouching submitted)
      (fun _ => True) (fun _ _ => True) seen := by
  -- Nothing is asked of the reply, so that being permitted is enough.
  refine .call trivial permitted fun _ _ _ => ?_
  exact ⟨trivial, trivial⟩

/-- Allocation from cached blocks does not fail for inconsistent watermarks. -/
theorem Segmented.allocate_trusts (config : SegmentConfig) (conversation : Conversation)
    (need : UInt64) : Trusts submitted (allocate config conversation need) := by
  -- The induction is on the rounds that are left. Only a reservation asks anything of the ledger.
  have takes : Trusts submitted (Attempt.onCache (Procedure.take conversation need)) :=
    .onCache (fun _ => vouching_call trivial)
  have grants : ∀ range : NumberRange, Trusts submitted
      (do return ⟨range, ← ExceptT.lift Procedure.now⟩ : Attempt AllocationError Grant) :=
    fun range => .lift (fun _ => vouching_call trivial) fun now => .value (Grant.mk range now)
  have rounds : ∀ rounds, Trusts submitted (allocateIn config conversation need rounds) := by
    intro rounds
    induction rounds with
    | zero => exact .failure rfl
    | succ rounds ih =>
      refine takes.bind fun outcome => ?_
      split
      · exact grants _
      refine .bind (.onLedger fun seen => .call trivial trivial fun reply after moved =>
        ⟨trivial, fun _ _ failed => ?_⟩) fun segment => ?_
      · subst failed
        exact moved.2
      refine .bind (.onCache (fun _ => vouching_call trivial)) fun _ => ?_
      refine takes.bind fun outcome => ?_
      split
      · exact grants _
      · exact ih
  unfold allocate
  split
  · exact .failure rfl
  · exact rounds _

/-- Allocation from a counter does not fail for inconsistent watermarks. -/
theorem SingleCounter.allocate_trusts (config : CounterConfig) (conversation : Conversation)
    (need : UInt64) : Trusts submitted (allocate config conversation need) := by
  -- Only seeding the counter asks anything of the ledger.
  have increments : Trusts submitted (tryIncrement config conversation need) := by
    refine .bind (.onCache (fun _ => vouching_call trivial)) fun counted => ?_
    cases counted with
    | none => exact .value none
    | some last => exact .lift (fun _ => vouching_call trivial) fun now => .value _
  have seeds : Trusts submitted (seed config conversation) := by
    refine .bind (.onLedger fun seen => .call trivial trivial fun reply after moved =>
      ⟨trivial, fun _ _ failed => ?_⟩) fun watermarks => ?_
    · subst failed
      exact moved.2
    · exact .bind (.onCache (fun _ => vouching_call trivial)) fun _ => .value ()
  have starts : Trusts submitted (coldStart config conversation) := by
    refine .lift (fun _ => vouching_call trivial) fun token => ?_
    refine .bind (.onCache (fun _ => vouching_call trivial)) fun locked => ?_
    split
    -- What came of the seeding is answered when the lock has been released.
    · refine fun seen => .lift ((seeds seen).weaken fun seeded after _ trusted => ?_)
      refine .lift (.call trivial trivial fun _ _ _ => ⟨trivial, trivial, trusted⟩)
    · exact fun seen => .liftLast ⟨trivial, fun _ failed => by cases failed⟩
  have rounds : ∀ rounds, Trusts submitted (allocateIn config conversation need rounds) := by
    intro rounds
    induction rounds with
    | zero =>
      refine increments.bind fun counted => ?_
      cases counted with
      | some grant => exact .value grant
      | none => exact .failure rfl
    | succ rounds ih =>
      refine increments.bind fun counted => ?_
      cases counted with
      | some grant => exact .value grant
      | none => exact starts.bind fun _ => ih
  unfold allocate
  split
  · exact .failure rfl
  · exact rounds _

/-- No allocation fails for inconsistent watermarks. -/
theorem Allocator.allocate_trusts (allocator : Allocator) (conversation : Conversation)
    (need : UInt64) : Trusts submitted (allocator.allocate conversation need) := by
  -- No watermarks are shown to be inconsistent, whichever allocator asks for them.
  cases allocator with
  | segmented config => exact Segmented.allocate_trusts config conversation need
  | singleCounter config => exact SingleCounter.allocate_trusts config conversation need

/-- Moving an allocator past a number does not fail for inconsistent watermarks. -/
theorem Allocator.reconcile_trusts (allocator : Allocator) (conversation : Conversation)
    (floor : SequenceNumber) : Trusts submitted (allocator.reconcile conversation floor) := by
  -- The mark is raised in the ledger, and then what is cached is dropped.
  refine .bind (.onLedger fun seen => .call trivial trivial fun reply after moved =>
    ⟨trivial, fun _ _ failed => ?_⟩) fun _ => ?_
  · subst failed
    exact moved.2
  · cases allocator with
    | segmented _ => exact .onCache (fun _ => vouching_call trivial)
    | singleCounter _ => exact .onCache (fun _ => vouching_call trivial)

namespace Save

variable {config : SaveConfig}

/-- A failure has a real cause: a conflict is with another fingerprint that was submitted under the key,
and nothing is inconsistent. -/
def Caused (submitted : ClaimKey → Fingerprint → Prop) (key : ClaimKey) (fingerprint : Fingerprint) :
    SaveError → Prop
  | .conflict _ => ∃ other, submitted key other ∧ other ≠ fingerprint
  | .inconsistency _ _ => False
  | _ => True

/-- A step of a save fails for a real cause only. -/
def FailsForCause (submitted : ClaimKey → Fingerprint → Prop) (key : ClaimKey)
    (fingerprint : Fingerprint) {α : Type} (outcome : Except SaveError α)
    (_ : List (ClaimKey × Message)) : Prop :=
  ∀ failure, outcome = .error failure → Caused submitted key fingerprint failure

/-- A success does not fail. -/
theorem failsForCause_ok {key : ClaimKey} {fingerprint : Fingerprint} {α : Type} {value : α} :
    FailsForCause submitted key fingerprint (.ok value) seen :=
  fun _ failed => by cases failed

/-- A failure with a real cause has one, whatever it ends. -/
theorem failsForCause_error {key : ClaimKey} {fingerprint : Fingerprint} {α : Type}
    {failure : SaveError} (caused : Caused submitted key fingerprint failure) :
    FailsForCause submitted key fingerprint (.error failure : Except SaveError α) seen :=
  fun _ failed => by cases failed; exact caused

/-- A step that fails when its first part does fails for a real cause when both parts do. -/
theorem failsForCause_attempt {key : ClaimKey} {fingerprint : Fingerprint} {α β : Type}
    {first : Attempt SaveError α} {second : α → Attempt SaveError β}
    (keeps : first.run.Keeps (vouching submitted) (fun _ => True)
      (FailsForCause submitted key fingerprint) seen)
    (goesOn : ∀ value after, (second value).run.Keeps (vouching submitted) (fun _ => True)
      (FailsForCause submitted key fingerprint) after) :
    (first >>= second).run.Keeps (vouching submitted) (fun _ => True)
      (FailsForCause submitted key fingerprint) seen :=
  -- A failure of the first part ends the whole with the same cause.
  keeps.attempt (fun _ _ caused => failsForCause_error (caused _ rfl))
    fun value after _ => goesOn value after

/-- A call whose failure is one to write fails for a real cause. -/
theorem write_caused {key : ClaimKey} {fingerprint : Fingerprint} {α ε : Type}
    {context : SaveContext} {reason : ε → WriteFailure} {plan : Procedure (Except ε α)}
    (keeps : plan.Keeps (vouching submitted) (fun _ => True) (fun _ _ => True) seen) :
    (ExceptT.adapt (fun source => SaveError.writeFailed context (reason source))
      (ExceptT.mk plan)).run.Keeps (vouching submitted) (fun _ => True)
      (FailsForCause submitted key fingerprint) seen := by
  -- A write that was given up is a cause by itself, whatever its reason was.
  refine .adapt (keeps.weaken fun outcome _ _ _ => ?_)
  cases outcome with
  | ok value => exact failsForCause_ok
  | error source => exact failsForCause_error trivial

/-- A step of an allocation that is to be trusted fails its save for a real cause. -/
theorem trusted_caused {key : ClaimKey} {fingerprint : Fingerprint} {α : Type}
    {context : SaveContext} {operation : String} {limit : Duration}
    {step : Attempt AllocationError α} (trusts : Trusts submitted step) :
    (ExceptT.adapt (SaveError.ofAllocation context) (ExceptT.mk
      (Plan.withDeadline operation limit step.run))).run.Keeps (vouching submitted) (fun _ => True)
      (FailsForCause submitted key fingerprint) seen := by
  -- Only inconsistent watermarks would be passed on as an inconsistency.
  have passedOn : ∀ failure : AllocationError, failure.isInconsistency = false →
      Caused submitted key fingerprint (SaveError.ofAllocation context failure) := by
    intro failure trusted
    unfold SaveError.ofAllocation
    rw [if_neg (by simp [trusted])]
    trivial
  refine .adapt (.withDeadline ((trusts seen).mono (fun _ _ => ⟨trivial, ?_⟩)
    fun outcome _ trusted => ⟨trivial, ?_⟩))
  · exact failsForCause_error (passedOn _ rfl)
  · cases outcome with
    | ok value => exact failsForCause_ok
    | error failure => exact failsForCause_error (passedOn failure (trusted failure rfl))

/-- A row that is found was seen, and under a key without a row none was. No row is forgotten. -/
theorem findStored_shows (context : SaveContext) (key : ClaimKey) :
    (findStored config context key).run.Keeps (vouching submitted) (fun _ => True)
      (fun outcome after => seen ⊆ after ∧
        (∀ row, outcome = .ok (some row) → (key, row) ∈ after ∧ submitted key row.fingerprint) ∧
        (outcome = .ok none → ∀ row, (key, row) ∉ after) ∧
        ∀ fingerprint, FailsForCause submitted key fingerprint outcome after) seen := by
  -- The look-ups go on until one of them answers, and its failure is that of a write.
  have looked : (Plan.retryTransient config.retry config.callTimeout "find_by_client_message"
      (Procedure.findByKey key)).Keeps (vouching submitted) (fun _ => True)
      (fun outcome after => seen ⊆ after ∧ Shows submitted (.findByKey key) outcome after) seen := by
    refine .retryTransient (fun after => seen ⊆ after) (fun before kept => ?_) (List.Subset.refl seen)
    refine .withDeadline (.call ⟨trivial, ⟨kept, trivial⟩, fun _ _ => kept⟩ trivial ?_)
    intro reply after moved
    have kept' := List.Subset.trans kept moved.1
    exact ⟨⟨trivial, ⟨kept', trivial⟩, fun _ _ => kept'⟩, trivial, ⟨kept', moved.2⟩, fun _ _ => kept'⟩
  refine .adapt (looked.weaken fun outcome after _ ended => ?_)
  obtain ⟨kept, shows⟩ := ended
  rcases outcome with failure | found
  · exact ⟨kept, fun _ same => (by cases same), fun same => (by cases same),
      fun _ => failsForCause_error trivial⟩
  · cases found with
    | none => exact ⟨kept, fun _ same => (by cases same), fun _ => shows, fun _ => failsForCause_ok⟩
    | some row =>
      exact ⟨kept, fun _ same => by cases same; exact shows, fun same => (by cases same),
        fun _ => failsForCause_ok⟩

/-- A claim may be committed to a row that was seen. -/
theorem promote_vouched {key : ClaimKey} {row : Message} (known : (key, row) ∈ seen) :
    (promote config key row).Keeps (vouching submitted) (fun _ => True) (fun _ _ => True) seen := by
  -- The row committed for was shown under its key, and a cut at the deadline is no failure of the save.
  have commits : (Plan.withDeadline "mark_committed" config.callTimeout
      (Procedure.commitClaim key row.serverId row.fingerprint)).Keeps (vouching submitted)
      (fun _ => True) (fun _ _ => True) seen :=
    .withDeadline (.call ⟨trivial, trivial⟩ ⟨row, known, rfl, rfl⟩
      fun _ _ _ => ⟨⟨trivial, trivial⟩, trivial, trivial⟩)
  exact .bind (commits.weaken fun _ _ _ _ => ⟨trivial, trivial⟩)

/-- Going on from an earlier claim fails for a real cause only. -/
theorem resume_caused (context : SaveContext) {key : ClaimKey} (fingerprint : Fingerprint)
    {claim : Claim} (claimed : submitted key claim.fingerprint)
    (committed : claim.status = .committed → ∃ row, (key, row) ∈ seen) :
    (resume config context key fingerprint claim).run.Keeps (vouching submitted) (fun _ => True)
      (FailsForCause submitted key fingerprint) seen := by
  -- A conflict is with the fingerprint of the claim, or of the row.
  unfold resume
  dsimp only
  split
  · rename_i differ
    exact ⟨trivial, failsForCause_error ⟨_, claimed, differ⟩⟩
  refine (findStored_shows context key).attempt
    (fun failure _ ended => failsForCause_error (ended.2.2.2 fingerprint failure rfl))
    fun found after ended => ?_
  obtain ⟨kept, shown, missing, _⟩ := ended
  split
  · obtain ⟨known, given⟩ := shown _ rfl
    split
    · rename_i differ
      exact ⟨trivial, failsForCause_error ⟨_, given, differ⟩⟩
    split
    · exact .lift ((promote_vouched known).weaken fun _ _ _ _ => ⟨trivial, failsForCause_ok⟩)
    · exact ⟨trivial, failsForCause_ok⟩
  -- The row of a committed claim was seen, so it cannot be missing.
  · rename_i status _
    obtain ⟨row, known⟩ := committed status
    exact absurd (kept known) (missing rfl row)
  · exact ⟨trivial, failsForCause_ok⟩

/-- Claiming a key for what was submitted under it fails for a real cause only. -/
theorem claim_caused (context : SaveContext) {key : ClaimKey} {fingerprint : Fingerprint}
    (given : submitted key fingerprint) :
    (claim config context key fingerprint).run.Keeps (vouching submitted) (fun _ => True)
      (FailsForCause submitted key fingerprint) seen := by
  -- An existing claim is for what was submitted, and if it is committed its row was seen.
  unfold claim
  refine .lift (.call trivial trivial fun proposed before _ => ⟨trivial, ?_⟩)
  have claimed : (Plan.retryTransient config.retry config.callTimeout "ensure_pending"
      (Procedure.claim key fingerprint proposed)).Keeps (vouching submitted) (fun _ => True)
      (fun outcome after => Shows submitted (.claim key fingerprint proposed) outcome after)
      before := by
    refine .retryTransient (fun _ => True) (fun _ _ => ?_) trivial
    refine .withDeadline (.call ⟨trivial, trivial, fun _ _ => trivial⟩ given ?_)
    exact fun _ _ moved => ⟨⟨trivial, trivial, fun _ _ => trivial⟩, trivial, moved.2,
      fun _ _ => trivial⟩
  have renamed : (ExceptT.adapt (fun source => SaveError.writeFailed context (.claims source))
      (ExceptT.mk (Plan.retryTransient config.retry config.callTimeout "ensure_pending"
        (Procedure.claim key fingerprint proposed)))).run.Keeps (vouching submitted) (fun _ => True)
      (fun outcome after => FailsForCause submitted key fingerprint outcome after ∧
        ∀ claim, outcome = .ok (.existing claim) → submitted key claim.fingerprint ∧
          (claim.status = .committed → ∃ row, (key, row) ∈ after)) before := by
    refine .adapt (claimed.weaken fun outcome after _ shows => ?_)
    rcases outcome with failure | outcome
    · exact ⟨failsForCause_error trivial, fun _ same => by cases same⟩
    · exact ⟨failsForCause_ok, fun claim same => by cases same; exact shows⟩
  refine renamed.attempt (fun failure _ ended => failsForCause_error (ended.1 failure rfl))
    fun outcome after ended => ?_
  cases outcome with
  | created serverId => exact ⟨trivial, failsForCause_ok⟩
  | existing claim =>
    obtain ⟨claimed, committed⟩ := ended.2 claim rfl
    exact resume_caused context fingerprint claimed committed

/-- Adopting a row that was seen fails for a real cause only. -/
theorem adopt_caused (draft : Draft) {winner : Message} (known : (draft.key, winner) ∈ seen)
    (given : submitted draft.key winner.fingerprint) :
    (adopt config draft winner).run.Keeps (vouching submitted) (fun _ => True)
      (FailsForCause submitted draft.key draft.fingerprint) seen := by
  -- The winner differs, which is the conflict, or its claim is promoted, which cannot fail.
  unfold adopt
  dsimp only
  split
  · rename_i differ
    exact ⟨trivial, failsForCause_error ⟨_, given, differ⟩⟩
  · exact .lift ((promote_vouched known).weaken fun _ _ _ _ => ⟨trivial, failsForCause_ok⟩)

/-- A save that finds its key taken finds what is stored under it. -/
theorem adoptWinner_caused (draft : Draft) (taken : ∃ row, (draft.key, row) ∈ seen) :
    (adoptWinner config draft).run.Keeps (vouching submitted) (fun _ => True)
      (FailsForCause submitted draft.key draft.fingerprint) seen := by
  -- The row that was in the way is still seen, so the look-up does not come back without one.
  obtain ⟨row, known⟩ := taken
  unfold adoptWinner
  refine (findStored_shows draft.context draft.key).attempt
    (fun failure _ ended => failsForCause_error (ended.2.2.2 _ failure rfl))
    fun found after ended => ?_
  obtain ⟨kept, shown, missing, _⟩ := ended
  cases found with
  | none => exact absurd (kept known) (missing rfl row)
  | some winner => exact adopt_caused draft (shown winner rfl).1 (shown winner rfl).2

/-- A change of identifier fails for a real cause only, and leaves all of the draft but the identifier. -/
theorem rename_caused (draft : Draft) :
    (rename config draft).run.Keeps (vouching submitted) (fun _ => True)
      (fun outcome after => FailsForCause submitted draft.key draft.fingerprint outcome after ∧
        ∀ renamed, outcome = .ok (.draft renamed) →
          renamed.origin = draft.origin ∧ renamed.fingerprint = draft.fingerprint) seen := by
  unfold rename
  -- The draft is renamed under its own key with its own fingerprint, and only if the claim was swapped.
  refine .lift (.call trivial trivial fun candidate before _ => ⟨trivial, ?_⟩)
  refine .attempt (write_caused (.retryTransient_steady (fun _ _ => vouching_call trivial) trivial))
    (fun _ _ caused => ⟨failsForCause_error (caused _ rfl), fun _ same => by cases same⟩)
    fun swapped after _ => ?_
  split
  · exact ⟨trivial, failsForCause_ok, fun _ same => by cases same; exact ⟨rfl, rfl⟩⟩
  -- Otherwise another save has won, and its row, if there is one, is adopted.
  refine (findStored_shows draft.context draft.key).attempt (fun failure _ ended =>
    ⟨failsForCause_error (ended.2.2.2 _ failure rfl), fun _ same => by cases same⟩)
    fun found later ended => ?_
  cases found with
  | none => exact ⟨trivial, failsForCause_error trivial, fun _ same => by cases same⟩
  | some winner =>
    obtain ⟨known, given⟩ := ended.2.1 winner rfl
    refine (adopt_caused draft known given).attempt (fun _ _ caused =>
      ⟨failsForCause_error (caused _ rfl), fun _ same => by cases same⟩) fun receipt last _ => ?_
    exact ⟨trivial, failsForCause_ok, fun _ same => by cases same⟩

/-- An allocation for a draft fails for a real cause only. -/
theorem allocate_caused (allocator : Allocator) (draft : Draft) :
    (allocate config allocator draft).run.Keeps (vouching submitted) (fun _ => True)
      (FailsForCause submitted draft.key draft.fingerprint) seen := by
  -- A failed allocation is a cause, and with a number there is nothing to explain.
  refine failsForCause_attempt (trusted_caused (allocator.allocate_trusts _ _)) fun grant after => ?_
  exact ⟨trivial, failsForCause_ok⟩

/-- Moving the allocator past what is stored, and allocating again, fails for a real cause only. -/
theorem renumber_caused (allocator : Allocator) (draft : Draft) (occupied : SequenceNumber) :
    (renumber config allocator draft occupied).run.Keeps (vouching submitted) (fun _ => True)
      (FailsForCause submitted draft.key draft.fingerprint) seen := by
  -- The three parts fail for causes of their own, each with the key and the fingerprint of the draft.
  unfold renumber
  refine failsForCause_attempt (write_caused (.retryTransient_steady
    (fun _ _ => vouching_call trivial) trivial)) fun greatest after => ?_
  refine failsForCause_attempt (trusted_caused (allocator.reconcile_trusts _ _)) fun _ later => ?_
  exact allocate_caused allocator draft

/-- A save whose message is stored ends without a failure. -/
theorem finish_vouched {message : Message} (known : (message.key, message) ∈ seen) :
    (finish config message).Keeps (vouching submitted) (fun _ => True) (fun _ _ => True) seen := by
  -- The claim is committed to the message, and what the watermark is raised to matters to nobody.
  refine .bind ((promote_vouched known).weaken fun _ after _ _ => ?_)
  have records : (Allocator.recordCommitted message.conversation message.sequence).run.Keeps
      (vouching submitted) (fun _ => True) (fun _ _ => True) after :=
    .adapt (vouching_call trivial)
  have bounded : (Plan.withDeadline "record_committed" config.callTimeout
      (Allocator.recordCommitted message.conversation message.sequence).run).Keeps
      (vouching submitted) (fun _ => True) (fun _ _ => True) after :=
    .withDeadline (records.mono (fun _ _ => ⟨trivial, trivial⟩) fun _ _ _ => ⟨trivial, trivial⟩)
  exact .bind (bounded.weaken fun _ _ _ _ => ⟨trivial, trivial⟩)

/-- A message of what was submitted that is inserted was seen to be stored, and if its key is taken the
row that is in the way was seen. -/
theorem insert_shows {message : Message} (given : submitted message.key message.fingerprint) :
    (Plan.withDeadline "insert" config.callTimeout (Procedure.insert message)).Keeps
      (vouching submitted) (fun _ => True)
      (fun outcome after => Shows submitted (.insert message) outcome after) seen :=
  -- A cut at the deadline shows nothing of the store.
  .withDeadline (.call ⟨trivial, trivial⟩ given fun _ _ moved => ⟨⟨trivial, trivial⟩, trivial, moved.2⟩)

/-- Every way out of the rounds of inserting is a success or has a real cause. -/
theorem insertIn_caused (allocator : Allocator) (rounds : Nat) :
    ∀ (setbacks : Setbacks) (draft : Draft) (sequence : SequenceNumber)
      (seen : List (ClaimKey × Message)), submitted draft.key draft.fingerprint →
      (insertIn config allocator rounds setbacks draft sequence).run.Keeps (vouching submitted)
        (fun _ => True) (FailsForCause submitted draft.key draft.fingerprint) seen := by
  -- The induction is on the rounds that are left. Every round keeps the draft's key and fingerprint.
  induction rounds with
  | zero => exact fun _ _ _ _ _ => ⟨trivial, failsForCause_error trivial⟩
  | succ rounds ih =>
    intro setbacks draft sequence seen given
    unfold insertIn
    refine .lift (.call trivial trivial fun now before _ => ⟨trivial, ?_⟩)
    refine .lift ((insert_shows given).weaken fun inserted after _ shows => ?_)
    split
    · exact .liftLast ((finish_vouched shows).weaken fun _ _ _ _ => failsForCause_ok)
    -- The key is taken by a row that was seen.
    · exact adoptWinner_caused draft shows
    · dsimp only
      split
      · exact ⟨trivial, failsForCause_error trivial⟩
      refine (rename_caused draft).attempt
        (fun failure _ ended => failsForCause_error (ended.1 failure rfl)) fun renamed later ended => ?_
      cases renamed with
      | stored receipt => exact ⟨trivial, failsForCause_ok⟩
      | draft renamed =>
        obtain ⟨sameOrigin, sameFingerprint⟩ := ended.2 renamed rfl
        have sameKey : renamed.key = draft.key := by unfold Draft.key; rw [sameOrigin]
        rw [← sameKey, ← sameFingerprint] at given ⊢
        exact ih _ _ _ _ given
    · dsimp only
      split
      · exact ⟨trivial, failsForCause_error trivial⟩
      exact failsForCause_attempt (renumber_caused allocator draft _) fun next later =>
        ih _ _ _ _ given
    · split
      · dsimp only
        split
        · exact ⟨trivial, failsForCause_error trivial⟩
        · exact .lift ⟨trivial, ih _ _ _ _ given⟩
      · exact ⟨trivial, failsForCause_error trivial⟩

end Save

/-- The save of what was submitted is a success or fails for a real cause. -/
theorem save_caused (job : SaveJob) (given : submitted job.key job.submission.fingerprint) :
    (savingDisturbed.begins job).Keeps (vouching submitted) (fun _ => True)
      (Save.FailsForCause submitted job.key job.submission.fingerprint) seen := by
  -- Both halves of a save fail for a real cause only, and rolling a claim back changes no outcome.
  show (save job.config job.allocator job.submission).Keeps _ _ _ _
  unfold save
  dsimp only
  refine .bind ((Save.claim_caused _ given).weaken fun outcome after _ caused => ?_)
  split
  · exact ⟨trivial, Save.failsForCause_error (caused _ rfl)⟩
  · exact ⟨trivial, Save.failsForCause_ok⟩
  · rename_i serverId
    let draft : Draft :=
      ⟨job.submission.origin, job.submission.payload, job.submission.fingerprint, serverId⟩
    have committed : (Save.commit job.config job.allocator draft).run.Keeps (vouching submitted)
        (fun _ => True) (Save.FailsForCause submitted job.key job.submission.fingerprint) after :=
      Save.failsForCause_attempt (Save.allocate_caused job.allocator draft) fun sequence later =>
        Save.insertIn_caused job.allocator _ _ draft sequence later given
    refine .bind (committed.weaken fun outcome later _ caused => ?_)
    split
    · exact ⟨trivial, Save.failsForCause_ok⟩
    · rename_i failure
      have rollsBack : (Plan.withDeadline "rollback_short_ttl" job.config.callTimeout
          (Procedure.rollBackClaim draft.key)).Keeps (vouching submitted) (fun _ => True)
          (fun _ _ => True) later :=
        .withDeadline (Plan.Keeps.mono (vouching_call trivial)
          (fun _ _ => ⟨trivial, trivial⟩) fun _ _ _ => ⟨trivial, trivial⟩)
      refine .bind (.bind (rollsBack.weaken fun _ last _ _ => ⟨trivial, trivial, ?_⟩))
      exact Save.failsForCause_error (caused _ rfl)

namespace Site

variable {site : Site Intake.services World fun _ : SaveJob => Except SaveError Receipt}

/-- Some save was asked for that has the key and the fingerprint. -/
def Submitted (site : Site Intake.services World fun _ : SaveJob => Except SaveError Receipt)
    (key : ClaimKey) (fingerprint : Fingerprint) : Prop :=
  ∃ caller ∈ site.callers, caller.job.key = key ∧ caller.job.submission.fingerprint = fingerprint

/-- At every point of every run claims and rows agree, and every save goes on to a success or to a
failure with a real cause. -/
theorem savingDisturbed_upholds {clock : Instant} {lifetimes : ClaimLifetimes}
    {ready : List ServerId} (reached : Reached savingDisturbed (World.fresh clock lifetimes ready) site) :
    site.Upholds (vouching site.Submitted)
      (fun job => Save.FailsForCause site.Submitted job.key job.submission.fingerprint)
      (ClaimsAgree site.Submitted) := by
  -- Whatever was submitted until some point of the run was submitted in the end.
  have submitted : ∀ job ∈ site.callers.map (·.job),
      site.Submitted job.key job.submission.fingerprint := by
    intro job member
    obtain ⟨caller, there, rfl⟩ := List.mem_map.mp member
    exact ⟨caller, there, rfl, rfl⟩
  refine upholds_of_jobs reached submitted (.opening clock lifetimes ready) ?_ ?_ ?_
  · exact fun _ _ job given agree => ⟨[], save_caused job given, agree.join⟩
  · exact fun _ _ _ _ _ _ _ agree atPlace permitted reacted =>
      agree.reacts atPlace permitted reacted
  · exact fun _ _ _ agree drifted => agree.drifts drifted

end Site

/-- However saves are interleaved, and whatever fails or is lost: committed claims are for stored rows,
nothing is ever inconsistent, and a conflict has another save as its cause. -/
theorem saves_fail_only_for_cause {clock : Instant} {lifetimes : ClaimLifetimes}
    {ready : List ServerId} {site : Site services World fun _ : SaveJob => Except SaveError Receipt}
    (reached : Site.Reached savingDisturbed (World.fresh clock lifetimes ready) site) :
    (∀ key now claim, site.services.claims.liveClaim key now = some claim →
      claim.status = .committed →
      ∃ row, site.services.store.findByKey key = some row ∧ row.key = key ∧
        row.serverId = claim.serverId ∧ row.fingerprint = claim.fingerprint) ∧
    (∀ (place : Nat) job plan going rest key serverId fingerprint reply,
      site.callers[place]? = some ⟨job, plan⟩ → Relation.ReflTransGen Plan.Passes plan going →
      Plan.Calls (Service.Request.commitClaim key serverId fingerprint) reply going rest →
      ∀ reply' services', savingDisturbed.reacts (Service.Request.commitClaim key serverId fingerprint)
        site.services reply' services' →
      ∀ mismatched committed attempted,
        reply' ≠ .error (.committedMismatch mismatched committed attempted)) ∧
    (∀ job context detail, ⟨job, .done (.error (.inconsistency context detail))⟩ ∉ site.callers) ∧
    (∀ (place : Nat) job context,
      site.callers[place]? = some ⟨job, .done (.error (.conflict context))⟩ →
      ∃ place' other, place' ≠ place ∧ site.callers[place']? = some other ∧
        other.job.key = job.key ∧ other.job.submission.fingerprint ≠ job.submission.fingerprint) ∧
    (∀ job outcome, ⟨job, .done outcome⟩ ∈ site.callers →
      (∀ other ∈ site.callers, other.job.key = job.key →
        other.job.submission.fingerprint = job.submission.fingerprint) →
      (∃ receipt, outcome = .ok receipt) ∨
        ∃ failure, outcome = .error failure ∧ failure.isRetryable = true) := by
  obtain ⟨holdings, agree, keep⟩ := Site.savingDisturbed_upholds reached
  -- What a save failed for is stated where it ended, for any caller.
  have ended : ∀ {place : Nat} {job : SaveJob} {failure : SaveError},
      site.callers[place]? = some ⟨job, .done (.error failure)⟩ →
      Save.Caused site.Submitted job.key job.submission.fingerprint failure := by
    intro place job failure done
    obtain ⟨seen, _, _, caused⟩ := keep.held done
    exact caused failure rfl
  refine ⟨?_, ?_, ?_, ?_, ?_⟩
  · intro key now claim lives committed
    obtain ⟨entry, alive, rfl⟩ := Option.map_eq_some_iff.mp lives
    obtain ⟨row, stored, same⟩ :=
      agree.committed key entry (ExpiringTable.liveEntry_eq_some.mp alive).1 committed
    exact ⟨row, stored, agree.rows.consistent.key_of_found stored, same⟩
  -- A saver that commits a claim has seen the row, to which the claim may be committed already.
  · intro place job plan going rest key serverId fingerprint reply atPlace passed called
      reply' services' reacted
    obtain ⟨seen, atSeen, keeps⟩ := keep.held atPlace
    obtain ⟨⟨row, known, rfl, rfl⟩, _⟩ := (keeps.passes_run passed).calls called
    exact agree.never_mismatched atSeen known reacted
  · intro job context detail done
    obtain ⟨place, atPlace⟩ := List.mem_iff_getElem?.mp done
    exact ended atPlace
  -- The conflict was with a submission of the key, which one of the callers must have made.
  · intro place job context done
    obtain ⟨other, ⟨caller, there, sameKey, rfl⟩, differ⟩ := ended done
    obtain ⟨place', atPlace'⟩ := List.mem_iff_getElem?.mp there
    refine ⟨place', caller, fun same => ?_, atPlace', sameKey, differ⟩
    subst same
    rw [done] at atPlace'
    cases atPlace'
    exact differ rfl
  · intro job outcome done alike
    -- With the contents all the same, the only causes left are those that may pass.
    rcases outcome with failure | receipt
    · refine .inr ⟨failure, rfl, ?_⟩
      obtain ⟨place, atPlace⟩ := List.mem_iff_getElem?.mp done
      have caused := ended atPlace
      cases failure with
      | allocation | writeFailed => rfl
      | inconsistency => exact caused.elim
      | conflict =>
        obtain ⟨_, ⟨caller, there, sameKey, rfl⟩, differ⟩ := caused
        exact absurd (alike caller there sameKey) differ
    · exact .inl ⟨receipt, rfl⟩

/-- The save of another text under the key of a greeting. -/
def otherJob : SaveJob := ⟨.standard, .segmented .standard, Sample.other⟩

/-- The saves of a greeting and of another text under its key, which take turns until both are done. -/
def helloAndOther : Site services World fun _ : SaveJob => Except SaveError Receipt :=
  .roundRobin World.answer savingDisturbed.begins Sample.services [helloJob, otherJob] 60

set_option maxRecDepth 100000 in
/-- Of two saves under one key the one that comes second is in conflict, and the first one is why. -/
theorem helloAndOther_conflict :
    helloAndOther.callers[1]? =
        some ⟨otherJob, .done (.error (.conflict (.ofOrigin Sample.origin)))⟩ ∧
      ∃ place' job', place' ≠ 1 ∧ helloAndOther.callers[place']? = some job' ∧
        job'.job.key = otherJob.key ∧
        job'.job.submission.fingerprint ≠ otherJob.submission.fingerprint := by
  -- The second caller is the one refused, and the theorem then names the first one as the other.
  have reached : Site.Reached savingDisturbed (.fresh Sample.clock .standard []) helloAndOther :=
    Site.reached_roundRobin (fun _ _ => World.Reacts.answers) _ _ _
  have refused : helloAndOther.callers[1]? =
      some ⟨otherJob, .done (.error (.conflict (.ofOrigin Sample.origin)))⟩ := rfl
  exact ⟨refused, (saves_fail_only_for_cause reached).2.2.2.1 1 otherJob _ refused⟩

end Intake
