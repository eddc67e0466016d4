import Intake.Proofs.Memory.StoreContents
import Intake.Proofs.Numbering.Yielding
import Intake.Proofs.Samples
import Intake.Proofs.Save.Alone
import Intake.Proofs.Save.Limits

/-! How a save recovers where the store is ahead of the allocator: it is told once that a place is taken, and
the number that it draws then lies above all that are stored. -/

namespace Intake

namespace Log

variable {log : Log} {conversation : Conversation}

/-- Whether a message of a conversation has a number. -/
def Occupied (log : Log) (conversation : Conversation) (sequence : SequenceNumber) : Prop :=
  ∃ row ∈ log.messagesOf conversation, row.sequence = sequence

/-- The greatest number that a message of a conversation has, zero where there is none. -/
def greatest (log : Log) (conversation : Conversation) : Nat :=
  ((log.messagesOf conversation).map (·.sequence.value.toNat)).max?.getD 0

/-- No message of a conversation has a number above the greatest. -/
theorem le_greatest {row : Message} (member : row ∈ log.messagesOf conversation) :
    row.sequence.value.toNat ≤ log.greatest conversation := by
  have listed := List.mem_map_of_mem (f := fun row : Message => row.sequence.value.toNat) member
  unfold greatest
  -- There is a greatest number, since this row is in the conversation.
  cases largest : ((log.messagesOf conversation).map (·.sequence.value.toNat)).max? with
  | none => rw [List.max?_eq_none_iff.mp largest] at listed; cases listed
  | some number => exact (List.max?_eq_some_iff.mp largest).2 _ listed

/-- A number above the greatest is above those of all messages. -/
theorem lt_of_greatest_lt {sequence : SequenceNumber}
    (above : log.greatest conversation < sequence.value.toNat) {row : Message}
    (member : row ∈ log.messagesOf conversation) : row.sequence.value < sequence.value :=
  UInt64.lt_iff_toNat_lt.mpr (Nat.lt_of_le_of_lt (le_greatest member) above)

/-- A number above the greatest is free. -/
theorem not_occupied_of_greatest_lt {sequence : SequenceNumber}
    (above : log.greatest conversation < sequence.value.toNat) : ¬ log.Occupied conversation sequence := by
  rintro ⟨row, member, rfl⟩
  exact UInt64.lt_irrefl _ (lt_of_greatest_lt above member)

/-- A message with a new key and a new identifier is accepted unless its place is taken. -/
theorem verdict_of_new {message : Message} (keyNew : log.findByKey message.key = none)
    (idNew : log.findByServerId message.serverId = none) :
    (¬ log.Occupied message.conversation message.sequence → log.verdict message = .ok ()) ∧
      (log.Occupied message.conversation message.sequence → log.verdict message =
        .error (.duplicateSequence message.conversation message.sequence)) := by
  -- With the key and the identifier new, the place is all that is left to refuse.
  have keyFree : ¬ ∃ row ∈ log.messages, row.key = message.key := by
    simpa [findByKey] using keyNew
  have idFree : ¬ ∃ row ∈ log.messages, row.serverId = message.serverId := by
    simpa [findByServerId] using idNew
  have place : (∃ row ∈ log.messages, row.conversation = message.conversation ∧
      row.sequence = message.sequence) ↔ log.Occupied message.conversation message.sequence := by
    simp [Occupied, messagesOf, and_assoc]
  unfold verdict
  rw [if_neg keyFree, if_neg idFree]
  exact ⟨fun free => if_neg (free ∘ place.mp), fun taken => if_pos (place.mpr taken)⟩

end Log

/-- The larger of two numbers is the larger one as a natural number. -/
theorem SequenceNumber.larger_toNat (one other : SequenceNumber) :
    (one.larger other).value.toNat = max one.value.toNat other.value.toNat := by
  unfold larger
  split <;> (rename_i order; rw [UInt64.le_iff_toNat_le] at order; omega)

/-- The floor past which an allocator is moved is the greatest number that is stored, or the one whose place
was taken if that is larger. -/
theorem MessageStore.Represents.floor_eq {store : MessageStore} {log : Log}
    (represents : store.Represents log) (conversation : Conversation) (occupied : SequenceNumber) :
    (((store.greatestSequence conversation).map (·.larger occupied)).getD occupied).value.toNat =
      max (log.greatest conversation) occupied.value.toNat := by
  -- A conversation without rows has the occupied number as its floor.
  unfold Log.greatest
  rw [← represents.greatestSequence_eq conversation]
  cases store.greatestSequence conversation with
  | none => simp
  | some greatest => simp [SequenceNumber.larger_toNat]

/-- Nothing in a log has the key or the identifier of a draft. -/
structure Draft.New (draft : Draft) (log : Log) : Prop where
  key : log.findByKey draft.key = none
  serverId : log.findByServerId draft.serverId = none

/-- Where a message goes for which a number was drawn: there at once if it is free, and otherwise at
another number that was drawn then. -/
structure Log.Placed (log : Log) (conversation : Conversation) (first : SequenceNumber)
    (receipt : Receipt) (account : Account) : Prop where
  atOnce : ¬ log.Occupied conversation first → receipt.sequence = first ∧
    account.grants = [first] ∧ account.answers = [.ok ()]
  /-- That the place is taken is told once. The message then goes above it and above all that are stored. -/
  past : log.Occupied conversation first → first.value < receipt.sequence.value ∧
    (∀ row ∈ log.messagesOf conversation, row.sequence.value < receipt.sequence.value) ∧
    account.grants = [first, receipt.sequence] ∧
    account.answers = [.error (.duplicateSequence conversation first), .ok ()]

/-- What a save of a new message comes to: it is placed, or the numbers have run out, which they only do
where what is reserved or stored leaves too few of them. -/
def Recovers (allocator : Allocator) (origin : Origin) (log : Log) (before : World)
    (outcome : Except SaveError Receipt) (account : Account) : Prop :=
  let conversation := Conversation.ofOrigin origin
  (outcome = .error (.allocation (.ofOrigin origin) (allocator.overflow conversation)) ∧
      UInt64.size ≤ max (allocator.reach conversation before + allocator.setAside)
        (log.greatest conversation) + allocator.setAside) ∨
    ∃ first receipt, outcome = .ok receipt ∧ log.Placed conversation first receipt account

namespace Save

open Account

variable {config : SaveConfig} {allocator : Allocator} {draft : Draft} {log : Log} {w : World}

/-- The failure of a draft's save for want of numbers. -/
def outOfNumbers (allocator : Allocator) (draft : Draft) : SaveError :=
  .allocation draft.context (allocator.overflow draft.conversation)

/-- A save draws one number at a time from an allocator that nobody gets in the way of. -/
theorem allocate_yields (fresh : w.clock < w.clock.plus allocator.lifetime)
    (ready : allocator.Ready draft.conversation w) :
    (Save.allocate config allocator draft).run.Completes World.answer (fun outcome after =>
      allocator.Yields draft.conversation w (outOfNumbers allocator draft) outcome after) w := by
  have named : SaveError.ofAllocation draft.context (allocator.overflow draft.conversation) =
      outOfNumbers allocator draft := by cases allocator <;> rfl
  -- The time stands still, so that the deadline is never reached.
  have allocated : (ExceptT.adapt (SaveError.ofAllocation draft.context) (ExceptT.mk
      (Plan.withDeadline "allocate" config.callTimeout
        (allocator.allocate draft.conversation 1).run))).run.Completes World.answer
      (fun outcome after => allocator.Yields draft.conversation w (outOfNumbers allocator draft)
        (outcome.map Grant.start) after) w := by
    refine .adapt (.withDeadline ((allocator.allocate_yields fresh ready).mono ?_))
    intro outcome after yields
    have renamed := yields.rename (SaveError.ofAllocation draft.context)
    rw [named] at renamed
    cases outcome <;> exact renamed
  exact allocated.attempt (fun _ _ yields => yields) fun _ _ yields => yields

/-- What a save draws is entered in its account. -/
theorem allocate_yields_noting (fresh : w.clock < w.clock.plus allocator.lifetime)
    (ready : allocator.Ready draft.conversation w) (account : Account) :
    (Save.allocate config allocator draft).run.Completes (noting World.answer) (fun outcome after =>
      allocator.Yields draft.conversation w (outOfNumbers allocator draft) outcome after.1 ∧
        account.Draws draft.context outcome after.2) (w, account) :=
  -- What the services come to and what the account shows are known apart from each other.
  completes_noting (allocate_yields fresh ready)
    (allocate_draws config allocator draft account : Plan.Ensures Plan.Waits _ _ _ _)

/-- A draft whose place was taken draws a number above that and above all that are stored. -/
theorem renumber_passes (fresh : w.clock < w.clock.plus allocator.lifetime)
    (ready : allocator.Ready draft.conversation w) (represents : w.store.Represents log)
    (occupied : SequenceNumber) (account : Account) :
    (renumber config allocator draft occupied).run.Completes (noting World.answer)
      (fun outcome after => after.1.store = w.store ∧
        (∀ next, outcome = .ok next → after.2 = account.grant next ∧
          max (log.greatest draft.conversation) occupied.value.toNat < next.value.toNat) ∧
        ∀ failure, outcome = .error failure → failure = outOfNumbers allocator draft ∧
          UInt64.size ≤ max (allocator.reach draft.conversation w)
            (max (log.greatest draft.conversation) occupied.value.toNat) + allocator.setAside)
      (w, account) := by
  have floor := represents.floor_eq draft.conversation occupied
  -- Reading the store's greatest number is answered, and changes nothing.
  have greatest : (ExceptT.adapt (fun source => SaveError.writeFailed draft.context (.store source))
      (ExceptT.mk (Plan.retryTransient config.retry config.callTimeout "max_sequence"
        (Procedure.greatestSequence draft.conversation)))).run.Ends (noting World.answer) (w, account)
      (.ok (w.store.greatestSequence draft.conversation)) (w, account) :=
    .adapt_ok (.retryTransient (.call rfl))
  apply greatest.attempt
  dsimp only
  generalize ((w.store.greatestSequence draft.conversation).map (·.larger occupied)).getD occupied =
    past at floor ⊢
  -- Passing the floor is not noted, so that the account stays as it is.
  have reconciled : (ExceptT.adapt (SaveError.ofAllocation draft.context) (ExceptT.mk
      (Plan.withDeadline "reconcile_floor" config.callTimeout
        (allocator.reconcile draft.conversation past).run))).run.Completes (noting World.answer)
      (fun outcome after => outcome = .ok () ∧ allocator.Passed draft.conversation past w after.1 ∧
        after.2 = account) (w, account) := by
    refine .adapt (.withDeadline ((completes_unnoted (allocator.reconcile_passes ready past)
      (allocator.reconcile_unnoted _ _) account).mono ?_))
    rintro _ after ⟨⟨rfl, passed⟩, kept⟩
    exact ⟨rfl, passed, kept⟩
  refine reconciled.attempt (fun _ _ ended => by cases ended.1) ?_
  rintro _ ⟨later, _⟩ ⟨_, passed, rfl⟩
  have clock : later.clock = w.clock := passed.clock
  have reach : allocator.reach draft.conversation later ≤ _ := passed.reach
  obtain ⟨mark, above, marked⟩ := passed.marked
  refine (allocate_yields_noting (w := later) (by rwa [clock]) passed.ready _).mono ?_
  rintro outcome ⟨last, after⟩ ⟨yields, draws⟩
  -- The number drawn next is above the mark that the floor was raised to.
  refine ⟨yields.store.trans passed.store, fun next drawn => ⟨draws.drawn next drawn, ?_⟩,
    fun failure failed => ?_⟩
  · have passes := yields.above next drawn mark marked
    omega
  · obtain ⟨same, full⟩ := yields.refused failure failed
    exact ⟨same, by omega⟩

/-- What the store answers to a new draft, and that an account of it is kept. -/
theorem insert_ends (represents : w.store.Represents log) (new : draft.New log)
    (sequence : SequenceNumber) (account : Account) :
    let message := draft.message sequence w.clock
    let inserts := Plan.withDeadline "insert" config.callTimeout (Procedure.insert message)
    (¬ log.Occupied draft.conversation sequence → inserts.Ends (noting World.answer) (w, account) (.ok ())
        ({ w with store := w.store.add message }, account.insert message (.ok ()))) ∧
      (log.Occupied draft.conversation sequence → inserts.Ends (noting World.answer) (w, account)
        (.error (.duplicateSequence draft.conversation sequence))
        (w, account.insert message (.error (.duplicateSequence draft.conversation sequence)))) := by
  intro message inserts
  -- The store decides as the log does, and of a new draft the log only checks the place.
  obtain ⟨accepted, refused⟩ := @Log.verdict_of_new log message new.key new.serverId
  constructor
  · intro free
    have stored : w.store.insert message = (.ok (), w.store.add message) := by
      rw [represents.insert_eq, accepted free]
    exact Plan.Completes.withDeadline (Plan.Ends.call (by
      simp only [noting, note, World.answer, stored]))
  · intro taken
    have stays : w.store.insert message =
        (.error (.duplicateSequence draft.conversation sequence), w.store) := by
      rw [represents.insert_eq, refused taken]
      rfl
    exact Plan.Completes.withDeadline (Plan.Ends.call (by
      simp only [noting, note, World.answer, stays]))

/-- A new draft whose place is free is stored there at once. -/
theorem insertIn_of_free (represents : w.store.Represents log) (new : draft.New log)
    {sequence : SequenceNumber} (free : ¬ log.Occupied draft.conversation sequence) (rounds : Nat)
    (setbacks : Setbacks) (account : Account) :
    (insertIn config allocator (rounds + 1) setbacks draft sequence).run.Completes (noting World.answer)
      (fun outcome after => outcome = .ok (draft.message sequence w.clock).receipt ∧
        after.2 = account.insert (draft.message sequence w.clock) (.ok ())) (w, account) := by
  -- The insert succeeds, and finishing the save notes nothing more.
  unfold insertIn
  apply Plan.Ends.lift (.call rfl)
  apply ((insert_ends represents new sequence account).1 free).lift
  exact ⟨rfl, rfl⟩

/-- A new draft whose place is taken is told so once, and stored at a number above all that are stored. -/
theorem insertIn_of_occupied (fresh : w.clock < w.clock.plus allocator.lifetime)
    (ready : allocator.Ready draft.conversation w) (represents : w.store.Represents log)
    (new : draft.New log) {sequence : SequenceNumber}
    (occupied : log.Occupied draft.conversation sequence) (rounds : Nat) {setbacks : Setbacks}
    (within : ¬ config.maxSequenceConflicts < setbacks.conflicts + 1) (account : Account) :
    (insertIn config allocator (rounds + 2) setbacks draft sequence).run.Completes (noting World.answer)
      (fun outcome after =>
        (outcome = .error (outOfNumbers allocator draft) ∧
          UInt64.size ≤ max (allocator.reach draft.conversation w) (log.greatest draft.conversation) +
            allocator.setAside) ∨
        ∃ receipt, outcome = .ok receipt ∧
          log.greatest draft.conversation < receipt.sequence.value.toNat ∧
          after.2.grants = account.grants ++ [receipt.sequence] ∧
          after.2.answers = account.answers ++
            [.error (.duplicateSequence draft.conversation sequence), .ok ()]) (w, account) := by
  -- The place that was taken is not above the greatest, so that the floor is the greatest.
  have below : sequence.value.toNat ≤ log.greatest draft.conversation := by
    obtain ⟨row, member, rfl⟩ := occupied
    exact Log.le_greatest member
  unfold insertIn
  apply Plan.Ends.lift (.call rfl)
  apply ((insert_ends represents new sequence account).2 occupied).lift
  dsimp only
  rw [if_neg within]
  refine (renumber_passes fresh ready represents sequence _).attempt ?_ ?_
  · rintro failure after ⟨_, _, refused⟩
    obtain ⟨rfl, full⟩ := refused failure rfl
    exact .inl ⟨rfl, by omega⟩
  rintro next ⟨later, after⟩ ⟨store, drawn, _⟩
  obtain ⟨rfl, above⟩ := drawn next rfl
  have free : ¬ log.Occupied draft.conversation next := Log.not_occupied_of_greatest_lt (by omega)
  refine (insertIn_of_free (store ▸ represents) new free rounds _ _).mono ?_
  rintro _ ⟨_, _⟩ ⟨rfl, rfl⟩
  refine .inr ⟨_, rfl, ?_, rfl, ?_⟩
  · show log.greatest draft.conversation < next.value.toNat
    omega
  · simp

/-- A new draft is stored at the number that is drawn first, or if that is taken above all that are stored,
unless there are no numbers left. -/
theorem commit_recovers (patient : 0 < config.maxSequenceConflicts)
    (fresh : w.clock < w.clock.plus allocator.lifetime)
    (ready : allocator.Ready draft.conversation w) (represents : w.store.Represents log)
    (new : draft.New log) :
    (commit config allocator draft).run.Completes (noting World.answer) (fun outcome after =>
      Recovers allocator draft.origin log w outcome after.2) (w, opening) := by
  -- At least one conflict is mended, so that there are two rounds to be made.
  have rounds : ∃ rounds, roundLimit config = rounds + 2 := by
    have positive := UInt32.lt_iff_toNat_lt.mp patient
    rw [UInt32.toNat_zero] at positive
    exact ⟨roundLimit config - 2, by unfold roundLimit; omega⟩
  have within : ¬ config.maxSequenceConflicts < 0 + 1 := by
    rw [UInt32.lt_iff_toNat_lt] at patient ⊢
    exact Nat.not_lt.mpr patient
  obtain ⟨rounds, limit⟩ := rounds
  unfold commit
  rw [limit]
  refine (allocate_yields_noting fresh ready opening).attempt ?_ ?_
  · rintro failure after ⟨yields, _⟩
    -- The words may end at the first number already.
    obtain ⟨rfl, full⟩ := yields.refused failure rfl
    refine .inl ⟨rfl, ?_⟩
    show _ ≤ max (allocator.reach draft.conversation w + _) _ + _
    omega
  rintro first ⟨later, after⟩ ⟨yields, draws⟩
  obtain rfl := draws.drawn first rfl
  have clock : later.clock = w.clock := yields.clock
  have represents' : later.store.Represents log := by rwa [show later.store = w.store from yields.store]
  have reach : allocator.reach draft.conversation later ≤ _ := yields.reach
  -- One round is enough if the number is free. If it is taken, the second passes it.
  by_cases occupied : log.Occupied draft.conversation first
  · refine (insertIn_of_occupied (w := later) (by rwa [clock]) (yields.ready first rfl) represents' new
      occupied rounds within _).mono ?_
    rintro outcome ended (⟨rfl, full⟩ | ⟨receipt, rfl, above, grants, answers⟩)
    · refine .inl ⟨rfl, ?_⟩
      show _ ≤ max (allocator.reach draft.conversation w + _) (log.greatest draft.conversation) + _
      omega
    · refine .inr ⟨first, receipt, rfl, fun free => absurd occupied free, fun taken =>
        ⟨?_, fun _ => Log.lt_of_greatest_lt above, grants, answers⟩⟩
      obtain ⟨row, member, rfl⟩ := taken
      exact Log.lt_of_greatest_lt above member
  · refine (insertIn_of_free represents' new occupied (rounds + 1) _ _).mono ?_
    rintro _ ⟨_, _⟩ ⟨rfl, rfl⟩
    exact .inr ⟨first, _, rfl, fun _ => ⟨rfl, rfl, rfl⟩, fun taken => absurd taken occupied⟩

/-- Claiming a key without a live claim adds nothing to an account. -/
theorem claim_ends_noting (context : SaveContext) {key : ClaimKey} (fingerprint : Fingerprint)
    (gone : w.claims.liveClaim key w.clock = none) (account : Account) :
    (Save.claim config context key fingerprint).run.Ends (noting World.answer) (w, account)
      (.ok (.proceed w.ids.next.1)) (w.claimNext key fingerprint, account) := by
  -- Neither drawing the identifier nor claiming the key is noted.
  have claimed : (ExceptT.adapt (fun source => SaveError.writeFailed context (.claims source)) (ExceptT.mk
      (Plan.retryTransient config.retry config.callTimeout "ensure_pending"
        (Procedure.claim key fingerprint w.ids.next.1)))).run.Ends (noting World.answer)
      ({ w with ids := w.ids.next.2 }, account) (.ok (.created w.ids.next.1))
      (w.claimNext key fingerprint, account) :=
    .adapt_ok (.retryTransient (.call (by
      simp only [noting, note, World.answer, World.claimNext, ClaimIndex.claim_of_gone gone])))
  exact Plan.Ends.lift (.call rfl) (claimed.attempt ⟨rfl, rfl⟩)

end Save

/-- A save of a new message recovers, whatever the store, the ledger and the caches hold of its
conversation, where nobody gets in the way of its allocator. -/
theorem save_recovers (config : SaveConfig) (allocator : Allocator) (submission : Submission) {w : World}
    {log : Log} (patient : 0 < config.maxSequenceConflicts) (represents : w.store.Represents log)
    (unstored : log.findByKey (.ofOrigin submission.origin) = none)
    (unclaimed : w.claims.liveClaim (.ofOrigin submission.origin) w.clock = none)
    (unnamed : log.findByServerId w.ids.next.1 = none)
    (ready : allocator.Ready (.ofOrigin submission.origin) w)
    (fresh : w.clock < w.clock.plus allocator.lifetime) :
    let ended := Account.kept World.answer (save config allocator submission) w
    Recovers allocator submission.origin log w ended.1 ended.2 := by
  intro ended
  let draft : Draft :=
    ⟨submission.origin, submission.payload, submission.fingerprint, w.ids.next.1⟩
  -- Claiming the key changes nothing that the numbers depend on.
  have ready' : allocator.Ready draft.conversation (w.claimNext draft.key draft.fingerprint) := by
    cases allocator <;> exact ready
  have committed := @Save.commit_recovers config allocator draft log
    (w.claimNext draft.key draft.fingerprint) patient fresh ready' represents ⟨unstored, unnamed⟩
  refine Account.kept_of_completes (Plan.Completes.bind
    (Save.claim_ends_noting (.ofOrigin submission.origin) submission.fingerprint unclaimed .opening) ?_)
  rintro _ _ ⟨rfl, rfl⟩
  refine committed.bind fun outcome after recovers => ?_
  replace recovers : Recovers allocator submission.origin log w outcome after.2 := by
    cases allocator <;> exact recovers
  cases outcome with
  | ok receipt => exact recovers
  | error failure => exact recovers

/-- A message that another service has stored at one. -/
def storedAtOne : Message :=
  ⟨Sample.next.origin, ⟨Uuid.ofNat 1⟩, ⟨1⟩, ⟨[]⟩, Sample.hello.fingerprint, Sample.clock⟩

/-- A message that another service has stored at seven. -/
def storedAtSeven : Message :=
  ⟨{ Sample.origin with clientMessage := ⟨"third", by decide, by decide, by decide⟩ }, ⟨Uuid.ofNat 7⟩, ⟨7⟩,
    ⟨[]⟩, Sample.hello.fingerprint, Sample.clock⟩

/-- The log of these two. -/
def storedElsewhere : Log := (Log.empty.add storedAtOne).add storedAtSeven

/-- Services whose store holds these two, of which the ledger and the caches know nothing. -/
def storeAhead : World :=
  { Sample.services with store := (MessageStore.empty.add storedAtOne).add storedAtSeven }

/-- A greeting draws one, is told that it is taken, and is stored above seven. -/
theorem storeAhead_passes_seven :
    let ended := Account.kept World.answer (save .standard (.segmented .standard) Sample.hello) storeAhead
    ended.2.grants.head? = some ⟨1⟩ ∧
      ended.2.answers = [.error (.duplicateSequence Sample.conversation ⟨1⟩), .ok ()] ∧
      ∃ receipt, ended.1 = .ok receipt ∧ 7 < receipt.sequence.value := by
  intro ended
  have represents : storeAhead.store.Represents storedElsewhere :=
    (MessageStore.represents_empty.add (Log.verdict_eq_ok.mp (by decide +kernel))).add
      (Log.verdict_eq_ok.mp (by decide +kernel))
  have recovers : Recovers (.segmented .standard) Sample.origin storedElsewhere storeAhead
      ended.1 ended.2 :=
    save_recovers .standard (.segmented .standard) Sample.hello (by decide) represents
      (by decide +kernel) (by decide +kernel) (by decide +kernel) (fun _ found => by cases found)
      (by decide)
  have drawn : ended.2.grants.head? = some ⟨1⟩ := by decide +kernel
  -- The run has been evaluated where it had to be. From here on the theorem speaks.
  clear_value ended
  rcases recovers with ⟨_, full⟩ | ⟨first, receipt, stored, placed⟩
  · exact absurd full (by decide +kernel)
  have one : first = ⟨1⟩ := by
    by_cases occupied : storedElsewhere.Occupied Sample.conversation first
    · exact Option.some.inj ((congrArg List.head? (placed.past occupied).2.2.1).symm.trans drawn)
    · exact Option.some.inj ((congrArg List.head? (placed.atOnce occupied).2.1).symm.trans drawn)
  subst one
  obtain ⟨_, above, _, answers⟩ := placed.past ⟨storedAtOne, by decide +kernel, rfl⟩
  exact ⟨drawn, answers, receipt, stored, above storedAtSeven (by decide +kernel)⟩

end Intake
