import Intake.Proofs.Numbering.Gapless
import Intake.Proofs.Samples
import Intake.Proofs.Save.Alone
import Intake.Proofs.Save.Log

/-! Saves that run alone on one clock refine a log of messages, whichever allocator numbers them. -/

namespace Intake

/-- A store holds the messages of a log, under their keys, under their identifiers, and in the order of
each conversation. -/
structure MessageStore.Holds (store : MessageStore) (log : Log) : Prop where
  byKey : ∀ key, store.findByKey key = log.findByKey key
  byServerId : ∀ serverId, store.findByServerId serverId = log.findByServerId serverId
  shelves : ∀ conversation, store.shelf conversation =
    (log.messagesOf conversation).map fun row => (row.sequence, row.serverId)

namespace MessageStore.Holds

variable {store : MessageStore} {log : Log} {message : Message}

/-- The next number of a conversation lies above those on its shelf. -/
theorem above (holds : store.Holds log) (numbered : log.Numbered)
    (next : message.sequence.value.toNat = (log.messagesOf message.conversation).length + 1) :
    ∀ entry ∈ store.shelf message.conversation, entry.1.value < message.sequence.value := by
  -- The numbers on a shelf go up to the number of its messages.
  intro entry member
  rw [holds.shelves] at member
  obtain ⟨row, listed, rfl⟩ := List.mem_map.mp member
  have bound := numbered.sequence_le listed
  rw [UInt64.lt_iff_toNat_lt]
  dsimp only
  omega

/-- A message with the next number of its conversation is stored if its key and its identifier are free. -/
theorem insert (holds : store.Holds log) (consistent : store.Consistent) (numbered : log.Numbered)
    (keyFree : log.findByKey message.key = none)
    (idFree : log.findByServerId message.serverId = none)
    (next : message.sequence.value.toNat = (log.messagesOf message.conversation).length + 1) :
    store.insert message = (.ok (), store.add message) := by
  -- The place is free too, because a numbered log has nothing above its length.
  exact consistent.insert_of_free (by rw [holds.byKey]; exact keyFree)
    (by rw [holds.byServerId]; exact idFree) (Shelf.holds_of_above (holds.above numbered next))

/-- A store to which such a message is added holds the log with the message. -/
theorem add (holds : store.Holds log) (consistent : store.Consistent) (numbered : log.Numbered)
    (keyFree : log.findByKey message.key = none)
    (idFree : log.findByServerId message.serverId = none)
    (next : message.sequence.value.toNat = (log.messagesOf message.conversation).length + 1) :
    (store.add message).Holds (log.add message) := by
  -- In either of them the message is what its key and its identifier lead to.
  constructor
  · intro key
    rw [consistent.findByKey_add (by rw [holds.byServerId]; exact idFree),
      Log.findByKey_add keyFree, holds.byKey]
  · intro serverId
    rw [findByServerId_add, Log.findByServerId_add idFree, holds.byServerId]
  -- Its number is above those of the conversation, so it is put at the end of the shelf as well.
  · intro conversation
    rw [shelf_add, Log.messagesOf_add]
    split
    · rename_i same
      subst same
      rw [Shelf.insert_of_above (holds.above numbered next), holds.shelves, List.map_append]
      rfl
    · exact holds.shelves conversation

end MessageStore.Holds

/-- Between saves the services hold a log: its messages are stored, their claims are committed as long as
claims live, and their numbers are granted. -/
structure Logged (allocator : Allocator) (clock : Instant) (lifetimes : ClaimLifetimes) (log : Log)
    (w : World) : Prop where
  settled : w.Settled
  onClock : w.clock = clock
  withLifetimes : w.claims.lifetimes = lifetimes
  stored : w.store.Holds log
  claimed : ∀ key, w.claims.liveClaim key clock =
    (log.findByKey key).map fun row => ⟨row.serverId, row.fingerprint, .committed⟩
  granted : ∀ conversation,
    allocator.HasGranted conversation (log.messagesOf conversation).length w
  numbered : log.Numbered

variable {allocator : Allocator} {clock : Instant} {lifetimes : ClaimLifetimes} {log : Log} {w : World}

/-- Services that hold nothing yet hold the log without messages. -/
theorem logged_fresh (allocator : Allocator) (clock : Instant) (lifetimes : ClaimLifetimes)
    (ready : List ServerId) :
    Logged allocator clock lifetimes .empty (.fresh clock lifetimes ready) where
  -- Both allocators start from nothing: no block is cached, and no row is there to be read.
  settled := World.settled_fresh clock lifetimes ready
  onClock := rfl
  withLifetimes := rfl
  stored := ⟨fun _ => rfl, fun _ => rfl, fun _ => rfl⟩
  claimed := fun _ => rfl
  granted := fun _ => by
    cases allocator with
    | segmented config => exact ⟨fun _ alive => (by cases alive), fun _ => rfl⟩
    | singleCounter config => rfl
  numbered := Log.numbered_empty

/-- Services that differ in their supply of identifiers hold the same log. -/
theorem Logged.draw (logged : Logged allocator clock lifetimes log w) (ids : IdSupply) :
    Logged allocator clock lifetimes log { w with ids } where
  -- The log speaks of everything but the supply of identifiers.
  settled := ⟨logged.settled.consistent, logged.settled.reserved, logged.settled.unlocked⟩
  onClock := logged.onClock
  withLifetimes := logged.withLifetimes
  stored := logged.stored
  claimed := logged.claimed
  granted := fun conversation => (logged.granted conversation).of_same rfl rfl rfl rfl
  numbered := logged.numbered

/-- After a message was claimed, numbered and stored, its claim committed and its number noted, the
services hold the log with the message. -/
theorem Logged.add (logged : Logged allocator clock lifetimes log w)
    (claimsLive : clock < clock.plus lifetimes.committed) {message : Message}
    (keyFree : log.findByKey message.key = none)
    (idFree : log.findByServerId message.serverId = none)
    (next : message.sequence.value.toNat = (log.messagesOf message.conversation).length + 1)
    {middle : World} (settled : middle.Settled) (kept : w.OthersKept message.conversation middle)
    (claims : middle.claims =
      (w.claims.claim message.key message.fingerprint message.serverId w.clock).2)
    (granted : allocator.HasGranted message.conversation message.sequence.value.toNat middle) :
    Logged allocator clock lifetimes (log.add message) { middle with
      store := w.store.add message
      claims := (middle.claims.commit message.key message.serverId message.fingerprint
        middle.clock).2
      ledger := middle.ledger.raiseCommitted message.conversation message.sequence middle.clock } := by
  have consistent := logged.settled.consistent
  have inserted := logged.stored.insert consistent logged.numbered keyFree idFree next
  have claimed := logged.claimed
  have sameClock : middle.clock = clock := kept.clock.trans logged.onClock
  have consistent' : (w.store.add message).Consistent := by
    have entered := consistent.insert message
    rwa [inserted] at entered
  have recorded := World.record_keeps_others message.conversation message.sequence middle
  constructor
  · exact settled.advance consistent' (.refl _) rfl fun other =>
      middle.ledger.issued_le_raiseCommitted message.conversation other message.sequence middle.clock
  · exact sameClock
  · rw [ClaimIndex.lifetimes_commit, claims, ClaimIndex.lifetimes_claim]
    exact logged.withLifetimes
  · exact logged.stored.add consistent logged.numbered keyFree idFree next
  -- The claim of the message is committed in place of the one that was pending.
  · intro key
    rw [claims, sameClock, logged.onClock, Log.findByKey_add keyFree]
    split
    · rename_i same
      subst same
      have gone : w.claims.liveClaim message.key clock = none := by rw [claimed, keyFree]; rfl
      refine ClaimIndex.liveClaim_commit (fun claim lives =>
        ClaimIndex.pending_of_claimed gone message.fingerprint message.serverId lives) ?_
        message.serverId message.fingerprint
      rw [ClaimIndex.lifetimes_claim, logged.withLifetimes]
      exact claimsLive
    · rename_i differ
      rw [ClaimIndex.liveClaim_commit_of_ne _ _ differ, ClaimIndex.liveClaim_claim_of_ne _ _ differ]
      exact claimed key
  -- In its own conversation the message has the next number, and the others have not been touched.
  · intro conversation
    rw [Log.messagesOf_add]
    split
    · rename_i same
      subst same
      rw [List.length_append, List.length_singleton, ← next]
      exact (granted.record (settled.reserved message.conversation)).of_same rfl rfl rfl rfl
    · rename_i differ
      exact (((logged.granted conversation).keep kept differ).keep recorded differ).of_same
        rfl rfl rfl rfl
  · exact logged.numbered.add next

namespace Save

variable {config : SaveConfig}

/-- What an allocation for a draft comes to: the next number of its conversation, unless there is none,
with nothing changed but what allocations count with. -/
structure Numbers (allocator : Allocator) (draft : Draft) (count : Nat) (before : World)
    (outcome : Except SaveError SequenceNumber) (after : World) : Prop where
  settled : after.Settled
  claims : after.claims = before.claims
  store : after.store = before.store
  ids : after.ids = before.ids
  kept : before.OthersKept draft.conversation after
  granted : (UInt64.size ≤ count + allocator.setAside ∧
      outcome = .error (.allocation draft.context (allocator.overflow draft.conversation))) ∨
    ∃ sequence, outcome = .ok sequence ∧ sequence.value.toNat = count + 1 ∧
      allocator.HasGranted draft.conversation sequence.value.toNat after

/-- An allocation for a draft answers the next number of its conversation. -/
theorem allocate_numbers (draft : Draft) {count : Nat} (settled : w.Settled)
    (fresh : w.clock < w.clock.plus allocator.lifetime)
    (granted : allocator.HasGranted draft.conversation count w) :
    (allocate config allocator draft).run.Completes World.answer
      (Numbers allocator draft count w) w := by
  -- The deadline makes no difference, and a failure is only put into the context of the save.
  have allocated := (Allocator.allocate_completes allocator draft.conversation
    (by decide : 0 < (1 : UInt64).toNat) settled).both (Allocator.allocate_grants_next fresh
      (settled.reserved draft.conversation) settled.unlocked granted)
  have renamed : SaveError.ofAllocation draft.context (allocator.overflow draft.conversation) =
      .allocation draft.context (allocator.overflow draft.conversation) := by cases allocator <;> rfl
  refine Plan.Completes.bind (allocated.withDeadline.bind fun outcome after ended => ?_)
    fun outcome after (ended : Numbers allocator draft count w (outcome.map Grant.start) after) => ?_
  · obtain ⟨⟨settled, _, claims, store, ids, _, _⟩, kept, granted⟩ := ended
    refine ⟨settled, claims, store, ids, kept, ?_⟩
    rcases granted with ⟨full, rfl⟩ | ⟨grant, rfl, start, granted⟩
    · exact .inl ⟨full, congrArg Except.error renamed⟩
    · exact .inr ⟨grant.start, rfl, start, start ▸ granted⟩
  · cases outcome <;> exact ended

/-- A draft whose message can be stored is stored: its claim is committed, and its number noted. -/
theorem insertIn_ends_of_stored (allocator : Allocator) (draft : Draft) (sequence : SequenceNumber)
    {store : MessageStore} (stored : w.store.insert (draft.message sequence w.clock) = (.ok (), store))
    (rounds : Nat) (setbacks : Setbacks) :
    (insertIn config allocator (rounds + 1) setbacks draft sequence).run.Ends World.answer w
      (.ok (draft.message sequence w.clock).receipt) { w with
        store
        claims := (w.claims.commit draft.key draft.serverId draft.fingerprint w.clock).2
        ledger := w.ledger.raiseCommitted draft.conversation sequence w.clock } := by
  -- The first insert is accepted, so that no round is left to be made.
  have inserted : (Plan.withDeadline "insert" config.callTimeout
      (Procedure.insert (draft.message sequence w.clock))).Ends World.answer w (.ok ())
        { w with store } := .call (by simp only [World.answer, stored])
  exact Plan.Ends.lift (.call rfl) (inserted.lift ⟨rfl, rfl⟩)

end Save

/-- What a save comes to over services that hold a log: the outcome is that of the log, which they hold
as it is after the save, unless there is no number for the message. -/
def Refines (allocator : Allocator) (clock : Instant) (lifetimes : ClaimLifetimes) (log : Log)
    (submission : Submission) (before : World) (outcome : Except SaveError Receipt)
    (after : World) : Prop :=
  (UInt64.size ≤ (log.messagesOf (.ofOrigin submission.origin)).length + allocator.setAside ∧
      outcome = .error (.allocation (.ofOrigin submission.origin)
        (allocator.overflow (.ofOrigin submission.origin)))) ∨
    (outcome = (log.save clock submission before.ids.next.1).1 ∧
      Logged allocator clock lifetimes (log.save clock submission before.ids.next.1).2 after ∧
      after.ids = before.ids.next.2)

/-- After its key was claimed a save of a message that is not stored yet refines the log. -/
theorem commit_refines (config : SaveConfig) (logged : Logged allocator clock lifetimes log w)
    (claimsLive : clock < clock.plus lifetimes.committed)
    (numbersLive : clock < clock.plus allocator.lifetime) {submission : Submission}
    (free : log.findByKey (.ofOrigin submission.origin) = none)
    (unused : log.findByServerId w.ids.next.1 = none) :
    (Save.commit config allocator ⟨submission.origin, submission.payload, submission.fingerprint,
      w.ids.next.1⟩).run.Completes World.answer
      (Refines allocator clock lifetimes log submission w)
      (w.claimNext (.ofOrigin submission.origin) submission.fingerprint) := by
  have settled : (w.claimNext (.ofOrigin submission.origin) submission.fingerprint).Settled :=
    ⟨logged.settled.consistent, logged.settled.reserved, logged.settled.unlocked⟩
  have granted : allocator.HasGranted (.ofOrigin submission.origin) _
      (w.claimNext (.ofOrigin submission.origin) submission.fingerprint) :=
    (logged.granted (.ofOrigin submission.origin)).of_same rfl rfl rfl rfl
  have numbersLive' : w.clock < w.clock.plus allocator.lifetime := by
    rw [logged.onClock]; exact numbersLive
  refine Plan.Completes.attempt (Save.allocate_numbers _ settled numbersLive' granted) ?_ ?_
  · intro failure after ended
    rcases ended.granted with ⟨full, same⟩ | ⟨_, impossible, _⟩
    · cases same
      exact .inl ⟨full, rfl⟩
    · cases impossible
  · intro sequence after ended
    rcases ended.granted with ⟨_, impossible⟩ | ⟨_, same, next, granted⟩
    · cases impossible
    cases same
    -- What is stored is the entry of the log, as the number and the clock are the same.
    let message : Message := ⟨submission.origin, w.ids.next.1, sequence, submission.payload,
      submission.fingerprint, after.clock⟩
    have entered : log.entry clock submission w.ids.next.1 = message := by
      have sameClock : after.clock = clock := ended.kept.clock.trans logged.onClock
      have sameNumber : UInt64.ofNat (1 + (log.messagesOf (.ofOrigin submission.origin)).length) =
          sequence.value := by
        rw [Nat.add_comm, ← next, UInt64.ofNat_toNat]
      unfold Log.entry
      rw [← sameClock, sameNumber]
    have sameStore : after.store = w.store := ended.store
    have stored : after.store.insert message = (.ok (), w.store.add message) := by
      rw [sameStore]
      exact logged.stored.insert logged.settled.consistent logged.numbered free unused next
    obtain ⟨rounds, limit⟩ := Save.roundLimit_pos config
    rw [limit]
    refine Plan.Completes.mono (Save.insertIn_ends_of_stored allocator _ sequence stored rounds
      ⟨0, 0, 0⟩) ?_
    rintro _ _ ⟨rfl, rfl⟩
    have kept : w.OthersKept message.conversation after :=
      ⟨ended.kept.clock, ended.kept.ledger, ended.kept.segments, ended.kept.counters⟩
    have free' : log.findByKey message.key = none := free
    unfold Refines
    rw [Log.save_of_free free, entered]
    exact .inr ⟨rfl, logged.add claimsLive free' unused next ended.settled kept ended.claims granted,
      ended.ids⟩

/-- A save that runs alone refines the log that the services hold. -/
theorem save_refines (config : SaveConfig) (logged : Logged allocator clock lifetimes log w)
    (claimsLive : clock < clock.plus lifetimes.committed)
    (numbersLive : clock < clock.plus allocator.lifetime) (submission : Submission)
    (unused : log.findByServerId w.ids.next.1 = none) :
    (save config allocator submission).Completes World.answer
      (Refines allocator clock lifetimes log submission w) w := by
  have stored := logged.stored.byKey (.ofOrigin submission.origin)
  have claimed := logged.claimed (.ofOrigin submission.origin)
  rw [← logged.onClock] at claimed
  unfold save
  dsimp only
  cases found : log.findByKey (.ofOrigin submission.origin) with
  -- What is stored under the key decides, and nothing changes but the supply of identifiers.
  | some row =>
    rw [found] at stored claimed
    refine Plan.Completes.bind (Save.claim_ends_of_stored _ _ stored claimed) ?_
    rintro _ _ ⟨rfl, rfl⟩
    refine Plan.Completes.mono ?_ fun _ _ ended => .inr ended
    rw [Log.save_of_taken found]
    dsimp only
    by_cases same : row.fingerprint = submission.fingerprint
    · rw [if_pos same, if_pos same]
      exact ⟨rfl, logged.draw _, rfl⟩
    · rw [if_neg same, if_neg same]
      exact ⟨rfl, logged.draw _, rfl⟩
  -- The key is claimed anew, a number is allocated, and the message is stored.
  | none =>
    rw [found] at claimed
    refine Plan.Completes.bind (Save.claim_ends_of_gone _ _ claimed) ?_
    rintro _ _ ⟨rfl, rfl⟩
    refine Plan.Completes.bind (commit_refines config logged claimsLive numbersLive found unused) ?_
    intro outcome after ended
    split
    · exact ended
    -- What the log answers is a receipt, so that a failure is one for want of numbers.
    · rcases ended with same | ⟨same, _⟩
      · exact .inl same
      · rw [Log.save_of_free found] at same
        cases same

/-- Saves that run alone, one after the other. -/
def saveInOrder (config : SaveConfig) (allocator : Allocator) : List Submission → World →
    List (Except SaveError Receipt) × World :=
  inOrder fun submission => World.perform (save config allocator submission)

/-- However many saves follow each other over services that hold a log, they refine it. -/
theorem Logged.follow (config : SaveConfig) (claimsLive : clock < clock.plus lifetimes.committed)
    (numbersLive : clock < clock.plus allocator.lifetime) (submissions : List Submission) :
    ∀ {log : Log} {w : World}, Logged allocator clock lifetimes log w →
      w.ids.FreshFor submissions.length log →
      (∀ context conversation, .error (.allocation context (allocator.overflow conversation)) ∉
        (saveInOrder config allocator submissions w).1) →
      (saveInOrder config allocator submissions w).1 =
        (log.saveInOrder clock (submissions.zip (w.ids.candidates submissions.length))).1 ∧
      Logged allocator clock lifetimes
        (log.saveInOrder clock (submissions.zip (w.ids.candidates submissions.length))).2
        (saveInOrder config allocator submissions w).2 := by
  -- The induction is on the submissions. Each save leaves services that hold the log after it.
  induction submissions with
  | nil => exact fun logged _ _ => ⟨rfl, logged⟩
  | cons submission submissions ih =>
    intro log w logged fresh neverFull
    rcases World.perform_of_completes (save_refines config logged claimsLive numbersLive submission
      (fresh.unused _ List.mem_cons_self)) with ⟨_, full⟩ | ⟨outcome, logged', ids⟩
    · exact absurd (List.mem_cons.mpr (.inl full.symm)) (neverFull _ _)
    have rest := ih logged' (by rw [ids]; exact fresh.save clock submission)
      fun context conversation later => neverFull context conversation (List.mem_cons_of_mem _ later)
    rw [ids] at rest
    exact ⟨congr (congrArg List.cons outcome) rest.1, rest.2⟩

/-- As long as there is room for one message a save and for what is set aside, numbers do not run out. -/
theorem Logged.never_full (config : SaveConfig) (claimsLive : clock < clock.plus lifetimes.committed)
    (numbersLive : clock < clock.plus allocator.lifetime) (submissions : List Submission) :
    ∀ {log : Log} {w : World}, Logged allocator clock lifetimes log w →
      w.ids.FreshFor submissions.length log →
      log.messages.length + submissions.length + allocator.setAside ≤ UInt64.size →
      ∀ context conversation, .error (.allocation context (allocator.overflow conversation)) ∉
        (saveInOrder config allocator submissions w).1 := by
  -- The induction is on the submissions, each of which adds one message to the log at the most.
  induction submissions with
  | nil => exact fun _ _ _ _ _ => List.not_mem_nil
  | cons submission submissions ih =>
    intro log w logged fresh short context conversation member
    have fewer : (log.messagesOf (.ofOrigin submission.origin)).length ≤ log.messages.length :=
      List.length_filter_le _ _
    have longer := log.length_save_le clock submission w.ids.next.1
    rw [List.length_cons] at short
    rcases World.perform_of_completes (save_refines config logged claimsLive numbersLive submission
      (fresh.unused _ List.mem_cons_self)) with ⟨full, _⟩ | ⟨outcome, logged', ids⟩
    · omega
    rcases List.mem_cons.mp member with first | later
    · exact log.save_ne_allocation _ _ _ _ _ (outcome.symm.trans first.symm)
    · exact ih logged' (by rw [ids]; exact fresh.save clock submission) (by omega) context
        conversation later

/-- Saves one after the other refine a log: the outcomes are those of the log, its messages are what is
stored, and those of a conversation are numbered one, two, three, and so on. -/
theorem saves_refine_log (config : SaveConfig) (allocator : Allocator) (clock : Instant)
    (lifetimes : ClaimLifetimes) (ready : List ServerId) (submissions : List Submission)
    (claimsLive : clock < clock.plus lifetimes.committed)
    (numbersLive : clock < clock.plus allocator.lifetime)
    (distinct : (IdSupply.candidates ⟨ready, 0⟩ submissions.length).Nodup)
    (neverFull : ∀ context conversation,
      .error (.allocation context (allocator.overflow conversation)) ∉
        (saveInOrder config allocator submissions (.fresh clock lifetimes ready)).1) :
    let saved := saveInOrder config allocator submissions (.fresh clock lifetimes ready)
    let logged := Log.empty.saveInOrder clock
      (submissions.zip (IdSupply.candidates ⟨ready, 0⟩ submissions.length))
    saved.1 = logged.1 ∧ saved.2.store.Holds logged.2 ∧ logged.2.Numbered := by
  -- The opening world is logged as empty, and following the submissions keeps it logged.
  have ended := (logged_fresh allocator clock lifetimes ready).follow config claimsLive numbersLive
    submissions ⟨distinct, fun _ _ => rfl⟩ neverFull
  exact ⟨ended.1, ended.2.stored, ended.2.numbered⟩

/-- A greeting, the same again, another text under its name, and another message. -/
def repeatedSubmissions : List Submission := [Sample.hello, Sample.hello, Sample.other, Sample.next]

/-- The greeting and the message after it, as they are stored. -/
def repeatedLog : Log := ⟨[
  ⟨Sample.origin, ⟨Uuid.ofNat 0x1001⟩, ⟨1⟩, ⟨[]⟩, Sample.hello.fingerprint, Sample.clock⟩,
  ⟨Sample.next.origin, ⟨Uuid.ofNat 0x1004⟩, ⟨2⟩, ⟨[]⟩, Sample.next.fingerprint, Sample.clock⟩]⟩

/-- The receipts of the two, the first of them also for the resend, and the refusal of the other text. -/
def repeatedOutcomes : List (Except SaveError Receipt) :=
  [.ok ⟨⟨Uuid.ofNat 0x1001⟩, ⟨1⟩, Sample.clock⟩, .ok ⟨⟨Uuid.ofNat 0x1001⟩, ⟨1⟩, Sample.clock⟩,
    .error (.conflict (.ofOrigin Sample.origin)), .ok ⟨⟨Uuid.ofNat 0x1004⟩, ⟨2⟩, Sample.clock⟩]

/-- Blocks of a single number, so that every number is reserved anew. -/
def singleBlocks : Allocator := .segmented { SegmentConfig.standard with blockSize := .fixed 1 }

/-- The saves of these submissions, over services that held nothing. -/
def repeatedSaves : List (Except SaveError Receipt) × World :=
  saveInOrder .standard singleBlocks repeatedSubmissions (.fresh Sample.clock .standard [])

/-- Two messages are stored under the numbers one and two, and neither the resend nor the refused text
takes a number. -/
theorem repeatedSaves_refine :
    repeatedSaves.1 = repeatedOutcomes ∧ repeatedSaves.2.store.Holds repeatedLog := by
  have claimsLive : Sample.clock < Sample.clock.plus ClaimLifetimes.standard.committed := by
    decide +kernel
  have numbersLive : Sample.clock < Sample.clock.plus singleBlocks.lifetime := by decide +kernel
  have distinct : (IdSupply.candidates ⟨[], 0⟩ repeatedSubmissions.length).Nodup := by decide +kernel
  -- Four saves leave room for many more.
  have neverFull := (logged_fresh singleBlocks Sample.clock .standard []).never_full .standard
    claimsLive numbersLive repeatedSubmissions ⟨distinct, fun _ _ => rfl⟩ (by decide +kernel)
  obtain ⟨outcomes, holds, _⟩ := saves_refine_log .standard singleBlocks Sample.clock .standard []
    repeatedSubmissions claimsLive numbersLive distinct neverFull
  have logged : Log.empty.saveInOrder Sample.clock (repeatedSubmissions.zip
      (IdSupply.candidates ⟨[], 0⟩ repeatedSubmissions.length)) = (repeatedOutcomes, repeatedLog) := rfl
  rw [logged] at outcomes holds
  unfold repeatedSaves
  exact ⟨outcomes, holds⟩

end Intake
