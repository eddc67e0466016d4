import Intake.Proofs.Samples
import Intake.Proofs.Save.Alone

/-! When a resend of a stored message is answered: a claim that another fingerprint left on its key
makes it a conflict, although the message is stored. -/

namespace Intake

/-- What a resend of a stored message needs to be answered: the live claim on its key, if there is one,
is of its fingerprint, and if there is none a number can be granted. -/
structure Answerable (allocator : Allocator) (submission : Submission) (w : World) : Prop where
  agrees : ∀ claim, w.claims.liveClaim (.ofOrigin submission.origin) w.clock = some claim →
    claim.fingerprint = submission.fingerprint
  grants : w.claims.liveClaim (.ofOrigin submission.origin) w.clock = none →
    w.CanGrant allocator (.ofOrigin submission.origin) 1

/-- What a resend of a stored message comes to: the store stays as it is, and the receipt of the message
is answered exactly if it can be. -/
structure Resent (allocator : Allocator) (submission : Submission) (row : Message) (before : World)
    (outcome : Except SaveError Receipt) (after : World) : Prop where
  settled : after.Settled
  store : after.store = before.store
  answered : outcome = .ok row.receipt ↔ Answerable allocator submission before
  /-- A live claim of another fingerprint makes it a conflict. -/
  conflict : ∀ claim,
    before.claims.liveClaim (.ofOrigin submission.origin) before.clock = some claim →
    claim.fingerprint ≠ submission.fingerprint →
    outcome = .error (.conflict (.ofOrigin submission.origin))

/-- The outcome of claiming a key with a live claim settles a resend. -/
theorem resent_of_live {allocator : Allocator} {submission : Submission} {row : Message}
    {before after : World} {outcome : Except SaveError Receipt} {claim : Claim}
    (lives : before.claims.liveClaim (.ofOrigin submission.origin) before.clock = some claim)
    (settled : after.Settled) (store : after.store = before.store)
    (conflicts : claim.fingerprint ≠ submission.fingerprint →
      outcome = .error (.conflict (.ofOrigin submission.origin)))
    (replays : claim.fingerprint = submission.fingerprint → outcome = .ok row.receipt) :
    Resent allocator submission row before outcome after := by
  -- The one live claim decides, so nothing depends on what could be granted.
  refine ⟨settled, store, ⟨fun answered => ?_, fun answerable => ?_⟩, fun claim' lives' differ => ?_⟩
  · refine ⟨fun claim' lives' => ?_, fun gone => by rw [lives] at gone; cases gone⟩
    rw [lives] at lives'
    cases lives'
    refine Decidable.byContradiction fun differ => ?_
    rw [conflicts differ] at answered
    cases answered
  · exact replays (answerable.agrees claim lives)
  · rw [lives] at lives'
    cases lives'
    exact conflicts differ

/-- Where no claim lives, whether a number can be granted settles a resend. -/
theorem resent_of_gone {allocator : Allocator} {submission : Submission} {row : Message}
    {before after : World} {outcome : Except SaveError Receipt}
    (gone : before.claims.liveClaim (.ofOrigin submission.origin) before.clock = none)
    (settled : after.Settled) (store : after.store = before.store)
    (granted : before.CanGrant allocator (.ofOrigin submission.origin) 1 → outcome = .ok row.receipt)
    (refused : ¬ before.CanGrant allocator (.ofOrigin submission.origin) 1 →
      ∃ failure, outcome = .error failure) :
    Resent allocator submission row before outcome after := by
  -- There is no claim to disagree with, so only the allocation can fail.
  have unclaimed : ∀ claim,
      before.claims.liveClaim (.ofOrigin submission.origin) before.clock ≠ some claim := by
    intro claim lives; rw [gone] at lives; cases lives
  refine ⟨settled, store, ⟨fun answered => ?_, fun answerable => granted (answerable.grants gone)⟩,
    fun claim lives => absurd lives (unclaimed claim)⟩
  refine ⟨fun claim lives => absurd lives (unclaimed claim), fun _ => ?_⟩
  refine Classical.byContradiction fun never => ?_
  obtain ⟨failure, failed⟩ := refused never
  rw [failed] at answered
  cases answered

/-- A save of a message that is stored already is a resend. -/
theorem save_completes_of_stored (config : SaveConfig) (allocator : Allocator)
    {submission : Submission} {row : Message} {w : World} (settled : w.Settled)
    (stored : w.store.findByKey (.ofOrigin submission.origin) = some row)
    (same : row.fingerprint = submission.fingerprint) :
    (save config allocator submission).Completes World.answer
      (Resent allocator submission row w) w := by
  -- A live claim is gone on from, and without one the insert finds the key taken.
  unfold save
  dsimp only
  cases lives : w.claims.liveClaim (.ofOrigin submission.origin) w.clock with
  | some claim =>
    refine (Save.claim_completes_of_live settled (.ofOrigin submission.origin)
      submission.fingerprint lives).bind ?_
    intro outcome after ended
    obtain ⟨settled, store, conflicts, replays⟩ := ended
    by_cases agree : claim.fingerprint = submission.fingerprint
    · rw [replays agree row stored same]
      exact resent_of_live lives settled store (fun differ => absurd agree differ) fun _ => rfl
    · rw [conflicts agree]
      exact resent_of_live lives settled store (fun _ => rfl) fun same => absurd same agree
  | none =>
    refine Plan.Completes.bind (Save.claim_ends_of_gone (.ofOrigin submission.origin)
      submission.fingerprint lives) ?_
    rintro _ claimed ⟨rfl, left⟩
    obtain ⟨ids, claims, rfl⟩ : ∃ ids claims, claimed = { w with ids, claims } := ⟨_, _, left⟩
    let draft : Draft :=
      ⟨submission.origin, submission.payload, submission.fingerprint, w.ids.next.1⟩
    have settled' : World.Settled { w with ids, claims } :=
      ⟨settled.consistent, settled.reserved, settled.unlocked⟩
    have committed := @Save.commit_completes_of_taken config _ settled' allocator draft row stored same
    apply committed.bind
    intro outcome after ended
    obtain ⟨settled, store, granted, refused⟩ := ended
    -- Claiming the key takes nothing that an allocation depends on.
    have sameChance : World.CanGrant { w with ids, claims } allocator draft.conversation 1 ↔
        w.CanGrant allocator (.ofOrigin submission.origin) 1 := by cases allocator <;> exact Iff.rfl
    rw [sameChance] at granted refused
    -- A number is granted before the insert is tried, so without one the save fails earlier.
    by_cases chance : w.CanGrant allocator (.ofOrigin submission.origin) 1
    · rw [granted chance]
      exact resent_of_gone lives settled store (fun _ => rfl) fun never => absurd chance never
    · obtain ⟨failure, rfl⟩ := refused chance
      apply (Save.rollBack_completes settled draft.key).bind
      intro _ later ended
      obtain ⟨settled, store'⟩ := ended
      exact resent_of_gone lives settled (store'.trans store) (fun granted => absurd granted chance)
        fun _ => ⟨failure, rfl⟩

/-- What happens between the saves of a run: saves one after the other, and a clock that moves. -/
inductive SaveEvent where
  | save (submission : Submission)
  | clock (now : Instant)

/-- The services after one more event, each save running alone from its start to its end. -/
def SaveEvent.follow (config : SaveConfig) (allocator : Allocator) (w : World) : SaveEvent → World
  | .save submission => (World.perform (Intake.save config allocator submission) w).2
  | .clock now => { w with clock := now }

/-- Saves that run one after the other leave services settled. -/
theorem settled_of_events (config : SaveConfig) (allocator : Allocator) (events : List SaveEvent)
    {w : World} (settled : w.Settled) :
    (events.foldl (SaveEvent.follow config allocator) w).Settled := by
  -- The induction is on the events, each of which leaves services settled.
  induction events generalizing w with
  | nil => exact settled
  | cons event events ih =>
    apply ih
    cases event with
    | save submission =>
      exact World.perform_of_completes (save_settles config allocator submission settled)
    | clock now => exact ⟨settled.consistent, settled.reserved, settled.unlocked⟩

/-- A save of a message that is stored answers its receipt exactly if a live claim on its key has its
fingerprint, and a number can be granted if no claim lives. -/
theorem resend_answered_iff (config : SaveConfig) (allocator : Allocator) (clock : Instant)
    (lifetimes : ClaimLifetimes) (ready : List ServerId) (events : List SaveEvent)
    (submission : Submission) (row : Message) (w : World)
    (run : w = events.foldl (SaveEvent.follow config allocator) (.fresh clock lifetimes ready))
    (stored : w.store.findByKey (.ofOrigin submission.origin) = some row)
    (same : row.fingerprint = submission.fingerprint) :
    Resent allocator submission row w (World.perform (save config allocator submission) w).1
      (World.perform (save config allocator submission) w).2 := by
  -- A run leaves services settled, and whatever such services hold, a resend does the same.
  subst run
  exact World.perform_of_completes (save_completes_of_stored config allocator
    (settled_of_events config allocator events (World.settled_fresh clock lifetimes ready))
    stored same)

/-- The services after a greeting was saved. -/
def helloSaved : World :=
  [SaveEvent.save Sample.hello].foldl
    (SaveEvent.follow .standard (.segmented .standard)) Sample.services

/-- The message that a saved greeting is stored as. -/
def storedHello : Message :=
  ⟨Sample.origin, ⟨Uuid.ofNat 0x1001⟩, ⟨1⟩, ⟨[]⟩, Sample.hello.fingerprint, Sample.clock⟩

/-- A greeting that is saved again at once is answered with the receipt of the stored one. -/
theorem helloSaved_resend_answered :
    helloSaved.store.findByKey (.ofOrigin Sample.hello.origin) = some storedHello ∧
      (World.perform (save .standard (.segmented .standard) Sample.hello) helloSaved).1 =
        .ok storedHello.receipt := by
  -- The claim that the first save left is live, committed, and of the same fingerprint.
  have stored : helloSaved.store.findByKey (.ofOrigin Sample.hello.origin) = some storedHello := by
    decide +kernel
  have claimed : helloSaved.claims.liveClaim (.ofOrigin Sample.hello.origin) helloSaved.clock =
      some ⟨⟨Uuid.ofNat 0x1001⟩, Sample.hello.fingerprint, .committed⟩ := by decide +kernel
  have resent := resend_answered_iff .standard (.segmented .standard) Sample.clock .standard []
    [.save Sample.hello] Sample.hello storedHello helloSaved rfl stored rfl
  refine ⟨stored, resent.answered.mpr ⟨fun claim lives => ?_, fun gone => ?_⟩⟩
  · rw [claimed] at lives; cases lives; rfl
  · rw [claimed] at gone; cases gone

/-- A greeting is saved, its claim expires, and another text is refused under its key. -/
def refusedAfterExpiry : List SaveEvent :=
  [.save Sample.hello, .clock (Sample.clock.plus ClaimLifetimes.standard.committed),
    .save Sample.other]

/-- The claim that a refused save leaves behind keeps a greeting that is stored from being answered. -/
theorem refusedAfterExpiry_conflicts :
    (refusedAfterExpiry.foldl (SaveEvent.follow .standard (.segmented .standard))
        Sample.services).store.findByKey (.ofOrigin Sample.hello.origin) = some storedHello ∧
      (World.perform (save .standard (.segmented .standard) Sample.hello)
        (refusedAfterExpiry.foldl (SaveEvent.follow .standard (.segmented .standard))
          Sample.services)).1 = .error (.conflict (.ofOrigin Sample.hello.origin)) := by
  -- The refused save claims the key, which the stored message's claim had left free.
  decide +kernel

end Intake
