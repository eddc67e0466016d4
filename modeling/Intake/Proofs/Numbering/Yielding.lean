import Intake.Proofs.Numbering.Gapless
import Intake.Proofs.Numbering.Reconciled
import Intake.Proofs.Numbering.Uncontended

/-! What an allocator yields that nobody gets in the way of, whatever it has cached and whatever was done to
the ledger: one number at a time until there are none left, and after it was moved past a floor only numbers
above that. -/

namespace Intake

/-- Nobody gets in the way of an allocator: what it has cached was reserved, and nobody holds the lock under
which a counter is started. -/
def Allocator.Ready : Allocator → Conversation → World → Prop
  | .segmented _, conversation, w => w.CachedReserved conversation
  | .singleCounter _, conversation, w => w.counters.locks.liveEntry conversation w.clock = none

/-- The highest number that an allocator knows of: the last one that was reserved, or else the last one that
was counted or at which a counter would be started. -/
def Allocator.reach : Allocator → Conversation → World → Nat
  | .segmented _, conversation, w => w.ledger.issued conversation
  | .singleCounter _, conversation, w =>
    max (w.counterBase conversation).toNat (w.ledger.highWater conversation).toNat

/-- What drawing one number comes to: it lies above every mark that was set, and there is none only where
it would have to lie past the largest word. -/
structure Allocator.Yields {ε : Type} (allocator : Allocator) (conversation : Conversation)
    (before : World) (overflow : ε) (outcome : Except ε SequenceNumber) (after : World) : Prop where
  clock : after.clock = before.clock
  store : after.store = before.store
  /-- No more is reserved than what is set aside for one need. -/
  reach : allocator.reach conversation after ≤
    allocator.reach conversation before + allocator.setAside
  ready : ∀ sequence, outcome = .ok sequence → allocator.Ready conversation after
  above : ∀ sequence, outcome = .ok sequence → ∀ mark,
    before.Marked allocator conversation mark → mark < sequence.value.toNat
  refused : ∀ failure, outcome = .error failure → failure = overflow ∧
    UInt64.size ≤ allocator.reach conversation before + allocator.setAside

/-- What moving an allocator past a floor comes to: all that it may still grant lies above a mark that is
not below the floor. -/
structure Allocator.Passed (allocator : Allocator) (conversation : Conversation) (floor : SequenceNumber)
    (before after : World) : Prop where
  clock : after.clock = before.clock
  store : after.store = before.store
  ready : allocator.Ready conversation after
  /-- It reaches no further than the floor, or than it did before. -/
  reach : allocator.reach conversation after ≤
    max (allocator.reach conversation before) floor.value.toNat
  marked : ∃ mark, floor.value.toNat ≤ mark ∧ after.Marked allocator conversation mark

/-- What was yielded stays so when failures are renamed. -/
theorem Allocator.Yields.rename {ε ε' : Type} {allocator : Allocator} {conversation : Conversation}
    {before after : World} {overflow : ε} {outcome : Except ε SequenceNumber}
    (yields : allocator.Yields conversation before overflow outcome after) (name : ε → ε') :
    allocator.Yields conversation before (name overflow) (outcome.mapError name) after := by
  -- Renaming changes failures only, and the one that there may be is the overflow.
  cases outcome with
  | error failure =>
    obtain ⟨rfl, full⟩ := yields.refused failure rfl
    exact ⟨yields.clock, yields.store, yields.reach, nofun, nofun, fun _ same => by
      cases same; exact ⟨rfl, full⟩⟩
  | ok sequence =>
    exact ⟨yields.clock, yields.store, yields.reach,
      fun _ same => by cases same; exact yields.ready sequence rfl,
      fun _ same => by cases same; exact yields.above sequence rfl, nofun⟩

/-- Without a counter that lives, an allocator from one knows of as much as the ledger does. -/
theorem Allocator.reach_of_gone {config : CounterConfig} {conversation : Conversation} {w : World}
    (gone : w.liveCounter conversation = none) :
    (Allocator.singleCounter config).reach conversation w =
      (w.ledger.highWater conversation).toNat := by
  -- Without a counter counting goes on from the high-water mark, which is the other bound as well.
  show max (w.counterBase conversation).toNat _ = _
  unfold World.counterBase
  rw [gone, Option.getD_none, Nat.max_self]

/-- What is yielded from services that reach as far, and where no mark is lost, is yielded from before. -/
theorem Allocator.Yields.of_alike {ε : Type} {allocator : Allocator} {conversation : Conversation}
    {w before after : World} {overflow : ε} {outcome : Except ε SequenceNumber}
    (yields : allocator.Yields conversation before overflow outcome after)
    (clock : before.clock = w.clock) (store : before.store = w.store)
    (reach : allocator.reach conversation before = allocator.reach conversation w)
    (marks : ∀ mark, w.Marked allocator conversation mark → before.Marked allocator conversation mark) :
    allocator.Yields conversation w overflow outcome after where
  -- What is said of the world before speaks of its clock, its store and its numbers only.
  clock := yields.clock.trans clock
  store := yields.store.trans store
  reach := reach ▸ yields.reach
  ready := yields.ready
  above sequence drawn mark marked := yields.above sequence drawn mark (marks mark marked)
  refused := reach ▸ yields.refused

namespace Segmented

variable {config : SegmentConfig} {conversation : Conversation} {w after : World}
  {outcome : Except AllocationError Grant}

/-- What comes from a live block with room. -/
theorem yields_fromRest {slot : Expiring SegmentSlot}
    (alive : w.segments.liveEntry conversation w.clock = some slot)
    (reserved : w.CachedReserved conversation)
    (room : slot.value.entry.current.toNat + (1 : UInt64).toNat ≤ slot.value.entry.last.toNat)
    (ended : FromRest conversation 1 w slot.value outcome after) :
    (Allocator.segmented config).Yields conversation w
      ((Allocator.segmented config).overflow conversation) (outcome.map Grant.start) after := by
  obtain ⟨range, rfl, _, spans⟩ := ended.granted
  obtain ⟨rest, current, last, rfl⟩ := ended.left
  -- The number comes from the block that was cached, which is marked and reserved.
  have found := (ExpiringTable.liveEntry_eq_some.mp alive).1
  have start : range.start.value.toNat = slot.value.entry.current.toNat + 1 :=
    congrArg Span.first spans
  refine ⟨rfl, rfl, Nat.le_add_right _ _, fun _ _ slot' found' => ?_, fun _ same mark marked => ?_,
    fun _ same => by cases same⟩
  · cases (ExpiringTable.find?_update_self _ _ _).symm.trans found'
    have bounds := reserved slot found
    dsimp only
    rw [current, last]
    exact ⟨room, bounds.2⟩
  · obtain rfl := Except.ok.inj same
    have marked := (marked.block rfl slot found).1
    show mark < range.start.value.toNat
    omega

/-- What comes from a block that is reserved for it. -/
theorem yields_fromLedger (ended : FromLedger config conversation 1 w outcome after) :
    (Allocator.segmented config).Yields conversation w
      ((Allocator.segmented config).overflow conversation) (outcome.map Grant.start) after := by
  obtain ⟨range, rfl, _, spans⟩ := ended.granted
  obtain ⟨rest, current, last, alive⟩ := ended.left
  -- The block that was reserved lies behind all that was issued, and covers the one number.
  have covers := (config.blockSize.forNeed_covers 1).1
  have start : range.start.value.toNat = w.ledger.issued conversation + 1 :=
    congrArg Span.first spans
  refine ⟨ended.only.clock, ended.only.store, Nat.le_of_eq ended.issued, fun _ _ slot found => ?_,
    fun _ same mark marked => ?_, fun _ same => by cases same⟩
  · cases (ExpiringTable.liveEntry_eq_some.mp alive).1.symm.trans found
    dsimp only
    rw [current, last, ended.issued]
    omega
  · obtain rfl := Except.ok.inj same
    have issued := marked.issued
    show mark < range.start.value.toNat
    omega

/-- An allocator from blocks yields one number at a time. -/
theorem allocate_yields (fresh : w.clock < w.clock.plus config.lifetime)
    (reserved : w.CachedReserved conversation) :
    (allocate config conversation 1).run.Completes World.answer (fun outcome after =>
      (Allocator.segmented config).Yields conversation w
        ((Allocator.segmented config).overflow conversation) (outcome.map Grant.start) after) w := by
  refine (allocate_settles (by decide) fresh reserved).mono fun outcome after ended => ?_
  rcases ended with ⟨slot, alive, room, ended⟩ | ⟨_, _, ended⟩ | ⟨_, full, ended⟩
  · exact yields_fromRest alive reserved room ended
  · exact yields_fromLedger ended
  · -- The watermarks stay as they were where nothing is left to reserve.
    obtain rfl := ended.refused
    have issued : after.ledger.issued conversation = w.ledger.issued conversation := by
      unfold Ledger.issued
      rw [ended.row]
    refine ⟨ended.only.clock, ended.only.store, ?_, nofun, nofun, fun _ same => ?_⟩
    · exact Nat.le_trans (Nat.le_of_eq issued) (Nat.le_add_right _ _)
    · cases same
      exact ⟨rfl, full⟩

end Segmented

namespace SingleCounter

variable {config : CounterConfig} {conversation : Conversation} {w : World}

/-- What comes from a live counter that can be raised. -/
theorem yields_of_room (fresh : w.clock < w.clock.plus config.lifetime) {entry : Expiring UInt64}
    {sum : UInt64} (alive : w.counters.counters.liveEntry conversation w.clock = some entry)
    (unheld : w.counters.locks.liveEntry conversation w.clock = none)
    (added : Word.checkedAdd entry.value 1 = some sum) :
    (Allocator.singleCounter config).Yields conversation w
      ((Allocator.singleCounter config).overflow conversation)
      (.ok ⟨Word.saturatingSub sum 1 + 1⟩) (w.raiseCounter conversation sum config.lifetime) := by
  have start := start_of_sum (by decide) added
  have sums := (Word.checkedAdd_eq_some.mp added).2
  -- What was raised just now lives, and is what the next number comes after.
  have set : (w.raiseCounter conversation sum config.lifetime).counters.counters.liveEntry
      conversation w.clock = some ⟨sum, w.clock.plus config.lifetime⟩ :=
    (ExpiringTable.liveEntry_of_set (ExpiringTable.find?_update_self _ _ _)).trans (if_pos fresh)
  have raised : (w.raiseCounter conversation sum config.lifetime).counterBase conversation = sum :=
    (liveCounter_of_live set).2
  refine ⟨rfl, rfl, ?_, fun _ _ => unheld, fun _ same mark marked => ?_, fun _ same => by cases same⟩
  · show max _ (w.ledger.highWater conversation).toNat ≤ max _ _ + 1
    rw [raised, (liveCounter_of_live alive).2, sums, UInt64.toNat_one]
    omega
  · obtain rfl := Except.ok.inj same
    have marked := marked.counter rfl entry (ExpiringTable.liveEntry_eq_some.mp alive).1
    dsimp only
    omega

/-- A live counter that cannot be raised yields nothing. -/
theorem yields_of_full {entry : Expiring UInt64}
    (alive : w.counters.counters.liveEntry conversation w.clock = some entry)
    (full : Word.checkedAdd entry.value 1 = none) :
    (Allocator.singleCounter config).Yields conversation w
      ((Allocator.singleCounter config).overflow conversation)
      (.error (.cache (CounterCache.overflow conversation))) w := by
  -- A counter at the end of the words has no next number, and nothing else has one either.
  have past := Word.checkedAdd_eq_none.mp full
  rw [UInt64.toNat_one] at past
  refine ⟨rfl, rfl, Nat.le_add_right _ _, fun _ same => (by cases same), fun _ same => (by cases same),
    fun _ same => ?_⟩
  cases same
  refine ⟨rfl, ?_⟩
  show UInt64.size ≤ max _ _ + 1
  rw [(liveCounter_of_live alive).2]
  omega

/-- A live counter yields the number after its value, as long as it can be raised. -/
theorem allocateIn_yields_of_live (fresh : w.clock < w.clock.plus config.lifetime)
    {entry : Expiring UInt64}
    (alive : w.counters.counters.liveEntry conversation w.clock = some entry)
    (unheld : w.counters.locks.liveEntry conversation w.clock = none) (rounds : Nat) :
    (allocateIn config conversation 1 rounds).run.Completes World.answer (fun outcome after =>
      (Allocator.singleCounter config).Yields conversation w
        ((Allocator.singleCounter config).overflow conversation) (outcome.map Grant.start) after) w := by
  -- The first thing a round does is to raise the counter, and that settles it.
  cases added : Word.checkedAdd entry.value 1 with
  | some sum =>
    have yields := yields_of_room fresh alive unheld added
    cases rounds <;> exact (tryIncrement_of_room config alive added).attempt yields
  | none =>
    have yields := @yields_of_full config conversation w entry alive added
    cases rounds <;> exact (tryIncrement_of_full config alive added).fails yields

/-- An allocator from a counter yields one number at a time, and starts the counter first if it has to. -/
theorem allocate_yields (fresh : w.clock < w.clock.plus config.lifetime)
    (unheld : w.counters.locks.liveEntry conversation w.clock = none) :
    (allocate config conversation 1).run.Completes World.answer (fun outcome after =>
      (Allocator.singleCounter config).Yields conversation w
        ((Allocator.singleCounter config).overflow conversation) (outcome.map Grant.start) after) w := by
  obtain ⟨rounds, limit⟩ :=
    Nat.exists_eq_succ_of_ne_zero (Nat.ne_of_gt (roundsOf_pos config.maxAttempts))
  unfold allocate
  rw [if_neg (by decide), limit]
  cases alive : w.counters.counters.liveEntry conversation w.clock with
  | some entry => exact allocateIn_yields_of_live fresh alive unheld _
  | none =>
    obtain ⟨missing, lost, none'⟩ := tryIncrement_of_gone config 1 alive
    refine none'.attempt (Plan.Completes.attempt (coldStart_of_unheld ?_ lost) ?_ ?_)
    · exact unheld
    · rintro failure _ ⟨impossible, _⟩
      cases impossible
    rintro _ started ⟨_, only, _, free, set⟩
    have unheld' := ExpiringTable.liveEntry_of_missing free started.clock
    have clock : started.clock = w.clock := only.clock
    have ledger : started.ledger = w.ledger := only.ledger
    have alive' : started.counters.counters.liveEntry conversation started.clock =
        some ⟨w.ledger.highWater conversation, w.clock.plus config.lifetime⟩ := by
      rw [clock]
      exact (ExpiringTable.liveEntry_of_set set).trans (if_pos fresh)
    have fresh' : started.clock < started.clock.plus config.lifetime := by rwa [clock]
    refine (allocateIn_yields_of_live fresh' alive' unheld' rounds).mono fun outcome after yields => ?_
    -- The counter was started where one that is gone would be counted on from.
    have gone : w.liveCounter conversation = none := Option.map_eq_none_iff.mpr alive
    have reach : (Allocator.singleCounter config).reach conversation started =
        (Allocator.singleCounter config).reach conversation w := by
      rw [Allocator.reach_of_gone gone]
      show max _ _ = _
      rw [(liveCounter_of_live alive').2, ledger, Nat.max_self]
    refine yields.of_alike clock only.store reach fun mark marked => ?_
    refine ⟨by rw [ledger]; exact marked.issued, nofun, fun _ entry found => ?_⟩
    cases set.symm.trans found
    exact Nat.le_trans marked.issued (w.ledger.issued_le_highWater conversation)

end SingleCounter

namespace Allocator

variable {allocator : Allocator} {conversation : Conversation} {w : World}

/-- An allocator that nobody gets in the way of yields one number at a time. -/
theorem allocate_yields (fresh : w.clock < w.clock.plus allocator.lifetime)
    (ready : allocator.Ready conversation w) :
    (allocator.allocate conversation 1).run.Completes World.answer (fun outcome after =>
      allocator.Yields conversation w (allocator.overflow conversation) (outcome.map Grant.start) after)
      w := by
  -- The two allocators have nothing in common but what is stated, so that each has its own proof.
  cases allocator with
  | segmented config => exact Segmented.allocate_yields fresh ready
  | singleCounter config => exact SingleCounter.allocate_yields fresh ready

/-- An allocator that nobody gets in the way of may be moved past a floor. -/
theorem reconcile_passes (ready : allocator.Ready conversation w) (floor : SequenceNumber) :
    (allocator.reconcile conversation floor).run.Completes World.answer (fun outcome after =>
      outcome = .ok () ∧ allocator.Passed conversation floor w after) w := by
  have raised : (Attempt.onLedger (Procedure.raiseIssued conversation floor)).run.Ends World.answer w
      (.ok ()) { w with ledger := w.ledger.raiseIssued conversation floor w.clock } :=
    .adapt_ok (.call rfl)
  have reaches : (allocator.reconcile conversation floor).run.Completes World.answer
      (fun _ after => allocator.Ready conversation after ∧
        allocator.reach conversation after ≤ max (allocator.reach conversation w) floor.value.toNat)
      w := by
    apply raised.attempt
    cases allocator with
    | segmented config =>
      refine ⟨fun slot found => ?_, Nat.le_of_eq (w.ledger.issued_raiseIssued conversation floor w.clock)⟩
      cases (ExpiringTable.find?_remove_self w.segments conversation).symm.trans found
    | singleCounter config =>
      -- Without its counter the allocator knows of no more than the ledger does.
      have gone := ExpiringTable.liveEntry_of_missing
        (ExpiringTable.find?_remove_self w.counters.counters conversation) w.clock
      have known := w.ledger.highWater_raiseIssued_le conversation floor w.clock
      refine ⟨ready, Nat.le_trans (Nat.le_of_eq (reach_of_gone (Option.map_eq_none_iff.mpr gone)))
        (Nat.le_trans known ?_)⟩
      show max _ _ ≤ max (max _ _) _
      omega
  refine ((World.Marked.of_reconciled allocator conversation floor w).both reaches).mono ?_
  rintro outcome after ⟨⟨ended, issued, elsewhere, marked⟩, ready, reach⟩
  exact ⟨ended, elsewhere.clock, elsewhere.store, ready, reach, _,
    issued ▸ Nat.le_max_right _ _, marked⟩

end Allocator

end Intake
