import Intake.Proofs.Memory.Refusals
import Intake.Proofs.Numbering.Segmented
import Intake.Proofs.Samples

/-! An allocation from cached blocks that nobody gets in the way of: what it grants and what it leaves, for
every need, every rule for the size of blocks, and up to the largest word. -/

namespace Intake

/-- So many numbers are granted, the first of them right after a given one. -/
def Grant.Follows (grant : Grant) (previous : Nat) (need : UInt64) : Prop :=
  grant.range.count = need ∧ grant.range.span = ⟨previous + 1, previous + need.toNat⟩

namespace Ledger

variable {ledger : Ledger} {conversation : Conversation}

/-- Every reservation is counted, also one that is refused. -/
theorem reservations_reserve (ledger : Ledger) (conversation : Conversation) (count : UInt64)
    (now : Instant) :
    (ledger.reserve conversation count now).2.reservations = ledger.reservations + 1 := by
  -- The call is counted before its outcome is known.
  unfold reserve
  dsimp only
  split <;> rfl

/-- A block that would end past the largest word is refused, and the watermarks stay as they were. -/
theorem load_reserve_of_overflow {count : UInt64} (positive : 0 < count.toNat)
    (full : UInt64.size ≤ ledger.issued conversation + count.toNat) (now : Instant) :
    (ledger.reserve conversation count now).2.load conversation = ledger.load conversation := by
  rcases ledger.reserve_cases conversation count now with
    ⟨_, _, _, _, fits, _⟩ | ⟨after, refused, _, _⟩
  · omega
  have kept := load_of_refused (congrArg Prod.fst refused)
  -- Without watermarks nothing is reserved, and then every block would fit.
  cases loaded : ledger.load conversation with
  | none =>
    have zero := zero_of_refused loaded (congrArg Prod.fst refused)
    exact absurd positive (by simp [zero])
  | some row => rw [kept, rowOrEmpty, loaded, Option.getD_some]

end Ledger

/-- A take that hands out nothing leaves the block that lives as it was. -/
theorem SegmentCache.liveEntry_take_of_missed {cache : SegmentCache} {conversation : Conversation}
    {need : UInt64} {now : Instant}
    (missed : ∀ range, (SegmentCache.take cache conversation need now).1 ≠ .taken range) :
    (SegmentCache.take cache conversation need now).2.liveEntry conversation now =
      cache.liveEntry conversation now := by
  -- A miss leaves a live block as it is, and drops at most one that has expired.
  rcases SegmentCache.take_cases cache conversation need now with
    ⟨_, _, range, _, _, _, took⟩ | ⟨_, _, _, _, kept⟩ | ⟨after, gone, looked, lost, _⟩
  · exact absurd (congrArg Prod.fst took) (missed range)
  · rw [kept]
  · rw [looked, gone, ExpiringTable.liveEntry, lost]
    rfl

namespace Segmented

variable {config : SegmentConfig} {conversation : Conversation} {need : UInt64} {w : World}

/-- From a live block with room the next numbers are granted, and nothing changes but that they are gone
from the block, whose life starts again. -/
structure FromRest (conversation : Conversation) (need : UInt64) (before : World)
    (slot : SegmentSlot) (outcome : Except AllocationError Grant) (after : World) : Prop where
  granted : ∃ range, outcome = .ok ⟨range, before.clock⟩ ∧
    Grant.Follows ⟨range, before.clock⟩ slot.entry.current.toNat need
  ledger : after.ledger = before.ledger
  left : ∃ rest : CachedSegment, rest.current.toNat = slot.entry.current.toNat + need.toNat ∧
    rest.last = slot.entry.last ∧ after = before.leaveRest conversation slot rest

/-- From a block that is reserved for the need the first numbers are granted, and the rest of it is cached. -/
structure FromLedger (config : SegmentConfig) (conversation : Conversation) (need : UInt64)
    (before : World) (outcome : Except AllocationError Grant) (after : World) : Prop where
  granted : ∃ range, outcome = .ok ⟨range, before.clock⟩ ∧
    Grant.Follows ⟨range, before.clock⟩ (before.ledger.issued conversation) need
  reserved : after.ledger =
    (before.ledger.reserve conversation (config.blockSize.forNeed need) before.clock).2
  once : after.ledger.reservations = before.ledger.reservations + 1
  issued : after.ledger.issued conversation =
    before.ledger.issued conversation + (config.blockSize.forNeed need).toNat
  left : ∃ rest : CachedSegment,
    rest.current.toNat = before.ledger.issued conversation + need.toNat ∧
    rest.last.toNat =
      before.ledger.issued conversation + (config.blockSize.forNeed need).toNat ∧
    after.segments.liveEntry conversation after.clock =
      some ⟨⟨rest, config.lifetime⟩, before.clock.plus config.lifetime⟩
  only : before.SegmentsOnly after

/-- No numbers are granted as none are left to reserve, and both the watermarks and the block that lives
stay as they were. -/
structure Exhausted (conversation : Conversation) (before : World)
    (outcome : Except AllocationError Grant) (after : World) : Prop where
  refused : outcome = .error (.ledger (.overflow conversation))
  row : after.ledger.load conversation = before.ledger.load conversation
  block : after.segments.liveEntry conversation after.clock =
    before.segments.liveEntry conversation before.clock
  only : before.SegmentsOnly after

/-- The block just reserved for a need lives, so the need is granted from it. -/
theorem retake_of_fresh {segment : Segment} {after : World} {rounds : Nat}
    (positive : 0 < need.toNat) (fresh : w.clock < w.clock.plus config.lifetime)
    (refilled : Refilled config conversation need w segment after) :
    (retake config conversation need rounds).run.Completes World.answer
      (FromLedger config conversation need w) after := by
  have alive := refilled.liveEntry
  rw [if_pos fresh] at alive
  obtain ⟨current, last⟩ := refilled.entry
  have covers := (config.blockSize.forNeed_covers need).1
  obtain ⟨range, rest, counts, spans, current', last', took⟩ := take_of_room positive alive
    (by dsimp only; omega) (by dsimp only; omega)
  dsimp only at spans current' last'
  rw [current] at spans current'
  obtain ⟨clock, counters, claims, store, ids⟩ := refilled.only
  apply took.attempt
  show FromLedger config conversation need w (.ok ⟨range, after.clock⟩) _
  rw [clock]
  refine ⟨⟨range, rfl, counts, spans⟩, refilled.ledger, ?_, refilled.issued,
    ⟨rest, current', by rw [last', last], ?_⟩, ⟨clock, counters, claims, store, ids⟩⟩
  · exact (congrArg Ledger.reservations refilled.ledger).trans (Ledger.reservations_reserve ..)
  -- The take has set the block again, at the same moment and for the same time.
  · have set := ExpiringTable.find?_update_self after.segments conversation
      (⟨⟨rest, config.lifetime⟩, after.clock.plus config.lifetime⟩ : Expiring SegmentSlot)
    rw [← clock]
    refine (ExpiringTable.liveEntry_of_set set).trans (if_pos ?_)
    rw [clock]
    exact fresh

/-- Without room in a live block, and when no block can be reserved, all is left as it was. -/
theorem allocateIn_of_exhausted {rounds : Nat} (reserved : w.CachedReserved conversation)
    (short : ¬ w.HasRoom conversation need)
    (full : UInt64.size ≤ w.ledger.issued conversation + (config.blockSize.forNeed need).toNat) :
    (allocateIn config conversation need (rounds + 1)).run.Completes World.answer
      (Exhausted conversation w) w := by
  -- The take hands out nothing, since a block that hands out numbers has room for them.
  have missed : ∀ range, (SegmentCache.take w.segments conversation need w.clock).1 ≠ .taken range := by
    intro range took
    obtain ⟨_, _, none', _, ended⟩ := take_of_short reserved short
    exact none' range (Except.ok.inj ended.1 ▸ took)
  have looked : (Attempt.onCache (Procedure.take conversation need)).run.Ends World.answer w
      (.ok (SegmentCache.take w.segments conversation need w.clock).1)
      { w with segments := (SegmentCache.take w.segments conversation need w.clock).2 } :=
    .adapt_ok (.call rfl)
  apply looked.attempt
  split
  · rename_i range took; exact absurd took (missed range)
  have refused := @reserve_of_overflow conversation
    { w with segments := (SegmentCache.take w.segments conversation need w.clock).2 } _ full
  exact refused.fails ⟨rfl,
    Ledger.load_reserve_of_overflow (config.blockSize.forNeed_covers need).2 full w.clock,
    SegmentCache.liveEntry_take_of_missed missed, ⟨rfl, rfl, rfl, rfl, rfl⟩⟩

/-- An allocation takes from a live block with room, and otherwise from the ledger while that has numbers. -/
theorem allocate_settles (positive : 0 < need.toNat) (fresh : w.clock < w.clock.plus config.lifetime)
    (reserved : w.CachedReserved conversation) :
    (allocate config conversation need).run.Completes World.answer (fun outcome after =>
      (∃ slot, w.segments.liveEntry conversation w.clock = some slot ∧
        slot.value.entry.current.toNat + need.toNat ≤ slot.value.entry.last.toNat ∧
        FromRest conversation need w slot.value outcome after) ∨
      (¬ w.HasRoom conversation need ∧
        w.ledger.issued conversation + (config.blockSize.forNeed need).toNat < UInt64.size ∧
        FromLedger config conversation need w outcome after) ∨
      (¬ w.HasRoom conversation need ∧
        UInt64.size ≤ w.ledger.issued conversation + (config.blockSize.forNeed need).toNat ∧
        Exhausted conversation w outcome after)) w := by
  -- There is at least one round, and the first one settles it.
  obtain ⟨rounds, limit⟩ := Nat.exists_eq_add_of_lt (roundsOf_pos config.maxAttempts)
  have some : need ≠ 0 := by rintro rfl; exact absurd positive (by decide)
  unfold allocate
  rw [if_neg some, limit, Nat.zero_add]
  by_cases room : w.HasRoom conversation need
  · obtain ⟨entry, lives, room⟩ := room
    obtain ⟨slot, alive, rfl⟩ := Option.map_eq_some_iff.mp lives
    refine (allocateIn_of_room config positive reserved alive room rounds).mono fun _ _ ended => ?_
    obtain ⟨range, rest, granted, counts, spans, current, last, left⟩ := ended
    exact .inl ⟨slot, alive, room, ⟨range, granted, counts, spans⟩, by rw [left]; rfl,
      ⟨rest, current, last, left⟩⟩
  rcases Nat.lt_or_ge (w.ledger.issued conversation + (config.blockSize.forNeed need).toNat)
    UInt64.size with fits | full
  · refine allocateIn_of_short reserved room fits fun segment after refilled => ?_
    exact (retake_of_fresh positive fresh refilled).mono fun _ _ ended =>
      .inr (.inl ⟨room, fits, ended⟩)
  · exact (allocateIn_of_exhausted reserved room full).mono fun _ _ ended =>
      .inr (.inr ⟨room, full, ended⟩)

/-- An allocation that nobody gets in the way of is served from the live block if that has room, and
otherwise from a new one. It never runs out of rounds. -/
theorem allocate_uncontended (config : SegmentConfig) (conversation : Conversation) (need : UInt64)
    {w : World} (fresh : w.clock < w.clock.plus config.lifetime)
    (reserved : w.CachedReserved conversation) :
    let outcome := (w.perform (allocate config conversation need).run).1
    let after := (w.perform (allocate config conversation need).run).2
    let block := (config.blockSize.forNeed need).toNat
    max need.toNat 1 ≤ block ∧
      (need = 0 → outcome = .error .zeroNeed ∧ after = w) ∧
      (need ≠ 0 → ∀ slot, w.segments.liveEntry conversation w.clock = some slot →
        slot.value.entry.current.toNat + need.toNat ≤ slot.value.entry.last.toNat →
        FromRest conversation need w slot.value outcome after) ∧
      (need ≠ 0 → ¬ w.HasRoom conversation need →
        w.ledger.issued conversation + block < UInt64.size →
        FromLedger config conversation need w outcome after) ∧
      (need ≠ 0 → ¬ w.HasRoom conversation need →
        UInt64.size ≤ w.ledger.issued conversation + block →
        Exhausted conversation w outcome after) ∧
      ∀ other rounds, outcome ≠ .error (.retriesExhausted other rounds) := by
  intro outcome after block
  obtain ⟨covers, positive⟩ := config.blockSize.forNeed_covers need
  refine ⟨Nat.max_le.mpr ⟨covers, positive⟩, ?_⟩
  by_cases nothing : need = 0
  · -- Nothing is called when nothing is asked for.
    have refused : (allocate config conversation need).run = .done (.error .zeroNeed) := by
      unfold allocate
      rw [if_pos nothing]
      rfl
    have ended : outcome = .error .zeroNeed ∧ after = w := by
      constructor <;> simp only [outcome, after, refused] <;> rfl
    refine ⟨fun _ => ended, fun some => absurd nothing some, fun some => absurd nothing some,
      fun some => absurd nothing some, fun _ _ gaveUp => ?_⟩
    cases ended.1.symm.trans gaveUp
  refine ⟨fun zero => absurd zero nothing, ?_⟩
  have settled := World.perform_of_completes
    (allocate_settles (Word.toNat_pos nothing) fresh reserved)
  rcases settled with ⟨slot, alive, room, ended⟩ | ⟨short, fits, ended⟩ | ⟨short, full, ended⟩
  · have hasRoom : w.HasRoom conversation need := ⟨_, World.liveSegment_of_live alive, room⟩
    obtain ⟨range, granted, _⟩ := ended.granted
    refine ⟨fun _ slot' alive' _ => ?_, fun _ short => absurd hasRoom short,
      fun _ short => absurd hasRoom short, fun _ _ gaveUp => ?_⟩
    · obtain rfl : slot = slot' := Option.some.inj (alive.symm.trans alive')
      exact ended
    · cases granted.symm.trans gaveUp
  · obtain ⟨range, granted, _⟩ := ended.granted
    refine ⟨fun _ slot alive room => absurd ⟨_, World.liveSegment_of_live alive, room⟩ short,
      fun _ _ _ => ended, fun _ _ full => absurd fits (Nat.not_lt.mpr full), fun _ _ gaveUp => ?_⟩
    cases granted.symm.trans gaveUp
  · refine ⟨fun _ slot alive room => absurd ⟨_, World.liveSegment_of_live alive, room⟩ short,
      fun _ _ fits => absurd fits (Nat.not_lt.mpr full), fun _ _ _ => ended, fun _ _ gaveUp => ?_⟩
    cases ended.refused.symm.trans gaveUp

/-- A rule that asks for no block still gets one that has room for the need. -/
theorem stingyRule_grants_need :
    let config : SegmentConfig := ⟨.custom fun _ => 0, Duration.ofSeconds 3600, 4⟩
    let ended := Sample.services.perform (allocate config Sample.conversation 5).run
    Sample.services.clock < Sample.services.clock.plus config.lifetime ∧
      Sample.services.CachedReserved Sample.conversation ∧
      FromLedger config Sample.conversation 5 Sample.services ended.1 ended.2 := by
  intro config ended
  -- The rule gives nothing, and a block is never smaller than the need.
  have fresh : Sample.services.clock < Sample.services.clock.plus config.lifetime := by decide
  have reserved : Sample.services.CachedReserved Sample.conversation := fun _ found => by cases found
  have empty : ¬ Sample.services.HasRoom Sample.conversation 5 := by
    rintro ⟨_, lives, _⟩
    cases lives
  obtain ⟨_, _, _, fromLedger, _⟩ := allocate_uncontended config Sample.conversation 5 fresh reserved
  exact ⟨fresh, reserved, fromLedger (by decide) empty (by decide)⟩

end Segmented

end Intake
