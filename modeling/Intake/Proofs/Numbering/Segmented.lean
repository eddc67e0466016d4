import Intake.Allocator.Segmented
import Intake.Proofs.Memory.SegmentCache
import Intake.Proofs.Memory.World
import Intake.Proofs.Numbering.Cached

/-! What an allocation from a cached block does when it runs alone. -/

namespace Intake

/-- The block for a need has room for it, and is never empty. -/
theorem BlockSize.forNeed_covers (rule : BlockSize) (need : UInt64) :
    need.toNat ≤ (rule.forNeed need).toNat ∧ 0 < (rule.forNeed need).toNat := by
  -- A rule may propose too little, which the need makes up for, and a need of zero becomes one.
  have enough : need ≤ if rule.proposed need ≤ need then need else rule.proposed need := by
    split
    · exact UInt64.le_refl _
    · rename_i above
      rw [UInt64.le_iff_toNat_le] at above ⊢
      omega
  unfold forNeed
  generalize (if rule.proposed need ≤ need then need else rule.proposed need) = block at enough ⊢
  rw [UInt64.le_iff_toNat_le] at enough
  dsimp only
  split
  · rename_i nothing
    subst nothing
    exact ⟨Nat.le_trans enough (by decide), by decide⟩
  · rename_i some
    exact ⟨enough, Word.toNat_pos some⟩

namespace World

/-- Only the ledger and the cached blocks may have changed. -/
structure SegmentsOnly (before after : World) : Prop where
  clock : after.clock = before.clock
  counters : after.counters = before.counters
  claims : after.claims = before.claims
  store : after.store = before.store
  ids : after.ids = before.ids

/-- Of two changes in a row that are only of the ledger and the blocks, so is the whole. -/
theorem SegmentsOnly.trans {first second third : World} (one : SegmentsOnly first second)
    (two : SegmentsOnly second third) : SegmentsOnly first third :=
  ⟨two.clock.trans one.clock, two.counters.trans one.counters, two.claims.trans one.claims,
    two.store.trans one.store, two.ids.trans one.ids⟩

/-- The cached block of a conversation, as long as its time is not up. -/
def liveSegment (w : World) (conversation : Conversation) : Option CachedSegment :=
  (w.segments.liveEntry conversation w.clock).map (·.value.entry)

/-- A cached block whose time is not up is the live one. -/
theorem liveSegment_of_live {w : World} {conversation : Conversation} {slot : Expiring SegmentSlot}
    (alive : w.segments.liveEntry conversation w.clock = some slot) :
    w.liveSegment conversation = some slot.value.entry := by
  -- A live segment is what a live slot holds.
  unfold liveSegment
  rw [alive]
  rfl

/-- The services after numbers are taken from a cached block, of which a rest is left. -/
def leaveRest (w : World) (conversation : Conversation) (slot : SegmentSlot)
    (rest : CachedSegment) : World :=
  { w with
    segments := w.segments.update conversation ⟨{ slot with entry := rest },
      w.clock.plus slot.lifetime⟩ }

/-- Whether the cached block has so many numbers left. -/
def HasRoom (w : World) (conversation : Conversation) (need : UInt64) : Prop :=
  ∃ entry, w.liveSegment conversation = some entry ∧
    entry.current.toNat + need.toNat ≤ entry.last.toNat

/-- Whether a block can be reserved for a need and be cached long enough to be used. -/
def CanRefill (w : World) (config : SegmentConfig) (conversation : Conversation) (need : UInt64) :
    Prop :=
  w.clock < w.clock.plus config.lifetime ∧
    w.ledger.issued conversation + (config.blockSize.forNeed need).toNat < UInt64.size

end World

namespace Segmented

variable {config : SegmentConfig} {conversation : Conversation} {need : UInt64} {w : World}

/-- From a cached block with room the next numbers are taken. -/
theorem take_of_room {slot : Expiring SegmentSlot} (positive : 0 < need.toNat)
    (alive : w.segments.liveEntry conversation w.clock = some slot)
    (ordered : slot.value.entry.current.toNat ≤ slot.value.entry.last.toNat)
    (room : slot.value.entry.current.toNat + need.toNat ≤ slot.value.entry.last.toNat) :
    ∃ range rest, range.count = need ∧
      range.span = ⟨slot.value.entry.current.toNat + 1, slot.value.entry.current.toNat + need.toNat⟩ ∧
      rest.current.toNat = slot.value.entry.current.toNat + need.toNat ∧
      rest.last = slot.value.entry.last ∧
      (Attempt.onCache (Procedure.take conversation need)).run.Ends World.answer w
        (.ok (.taken range)) (w.leaveRest conversation slot.value rest) := by
  -- The block that lives is in order, so it hands out what it has room for.
  rcases CachedSegment.take_cases ordered need w.clock with
    ⟨_, _, range, rest, taken, counts, spans, current, last⟩ | ⟨short, _⟩
  · have answered : SegmentCache.take w.segments conversation need w.clock =
        (.taken range, (w.leaveRest conversation slot.value rest).segments) := by
      unfold SegmentCache.take
      rw [ExpiringTable.live_of_alive alive]
      simp only [taken, World.leaveRest]
    refine ⟨range, rest, counts, spans, current, last, .adapt_ok (.call ?_)⟩
    simp only [World.answer, answered, World.leaveRest]
  · omega

/-- Without room in a cached block nothing is taken, and nothing is lost but an expired block. -/
theorem take_of_short (reserved : w.CachedReserved conversation)
    (short : ¬ w.HasRoom conversation need) :
    ∃ outcome after, (∀ range, outcome ≠ .taken range) ∧
      w.segments.Forgets after ∧
      (Attempt.onCache (Procedure.take conversation need)).run.Ends World.answer w (.ok outcome)
        { w with segments := after } := by
  -- A miss finds a block with too few numbers left, or none, or one whose time is up.
  rcases SegmentCache.take_cases w.segments conversation need w.clock with
    ⟨slot, _, range, rest, alive, taken, _⟩ | ⟨slot, _, alive, none', answered⟩ |
    ⟨after, _, answered, lost, others⟩
  · -- A block that gives numbers has room for them.
    have ordered := (reserved _ (ExpiringTable.liveEntry_eq_some.mp alive).1).1
    rcases CachedSegment.take_cases ordered need w.clock with ⟨_, fits, _⟩ | ⟨_, refused⟩
    · exact absurd ⟨slot.entry, World.liveSegment_of_live alive, fits⟩ short
    · rw [taken] at refused; cases refused
  -- A block that has too few numbers left stays as it is.
  · exact ⟨_, w.segments, none', .refl _, .adapt_ok (.call (by simp only [World.answer, answered]))⟩
  · exact ⟨.notFound, after, by simp, .of_lost lost others,
      .adapt_ok (.call (by simp only [World.answer, answered]))⟩

/-- A reservation that fits answers the block after the highest reserved number. -/
theorem reserve_of_fitting {count : UInt64} (positive : 0 < count.toNat)
    (fits : w.ledger.issued conversation + count.toNat < UInt64.size) :
    ∃ segment, segment.span =
        ⟨w.ledger.issued conversation + 1, w.ledger.issued conversation + count.toNat⟩ ∧
      (Attempt.onLedger (Procedure.reserve conversation count)).run.Ends World.answer w
        (.ok segment) { w with ledger := (w.ledger.reserve conversation count w.clock).2 } := by
  -- The one failure of the ledger is a number past the largest word.
  rcases w.ledger.reserve_cases conversation count w.clock with
    ⟨segment, after, reserved, _, _, spans, _⟩ | ⟨after, _, nothing, _⟩
  · exact ⟨segment, spans, .adapt_ok (.call (by simp only [World.answer, reserved]))⟩
  · omega

/-- A reservation that does not fit fails. -/
theorem reserve_of_overflow {count : UInt64}
    (full : UInt64.size ≤ w.ledger.issued conversation + count.toNat) :
    (Attempt.onLedger (Procedure.reserve conversation count)).run.Ends World.answer w
      (.error (.ledger (.overflow conversation)))
      { w with ledger := (w.ledger.reserve conversation count w.clock).2 } := by
  -- A block that would end past the largest word is refused, and the row is set as it was.
  rcases w.ledger.reserve_cases conversation count w.clock with
    ⟨_, _, _, _, fits, _⟩ | ⟨after, refused, _, _⟩
  · omega
  · exact .adapt_error (.call (by simp only [World.answer, refused]))

/-- A block above all that is cached is cached, and nothing of other conversations is lost but expired
blocks. -/
theorem install_of_newer {segment : Segment} (lifetime : Duration)
    (newer : ∀ slot, w.segments.entries.find? conversation = some slot →
      slot.value.entry.last.toNat < segment.span.first) :
    ∃ base, w.segments.Forgets base ∧
      (Attempt.onCache (Procedure.install conversation segment lifetime)).run.Ends World.answer w
        (.ok .installed) { w with
          segments := base.insert conversation ⟨.fresh segment w.clock, lifetime⟩ w.clock
            lifetime } := by
  -- The block would only be kept out by one that reaches as far, and none does.
  rcases SegmentCache.install_cases w.segments conversation segment lifetime w.clock with
    ⟨_, base, forgot, answered⟩ | ⟨slot, _, alive, older, _⟩
  · exact ⟨base, forgot, .adapt_ok (.call (by simp only [World.answer, answered]))⟩
  · unfold CachedSegment.isSupersededBy at older
    rw [decide_eq_false_iff_not, UInt64.lt_iff_toNat_lt] at older
    exact absurd (newer _ (ExpiringTable.liveEntry_eq_some.mp alive).1) older

/-- An allocation grants the next numbers of a cached block with room. -/
theorem allocateIn_of_room {slot : Expiring SegmentSlot} (config : SegmentConfig)
    (positive : 0 < need.toNat) (reserved : w.CachedReserved conversation)
    (alive : w.segments.liveEntry conversation w.clock = some slot)
    (room : slot.value.entry.current.toNat + need.toNat ≤ slot.value.entry.last.toNat)
    (rounds : Nat) :
    (allocateIn config conversation need (rounds + 1)).run.Completes World.answer
      (fun outcome after => ∃ range rest, outcome = .ok ⟨range, w.clock⟩ ∧ range.count = need ∧
        range.span = ⟨slot.value.entry.current.toNat + 1,
          slot.value.entry.current.toNat + need.toNat⟩ ∧
        rest.current.toNat = slot.value.entry.current.toNat + need.toNat ∧
        rest.last = slot.value.entry.last ∧
        after = w.leaveRest conversation slot.value rest) w := by
  -- The first take of the round succeeds, and only the clock is read after it.
  have ordered := (reserved _ (ExpiringTable.liveEntry_eq_some.mp alive).1).1
  obtain ⟨range, rest, counts, spans, current, last, took⟩ := take_of_room positive alive ordered room
  exact took.attempt ⟨range, rest, rfl, counts, spans, current, last, rfl⟩

/-- What a refill leaves: the block for a need is reserved and cached, and other conversations are as
they were, but for expired blocks. -/
structure Refilled (config : SegmentConfig) (conversation : Conversation) (need : UInt64)
    (before : World) (segment : Segment) (after : World) : Prop where
  only : before.SegmentsOnly after
  ledger : after.ledger =
    (before.ledger.reserve conversation (config.blockSize.forNeed need) before.clock).2
  spans : segment.span = ⟨before.ledger.issued conversation + 1,
    before.ledger.issued conversation + (config.blockSize.forNeed need).toNat⟩
  cached : after.segments.entries.find? conversation =
    some ⟨⟨.fresh segment before.clock, config.lifetime⟩, before.clock.plus config.lifetime⟩
  others : ∀ other slot, other ≠ conversation →
    after.segments.entries.find? other = some slot →
      before.segments.entries.find? other = some slot

/-- The second half of a round: take, and if that fails go on to the next round. -/
def retake (config : SegmentConfig) (conversation : Conversation) (need : UInt64) (rounds : Nat) :
    Attempt AllocationError Grant := do
  match ← Attempt.onCache (Procedure.take conversation need) with
  | .taken range => return ⟨range, ← ExceptT.lift Procedure.now⟩
  | _ => allocateIn config conversation need rounds

/-- Without room in a cached block a round refills and takes again. -/
theorem allocateIn_of_short {ends : Except AllocationError Grant → World → Prop} {rounds : Nat}
    (reserved : w.CachedReserved conversation) (short : ¬ w.HasRoom conversation need)
    (fits : w.ledger.issued conversation + (config.blockSize.forNeed need).toNat < UInt64.size)
    (goesOn : ∀ segment after, Refilled config conversation need w segment after →
      (retake config conversation need rounds).run.Completes World.answer ends after) :
    (allocateIn config conversation need (rounds + 1)).run.Completes World.answer ends w := by
  -- The take misses, the reservation fits, and its block lies above all that was reserved before.
  obtain ⟨outcome, left, none', forgot, missed⟩ := take_of_short reserved short
  apply missed.attempt
  split
  · rename_i range; exact absurd rfl (none' range)
  obtain ⟨segment, spans, got⟩ := @reserve_of_fitting conversation { w with segments := left } _
    (config.blockSize.forNeed_covers need).2 fits
  -- What is cached still was reserved, so it ends below the block that was reserved now.
  obtain ⟨base, forgot', installed⟩ := @install_of_newer conversation
    { w with segments := left, ledger := (w.ledger.reserve conversation _ w.clock).2 } segment
    config.lifetime fun slot found => by
      rw [spans]
      exact Nat.lt_succ_of_le (reserved slot (forgot _ _ found)).2
  refine got.attempt (installed.attempt (goesOn segment _ ⟨⟨rfl, rfl, rfl, rfl, rfl⟩, rfl, spans,
    ExpiringTable.find?_insert_self _ _ _ _ _, fun other slot differ found => ?_⟩))
  exact forgot _ _ (forgot' _ _ (ExpiringTable.find?_of_insert differ found))

/-- Without room in a cached block, and when no block can be reserved, an allocation fails. -/
theorem allocateIn_of_overflow {rounds : Nat} (reserved : w.CachedReserved conversation)
    (short : ¬ w.HasRoom conversation need)
    (full : UInt64.size ≤ w.ledger.issued conversation + (config.blockSize.forNeed need).toNat) :
    (allocateIn config conversation need (rounds + 1)).run.Completes World.answer
      (fun outcome after => outcome = .error (.ledger (.overflow conversation)) ∧
        w.SegmentsOnly after ∧ w.segments.Forgets after.segments ∧ after.ledger =
          (w.ledger.reserve conversation (config.blockSize.forNeed need) w.clock).2) w := by
  -- The take misses, and the reservation that follows it is refused.
  obtain ⟨outcome, left, none', forgot, missed⟩ := take_of_short reserved short
  apply missed.attempt
  split
  · rename_i range; exact absurd rfl (none' range)
  have refused := @reserve_of_overflow conversation { w with segments := left } _ full
  exact refused.fails ⟨rfl, ⟨rfl, rfl, rfl, rfl, rfl⟩, forgot, rfl⟩

namespace Refilled

variable {segment : Segment} {after : World}

/-- The block just cached has all of its numbers left. -/
theorem entry (refilled : Refilled config conversation need w segment after) :
    (CachedSegment.fresh segment w.clock).current.toNat = w.ledger.issued conversation ∧
      (CachedSegment.fresh segment w.clock).last.toNat =
        w.ledger.issued conversation + (config.blockSize.forNeed need).toNat := by
  -- The block is cached from the number before its first one, which is the highest reserved before.
  have spans := CachedSegment.span_fresh w.clock
    (by rw [refilled.spans]; exact Nat.succ_pos _)
  rw [refilled.spans] at spans
  simp only [CachedSegment.span, Span.mk.injEq, Nat.add_right_cancel_iff] at spans
  exact spans

/-- After a refill the last number of the block is the highest reserved one. -/
theorem issued (refilled : Refilled config conversation need w segment after) :
    after.ledger.issued conversation =
      w.ledger.issued conversation + (config.blockSize.forNeed need).toNat := by
  -- The block ends with a word, so its reservation was not refused.
  have bound := segment.last.value.toNat_lt_size
  have spans := congrArg Span.last refilled.spans
  simp only [Segment.span] at spans
  have positive := (config.blockSize.forNeed_covers need).2
  rw [refilled.ledger]
  rcases w.ledger.reserve_cases conversation (config.blockSize.forNeed need) w.clock with
    ⟨_, _, reserved, _, _, _, issued⟩ | ⟨_, _, nothing, _⟩
  · rw [reserved]; exact issued
  · omega

/-- After a refill what is cached is reserved. -/
theorem reserved (refilled : Refilled config conversation need w segment after)
    (reserved : ∀ other, w.CachedReserved other) (other : Conversation) :
    after.CachedReserved other := by
  -- The new block ends at the new mark, and the other conversations have lost blocks at the most.
  by_cases same : other = conversation
  · subst same
    intro slot found
    rw [refilled.cached] at found
    cases found
    obtain ⟨current, last⟩ := refilled.entry
    rw [refilled.issued]
    dsimp only
    omega
  · apply (reserved other).forget (fun slot => refilled.others other slot same)
    rw [refilled.ledger]
    exact w.ledger.issued_le_reserve conversation other _ _

/-- A block just cached lives if the lifetime of blocks takes it past the present. -/
theorem liveEntry (refilled : Refilled config conversation need w segment after) :
    after.segments.liveEntry conversation after.clock =
      if w.clock < w.clock.plus config.lifetime then
        some ⟨⟨.fresh segment w.clock, config.lifetime⟩, w.clock.plus config.lifetime⟩
      else none := by
  -- The block was cached at this very moment, so only its lifetime decides.
  rw [refilled.only.clock]
  exact ExpiringTable.liveEntry_of_set refilled.cached

end Refilled

/-- What an allocation from cached blocks comes to when it runs alone: numbers are granted if the cached
block has room for them or can be replaced by one that has. -/
structure Supplied (config : SegmentConfig) (conversation : Conversation) (need : UInt64)
    (before : World) (outcome : Except AllocationError Grant) (after : World) : Prop where
  only : before.SegmentsOnly after
  /-- What is cached of any conversation stays reserved. -/
  reserved : ∀ other, after.CachedReserved other
  granted : before.HasRoom conversation need ∨ before.CanRefill config conversation need →
    ∃ grant, outcome = .ok grant ∧ grant.range.count = need
  refused : ¬ (before.HasRoom conversation need ∨ before.CanRefill config conversation need) →
    ∃ failure, outcome = .error failure

/-- After numbers are taken from a cached block, what is cached is still reserved. -/
theorem reserved_of_taken {slot : Expiring SegmentSlot} {rest : CachedSegment}
    (reserved : ∀ other, w.CachedReserved other)
    (alive : w.segments.liveEntry conversation w.clock = some slot)
    (room : slot.value.entry.current.toNat + need.toNat ≤ slot.value.entry.last.toNat)
    (current : rest.current.toNat = slot.value.entry.current.toNat + need.toNat)
    (last : rest.last = slot.value.entry.last) (other : Conversation) :
    (w.leaveRest conversation slot.value rest).CachedReserved other := by
  -- The rest of the block ends where the block did, and the other blocks are as they were.
  by_cases same : other = conversation
  · subst same
    intro slot' found
    simp only [World.leaveRest, ExpiringTable.find?_update_self] at found
    cases found
    have bounds := reserved other slot (ExpiringTable.liveEntry_eq_some.mp alive).1
    show rest.current.toNat ≤ rest.last.toNat ∧ rest.last.toNat ≤ w.ledger.issued other
    rw [last, current]
    omega
  · refine (reserved other).forget (fun slot' found => ?_) (Nat.le_refl _)
    simpa only [World.leaveRest, ExpiringTable.find?_update_of_ne _ _ same] using found

/-- A cached block with room supplies an allocation. -/
theorem supplied_of_room {slot : Expiring SegmentSlot} (config : SegmentConfig)
    (positive : 0 < need.toNat) (reserved : ∀ other, w.CachedReserved other)
    (alive : w.segments.liveEntry conversation w.clock = some slot)
    (room : slot.value.entry.current.toNat + need.toNat ≤ slot.value.entry.last.toNat)
    (rounds : Nat) :
    (allocateIn config conversation need (rounds + 1)).run.Completes World.answer
      (Supplied config conversation need w) w := by
  -- What is granted is taken from the one block, and nothing else changes.
  apply (allocateIn_of_room config positive (reserved conversation) alive room rounds).mono
  intro _ _ ended
  obtain ⟨range, rest, rfl, counts, _, current, last, rfl⟩ := ended
  have hasRoom : w.HasRoom conversation need := ⟨_, World.liveSegment_of_live alive, room⟩
  exact ⟨⟨rfl, rfl, rfl, rfl, rfl⟩, reserved_of_taken reserved alive room current last,
    fun _ => ⟨_, rfl, counts⟩, fun never => absurd (.inl hasRoom) never⟩

/-- A block just cached supplies an allocation when it lives. -/
theorem supplied_of_refill {segment : Segment} {after : World} {rounds : Nat}
    (positive : 0 < need.toNat) (reserved : ∀ other, w.CachedReserved other)
    (fresh : w.clock < w.clock.plus config.lifetime)
    (refilled : Refilled config conversation need w segment after) :
    (retake config conversation need rounds).run.Completes World.answer
      (Supplied config conversation need w) after := by
  -- The block just cached lives and is made for the need, so it has room for it.
  have alive := refilled.liveEntry
  rw [if_pos fresh] at alive
  obtain ⟨current, last⟩ := refilled.entry
  have covers := (config.blockSize.forNeed_covers need).1
  have fits := after.ledger.issued_lt_size conversation
  rw [refilled.issued] at fits
  obtain ⟨range, rest, counts, _, current', last', took⟩ := take_of_room positive alive
    (by dsimp only; omega) (by dsimp only; omega)
  have reserved' := reserved_of_taken (refilled.reserved reserved) alive (by dsimp only; omega)
    current' last'
  obtain ⟨clock, counters, claims, store, ids⟩ := refilled.only
  apply took.attempt
  show Supplied config conversation need w (.ok ⟨range, after.clock⟩) _
  exact ⟨⟨clock, counters, claims, store, ids⟩, reserved', fun _ => ⟨_, rfl, counts⟩,
    fun never => absurd (.inr ⟨fresh, fits⟩) never⟩

/-- Where the cached block does not live and blocks never do, nothing is supplied. -/
theorem Refilled.stale {segment : Segment} {after : World}
    (refilled : Refilled config conversation need w segment after)
    (stale : ¬ w.clock < w.clock.plus config.lifetime) :
    ¬ (after.HasRoom conversation need ∨ after.CanRefill config conversation need) := by
  -- A block whose lifetime is no time at all is gone at once, also the one that would replace it.
  have gone := refilled.liveEntry
  rw [if_neg stale] at gone
  intro given
  rcases given with ⟨entry, lives, _⟩ | ⟨fresh, _⟩
  · unfold World.liveSegment at lives
    rw [gone] at lives
    cases lives
  · rw [refilled.only.clock] at fresh
    exact stale fresh

/-- What a failed allocation leaves before the next round is what a refused one may leave. -/
theorem Supplied.of_refused {middle after : World} {outcome : Except AllocationError Grant}
    (supplied : Supplied config conversation need middle outcome after)
    (only : w.SegmentsOnly middle)
    (never : ¬ (w.HasRoom conversation need ∨ w.CanRefill config conversation need))
    (never' : ¬ (middle.HasRoom conversation need ∨ middle.CanRefill config conversation need)) :
    Supplied config conversation need w outcome after :=
  -- Neither before nor after the round was there a chance, so that only the refusal is left to state.
  ⟨only.trans supplied.only, supplied.reserved, fun chance => absurd chance never,
    fun _ => supplied.refused never'⟩

/-- After a block that does not live is cached, the round takes nothing. -/
theorem retake_of_stale {segment : Segment} {after : World} {rounds : Nat}
    {ends : Except AllocationError Grant → World → Prop}
    (reserved : ∀ other, w.CachedReserved other)
    (stale : ¬ w.clock < w.clock.plus config.lifetime)
    (refilled : Refilled config conversation need w segment after)
    (goesOn : ∀ later : World, (∀ other, later.CachedReserved other) → w.SegmentsOnly later →
      ¬ (later.HasRoom conversation need ∨ later.CanRefill config conversation need) →
      (allocateIn config conversation need rounds).run.Completes World.answer ends later) :
    (retake config conversation need rounds).run.Completes World.answer ends after := by
  -- Nothing lives after the refill, so the take misses and the next round is no better off.
  have never := refilled.stale stale
  obtain ⟨outcome, left, none', forgot, missed⟩ :=
    take_of_short (refilled.reserved reserved conversation) fun room => never (.inl room)
  apply missed.attempt
  split
  · rename_i range; exact absurd rfl (none' range)
  have reserved' := refilled.reserved reserved
  obtain ⟨clock, counters, claims, store, ids⟩ := refilled.only
  refine goesOn { after with segments := left }
    (fun other => (reserved' other).forget (forgot other) (Nat.le_refl _))
    ⟨clock, counters, claims, store, ids⟩ ?_
  intro given
  rcases given with ⟨entry, lives, room⟩ | refill
  · -- What lives is left from before, and had no room then.
    obtain ⟨slot, alive, rfl⟩ := Option.map_eq_some_iff.mp lives
    obtain ⟨found, live⟩ := ExpiringTable.liveEntry_eq_some.mp alive
    have before := ExpiringTable.liveEntry_eq_some.mpr ⟨forgot _ _ found, live⟩
    exact never (.inl ⟨slot.value.entry, World.liveSegment_of_live before, room⟩)
  · exact never (.inr refill)

/-- However many rounds are left, what is granted is what the caches and the ledger can supply. -/
theorem allocateIn_completes (config : SegmentConfig) (positive : 0 < need.toNat) (rounds : Nat) :
    ∀ {w : World}, (∀ other, w.CachedReserved other) →
      (0 < rounds ∨ ¬ (w.HasRoom conversation need ∨ w.CanRefill config conversation need)) →
      (allocateIn config conversation need rounds).run.Completes World.answer
        (Supplied config conversation need w) w := by
  -- The induction is on the rounds that are left, whatever services a round finds.
  induction rounds with
  | zero =>
    intro w reserved never
    -- Without rounds there is no grant, so there must not have been a chance of one.
    have never := never.resolve_left (Nat.lt_irrefl 0)
    exact ⟨⟨rfl, rfl, rfl, rfl, rfl⟩, reserved, fun chance => absurd chance never, fun _ => ⟨_, rfl⟩⟩
  | succ rounds ih =>
    intro w reserved _
    -- A block with room settles it. Otherwise the round depends on what can be reserved.
    by_cases room : w.HasRoom conversation need
    · obtain ⟨entry, lives, room⟩ := room
      obtain ⟨slot, alive, rfl⟩ := Option.map_eq_some_iff.mp lives
      exact supplied_of_room config positive reserved alive room rounds
    rcases Nat.lt_or_ge (w.ledger.issued conversation + (config.blockSize.forNeed need).toNat)
      UInt64.size with fits | full
    · refine allocateIn_of_short (reserved conversation) room fits fun segment after refilled => ?_
      -- A block that lives is taken from. One that does not leaves it to the rounds after this one.
      by_cases fresh : w.clock < w.clock.plus config.lifetime
      · exact supplied_of_refill positive reserved fresh refilled
      · have never : ¬ (w.HasRoom conversation need ∨ w.CanRefill config conversation need) := by
          intro given
          rcases given with hasRoom | ⟨lives, _⟩
          · exact room hasRoom
          · exact fresh lives
        refine retake_of_stale reserved fresh refilled fun later reserved' only never' => ?_
        exact (ih reserved' (.inr never')).mono fun _ _ supplied =>
          supplied.of_refused only never never'
    -- The ledger has no block left, and its refusal changes no mark.
    · apply (allocateIn_of_overflow (reserved conversation) room full).mono
      intro _ after ended
      obtain ⟨rfl, only, forgot, ledger⟩ := ended
      refine ⟨only, fun other => ?_, ?_, fun _ => ⟨_, rfl⟩⟩
      · apply (reserved other).forget (fun slot => forgot other slot)
        rw [ledger]
        exact w.ledger.issued_le_reserve conversation other _ _
      · intro given
        rcases given with hasRoom | ⟨_, fits⟩
        · exact absurd hasRoom room
        · omega

/-- An allocation from cached blocks that runs alone is supplied from them and the ledger. -/
theorem allocate_completes (config : SegmentConfig) (positive : 0 < need.toNat)
    (reserved : ∀ other, w.CachedReserved other) :
    (allocate config conversation need).run.Completes World.answer
      (Supplied config conversation need w) w := by
  -- A need above zero gets at least one round.
  have some : need ≠ 0 := by rintro rfl; exact absurd positive (by decide)
  unfold allocate
  rw [if_neg some]
  exact allocateIn_completes config positive _ reserved (.inl (roundsOf_pos _))

end Segmented

end Intake
