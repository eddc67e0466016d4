import Intake.Memory.SegmentCache
import Intake.Proofs.Memory.Expiring

/-! Laws of the cache of blocks: what taking and installing answer and leave. -/

namespace Intake

namespace SegmentCache

/-- Taking hands out numbers of the live block, finds too few left and changes nothing, or finds no
live block. -/
theorem take_cases (cache : SegmentCache) (conversation : Conversation) (need : UInt64)
    (now : Instant) :
    (∃ slot expiresAt range rest,
      cache.liveEntry conversation now = some ⟨slot, expiresAt⟩ ∧
      slot.entry.take need now = (.taken range, rest) ∧
      SegmentCache.take cache conversation need now = (.taken range,
        cache.update conversation ⟨{ slot with entry := rest }, now.plus slot.lifetime⟩)) ∨
    (∃ slot expiresAt, cache.liveEntry conversation now = some ⟨slot, expiresAt⟩ ∧
      (∀ range, (slot.entry.take need now).1 ≠ .taken range) ∧
      SegmentCache.take cache conversation need now = ((slot.entry.take need now).1, cache)) ∨
    (∃ after, cache.liveEntry conversation now = none ∧
      SegmentCache.take cache conversation need now = (.notFound, after) ∧
      after.entries.find? conversation = none ∧
      ∀ other, other ≠ conversation → after.entries.find? other = cache.entries.find? other) := by
  -- Whether a block lives decides which outcomes are left, and then what the block hands out.
  unfold SegmentCache.take
  rcases cache.live_cases conversation now with
    ⟨⟨slot, expiresAt⟩, alive, looked⟩ | ⟨after, gone, looked, lost, others⟩
  · rw [looked]
    dsimp only
    cases taken : slot.entry.take need now with
    | mk outcome rest =>
      cases outcome with
      | taken range => exact .inl ⟨slot, expiresAt, range, rest, alive, taken, rfl⟩
      -- A block that hands out nothing is left in the cache as it was.
      | notFound | exhausted =>
        exact .inr (.inl ⟨slot, expiresAt, alive, by simp [taken], by simp [taken]⟩)
  · rw [looked]
    exact .inr (.inr ⟨after, gone, rfl, lost, others⟩)

/-- Installing caches a block if none lives or the one that does is superseded by it, and otherwise
changes nothing. -/
theorem install_cases (cache : SegmentCache) (conversation : Conversation) (segment : Segment)
    (lifetime : Duration) (now : Instant) :
    ((∀ slot expiresAt, cache.liveEntry conversation now = some ⟨slot, expiresAt⟩ →
        slot.entry.isSupersededBy segment = true) ∧
      ∃ base, cache.Forgets base ∧
        SegmentCache.install cache conversation segment lifetime now = (.installed,
          base.insert conversation ⟨.fresh segment now, lifetime⟩ now lifetime)) ∨
    (∃ slot expiresAt, cache.liveEntry conversation now = some ⟨slot, expiresAt⟩ ∧
      slot.entry.isSupersededBy segment = false ∧
      SegmentCache.install cache conversation segment lifetime now = (.superseded, cache)) := by
  -- A block that lives is only replaced by one that it is superseded by.
  unfold SegmentCache.install
  rcases cache.live_cases conversation now with
    ⟨⟨slot, expiresAt⟩, alive, looked⟩ | ⟨after, gone, looked, lost, others⟩
  · rw [looked]
    dsimp only
    cases newer : slot.entry.isSupersededBy segment with
    -- The live block is the one that was looked at, so it is the one superseded.
    | true =>
      refine .inl ⟨fun _ _ same => ?_, cache, .refl cache, by simp⟩
      rw [alive] at same
      cases same
      exact newer
    | false => exact .inr ⟨slot, expiresAt, alive, newer, by simp⟩
  · rw [looked]
    -- Where none lives, the look-up has at most dropped one whose time was up.
    exact .inl ⟨by simp [gone], after, .of_lost lost others, rfl⟩

/-- Taking from the block of a conversation leaves the entries of the others as they were. -/
theorem find?_take_of_ne (cache : SegmentCache) {conversation other : Conversation}
    (need : UInt64) (now : Instant) (differ : other ≠ conversation) :
    (SegmentCache.take cache conversation need now).2.entries.find? other =
      cache.entries.find? other := by
  -- Only the entry of the conversation is replaced, or dropped when its time is up.
  rcases cache.take_cases conversation need now with
    ⟨_, _, _, _, _, _, took⟩ | ⟨_, _, _, _, missed⟩ | ⟨_, _, missed, _, others⟩
  · rw [took]
    exact ExpiringTable.find?_update_of_ne _ _ differ
  · rw [missed]
  · rw [missed]
    exact others other differ

/-- Taking from the block of a conversation keeps what lives of the others. -/
theorem liveEntry_take_of_ne (cache : SegmentCache) {conversation other : Conversation}
    (need : UInt64) (now : Instant) (differ : other ≠ conversation) :
    (SegmentCache.take cache conversation need now).2.liveEntry other now =
      cache.liveEntry other now :=
  ExpiringTable.liveEntry_of_kept now (cache.find?_take_of_ne need now differ)

/-- Installing a block of a conversation forgets expired blocks of the others at the most. -/
theorem find?_of_install {cache : SegmentCache} {conversation other : Conversation}
    {segment : Segment} {lifetime : Duration} {now : Instant} {slot : Expiring SegmentSlot}
    (differ : other ≠ conversation)
    (found : (SegmentCache.install cache conversation segment lifetime now).2.entries.find? other =
      some slot) : cache.entries.find? other = some slot := by
  -- Setting the block sweeps the cache first, which is why an entry may be lost on the way.
  rcases cache.install_cases conversation segment lifetime now with
    ⟨_, base, forgot, installed⟩ | ⟨_, _, _, _, superseded⟩
  · rw [installed] at found
    exact forgot _ _ (ExpiringTable.find?_of_insert differ found)
  · rwa [superseded] at found

/-- Installing a block of a conversation keeps what lives of the others. -/
theorem liveEntry_install_of_ne (cache : SegmentCache) {conversation other : Conversation}
    (segment : Segment) (lifetime : Duration) (now : Instant) (differ : other ≠ conversation) :
    (SegmentCache.install cache conversation segment lifetime now).2.liveEntry other now =
      cache.liveEntry other now := by
  -- A block is set after a look-up of its own conversation, or the cache is left as it was.
  have looked := ExpiringTable.liveEntry_of_kept now (cache.find?_live_of_ne now differ)
  unfold SegmentCache.install
  split
  · rename_i live
    rw [live] at looked
    split
    · exact (ExpiringTable.liveEntry_insert_of_ne _ _ _ _ differ).trans looked
    · exact looked
  · rename_i live
    rw [live] at looked
    exact (ExpiringTable.liveEntry_insert_of_ne _ _ _ _ differ).trans looked

end SegmentCache

end Intake
