import Intake.Memory.Expiring
import Intake.Sequence.Segment

/-! The cache of blocks in memory. -/

namespace Intake

/-- A cached block, and how long it lives after each use. -/
structure SegmentSlot where
  entry : CachedSegment
  lifetime : Duration

/-- The cached block of every conversation. -/
abbrev SegmentCache := ExpiringTable Conversation SegmentSlot

namespace SegmentCache

/-- Looks up the cached block of a conversation. -/
def entry (cache : SegmentCache) (conversation : Conversation) (now : Instant) :
    Option CachedSegment × SegmentCache :=
  match cache.live conversation now with
  | (slot, cache) => (slot.map (·.value.entry), cache)

/-- Takes numbers from the cached block of a conversation, which lives on from now if it had them. -/
def take (cache : SegmentCache) (conversation : Conversation) (need : UInt64) (now : Instant) :
    TakeOutcome × SegmentCache :=
  match cache.live conversation now with
  | (none, cache) => (.notFound, cache)
  | (some ⟨slot, _⟩, cache) =>
    match slot.entry.take need now with
    | (.taken range, entry) =>
      -- A use extends the life of the block, and keeps the rest of it.
      (.taken range, cache.update conversation ⟨{ slot with entry }, now.plus slot.lifetime⟩)
    -- A block that has too few numbers left is not touched by the attempt.
    | (outcome, _) => (outcome, cache)

/-- Caches a block of a conversation, unless numbers at or above its start may still come from the
one that is there. -/
def install (cache : SegmentCache) (conversation : Conversation) (segment : Segment)
    (lifetime : Duration) (now : Instant) : InstallOutcome × SegmentCache :=
  match cache.live conversation now with
  | (some ⟨slot, _⟩, cache) =>
    if slot.entry.isSupersededBy segment then
      (.installed, cache.insert conversation ⟨.fresh segment now, lifetime⟩ now lifetime)
    else (.superseded, cache)
  | (none, cache) =>
    (.installed, cache.insert conversation ⟨.fresh segment now, lifetime⟩ now lifetime)

end SegmentCache

end Intake
