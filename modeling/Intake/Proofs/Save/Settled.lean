import Intake.Allocator.Basic
import Intake.Proofs.Memory.MessageStore
import Intake.Proofs.Numbering.Segmented
import Intake.Proofs.Numbering.SingleCounter

/-! Services between saves that run one after the other: what holds of them whenever none is under
way. -/

namespace Intake

namespace World

/-- The store is consistent, what is cached was reserved, and no lock is left. -/
structure Settled (w : World) : Prop where
  consistent : w.store.Consistent
  reserved : ∀ conversation, w.CachedReserved conversation
  unlocked : w.Unlocked

/-- Services that hold nothing yet are settled. -/
theorem settled_fresh (clock : Instant) (lifetimes : ClaimLifetimes) (ready : List ServerId) :
    (World.fresh clock lifetimes ready).Settled where
  consistent := MessageStore.consistent_empty
  reserved := fun _ _ found => by cases found
  unlocked := fun _ => rfl

/-- Whether so many numbers can be granted by an allocator that runs alone. -/
def CanGrant (w : World) : Allocator → Conversation → UInt64 → Prop
  | .segmented config, conversation, need =>
    w.HasRoom conversation need ∨ w.CanRefill config conversation need
  | .singleCounter config, conversation, need => w.CanCount config conversation need

end World

/-- The calls that only allocations make. -/
def Service.Allocates : Request → Bool
  | .reserve _ _ | .take _ _ | .install _ _ _ | .increment _ _ _ | .seedCounter _ _ _ | .lock _ _ _
  | .unlock _ _ => true
  | _ => false

namespace World.Settled

variable {w : World}

/-- A change of the ledger that lowers nothing and a cache that forgets leave services settled. -/
theorem advance (settled : w.Settled) {after : World} (consistent : after.store.Consistent)
    (cached : w.segments.Forgets after.segments) (locks : after.counters.locks = w.counters.locks)
    (risen : ∀ conversation, w.ledger.issued conversation ≤ after.ledger.issued conversation) :
    after.Settled where
  -- A cache may forget and a row may rise, and both keep the blocks below what is issued.
  consistent := consistent
  reserved := fun conversation =>
    (settled.reserved conversation).forget (cached conversation) (risen conversation)
  unlocked := fun conversation => by rw [locks]; exact settled.unlocked conversation

/-- A call that is not for an allocation leaves services settled. -/
theorem answer (settled : w.Settled) {request : Service.Request}
    (other : Service.Allocates request = false) : (World.answer request w).2.Settled := by
  -- A call enters a message, raises a mark, drops a block, or leaves all of this alone.
  have same : ∀ conversation, w.ledger.issued conversation ≤ w.ledger.issued conversation :=
    fun _ => Nat.le_refl _
  cases request
  case insert message =>
    exact settled.advance (settled.consistent.insert message) (.refl _) rfl same
  case raiseIssued conversation floor =>
    exact settled.advance settled.consistent (.refl _) rfl fun other =>
      w.ledger.issued_le_raiseIssued conversation other floor w.clock
  case raiseCommitted conversation stored =>
    exact settled.advance settled.consistent (.refl _) rfl fun other =>
      w.ledger.issued_le_raiseCommitted conversation other stored w.clock
  case raiseRetained conversation floor =>
    exact settled.advance settled.consistent (.refl _) rfl fun other =>
      Nat.le_of_eq (w.ledger.issued_raiseRetained conversation other floor w.clock).symm
  case dropSegment conversation =>
    exact settled.advance settled.consistent (w.segments.remove_forgets conversation) rfl same
  case reserve | take | install | increment | seedCounter | lock | unlock => cases other
  all_goals exact settled.advance settled.consistent (.refl _) rfl same

end World.Settled

/-- What an allocation comes to when it runs alone: numbers are granted if they can be, and neither
the messages, the claims, the identifiers nor the clock change. -/
structure Allocator.Allocated (allocator : Allocator) (conversation : Conversation) (need : UInt64)
    (before : World) (outcome : Except AllocationError Grant) (after : World) : Prop where
  settled : after.Settled
  clock : after.clock = before.clock
  claims : after.claims = before.claims
  store : after.store = before.store
  ids : after.ids = before.ids
  granted : before.CanGrant allocator conversation need → ∃ grant, outcome = .ok grant
  refused : ¬ before.CanGrant allocator conversation need → ∃ failure, outcome = .error failure

/-- An allocation that runs alone ends, in whatever way it is done. -/
theorem Allocator.allocate_completes (allocator : Allocator) (conversation : Conversation)
    {need : UInt64} (positive : 0 < need.toNat) {w : World} (settled : w.Settled) :
    (allocator.allocate conversation need).run.Completes World.answer
      (allocator.Allocated conversation need w) w := by
  -- Each allocator has its own part of the services, and leaves those of the other alone.
  cases allocator with
  -- Blocks are cached and reserved, and the locks of the counters stay free.
  | segmented config =>
    apply (Segmented.allocate_completes config positive settled.reserved).mono
    intro outcome after ended
    obtain ⟨⟨clock, counters, claims, store, ids⟩, reserved, granted, refused⟩ := ended
    have settled' : after.Settled := by
      refine ⟨by rw [store]; exact settled.consistent, reserved, fun conversation => ?_⟩
      rw [counters]
      exact settled.unlocked conversation
    refine ⟨settled', clock, claims, store, ids, fun chance => ?_, refused⟩
    obtain ⟨grant, same, _⟩ := granted chance
    exact ⟨grant, same⟩
  -- A lock is taken and released, and the blocks and what was reserved stay.
  | singleCounter config =>
    apply (SingleCounter.allocate_completes positive settled.unlocked).mono
    intro outcome after ended
    obtain ⟨⟨clock, ledger, segments, claims, store, ids⟩, unlocked, granted, refused⟩ := ended
    have settled' : after.Settled := by
      refine ⟨by rw [store]; exact settled.consistent, fun conversation => ?_, unlocked⟩
      unfold World.CachedReserved
      rw [segments, ledger]
      exact settled.reserved conversation
    refine ⟨settled', clock, claims, store, ids, fun chance => ?_, fun never => (refused never).1⟩
    obtain ⟨grant, _, same, _⟩ := granted chance
    exact ⟨grant, same⟩

end Intake
