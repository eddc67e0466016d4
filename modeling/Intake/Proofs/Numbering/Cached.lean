import Intake.Memory.World
import Intake.Proofs.Memory.Ledger

/-! What is cached of a conversation, and that it was reserved before. -/

namespace Intake

namespace World

/-- What is cached of a conversation is in order, and was reserved. -/
def CachedReserved (w : World) (conversation : Conversation) : Prop :=
  ∀ slot, w.segments.entries.find? conversation = some slot →
    slot.value.entry.current.toNat ≤ slot.value.entry.last.toNat ∧
      slot.value.entry.last.toNat ≤ w.ledger.issued conversation

/-- What is cached stays reserved when the highest reserved number rises and the cache forgets. -/
theorem CachedReserved.forget {w after : World} {conversation : Conversation}
    (reserved : w.CachedReserved conversation)
    (cached : ∀ slot, after.segments.entries.find? conversation = some slot →
      w.segments.entries.find? conversation = some slot)
    (risen : w.ledger.issued conversation ≤ after.ledger.issued conversation) :
    after.CachedReserved conversation := by
  -- A block that is still cached was cached before, and its end lies no higher than it did.
  intro slot found
  have bounds := reserved slot (cached slot found)
  omega

end World

end Intake
