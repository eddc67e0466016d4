import Intake.Memory.World

/-! Sample values, of which the theorems have instances. -/

namespace Intake

/-- Whether two outcomes are the same can be computed where it can for failures and values. -/
instance decidableEqExcept {ε α : Type} [DecidableEq ε] [DecidableEq α] :
    DecidableEq (Except ε α)
  | .ok a, .ok b => decidable_of_iff (a = b) (by simp)
  | .error a, .error b => decidable_of_iff (a = b) (by simp)
  | .ok _, .error _ => .isFalse (by simp)
  | .error _, .ok _ => .isFalse (by simp)

namespace Sample

/-- The clock at the start of 1970. -/
def clock : Instant := ⟨0, false, by decide, by decide, by decide⟩

/-- A message of a sender to a conversation. -/
def origin : Origin where
  tenant := ⟨"tenant", by decide, by decide, by decide⟩
  conversation := ⟨"chat", by decide, by decide, by decide⟩
  sender := ⟨"alice", by decide, by decide, by decide⟩
  clientMessage := ⟨"first", by decide, by decide, by decide⟩

/-- The conversation of the message. -/
def conversation : Conversation := .ofOrigin origin

/-- The message handed in with a fingerprint of its own. -/
def submission (text : String) (nonempty : 0 < text.utf8ByteSize)
    (bounded : text.utf8ByteSize ≤ greatestFingerprintLength) : Submission :=
  ⟨origin, ⟨[]⟩, some ⟨text, nonempty, bounded⟩⟩

/-- The message handed in with a greeting. -/
def hello : Submission := submission "hello" (by decide) (by decide)

/-- The message handed in with another text than before. -/
def other : Submission := submission "other" (by decide) (by decide)

/-- Another message handed in to the same conversation. -/
def next : Submission :=
  { hello with origin :=
    { origin with clientMessage := ⟨"second", by decide, by decide, by decide⟩ } }

/-- Services that hold nothing yet. -/
def services : World := .fresh clock .standard []

end Sample

end Intake
