import Intake.Word

/-! How many numbers to reserve at a time. -/

namespace Intake

/-- A rule for the size of a reserved block. -/
inductive BlockSize where
  | adaptive
  | fixed (size : UInt64)
  | custom (sizeFor : UInt64 → UInt64)

instance : Inhabited BlockSize := ⟨.adaptive⟩

namespace BlockSize

/-- Needs below this number get a block of one size. -/
def smallNeedThreshold : UInt64 := 32

/-- The block for a small need. -/
def smallNeedBlock : UInt64 := 256

/-- How many times a larger need its block is. -/
def largeNeedMultiplier : UInt64 := 8

/-- What the rule alone asks for. -/
def proposed (rule : BlockSize) (need : UInt64) : UInt64 :=
  match rule with
  | .adaptive =>
    if need < smallNeedThreshold then smallNeedBlock
    else Word.saturatingMul need largeNeedMultiplier
  | .fixed size => size
  | .custom sizeFor => sizeFor need

/-- The size of the block for a need: never less than the need, and never nothing. -/
def forNeed (rule : BlockSize) (need : UInt64) : UInt64 :=
  -- A rule is free to propose anything, so the need and one number are the least.
  let enough := if rule.proposed need ≤ need then need else rule.proposed need
  if enough = 0 then 1 else enough

/-- The name of a rule. -/
def text : BlockSize → String
  | .adaptive => "Adaptive"
  | .fixed size => s!"Fixed({size})"
  | .custom _ => "Custom(..)"

end BlockSize

end Intake
