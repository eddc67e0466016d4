import Intake.Allocator.Basic
import Intake.Proofs.Plan.Protocol

/-! What allocations call on: the numbers of the one conversation, and of its services no more than each
routine needs. -/

namespace Intake

namespace Service

/-- Calls that are about the numbers of one conversation, or about none. -/
def NumbersOf (conversation : Conversation) : Request → Prop
  | .now | .freshToken => True
  | .reserve other _ | .loadWatermarks other | .take other _ | .install other _ _
  | .increment other _ _ | .seedCounter other _ _ | .lock other _ _ | .unlock other _ =>
    other = conversation
  | _ => False

/-- Calls that start the counter of one conversation, under its lock. -/
def StartsCounter (conversation : Conversation) : Request → Prop
  | .freshToken => True
  | .loadWatermarks other | .seedCounter other _ _ | .lock other _ _ | .unlock other _ =>
    other = conversation
  | _ => False

/-- Calls that move the numbers of one conversation past a floor. -/
def MovesPast (conversation : Conversation) : Request → Prop
  | .raiseIssued other _ | .dropSegment other | .dropCounter other => other = conversation
  | _ => False

/-- Starting a counter is about the numbers of its conversation. -/
theorem StartsCounter.numbersOf {conversation : Conversation} {request : Request}
    (starts : StartsCounter conversation request) : NumbersOf conversation request := by
  -- Both choices list their calls, and what is not listed starts nothing.
  cases request
  case freshToken | loadWatermarks | seedCounter | lock | unlock => exact starts
  all_goals exact starts.elim

end Service

/-- However many rounds are left, an allocation from blocks is about one conversation. -/
theorem Segmented.allocateIn_asks (config : SegmentConfig) (conversation : Conversation)
    (need : UInt64) (rounds : Nat) :
    (allocateIn config conversation need rounds).run.Asks (Service.NumbersOf conversation) := by
  -- The induction is on the rounds that are left, each of which takes, reserves, installs and takes.
  induction rounds with
  | zero => exact .done _
  | succ rounds ih =>
    refine .attempt (.adapt (.call rfl)) fun outcome => ?_
    split
    · exact .lift (.call trivial) fun _ => .done _
    refine .attempt (.adapt (.call rfl)) fun segment => .attempt (.adapt (.call rfl)) fun _ => ?_
    refine .attempt (.adapt (.call rfl)) fun outcome => ?_
    split
    · exact .lift (.call trivial) fun _ => .done _
    · exact ih

namespace SingleCounter

/-- An increment is about one conversation. -/
theorem tryIncrement_asks (config : CounterConfig) (conversation : Conversation) (need : UInt64) :
    (tryIncrement config conversation need).run.Asks (Service.NumbersOf conversation) := by
  -- The clock is read only for a grant.
  refine .attempt (.adapt (.call rfl)) fun last => ?_
  cases last with
  | none => exact .done _
  | some last => exact .lift (.call trivial) fun _ => .done _

/-- A cold start starts the counter of one conversation. -/
theorem coldStart_asks (config : CounterConfig) (conversation : Conversation) :
    (coldStart config conversation).run.Asks (Service.StartsCounter conversation) := by
  -- Whoever does not get the lock waits, and waiting is no call.
  have seeds : (seed config conversation).run.Asks (Service.StartsCounter conversation) :=
    .attempt (.adapt (.call rfl)) fun _ => .attempt (.adapt (.call rfl)) fun _ => .done _
  refine .lift (.call trivial) fun token => .attempt (.adapt (.call rfl)) fun locked => ?_
  split
  · exact .lift seeds fun _ => .lift (.call rfl) fun _ => .done _
  · exact .done _

/-- However many rounds are left, an allocation from a counter is about one conversation. -/
theorem allocateIn_asks (config : CounterConfig) (conversation : Conversation) (need : UInt64)
    (rounds : Nat) : (allocateIn config conversation need rounds).run.Asks
      (Service.NumbersOf conversation) := by
  -- The induction is on the rounds that are left, each of which starts a counter if none lives.
  induction rounds with
  | zero =>
    refine .attempt (tryIncrement_asks config conversation need) fun grant => ?_
    cases grant <;> exact .done _
  | succ rounds ih =>
    refine .attempt (tryIncrement_asks config conversation need) fun grant => ?_
    cases grant with
    | some grant => exact .done _
    | none =>
      have starts := (coldStart_asks config conversation).permits fun _ =>
        Service.StartsCounter.numbersOf
      exact .attempt starts fun _ => ih

end SingleCounter

namespace Allocator

/-- An allocation is about one conversation. -/
theorem allocate_asks (allocator : Allocator) (conversation : Conversation) (need : UInt64) :
    (allocator.allocate conversation need).run.Asks (Service.NumbersOf conversation) := by
  -- No call is made for a need of zero.
  cases allocator with
  | segmented config =>
    unfold allocate Segmented.allocate
    dsimp only
    split
    · exact .done _
    · exact Segmented.allocateIn_asks config conversation need _
  | singleCounter config =>
    unfold allocate SingleCounter.allocate
    dsimp only
    split
    · exact .done _
    · exact SingleCounter.allocateIn_asks config conversation need _

/-- Reconciling moves the numbers of one conversation past the floor. -/
theorem reconcile_asks (allocator : Allocator) (conversation : Conversation)
    (floor : SequenceNumber) :
    (allocator.reconcile conversation floor).run.Asks (Service.MovesPast conversation) := by
  -- Either allocator drops what it caches, which is of the one conversation too.
  refine .attempt (.adapt (.call rfl)) fun _ => ?_
  cases allocator with
  | segmented config => exact .adapt (.call rfl)
  | singleCounter config => exact .adapt (.call rfl)

end Allocator

end Intake
