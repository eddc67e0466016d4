import Intake.Allocator.Basic
import Intake.Proofs.Concurrency.Schedule
import Intake.Proofs.Numbering.Ownership
import Intake.Proofs.Samples

/-! Allocation from cached blocks never grants a number twice, however its callers interleave and
whatever is lost. -/

namespace Intake

/-- A call on an allocator: numbers to be granted, a floor to be passed, a number that is stored. -/
inductive NumberingCall where
  | allocate (conversation : Conversation) (need : UInt64)
  | reconcile (conversation : Conversation) (floor : SequenceNumber)
  | recordCommitted (conversation : Conversation) (stored : SequenceNumber)

/-- A call on an allocator of cached blocks with settings of its own. -/
structure SegmentedJob where
  config : SegmentConfig
  call : NumberingCall

/-- What a call on an allocator answers. -/
abbrev SegmentedJob.Answer (job : SegmentedJob) : Type :=
  match job.call with
  | .allocate _ _ => Except AllocationError Grant
  | .reconcile _ _ | .recordCommitted _ _ => Except AllocationError Unit

/-- The plan of a call on an allocator of cached blocks. -/
def SegmentedJob.begin : (job : SegmentedJob) → Procedure job.Answer
  | ⟨config, .allocate conversation need⟩ =>
    ((Allocator.segmented config).allocate conversation need).run
  | ⟨config, .reconcile conversation floor⟩ =>
    ((Allocator.segmented config).reconcile conversation floor).run
  | ⟨_, .recordCommitted conversation stored⟩ => (Allocator.recordCommitted conversation stored).run

/-- Calls on allocators of cached blocks over the services in memory, where any call may fail. -/
def numberingSegmented : Setting services World SegmentedJob.Answer where
  reacts := World.Reacts Service.Failed
  drifts := World.Drifts
  begins := SegmentedJob.begin

namespace Segmented

variable {conversation : Conversation} {held : List Span}

/-- A range that is taken has as many numbers as were asked for, and they are the caller's. -/
theorem take_keeps (other : Conversation) (need : UInt64) :
    (Attempt.onCache (Procedure.take other need)).run.Keeps (owning conversation) (fun _ => True)
      (fun outcome after => ∀ range, outcome = .ok (.taken range) →
        range.count = need ∧ (other = conversation → range.span ∈ after)) held := by
  -- A range that is answered is what the caller gains with the reply.
  refine .adapt (.call trivial trivial fun reply after moved => ⟨trivial, fun range taken => ?_⟩)
  obtain ⟨grown, fitting⟩ := moved
  have answered := Plan.ok_of_renamed taken
  subst answered
  refine ⟨fitting, fun same => ?_⟩
  rw [grown]
  simp [gained, same]

/-- A block that is reserved holds something, and it is the caller's. -/
theorem reserve_keeps (other : Conversation) (count : UInt64) :
    (Attempt.onLedger (Procedure.reserve other count)).run.Keeps (owning conversation)
      (fun _ => True) (fun outcome after => ∀ segment, outcome = .ok segment →
        segment.span.first ≤ segment.span.last ∧ (other = conversation → segment.span ∈ after))
      held := by
  -- A block that is answered is what the caller gains with the reply.
  refine .adapt (.call trivial trivial fun reply after moved => ⟨trivial, fun segment got => ?_⟩)
  obtain ⟨grown, fitting⟩ := moved
  have answered := Plan.ok_of_renamed got
  subst answered
  refine ⟨fitting, fun same => ?_⟩
  rw [grown]
  simp [gained, same]

/-- A block that the caller holds may be given to the cache. -/
theorem install_keeps {other : Conversation} {segment : Segment} (lifetime : Duration)
    (owned : other = conversation → segment.span ∈ held ∧ segment.span.first ≤ segment.span.last) :
    (Attempt.onCache (Procedure.install other segment lifetime)).run.Keeps (owning conversation)
      (fun _ => True) (fun _ _ => True) held :=
  .adapt (.call trivial owned fun _ _ _ => ⟨trivial, trivial⟩)

/-- A grant is of as many numbers as were asked for, and they are the caller's. -/
def Granted (conversation other : Conversation) (need : UInt64)
    (outcome : Except AllocationError Grant) (held : List Span) : Prop :=
  ∀ grant, outcome = .ok grant →
    0 < need.toNat ∧ grant.range.count = need ∧ (other = conversation → grant.range.span ∈ held)

/-- A range that was taken is granted when the clock has been read. -/
theorem grant_keeps {other : Conversation} {need : UInt64} (positive : 0 < need.toNat)
    {range : NumberRange} (counted : range.count = need)
    (owned : other = conversation → range.span ∈ held) :
    (do return ⟨range, ← ExceptT.lift Procedure.now⟩ : Attempt AllocationError Grant).run.Keeps
      (owning conversation) (fun _ => True) (Granted conversation other need) held := by
  -- Reading the clock moves no numbers.
  refine .lift (.call trivial trivial fun now after moved => ⟨trivial, trivial, ?_⟩)
  intro grant same
  cases same
  have unchanged : after = held := moved.1
  exact ⟨positive, counted, fun same => unchanged ▸ owned same⟩

/-- Every way out of the rounds of an allocation grants only numbers that the caller took. -/
theorem allocateIn_keeps (config : SegmentConfig) (other : Conversation) {need : UInt64}
    (positive : 0 < need.toNat) (rounds : Nat) :
    ∀ held, (allocateIn config other need rounds).run.Keeps (owning conversation) (fun _ => True)
      (Granted conversation other need) held := by
  -- The induction is on the rounds that are left, whatever the caller holds when one begins.
  induction rounds with
  | zero => exact fun held => ⟨trivial, by simp [Granted]⟩
  | succ rounds ih =>
    intro held
    unfold allocateIn
    refine .attempt (take_keeps other need) (by simp [Granted]) fun outcome after took => ?_
    split
    · rename_i range
      exact grant_keeps positive (took range rfl).1 (took range rfl).2
    refine .attempt (reserve_keeps other _) (by simp [Granted]) fun segment later reserved => ?_
    obtain ⟨nonempty, owned⟩ := reserved segment rfl
    -- The block may be given to the cache because the caller holds it.
    refine .attempt (install_keeps config.lifetime fun same => ⟨owned same, nonempty⟩)
      (by simp [Granted]) fun _ installed _ => ?_
    refine .attempt (take_keeps other need) (by simp [Granted]) fun outcome last took => ?_
    split
    · rename_i range
      exact grant_keeps positive (took range rfl).1 (took range rfl).2
    · exact ih last

/-- An allocation grants only numbers that the caller took, and none where none are asked for. -/
theorem allocate_keeps (config : SegmentConfig) (other : Conversation) (need : UInt64) :
    (allocate config other need).run.Keeps (owning conversation) (fun _ => True)
      (Granted conversation other need) held := by
  -- A need of zero is refused before anything is asked for.
  unfold allocate
  split
  · exact ⟨trivial, by simp [Granted]⟩
  · rename_i some
    exact allocateIn_keeps config other (Word.toNat_pos some) _ held

end Segmented

/-- What a call on an allocator leaves its caller with: of an allocation, the granted numbers. -/
def SegmentedJob.Ends (conversation : Conversation) :
    (job : SegmentedJob) → job.Answer → List Span → Prop
  | ⟨_, .allocate other need⟩, outcome, held =>
    Segmented.Granted conversation other need outcome held
  | ⟨_, .reconcile _ _⟩, _, _ | ⟨_, .recordCommitted _ _⟩, _, _ => True

/-- Every call on an allocator handles the numbers of a conversation as their owner. -/
theorem SegmentedJob.begin_keeps (conversation : Conversation) (job : SegmentedJob) :
    job.begin.Keeps (owning conversation) (fun _ => True) (job.Ends conversation) [] := by
  -- Only an allocation moves numbers, and a caller of anything else ends as it may.
  obtain ⟨config, call⟩ := job
  cases call with
  | allocate other need => exact Segmented.allocate_keeps config other need
  -- The floor is raised in the ledger first, and the cached block is dropped after that.
  | reconcile other floor =>
    have raised : (Attempt.onLedger (Procedure.raiseIssued other floor)).run.Keeps
        (owning conversation) (fun _ => True) (fun _ _ => True) [] :=
      .adapt (.call trivial trivial fun _ _ _ => ⟨trivial, trivial⟩)
    refine raised.attempt (fun _ _ _ => trivial) fun _ _ _ => ?_
    exact .adapt (.call trivial trivial fun _ _ _ => ⟨trivial, trivial⟩)
  | recordCommitted other stored =>
    exact .adapt (.call trivial trivial fun _ _ _ => ⟨trivial, trivial⟩)

/-- At every point of every run no number is in two places, and every caller goes on as the owner of
what it holds. -/
theorem numberingSegmented_upholds (conversation : Conversation) {services : World}
    (empty : services.segments.entries.find? conversation = none)
    {site : Site Intake.services World SegmentedJob.Answer}
    (reached : Site.Reached numberingSegmented services site) :
    site.Upholds (owning conversation) (SegmentedJob.Ends conversation)
      (NumberedOnce conversation) := by
  -- A call that begins holds nothing, and every step keeps each number in one place at the most.
  apply Site.upholds_of_reached reached (.opening empty)
  · exact fun _ _ job numbered => ⟨[], job.begin_keeps conversation, numbered.join⟩
  · exact fun _ _ _ _ _ _ _ numbered atPlace permitted reacted =>
      numbered.reacts atPlace permitted reacted
  · exact fun _ _ _ numbered drifted => numbered.drifts drifted

/-- A caller that is done with a grant holds its numbers: as many as were asked for, all reserved. -/
theorem granted_numbers {conversation : Conversation}
    {site : Site services World SegmentedJob.Answer} {holdings : List (List Span)}
    (numbered : NumberedOnce conversation site.services holdings)
    (keep : Site.CallersKeep (owning conversation) (SegmentedJob.Ends conversation) site.callers
      holdings) {place : Nat} {config : SegmentConfig} {need : UInt64} {grant : Grant}
    (done : site.callers[place]? =
      some ⟨⟨config, .allocate conversation need⟩, .done (.ok grant)⟩) :
    ∃ held, holdings[place]? = some held ∧ grant.range.span ∈ held ∧ 0 < need.toNat ∧
      grant.range.count = need ∧ 0 < grant.start.value.toNat ∧
      grant.start.value.toNat + need.toNat ≤ site.services.ledger.issued conversation + 1 := by
  -- The caller holds the granted range as a span, and what is held is reserved.
  obtain ⟨held, atHeld, _, granted⟩ := keep.held done
  obtain ⟨positive, counted, owned⟩ := granted grant rfl
  subst counted
  have first := numbered.held_bounds atHeld (owned rfl) (n := grant.range.span.first)
  have last := numbered.held_bounds atHeld (owned rfl) (n := grant.range.span.last)
  simp only [Span.holds_eq_true, NumberRange.span] at first last
  refine ⟨held, atHeld, owned rfl, positive, rfl, ?_, ?_⟩ <;> unfold Grant.start <;> omega

/-- However calls are interleaved, and whatever fails or is lost: every grant is of as many reserved
numbers as were asked for, and no two of a conversation share one. -/
theorem segmented_grants_are_distinct {clock : Instant} {lifetimes : ClaimLifetimes}
    {ready : List ServerId} {ledger : Ledger} {site : Site services World SegmentedJob.Answer}
    (reached : Site.Reached numberingSegmented { World.fresh clock lifetimes ready with ledger } site)
    (conversation : Conversation) :
    (∀ (place : Nat) config need grant,
      site.callers[place]? = some ⟨⟨config, .allocate conversation need⟩, .done (.ok grant)⟩ →
      grant.range.numbers.map (·.value.toNat) =
          List.range' grant.start.value.toNat need.toNat ∧
        0 < need.toNat ∧ 0 < grant.start.value.toNat ∧
        grant.start.value.toNat + need.toNat ≤ site.services.ledger.issued conversation + 1) ∧
    (∀ (place place' : Nat) config config' need need' grant grant', place ≠ place' →
      site.callers[place]? = some ⟨⟨config, .allocate conversation need⟩, .done (.ok grant)⟩ →
      site.callers[place']? = some ⟨⟨config', .allocate conversation need'⟩, .done (.ok grant')⟩ →
      ∀ number ∈ grant.range.numbers, number ∉ grant'.range.numbers) ∧
    (∀ need range, (World.answer (.take conversation need) site.services).1 = .ok (.taken range) →
      range.span.last ≤ site.services.ledger.issued conversation) := by
  -- What holds at every point of a run is read off for callers that are done.
  obtain ⟨holdings, numbered, keep⟩ := numberingSegmented_upholds conversation rfl reached
  have bound := site.services.ledger.issued_lt_size conversation
  refine ⟨fun place config need grant done => ?_, ?_, fun _ _ => numbered.taken_bounds⟩
  · obtain ⟨held, _, _, positive, rfl, first, last⟩ := granted_numbers numbered keep done
    unfold Grant.start at first last ⊢
    exact ⟨NumberRange.numbers_toNat positive (by omega), positive, first, last⟩
  · intro place place' config config' need need' grant grant' differ done done' number member member'
    obtain ⟨held, atHeld, owned, positive, rfl, _, last⟩ := granted_numbers numbered keep done
    obtain ⟨held', atHeld', owned', positive', rfl, _, last'⟩ := granted_numbers numbered keep done'
    unfold Grant.start at last last'
    rw [← NumberRange.holds_span positive (by omega)] at member
    rw [← NumberRange.holds_span positive' (by omega)] at member'
    -- A number in both grants would be held by two callers.
    rw [numbered.apart differ atHeld atHeld' owned owned' member] at member'
    cases member'

/-- Calls for two numbers and for three. -/
def twoAndThree : List SegmentedJob :=
  [⟨.standard, .allocate Sample.conversation 2⟩, ⟨.standard, .allocate Sample.conversation 3⟩]

/-- Calls for two numbers and for three that take turns until both are done. -/
def twoAndThreeGranted : Site services World SegmentedJob.Answer :=
  .roundRobin World.answer numberingSegmented.begins Sample.services twoAndThree 20

set_option maxRecDepth 100000 in
/-- Two calls that are interleaved from the start are both granted numbers, and these differ. -/
theorem twoAndThree_share_no_number :
    ∃ grant grant',
      twoAndThreeGranted.callers[0]? =
        some ⟨⟨.standard, .allocate Sample.conversation 2⟩, .done (.ok grant)⟩ ∧
      twoAndThreeGranted.callers[1]? =
        some ⟨⟨.standard, .allocate Sample.conversation 3⟩, .done (.ok grant')⟩ ∧
      ∀ number ∈ grant.range.numbers, number ∉ grant'.range.numbers := by
  -- Both calls miss and reserve a block, and the higher one replaces the lower one before either takes.
  have reached : Site.Reached numberingSegmented
      { World.fresh Sample.clock .standard [] with ledger := .empty } twoAndThreeGranted :=
    Site.reached_roundRobin (fun _ _ => World.Reacts.answers) _ _ _
  have first : twoAndThreeGranted.callers[0]? = some
      ⟨⟨.standard, .allocate Sample.conversation 2⟩, .done (.ok ⟨⟨⟨257⟩, 2⟩, Sample.clock⟩)⟩ := rfl
  have second : twoAndThreeGranted.callers[1]? = some
      ⟨⟨.standard, .allocate Sample.conversation 3⟩, .done (.ok ⟨⟨⟨259⟩, 3⟩, Sample.clock⟩)⟩ := rfl
  exact ⟨_, _, first, second, (segmented_grants_are_distinct reached Sample.conversation).2.1
    0 1 _ _ _ _ _ _ (by decide) first second⟩

end Intake
