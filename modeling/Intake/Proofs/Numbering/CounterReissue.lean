import Intake.Allocator.Basic
import Intake.Proofs.Numbering.SingleCounter
import Intake.Proofs.Numbering.Span
import Intake.Proofs.Samples

/-! When allocation from a counter grants a number twice: the ledger does not know of the numbers that
a counter handed out, so one that is lost may be started below them. -/

namespace Intake

/-- What happens to the numbers of a conversation: calls on the allocator, a counter that is lost,
and a clock that moves. -/
inductive CounterEvent where
  | allocate (need : UInt64)
  | recordCommitted (stored : SequenceNumber)
  | reconcile (floor : SequenceNumber)
  | loses
  | clock (now : Instant)

/-- The services after some events, and what was granted until then, the latest first. -/
structure CounterRun where
  world : World
  grants : List Grant

namespace CounterRun

variable {config : CounterConfig} {conversation : Conversation}

/-- One more event, each call running alone from its start to its end. -/
def step (config : CounterConfig) (conversation : Conversation) (run : CounterRun) :
    CounterEvent → CounterRun
  | .allocate need =>
    match World.perform ((Allocator.singleCounter config).allocate conversation need).run
      run.world with
    | (.ok grant, world) => ⟨world, grant :: run.grants⟩
    | (.error _, world) => ⟨world, run.grants⟩
  | .recordCommitted stored =>
    ⟨(World.perform (Allocator.recordCommitted conversation stored).run run.world).2, run.grants⟩
  | .reconcile floor =>
    ⟨(World.perform ((Allocator.singleCounter config).reconcile conversation floor).run
      run.world).2, run.grants⟩
  | .loses => ⟨(World.answer (.dropCounter conversation) run.world).2, run.grants⟩
  | .clock now => ⟨{ run.world with clock := now }, run.grants⟩

/-- Two grants without a number in common. -/
def Apart (a b : Grant) : Prop := ∀ number ∈ a.range.numbers, number ∉ b.range.numbers

/-- No number granted so far lies above the one that the next grant goes on from. -/
def CaughtUp (conversation : Conversation) (run : CounterRun) : Prop :=
  ∀ grant ∈ run.grants, ∀ number ∈ grant.range.numbers,
    number.value ≤ run.world.counterBase conversation

/-- Whenever an event brings a grant, no number granted before lies above the one it goes on from. -/
def AlwaysCaughtUp (config : CounterConfig) (conversation : Conversation) :
    CounterRun → List CounterEvent → Prop
  | _, [] => True
  | run, event :: events =>
    ((run.step config conversation event).grants ≠ run.grants → run.CaughtUp conversation) ∧
      AlwaysCaughtUp config conversation (run.step config conversation event) events

/-- Whether a number was granted. -/
def Granted (run : CounterRun) (n : Nat) : Prop := ∃ grant ∈ run.grants, grant.range.span.holds n

/-- After one more grant its numbers are granted, and those from before. -/
theorem granted_cons {run : CounterRun} (after : World) (grant : Grant) (n : Nat) :
    Granted ⟨after, grant :: run.grants⟩ n ↔ grant.range.span.holds n = true ∨ run.Granted n := by
  -- A number is granted by the latest grant or by one from before.
  unfold Granted
  constructor
  · intro given
    obtain ⟨other, member, holds⟩ := given
    rcases List.mem_cons.mp member with rfl | earlier
    · exact .inl holds
    · exact .inr ⟨other, earlier, holds⟩
  · intro given
    rcases given with holds | ⟨other, earlier, holds⟩
    · exact ⟨grant, List.mem_cons_self, holds⟩
    · exact ⟨other, List.mem_cons_of_mem _ earlier, holds⟩

/-- Every number above a given one and below a granted one was granted as well. -/
def FilledAbove (run : CounterRun) (base : Nat) : Prop :=
  ∀ n m, base < n → n ≤ m → run.Granted m → run.Granted n

/-- What every run keeps: numbers are granted without gaps above what the ledger knows of and above
what a counter is at, and no counter is ahead of both the ledger and the grants. -/
structure Counting (conversation : Conversation) (run : CounterRun) : Prop where
  unlocked : run.world.Unlocked
  shaped : ∀ grant ∈ run.grants, 0 < grant.range.count.toNat ∧
    grant.range.start.value.toNat + grant.range.count.toNat ≤ UInt64.size
  known : run.FilledAbove (run.world.ledger.highWater conversation).toNat
  counted : ∀ entry, run.world.counters.counters.entries.find? conversation = some entry →
    run.FilledAbove entry.value.toNat ∧
      (entry.value.toNat ≤ (run.world.ledger.highWater conversation).toNat ∨
        ∃ m, entry.value.toNat ≤ m ∧ run.Granted m)

namespace Counting

variable {run : CounterRun}

/-- Where nothing was granted and no counter is there, nothing is out of order. -/
theorem opening {w : World} (unlocked : w.Unlocked)
    (missing : w.counters.counters.entries.find? conversation = none) :
    Counting conversation ⟨w, []⟩ where
  -- Nothing was granted yet, and there is no counter that could be ahead.
  unlocked := unlocked
  shaped := by simp
  known := by rintro n m _ _ ⟨grant, member, _⟩; cases member
  counted := by simp [missing]

/-- A change without a grant keeps a run in order if no lock is left, the ledger has lost nothing, and
every counter is one from before, or one that was started. -/
theorem advance (counting : Counting conversation run) {after : World} (unlocked : after.Unlocked)
    (risen : (run.world.ledger.highWater conversation).toNat ≤
      (after.ledger.highWater conversation).toNat)
    (counters : ∀ entry, after.counters.counters.entries.find? conversation = some entry →
      run.world.counters.counters.entries.find? conversation = some entry ∨
        entry.value = after.ledger.highWater conversation) :
    Counting conversation ⟨after, run.grants⟩ := by
  -- What lies above the higher mark lay above the lower one too, and was granted without gaps.
  have known : run.FilledAbove (after.ledger.highWater conversation).toNat :=
    fun n m above below => counting.known n m (by omega) below
  refine ⟨unlocked, counting.shaped, known, fun entry found => ?_⟩
  rcases counters entry found with same | started
  · obtain ⟨filled, reached⟩ := counting.counted entry same
    exact ⟨filled, reached.imp (fun low => Nat.le_trans low risen) id⟩
  · rw [started]
    exact ⟨known, .inl (Nat.le_refl _)⟩

/-- Numbers are granted without gaps above the one that the next grant goes on from, and this one is
no higher than what the ledger knows of or some number that was granted. -/
theorem base (counting : Counting conversation run) :
    run.FilledAbove (run.world.counterBase conversation).toNat ∧
      ((run.world.counterBase conversation).toNat ≤
          (run.world.ledger.highWater conversation).toNat ∨
        ∃ m, (run.world.counterBase conversation).toNat ≤ m ∧ run.Granted m) := by
  -- A live counter is the base itself, and without one the ledger is.
  unfold World.counterBase World.liveCounter
  cases alive : run.world.counters.counters.liveEntry conversation run.world.clock with
  | none => exact ⟨counting.known, .inl (Nat.le_refl _)⟩
  | some entry => exact counting.counted entry (ExpiringTable.liveEntry_eq_some.mp alive).1

/-- After a grant that goes on from the base a run is still in order. -/
theorem grant (counting : Counting conversation run) {after : World} {grant : Grant} {need : Nat}
    {last : Expiring UInt64} (positive : 0 < need) (unlocked : after.Unlocked)
    (same : after.ledger = run.world.ledger)
    (counts : grant.range.count.toNat = need)
    (starts : grant.range.start.value.toNat = (run.world.counterBase conversation).toNat + 1)
    (ends : last.value.toNat = (run.world.counterBase conversation).toNat + need)
    (left : after.counters.counters.entries.find? conversation = some last) :
    Counting conversation ⟨after, grant :: run.grants⟩ := by
  -- The new grant takes the numbers right after the base, so it leaves no gap above it.
  obtain ⟨filled, reached⟩ := counting.base
  have bound := last.value.toNat_lt_size
  have new : ∀ n, grant.range.span.holds n = true ↔
      (run.world.counterBase conversation).toNat < n ∧
        n ≤ (run.world.counterBase conversation).toNat + need := by
    intro n
    simp only [Span.holds_eq_true, NumberRange.span, starts, counts]
    omega
  have granted := @granted_cons run after grant
  have knownAfter : FilledAbove ⟨after, grant :: run.grants⟩
      (run.world.ledger.highWater conversation).toNat := by
    intro n m above below holds
    rw [granted] at holds ⊢
    rcases holds with latest | earlier
    · rw [new] at latest
      by_cases low : n ≤ (run.world.counterBase conversation).toNat
      · -- Below the base all that the ledger does not know of was granted before.
        rcases reached with none' | ⟨m', reaches, earlier⟩
        · omega
        · exact .inr (counting.known n m' above (by omega) earlier)
      · exact .inl ((new n).mpr (by omega))
    · exact .inr (counting.known n m above below earlier)
  -- The counter is left at the last number granted, above which nothing is.
  refine ⟨unlocked, ?_, by rw [same]; exact knownAfter, fun entry found => ?_⟩
  · intro other member
    rcases List.mem_cons.mp member with rfl | earlier
    · omega
    · exact counting.shaped other earlier
  · rw [left] at found
    cases found
    refine ⟨fun n m above below holds => ?_, .inr ⟨last.value.toNat, Nat.le_refl _, ?_⟩⟩
    · rw [granted] at holds ⊢
      rcases holds with latest | earlier
      · rw [new] at latest; omega
      · exact .inr (filled n m (by omega) below earlier)
    · rw [granted, new]
      omega

/-- What an event brings: no grant, or one that goes on from the base. -/
def Brings (conversation : Conversation) (run after : CounterRun) : Prop :=
  after.grants = run.grants ∨ ∃ grant, after.grants = grant :: run.grants ∧
    0 < grant.range.count.toNat ∧
    grant.range.start.value.toNat = (run.world.counterBase conversation).toNat + 1 ∧
    grant.range.start.value.toNat + grant.range.count.toNat ≤ UInt64.size

/-- An allocation keeps a run in order, and brings no grant or one that goes on from the base. -/
theorem step_allocate (config : CounterConfig) (counting : Counting conversation run)
    {need : UInt64} (positive : 0 < need.toNat) :
    Counting conversation (run.step config conversation (.allocate need)) ∧
      Brings conversation run (run.step config conversation (.allocate need)) := by
  -- An allocation that runs alone grants after the base or fails, and either keeps the order.
  have counted : SingleCounter.Counted config conversation need run.world
      (World.perform ((Allocator.singleCounter config).allocate conversation need).run
        run.world).1 _ :=
    World.perform_of_completes (SingleCounter.allocate_completes positive counting.unlocked)
  cases performed : World.perform ((Allocator.singleCounter config).allocate conversation need).run
    run.world with
  | mk outcome after =>
    rw [performed] at counted
    dsimp only at counted
    by_cases chance : run.world.CanCount config conversation need
    · obtain ⟨grant, last, rfl, counts, starts, ends, left⟩ := counted.granted chance
      simp only [step, performed]
      have bound := last.toNat_lt_size
      unfold Grant.start at starts
      refine ⟨counting.grant positive counted.unlocked counted.only.ledger (by rw [counts]) starts
        ends left, .inr ⟨grant, rfl, ?_, starts, ?_⟩⟩ <;> rw [counts] <;> omega
    · obtain ⟨⟨failure, rfl⟩, counters⟩ := counted.refused chance
      simp only [step, performed]
      have kept := counted.only.ledger
      refine ⟨counting.advance counted.unlocked (Nat.le_of_eq (by rw [kept])) ?_, .inl rfl⟩
      intro entry found
      rw [kept]
      exact (counters entry found).imp id And.right

/-- Every event keeps a run in order, and brings no grant or one that goes on from the base. -/
theorem step (config : CounterConfig) (counting : Counting conversation run)
    (event : CounterEvent) :
    Counting conversation (run.step config conversation event) ∧
      Brings conversation run (run.step config conversation event) := by
  -- Only an allocation brings a grant. The others raise a mark, lose the counter, or move the clock.
  cases event with
  | allocate need =>
    by_cases nothing : need = 0
    · subst nothing
      exact ⟨counting, .inl rfl⟩
    · exact counting.step_allocate config (Word.toNat_pos nothing)
  | recordCommitted stored =>
    refine ⟨counting.advance counting.unlocked ?_ fun _ found => .inl found, .inl rfl⟩
    exact run.world.ledger.highWater_le_raiseCommitted conversation stored run.world.clock
  | reconcile floor =>
    refine ⟨counting.advance counting.unlocked ?_ fun entry found => ?_, .inl rfl⟩
    · exact run.world.ledger.highWater_le_raiseIssued conversation floor run.world.clock
    · exact .inl (run.world.counters.counters.remove_forgets conversation conversation entry found)
  | loses =>
    refine ⟨counting.advance counting.unlocked (Nat.le_refl _) fun entry found => ?_, .inl rfl⟩
    exact .inl (run.world.counters.counters.remove_forgets conversation conversation entry found)
  | clock now =>
    refine ⟨counting.advance counting.unlocked (Nat.le_refl _) fun entry found => ?_, .inl rfl⟩
    exact .inl found

/-- A grant that goes on from the base has no number in common with earlier ones exactly if none of
their numbers lies above the base. -/
theorem apart_iff (counting : Counting conversation run) {grant : Grant}
    (positive : 0 < grant.range.count.toNat)
    (starts : grant.range.start.value.toNat = (run.world.counterBase conversation).toNat + 1)
    (fits : grant.range.start.value.toNat + grant.range.count.toNat ≤ UInt64.size) :
    (∀ earlier ∈ run.grants, Apart grant earlier) ↔ run.CaughtUp conversation := by
  constructor
  -- If a granted number lay above the base, the grant would start with a number granted before.
  · intro apart earlier member number listed
    rw [UInt64.le_iff_toNat_le]
    refine Nat.le_of_not_lt fun above => ?_
    -- All numbers from the base up to this one were granted, so the next one was too.
    obtain ⟨earlierPositive, earlierFits⟩ := counting.shaped earlier member
    have holds := (NumberRange.holds_span earlierPositive earlierFits number).mpr listed
    obtain ⟨other, otherMember, otherHolds⟩ := counting.base.1 _ _ (Nat.lt_succ_self _) above
      ⟨earlier, member, holds⟩
    obtain ⟨otherPositive, otherFits⟩ := counting.shaped other otherMember
    rw [Nat.succ_eq_add_one, ← starts] at otherHolds
    refine apart other otherMember grant.range.start ?_
      ((NumberRange.holds_span otherPositive otherFits _).mp otherHolds)
    rw [← NumberRange.holds_span positive fits]
    simp only [Span.holds_eq_true, NumberRange.span]
    omega
  -- If none does, everything granted before lies below the start of the grant.
  · intro caughtUp earlier member number listed listed'
    rw [← NumberRange.holds_span positive fits] at listed
    simp only [Span.holds_eq_true, NumberRange.span] at listed
    have bound := caughtUp earlier member number listed'
    rw [UInt64.le_iff_toNat_le] at bound
    omega

end Counting

/-- The grants of a run that goes on through some events are apart exactly if those before were, and
no event brings a grant that goes on from below a number granted before. -/
theorem pairwise_apart_iff (config : CounterConfig) {run : CounterRun}
    (counting : Counting conversation run) (events : List CounterEvent) :
    (events.foldl (step config conversation) run).grants.Pairwise Apart ↔
      run.grants.Pairwise Apart ∧ AlwaysCaughtUp config conversation run events := by
  -- The induction is on the events. Each grant is held against all that were granted before it.
  induction events generalizing run with
  | nil => simp [AlwaysCaughtUp]
  | cons event events ih =>
    obtain ⟨counting', brings⟩ := counting.step config event
    rw [List.foldl_cons, ih counting', AlwaysCaughtUp]
    -- An event without a grant asks for nothing.
    rcases brings with same | ⟨grant, latest, positive, starts, fits⟩
    · simp [same]
    · have longer : grant :: run.grants ≠ run.grants := by simp
      rw [latest, List.pairwise_cons, counting.apart_iff positive starts fits]
      simp only [longer, ne_eq, not_false_eq_true, true_implies]
      constructor
      · intro given
        obtain ⟨⟨caughtUp, apart⟩, later⟩ := given
        exact ⟨apart, caughtUp, later⟩
      · intro given
        obtain ⟨apart, caughtUp, later⟩ := given
        exact ⟨⟨caughtUp, apart⟩, later⟩

end CounterRun

/-- Whatever happens to the numbers of a conversation, a counter never grants a number twice exactly if no
grant goes on from below a number that was granted before. -/
theorem counter_grants_apart_iff (config : CounterConfig) (conversation : Conversation)
    (clock : Instant) (lifetimes : ClaimLifetimes) (ready : List ServerId) (ledger : Ledger)
    (events : List CounterEvent) :
    (events.foldl (CounterRun.step config conversation)
        ⟨{ World.fresh clock lifetimes ready with ledger }, []⟩).grants.Pairwise
      CounterRun.Apart ↔
    CounterRun.AlwaysCaughtUp config conversation
      ⟨{ World.fresh clock lifetimes ready with ledger }, []⟩ events := by
  -- Nothing was granted at first, so the condition is on the events alone.
  rw [CounterRun.pairwise_apart_iff config (.opening (fun _ => rfl) rfl)]
  simp

/-- A number is granted, the counter lost, and a number granted again. -/
def lossBetweenGrants : List CounterEvent := [.allocate 1, .loses, .allocate 1]

/-- A counter that is lost before the ledger knows of its numbers grants the first one again. -/
theorem lossBetweenGrants_reissues :
    ¬ (lossBetweenGrants.foldl (CounterRun.step .standard Sample.conversation)
      ⟨Sample.services, []⟩).grants.Pairwise CounterRun.Apart := by
  -- Both grants are of the number one.
  have grants : (lossBetweenGrants.foldl (CounterRun.step .standard Sample.conversation)
      ⟨Sample.services, []⟩).grants =
      [⟨⟨⟨1⟩, 1⟩, Sample.clock⟩, ⟨⟨⟨1⟩, 1⟩, Sample.clock⟩] := by decide +kernel
  rw [grants]
  intro apart
  exact (List.pairwise_cons.mp apart).1 _ List.mem_cons_self ⟨1⟩ (by decide) (by decide)

end Intake
