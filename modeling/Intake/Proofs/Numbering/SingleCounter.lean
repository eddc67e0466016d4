import Intake.Allocator.SingleCounter
import Intake.Proofs.Memory.CounterCache
import Intake.Proofs.Memory.Ledger
import Intake.Proofs.Memory.World

/-! What an allocation from a counter does when it runs alone. -/

namespace Intake

namespace World

/-- No lock is held in any conversation, not even an expired one. -/
def Unlocked (w : World) : Prop :=
  ∀ conversation, w.counters.locks.entries.find? conversation = none

/-- Only the counters, their locks and the supply of tokens may have changed. -/
structure CountersOnly (before after : World) : Prop where
  clock : after.clock = before.clock
  ledger : after.ledger = before.ledger
  segments : after.segments = before.segments
  claims : after.claims = before.claims
  store : after.store = before.store
  ids : after.ids = before.ids

/-- Where nothing has changed, only the counters may have. -/
theorem CountersOnly.refl (w : World) : CountersOnly w w := ⟨rfl, rfl, rfl, rfl, rfl, rfl⟩

/-- Of two changes in a row that are only of the counters, so is the whole. -/
theorem CountersOnly.trans {first second third : World} (one : CountersOnly first second)
    (two : CountersOnly second third) : CountersOnly first third :=
  ⟨two.clock.trans one.clock, two.ledger.trans one.ledger, two.segments.trans one.segments,
    two.claims.trans one.claims, two.store.trans one.store, two.ids.trans one.ids⟩

/-- The counter of a conversation, as long as its time is not up. -/
def liveCounter (w : World) (conversation : Conversation) : Option UInt64 :=
  (w.counters.counters.liveEntry conversation w.clock).map (·.value)

/-- The number after which the next one from a counter comes: the value of the live counter, or the
one at which a counter would be started. -/
def counterBase (w : World) (conversation : Conversation) : UInt64 :=
  (w.liveCounter conversation).getD (w.ledger.highWater conversation)

/-- The services after the counter of a conversation is raised to a number. -/
def raiseCounter (w : World) (conversation : Conversation) (last : UInt64) (lifetime : Duration) :
    World :=
  let counters := w.counters.counters.update conversation ⟨last, w.clock.plus lifetime⟩
  { w with counters := { w.counters with counters } }

/-- Whether so many numbers can come from a counter: one lives or can be started that does, and it
can be raised so far. -/
def CanCount (w : World) (config : CounterConfig) (conversation : Conversation) (need : UInt64) :
    Prop :=
  ((w.liveCounter conversation).isSome ∨ w.clock < w.clock.plus config.lifetime) ∧
    (w.counterBase conversation).toNat + need.toNat < UInt64.size

end World

namespace SingleCounter

variable {config : CounterConfig} {conversation : Conversation} {need : UInt64} {w : World}

/-- From a live counter with room the numbers after its value are granted. -/
theorem tryIncrement_of_room (config : CounterConfig) {entry : Expiring UInt64} {sum : UInt64}
    (alive : w.counters.counters.liveEntry conversation w.clock = some entry)
    (added : Word.checkedAdd entry.value need = some sum) :
    (tryIncrement config conversation need).run.Ends World.answer w
      (.ok (some ⟨⟨⟨Word.saturatingSub sum need + 1⟩, need⟩, w.clock⟩))
      (w.raiseCounter conversation sum config.lifetime) := by
  -- The counter lives and its sum fits, so the cache answers it.
  rcases CounterCache.increment_of_live need config.lifetime alive with
    ⟨sum', added', raised⟩ | ⟨none', _⟩
  · rw [added] at added'
    cases added'
    have incremented : (Attempt.onCache (Procedure.increment conversation need
        config.lifetime)).run.Ends World.answer w (.ok (some sum)) _ :=
      .adapt_ok (.call (by simp only [World.answer, raised]; rfl))
    exact incremented.attempt ⟨rfl, rfl⟩
  · rw [added] at none'; cases none'

/-- From a live counter without room nothing is granted, and it stays as it is. -/
theorem tryIncrement_of_full (config : CounterConfig) {entry : Expiring UInt64}
    (alive : w.counters.counters.liveEntry conversation w.clock = some entry)
    (full : Word.checkedAdd entry.value need = none) :
    (tryIncrement config conversation need).run.Ends World.answer w
      (.error (.cache (CounterCache.overflow conversation))) w := by
  -- The counter lives, and a sum past the largest word is the failure of the cache.
  rcases CounterCache.increment_of_live need config.lifetime alive with
    ⟨sum, added, _⟩ | ⟨_, refused⟩
  · rw [full] at added; cases added
  · have incremented : (Attempt.onCache (Procedure.increment conversation need
        config.lifetime)).run.Ends World.answer w
        (.error (.cache (CounterCache.overflow conversation))) w :=
      .adapt_error (.call (by simp only [World.answer, refused]))
    exact incremented.fails ⟨rfl, rfl⟩

/-- Without a live counter nothing is granted yet, and nothing is left of an expired one. -/
theorem tryIncrement_of_gone (config : CounterConfig) (need : UInt64)
    (gone : w.counters.counters.liveEntry conversation w.clock = none) :
    ∃ after, after.entries.find? conversation = none ∧
      (tryIncrement config conversation need).run.Ends World.answer w (.ok none)
        { w with counters := { w.counters with counters := after } } := by
  -- The cache answers that there is nothing to raise, which is not a failure.
  obtain ⟨after, refused, lost⟩ := CounterCache.increment_of_gone need config.lifetime gone
  have incremented : (Attempt.onCache (Procedure.increment conversation need
      config.lifetime)).run.Ends World.answer w (.ok none)
        { w with counters := { w.counters with counters := after } } :=
    .adapt_ok (.call (by simp only [World.answer, refused]))
  exact ⟨after, lost, incremented.attempt ⟨rfl, rfl⟩⟩

/-- A counter is started where none is, at the highest number that the ledger knows of. -/
theorem seed_of_missing (missing : w.counters.counters.entries.find? conversation = none) :
    (seed config conversation).run.Ends World.answer w (.ok ()) { w with
      counters := { w.counters with
        counters := w.counters.counters.insert conversation (w.ledger.highWater conversation)
          w.clock config.lifetime } } := by
  -- The ledger is read first, and the counter set only because none is there.
  have loaded : (Attempt.onLedger (Procedure.loadWatermarks conversation)).run.Ends World.answer w
      (.ok (w.ledger.load conversation)) w := .adapt_ok (.call rfl)
  apply loaded.attempt
  have seeded : (Attempt.onCache (Procedure.seedCounter conversation
      (w.ledger.highWater conversation) config.lifetime)).run.Ends World.answer w (.ok true) _ :=
    .adapt_ok (.call (by
      simp only [World.answer, CounterCache.seed_of_missing _ _ missing]; rfl))
  exact seeded.attempt ⟨rfl, rfl⟩

/-- A counter is started under a lock that nobody holds. The lock is released, and of the others none is
new. -/
theorem coldStart_of_unheld (unheld : w.counters.locks.liveEntry conversation w.clock = none)
    (missing : w.counters.counters.entries.find? conversation = none) :
    (coldStart config conversation).run.Completes World.answer (fun outcome after =>
      outcome = .ok () ∧ w.CountersOnly after ∧ w.counters.locks.Forgets after.counters.locks ∧
        after.counters.locks.entries.find? conversation = none ∧
        after.counters.counters.entries.find? conversation =
          some ⟨w.ledger.highWater conversation, w.clock.plus config.lifetime⟩) w := by
  -- The lock is not held, so it is taken, and the counter is started while it is held.
  obtain ⟨locks, taken, held, before⟩ :=
    CounterCache.lock_of_gone (.made w.tokens) config.lockLifetime unheld
  apply Plan.Ends.lift (.call rfl)
  have locked : (Attempt.onCache (Procedure.lock conversation (.made w.tokens)
      config.lockLifetime)).run.Ends World.answer { w with tokens := w.tokens + 1 } (.ok true)
      { w with tokens := w.tokens + 1, counters := { w.counters with locks } } :=
    .adapt_ok (.call (by simp only [World.answer, taken]))
  apply locked.attempt
  rw [if_pos rfl]
  refine Plan.Ends.lift (seed_of_missing ?_) ?_
  · exact missing
  -- The lock is still there for its owner to release, whether or not it has expired.
  obtain ⟨released, after, unlocked, free, others⟩ := @CounterCache.unlock_of_owned
    { w.counters with
      locks
      counters := w.counters.counters.insert conversation (w.ledger.highWater conversation) w.clock
        config.lifetime } conversation w.clock _ _ held
  refine Plan.Ends.lift (.call (by simp only [World.answer, unlocked]; rfl)) ?_
  refine ⟨rfl, ⟨rfl, rfl, rfl, rfl, rfl, rfl⟩, fun other entry found => ?_, free,
    ExpiringTable.find?_insert_self _ _ _ _ _⟩
  by_cases same : other = conversation
  · subst same
    cases free.symm.trans found
  · exact before other entry same ((others other same).symm.trans found)

/-- Starting a counter takes a free lock and releases it. -/
theorem coldStart_completes (unlocked : w.Unlocked)
    (missing : w.counters.counters.entries.find? conversation = none) :
    (coldStart config conversation).run.Completes World.answer (fun outcome after =>
      outcome = .ok () ∧ w.CountersOnly after ∧ after.Unlocked ∧
        after.counters.counters.entries.find? conversation =
          some ⟨w.ledger.highWater conversation, w.clock.plus config.lifetime⟩) w := by
  have unheld := ExpiringTable.liveEntry_of_missing (unlocked conversation) w.clock
  refine (coldStart_of_unheld unheld missing).mono fun outcome after ended => ?_
  obtain ⟨ended, only, forgets, _, set⟩ := ended
  refine ⟨ended, only, fun other => Option.eq_none_iff_forall_ne_some.mpr fun entry found => ?_, set⟩
  -- No lock is new, and there was none before.
  cases (unlocked other).symm.trans (forgets other entry found)

/-- What an allocation from a counter comes to when it runs alone: if so many numbers can come from a
counter, those after its base are granted, and else none are. -/
structure Counted (config : CounterConfig) (conversation : Conversation) (need : UInt64)
    (before : World) (outcome : Except AllocationError Grant) (after : World) : Prop where
  only : before.CountersOnly after
  unlocked : after.Unlocked
  granted : before.CanCount config conversation need → ∃ grant last, outcome = .ok grant ∧
    grant.range.count = need ∧
    grant.start.value.toNat = (before.counterBase conversation).toNat + 1 ∧
    last.toNat = (before.counterBase conversation).toNat + need.toNat ∧
    after.counters.counters.entries.find? conversation =
      some ⟨last, before.clock.plus config.lifetime⟩
  /-- A counter that is left after a failure is the one from before, or one that was started. -/
  refused : ¬ before.CanCount config conversation need → (∃ failure, outcome = .error failure) ∧
    ∀ entry, after.counters.counters.entries.find? conversation = some entry →
      before.counters.counters.entries.find? conversation = some entry ∨
        before.liveCounter conversation = none ∧
          entry.value = before.ledger.highWater conversation
  /-- Where a counter lives or can be started, the failure is that it cannot be raised so far. -/
  overflows : ((before.liveCounter conversation).isSome ∨
      before.clock < before.clock.plus config.lifetime) →
    ¬ before.CanCount config conversation need →
      outcome = .error (.cache (CounterCache.overflow conversation))

/-- What is granted from a counter that was started would have been granted before, when there was
none that lived. -/
theorem Counted.of_started {started after : World} {outcome : Except AllocationError Grant}
    (counted : Counted config conversation need started outcome after)
    (only : w.CountersOnly started) (gone : w.liveCounter conversation = none)
    (base : started.counters.counters.entries.find? conversation =
      some ⟨w.ledger.highWater conversation, w.clock.plus config.lifetime⟩) :
    Counted config conversation need w outcome after := by
  -- A counter is started at the very number that a lost one is counted on from.
  have sameClock := only.clock
  -- Whether or not it lives, the next number comes after the highest known one.
  have sameBase : started.counterBase conversation = w.counterBase conversation := by
    unfold World.counterBase
    rw [gone]
    unfold World.liveCounter
    rw [← sameClock] at base
    rw [ExpiringTable.liveEntry_of_set base, only.ledger]
    split <;> rfl
  -- What was started lives exactly if one that would be started had lived.
  have sameLife : ((started.liveCounter conversation).isSome ∨
      started.clock < started.clock.plus config.lifetime) ↔
        ((w.liveCounter conversation).isSome ∨ w.clock < w.clock.plus config.lifetime) := by
    rw [gone, sameClock]
    unfold World.liveCounter
    rw [← sameClock] at base
    rw [ExpiringTable.liveEntry_of_set base, sameClock]
    split <;> simp [*]
  have sameChance : started.CanCount config conversation need ↔
      w.CanCount config conversation need := by
    unfold World.CanCount
    rw [sameBase, sameLife]
  refine ⟨only.trans counted.only, counted.unlocked, fun chance => ?_, fun none' => ?_,
    fun lives none' => counted.overflows (sameLife.mpr lives) (none' ∘ sameChance.mp)⟩
  · obtain ⟨grant, last, granted, counts, starts, ends, left⟩ :=
      counted.granted (sameChance.mpr chance)
    exact ⟨grant, last, granted, counts, sameBase ▸ starts, sameBase ▸ ends, sameClock ▸ left⟩
  · obtain ⟨failed, left⟩ := counted.refused (fun chance => none' (sameChance.mp chance))
    refine ⟨failed, fun entry found => .inr ⟨gone, ?_⟩⟩
    rcases left entry found with same | ⟨_, same⟩
    · rw [base] at same; cases same; rfl
    · rw [same, only.ledger]

/-- A live counter is what the numbers that come from it go on from. -/
theorem liveCounter_of_live {entry : Expiring UInt64}
    (alive : w.counters.counters.liveEntry conversation w.clock = some entry) :
    w.liveCounter conversation = some entry.value ∧ w.counterBase conversation = entry.value := by
  -- A counter that lives is what counting goes on from, before the ledger is asked.
  have live : w.liveCounter conversation = some entry.value := by
    unfold World.liveCounter; rw [alive]; rfl
  exact ⟨live, by unfold World.counterBase; rw [live]; rfl⟩

/-- The numbers up to the sum start right after the value that was raised to it. -/
theorem start_of_sum {value need sum : UInt64} (positive : 0 < need.toNat)
    (added : Word.checkedAdd value need = some sum) :
    (Word.saturatingSub sum need + 1).toNat = value.toNat + 1 := by
  -- The sum is at least the need, so that subtracting it saturates nowhere.
  obtain ⟨fits, sums⟩ := Word.checkedAdd_eq_some.mp added
  rw [Word.add_toNat] <;> rw [Word.saturatingSub_toNat, UInt64.toNat_one] <;> omega

/-- What is granted from a live counter with room. -/
theorem counted_of_room (config : CounterConfig) (positive : 0 < need.toNat) (unlocked : w.Unlocked)
    {entry : Expiring UInt64} {sum : UInt64}
    (alive : w.counters.counters.liveEntry conversation w.clock = some entry)
    (added : Word.checkedAdd entry.value need = some sum) :
    Counted config conversation need w
      (.ok ⟨⟨⟨Word.saturatingSub sum need + 1⟩, need⟩, w.clock⟩)
      (w.raiseCounter conversation sum config.lifetime) := by
  obtain ⟨live, base⟩ := liveCounter_of_live alive
  obtain ⟨fits, sums⟩ := Word.checkedAdd_eq_some.mp added
  -- The sum is checked by the cache and fits, so that there was a chance to count.
  have chance : w.CanCount config conversation need :=
    ⟨.inl (by rw [live]; rfl), by rw [base]; exact fits⟩
  refine ⟨⟨rfl, rfl, rfl, rfl, rfl, rfl⟩, unlocked, fun _ => ?_, fun never => absurd chance never,
    fun _ never => absurd chance never⟩
  exact ⟨_, sum, rfl, rfl, by rw [base]; exact start_of_sum positive added, by rw [base, sums],
    ExpiringTable.find?_update_self _ _ _⟩

/-- Nothing is granted from a live counter without room. -/
theorem counted_of_full (config : CounterConfig) (unlocked : w.Unlocked) {entry : Expiring UInt64}
    (alive : w.counters.counters.liveEntry conversation w.clock = some entry)
    (full : Word.checkedAdd entry.value need = none) :
    Counted config conversation need w (.error (.cache (CounterCache.overflow conversation))) w := by
  -- The sum needs more than 64 bits, which is the one thing that such a grant needs to fit in.
  obtain ⟨_, base⟩ := liveCounter_of_live alive
  refine ⟨.refl w, unlocked, fun chance => ?_, fun _ => ⟨⟨_, rfl⟩, fun _ found => .inl found⟩,
    fun _ _ => rfl⟩
  obtain ⟨_, fits⟩ := chance
  rw [base] at fits
  exact absurd fits (Nat.not_lt.mpr (Word.checkedAdd_eq_none.mp full))

/-- From a live counter numbers are granted at once, or none are because it has no room. -/
theorem allocateIn_of_live (positive : 0 < need.toNat) (unlocked : w.Unlocked)
    {entry : Expiring UInt64}
    (alive : w.counters.counters.liveEntry conversation w.clock = some entry) (rounds : Nat) :
    (allocateIn config conversation need rounds).run.Completes World.answer
      (Counted config conversation need w) w := by
  -- The first thing a round does is to raise the counter, and that settles it.
  cases added : Word.checkedAdd entry.value need with
  | some sum =>
    have granted := counted_of_room config positive unlocked alive added
    cases rounds <;> exact (tryIncrement_of_room config alive added).attempt granted
  | none =>
    have nothing := counted_of_full config unlocked alive added
    cases rounds <;> exact (tryIncrement_of_full config alive added).fails nothing

/-- Without a live counter one is started in the first round, and if it does not live in none of the
rounds is anything granted. -/
theorem allocateIn_of_gone (positive : 0 < need.toNat) (rounds : Nat) :
    ∀ {w : World}, w.Unlocked → w.liveCounter conversation = none →
      (0 < rounds ∨ ¬ w.clock < w.clock.plus config.lifetime) →
      (allocateIn config conversation need rounds).run.Completes World.answer
        (Counted config conversation need w) w := by
  -- The induction is on the rounds that are left, whatever services a round finds.
  induction rounds with
  | zero =>
    intro w unlocked gone never
    have gone' : w.counters.counters.liveEntry conversation w.clock = none :=
      Option.map_eq_none_iff.mp gone
    obtain ⟨after, lost, none'⟩ := tryIncrement_of_gone config need gone'
    -- Without rounds there is no grant, so there must not have been a chance of one.
    have dead : ¬ ((w.liveCounter conversation).isSome ∨
        w.clock < w.clock.plus config.lifetime) := by
      rw [gone]
      simpa using never.resolve_left (Nat.lt_irrefl 0)
    exact none'.attempt ⟨⟨rfl, rfl, rfl, rfl, rfl, rfl⟩, unlocked, fun chance => absurd chance.1 dead,
      fun _ => ⟨⟨_, rfl⟩, fun entry found => by rw [lost] at found; cases found⟩,
      fun lives => absurd lives dead⟩
  | succ rounds ih =>
    intro w unlocked gone _
    have gone' : w.counters.counters.liveEntry conversation w.clock = none :=
      Option.map_eq_none_iff.mp gone
    obtain ⟨after, lost, none'⟩ := tryIncrement_of_gone config need gone'
    refine none'.attempt (Plan.Completes.attempt (coldStart_completes unlocked lost) ?_ ?_)
    · rintro failure _ ⟨impossible, _⟩; cases impossible
    intro _ started ended
    obtain ⟨_, only, free, base⟩ := ended
    have only' : w.CountersOnly started :=
      ⟨only.clock, only.ledger, only.segments, only.claims, only.store, only.ids⟩
    -- A counter that lives is raised in the next round, and otherwise no round can raise one.
    have completes : (allocateIn config conversation need rounds).run.Completes World.answer
        (Counted config conversation need started) started := by
      rw [← only'.clock] at base
      have alive := ExpiringTable.liveEntry_of_set base
      by_cases fresh : started.clock < started.clock.plus config.lifetime
      · rw [if_pos fresh] at alive
        exact allocateIn_of_live positive free alive rounds
      · rw [if_neg fresh] at alive
        exact ih free (Option.map_eq_none_iff.mpr alive) (.inr fresh)
    exact completes.mono fun _ _ counted => counted.of_started only' gone base

/-- An allocation from a counter that runs alone grants the numbers that can come from it. -/
theorem allocate_completes (positive : 0 < need.toNat) (unlocked : w.Unlocked) :
    (allocate config conversation need).run.Completes World.answer
      (Counted config conversation need w) w := by
  -- Whether a counter lives decides if one has to be started first.
  have some : need ≠ 0 := by rintro rfl; exact absurd positive (by decide)
  unfold allocate
  rw [if_neg some]
  cases alive : w.counters.counters.liveEntry conversation w.clock with
  | some entry => exact allocateIn_of_live positive unlocked alive _
  | none =>
    exact allocateIn_of_gone positive _ unlocked (Option.map_eq_none_iff.mpr alive)
      (.inl (roundsOf_pos _))

end SingleCounter

end Intake
