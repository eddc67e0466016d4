import Intake.Proofs.Concurrency.Trace
import Intake.Proofs.Concurrency.World
import Intake.Proofs.Numbering.SingleCounter

/-! Allocations from one counter that has to be started first: how far each of them has come, and what
each call of theirs does to the counter, to its lock, and to the supply of tokens. -/

namespace Intake

/-- A call for so many numbers of a conversation, with settings of its own. -/
structure CountJob where
  config : CounterConfig
  need : UInt64

/-- The services may change by themselves in every way that keeps the counter of a conversation. Its
lock may be lost at any time, and tokens may be made elsewhere. -/
structure World.KeepsCounter (conversation : Conversation) (before after : World) : Prop where
  counter : after.liveCounter conversation = before.liveCounter conversation
  lock : ∀ entry, after.counters.locks.entries.find? conversation = some entry →
    before.counters.locks.entries.find? conversation = some entry
  tokens : before.tokens ≤ after.tokens

/-- Whether what a call sets of a counter has not expired by then. -/
def World.lasts (w : World) : Service.Request → Bool
  | .increment _ _ lifetime | .seedCounter _ _ lifetime => w.clock < w.clock.plus lifetime
  | _ => true

/-- An increment that fails has changed nothing. -/
def World.Certain (before after : World) : (request : Service.Request) → services.Reply request → Prop
  | .increment _ _ _, .error _ => after = before
  | _, _ => True

/-- Allocations from the counter of a conversation over the services in memory. An increment fails without
effect, and every other call before or after it has taken effect. -/
def coldStarting (conversation : Conversation) :
    Setting services World (fun _ : CountJob => Except AllocationError Grant) where
  -- The counter outlasts each call, so that none is lost by the calls themselves.
  reacts request before reply after :=
    World.Reacts Service.Failed request before reply after ∧ before.lasts request = true ∧
      before.Certain after request reply
  drifts := World.KeepsCounter conversation
  begins job := (SingleCounter.allocate job.config conversation job.need).run

/-- How far an allocation has come: it holds nothing, it has drawn a token for the lock, it has the
lock, it has read the number to start from, or it has its range. -/
inductive CountStage where
  | idle
  | drew (token : LockToken)
  | locked (token : LockToken)
  | read (token : LockToken) (floor : SequenceNumber)
  | counted (range : NumberRange)

namespace CountStage

/-- A call at one stage and the reply that leads to another one. -/
inductive Turns (conversation : Conversation) :
    (request : Service.Request) → CountStage → services.Reply request → CountStage → Prop where
  | counts {amount : UInt64} (some : amount ≠ 0) (lifetime : Duration) (last : UInt64) :
      Turns conversation (.increment conversation amount lifetime) .idle (.ok (.some last))
        (.counted ⟨⟨Word.saturatingSub last amount + 1⟩, amount⟩)
  -- Without a counter nothing is gained, and the caller goes on to start one.
  | misses {amount : UInt64} (some : amount ≠ 0) (lifetime : Duration) :
      Turns conversation (.increment conversation amount lifetime) .idle (.ok none) .idle
  | countFails {amount : UInt64} (some : amount ≠ 0) (lifetime : Duration) (failure : CacheError) :
      Turns conversation (.increment conversation amount lifetime) .idle (.error failure) .idle
  | stamps (range : NumberRange) (reading : Instant) :
      Turns conversation .now (.counted range) reading (.counted range)
  | draws (token : LockToken) : Turns conversation .freshToken .idle token (.drew token)
  | locks (token : LockToken) (lifetime : Duration) :
      Turns conversation (.lock conversation token lifetime) (.drew token) (.ok true) (.locked token)
  -- A token under which the lock was not taken is of no use any more.
  | waits (token : LockToken) (lifetime : Duration) :
      Turns conversation (.lock conversation token lifetime) (.drew token) (.ok false) .idle
  | lockFails (token : LockToken) (lifetime : Duration) (failure : CacheError) :
      Turns conversation (.lock conversation token lifetime) (.drew token) (.error failure) .idle
  | reads (token : LockToken) (watermarks : Option Watermarks) :
      Turns conversation (.loadWatermarks conversation) (.locked token) (.ok watermarks)
        (.read token ((watermarks.map Watermarks.highWater).getD SequenceNumber.zero))
  | readFails (token : LockToken) (failure : LedgerError) :
      Turns conversation (.loadWatermarks conversation) (.locked token) (.error failure)
        (.locked token)
  -- Whether the counter was started or was there already makes no difference to the caller.
  | seeds (token : LockToken) {floor : SequenceNumber} {value : UInt64} (same : value = floor.value)
      (lifetime : Duration) (reply : Except CacheError Bool) :
      Turns conversation (.seedCounter conversation value lifetime) (.read token floor) reply
        (.locked token)
  | unlocks (token : LockToken) (reply : Except CacheError Bool) :
      Turns conversation (.unlock conversation token) (.locked token) reply .idle

/-- An allocation that succeeds has its range, as long as it was asked for. One that fails holds
nothing. -/
def Ends (need : UInt64) (outcome : Except AllocationError Grant) (stage : CountStage) : Prop :=
  match outcome with
  | .ok grant => stage = .counted grant.range ∧ grant.range.count = need
  | .error _ => stage = .idle

end CountStage

/-- What allocations ask for at each stage, and how they go on. A call is permitted if every reply to it
leads on. -/
def counting (conversation : Conversation) : Protocol services CountStage where
  permits request stage := ∀ reply, ∃ after, CountStage.Turns conversation request stage reply after
  moves request stage reply after := CountStage.Turns conversation request stage reply after

namespace SingleCounter

variable {conversation : Conversation} {need : UInt64}

/-- An increment brings a range, or nothing. -/
theorem increment_keeps (some : need ≠ 0) (lifetime : Duration) :
    (Attempt.onCache (Procedure.increment conversation need lifetime)).run.Keeps
      (counting conversation) (fun _ => True) (fun outcome stage => match outcome with
        | .ok (.some last) => stage = .counted ⟨⟨Word.saturatingSub last need + 1⟩, need⟩
        | _ => stage = .idle) .idle := by
  -- There is a turn for each kind of reply, and each turn leads where it is stated to.
  refine .adapt (.call trivial ?_ fun reply after turns => ?_)
  · intro reply
    rcases reply with failure | _ | last
    · exact ⟨_, .countFails some lifetime failure⟩
    · exact ⟨_, .misses some lifetime⟩
    · exact ⟨_, .counts some lifetime last⟩
  · cases turns <;> exact ⟨trivial, rfl⟩

/-- A lock that is free is at hand under the token that was drawn for it. -/
theorem lock_keeps (token : LockToken) (lifetime : Duration) :
    (Attempt.onCache (Procedure.lock conversation token lifetime)).run.Keeps (counting conversation)
      (fun _ => True) (fun outcome stage => match outcome with
        | .ok true => stage = .locked token
        | _ => stage = .idle) (.drew token) := by
  -- Every reply has its turn, and only the lock that is taken leads on to the seeding.
  refine .adapt (.call trivial ?_ fun reply after turns => ?_)
  · intro reply
    rcases reply with failure | _ | _
    · exact ⟨_, .lockFails token lifetime failure⟩
    · exact ⟨_, .waits token lifetime⟩
    · exact ⟨_, .locks token lifetime⟩
  · cases turns <;> exact ⟨trivial, rfl⟩

/-- What is read from the ledger is at hand to start the counter from. -/
theorem load_keeps (token : LockToken) :
    (Attempt.onLedger (Procedure.loadWatermarks conversation)).run.Keeps (counting conversation)
      (fun _ => True) (fun outcome stage => match outcome with
        | .ok watermarks =>
          stage = .read token ((watermarks.map Watermarks.highWater).getD SequenceNumber.zero)
        | .error _ => stage = .locked token) (.locked token) := by
  -- Every reply has its turn. A conversation without watermarks is read as zero.
  refine .adapt (.call trivial ?_ fun reply after turns => ?_)
  · intro reply
    rcases reply with failure | watermarks
    · exact ⟨_, .readFails token failure⟩
    · exact ⟨_, .reads token watermarks⟩
  · cases turns <;> exact ⟨trivial, rfl⟩

/-- An attempt to start the counter leaves the lock at hand. -/
theorem seedCounter_keeps (token : LockToken) (floor : SequenceNumber) (lifetime : Duration) :
    (Attempt.onCache (Procedure.seedCounter conversation floor.value lifetime)).run.Keeps
      (counting conversation) (fun _ => True) (fun _ stage => stage = .locked token)
      (.read token floor) := by
  -- The turn is the same for every reply, as the lock has to be released in any case.
  refine .adapt (.call trivial (fun reply => ⟨_, .seeds token rfl lifetime reply⟩) ?_)
  intro reply after turns
  cases turns
  exact ⟨trivial, rfl⟩

/-- An increment at the start leads to a range, or back to the start. -/
theorem tryIncrement_keeps (config : CounterConfig) (some : need ≠ 0) :
    (tryIncrement config conversation need).run.Keeps (counting conversation) (fun _ => True)
      (fun outcome stage => match outcome with
        | .ok (.some grant) => CountStage.Ends need (.ok grant) stage
        | _ => stage = .idle) .idle := by
  refine .attempt (increment_keeps some config.lifetime) (fun _ _ failed => failed) ?_
  intro found after came
  rcases found with _ | last
  · exact ⟨trivial, came⟩
  · obtain rfl : after = _ := came
    -- The range is stamped with the time, which is asked for last.
    refine .lift (.call trivial (fun reading => ⟨_, .stamps _ reading⟩) ?_)
    intro reading after turns
    cases turns
    exact ⟨trivial, trivial, rfl, rfl⟩

/-- Seeding with the lock at hand leaves the lock at hand, whatever comes of it. -/
theorem seed_keeps (config : CounterConfig) (token : LockToken) :
    (seed config conversation).run.Keeps (counting conversation) (fun _ => True)
      (fun _ stage => stage = .locked token) (.locked token) := by
  -- A ledger that cannot be read ends the seeding before the counter is asked for.
  refine .attempt (load_keeps token) (fun _ _ failed => failed) fun watermarks after came => ?_
  obtain rfl : after = _ := came
  exact .attempt (seedCounter_keeps token _ config.lifetime) (fun _ _ failed => failed)
    fun _ _ came => ⟨trivial, came⟩

/-- A cold start leads back to where it began: a lock that is taken is released, also after a
failure. -/
theorem coldStart_keeps (config : CounterConfig) :
    (coldStart config conversation).run.Keeps (counting conversation) (fun _ => True)
      (fun _ stage => stage = .idle) .idle := by
  refine .lift (.call trivial (fun token => ⟨_, .draws token⟩) fun token after turns => ?_)
  cases turns
  refine ⟨trivial, .attempt (lock_keeps token config.lockLifetime) (fun _ _ failed => failed) ?_⟩
  intro locked after came
  rcases locked with _ | _
  · obtain rfl : after = _ := came
    exact .liftLast ⟨trivial, rfl⟩
  · -- The seeding leads back to the lock whatever comes of it, so the release comes in any case.
    obtain rfl : after = _ := came
    refine .lift ((seed_keeps config token).mono (fun _ _ => trivial) fun _ after came => ?_)
    obtain rfl : after = _ := came
    refine .lift (.call trivial (fun reply => ⟨_, .unlocks token reply⟩) fun reply after turns => ?_)
    cases turns
    exact ⟨trivial, trivial, rfl⟩

/-- The rounds that are left lead to a range, or fail with nothing at hand. -/
theorem allocateIn_keeps (config : CounterConfig) (some : need ≠ 0) (rounds : Nat) :
    (allocateIn config conversation need rounds).run.Keeps (counting conversation) (fun _ => True)
      (CountStage.Ends need) .idle := by
  -- The induction is on the rounds. A round that does not end the call leads back to the start.
  induction rounds with
  | zero =>
    refine .attempt (tryIncrement_keeps config some) (fun _ _ failed => failed) ?_
    intro found after came
    rcases found with _ | grant <;> exact ⟨trivial, came⟩
  | succ rounds ih =>
    refine .attempt (tryIncrement_keeps config some) (fun _ _ failed => failed) ?_
    intro found after came
    rcases found with _ | grant
    · obtain rfl : after = _ := came
      refine .attempt (coldStart_keeps config) (fun _ _ failed => failed) fun _ after came => ?_
      obtain rfl : after = _ := came
      exact ih
    · exact ⟨trivial, came⟩

/-- An allocation leads to a range of the length it was asked for, or fails with nothing at hand. -/
theorem allocate_keeps (config : CounterConfig) (conversation : Conversation) (need : UInt64) :
    (allocate config conversation need).run.Keeps (counting conversation) (fun _ => True)
      (CountStage.Ends need) .idle := by
  -- Without a need nothing is asked for, and the stage stays idle.
  unfold allocate
  split
  · exact ⟨trivial, rfl⟩
  · rename_i some
    exact allocateIn_keeps config some _

end SingleCounter

namespace Exchange

/-- The range that an increment has counted. -/
def counted : Exchange services World → Option NumberRange
  | ⟨_, .increment _ amount _, .ok (some last), _, _⟩ =>
    some ⟨⟨Word.saturatingSub last amount + 1⟩, amount⟩
  | _ => none

/-- The token that was drawn. -/
def drawn : Exchange services World → Option LockToken
  | ⟨_, .freshToken, token, _, _⟩ => some token
  | _ => none

/-- The token under which the lock was taken. -/
def locked : Exchange services World → Option LockToken
  | ⟨_, .lock _ token _, .ok true, _, _⟩ => some token
  | _ => none

/-- The token with which the lock was to be released. -/
def unlocks : Exchange services World → Option LockToken
  | ⟨_, .unlock _ token, _, _, _⟩ => some token
  | _ => none

/-- The number that was read from the ledger to start from. -/
def mark : Exchange services World → Option SequenceNumber
  | ⟨_, .loadWatermarks _, .ok watermarks, _, _⟩ =>
    some ((watermarks.map Watermarks.highWater).getD SequenceNumber.zero)
  | _ => none

/-- The value at which the counter was to be started. -/
def seeds : Exchange services World → Option UInt64
  | ⟨_, .seedCounter _ value _, _, _, _⟩ => some value
  | _ => none

/-- The answer was that the counter is started. -/
def Seeded : Exchange services World → Prop
  | ⟨_, .seedCounter _ _ _, .ok true, _, _⟩ => True
  | _ => False

/-- The reply was a failure. -/
def Fails (exchange : Exchange services World) : Prop :=
  Service.Failed exchange.request exchange.reply

/-- There was no counter before, and there is one after. -/
def Starts (conversation : Conversation) (exchange : Exchange services World) : Prop :=
  exchange.before.liveCounter conversation = none ∧
    exchange.after.liveCounter conversation ≠ none

end Exchange

namespace World

/-- The owner of the lock of a conversation, as long as its time is not up. -/
def liveLock (w : World) (conversation : Conversation) : Option LockToken :=
  (w.counters.locks.liveEntry conversation w.clock).map (·.value)

variable {w : World} {lifetime : Duration}

/-- An increment finds no counter, raises one that lives, or fails and changes nothing. -/
theorem increment_cases (conversation : Conversation) (amount : UInt64)
    (lives : w.clock < w.clock.plus lifetime) :
    (w.liveCounter conversation = none ∧
      (answer (.increment conversation amount lifetime) w).1 = .ok none ∧
      (answer (.increment conversation amount lifetime) w).2.liveCounter conversation = none) ∨
    (∃ value sum, w.liveCounter conversation = some value ∧
      Word.checkedAdd value amount = some sum ∧
      (answer (.increment conversation amount lifetime) w).1 = .ok (some sum) ∧
      (answer (.increment conversation amount lifetime) w).2.liveCounter conversation = some sum) ∨
    ∃ failure, answer (.increment conversation amount lifetime) w = (.error failure, w) := by
  -- The cache decides by the live counter, and what it sets lives from now on.
  cases alive : w.counters.counters.liveEntry conversation w.clock with
  | none =>
    obtain ⟨after, refused, lost⟩ := CounterCache.increment_of_gone amount lifetime alive
    refine .inl ⟨by simp [liveCounter, alive], ?_, ?_⟩
    · simp only [answer, refused]
    · simp only [answer, refused, liveCounter, ExpiringTable.liveEntry, lost, Option.filter_none,
        Option.map_none]
  | some entry =>
    rcases CounterCache.increment_of_live amount lifetime alive with
      ⟨sum, added, raised⟩ | ⟨_, refused⟩
    · refine .inr (.inl ⟨entry.value, sum, by simp [liveCounter, alive], added, ?_, ?_⟩)
      · simp only [answer, raised]
      · have set := ExpiringTable.find?_update_self w.counters.counters conversation
          ⟨sum, w.clock.plus lifetime⟩
        simp only [answer, raised, liveCounter, ExpiringTable.liveEntry_of_set set, lives, ↓reduceIte,
          Option.map_some]
    · exact .inr (.inr ⟨CounterCache.overflow conversation, by simp only [answer, refused]⟩)

/-- An increment that has no effect when it fails finds no counter, raises one that lives, or leaves all
as it was. -/
theorem Reacts.increment {conversation : Conversation} {amount : UInt64} {after : World}
    {reply : Except CacheError (Option UInt64)}
    (reacted : Reacts Service.Failed (.increment conversation amount lifetime) w reply after)
    (lives : w.clock < w.clock.plus lifetime)
    (certain : w.Certain after (.increment conversation amount lifetime) reply) :
    (reply = .ok none ∧ after.liveCounter conversation = w.liveCounter conversation) ∨
    (∃ value sum, reply = .ok (some sum) ∧ Word.checkedAdd value amount = some sum ∧
      w.liveCounter conversation = some value ∧ after.liveCounter conversation = some sum) ∨
    ∃ failure, reply = .error failure ∧ after = w := by
  -- An answer is one of the three, and a failure is without effect by assumption.
  rcases reacted.answered_or_failed with ⟨rfl, rfl⟩ | ⟨⟨failure, rfl⟩, _⟩
  · rcases increment_cases conversation amount lives with
      ⟨gone, replied, still⟩ | ⟨value, sum, alive, added, replied, raised⟩ | ⟨failure, failed⟩
    · exact .inl ⟨replied, still.trans gone.symm⟩
    · exact .inr (.inl ⟨value, sum, replied, added, alive, raised⟩)
    · exact .inr (.inr ⟨failure, by rw [failed], by rw [failed]⟩)
  · exact .inr (.inr ⟨failure, rfl, certain⟩)

/-- A counter is started where none lives, and one that lives stays as it is. -/
theorem seed_cases (conversation : Conversation) (value : UInt64)
    (lives : w.clock < w.clock.plus lifetime) :
    (w.liveCounter conversation = none ∧
      (answer (.seedCounter conversation value lifetime) w).2.liveCounter conversation = some value) ∨
    (w.liveCounter conversation ≠ none ∧
      (answer (.seedCounter conversation value lifetime) w).1 = .ok false ∧
      (answer (.seedCounter conversation value lifetime) w).2.liveCounter conversation =
        w.liveCounter conversation) := by
  -- The look-up that decides may drop an expired counter, in whose place the new one is put.
  rcases w.counters.counters.live_cases conversation w.clock with
    ⟨entry, alive, looked⟩ | ⟨after, gone, looked, _, _⟩
  · refine .inr ⟨by simp [liveCounter, alive], ?_, ?_⟩ <;>
      simp only [answer, CounterCache.seed, looked, liveCounter]
  · refine .inl ⟨by simp [liveCounter, gone], ?_⟩
    have set := ExpiringTable.find?_insert_self after conversation value w.clock lifetime
    simp only [answer, CounterCache.seed, looked, liveCounter, ExpiringTable.liveEntry_of_set set, lives,
      ↓reduceIte, Option.map_some]

end World

namespace Exchange

variable {conversation : Conversation} {exchange : Exchange services World} {stage next : CountStage}

/-- An increment counts the numbers after the value of the counter, up to its new one. -/
theorem counted_numbers {value sum amount : UInt64} (some : amount ≠ 0)
    (added : Word.checkedAdd value amount = .some sum) :
    value.toNat ≤ sum.toNat ∧
      (NumberRange.mk ⟨Word.saturatingSub sum amount + 1⟩ amount).numbers.map (·.value.toNat) =
        List.range' (value.toNat + 1) (sum.toNat - value.toNat) := by
  -- The sum fits a word, so taking the amount off it again gives the old value.
  obtain ⟨fits, sums⟩ := Word.checkedAdd_eq_some.mp added
  have positive := Word.toNat_pos some
  have start : (Word.saturatingSub sum amount + 1).toNat = value.toNat + 1 := by
    have below : (Word.saturatingSub sum amount).toNat = value.toNat := by
      rw [Word.saturatingSub_toNat]; omega
    rw [Word.add_toNat] <;> rw [below, UInt64.toNat_one]
    omega
  have count : amount.toNat = sum.toNat - value.toNat := by omega
  refine ⟨by omega, ?_⟩
  rw [NumberRange.numbers_toNat positive (by dsimp only; omega), start]
  dsimp only
  rw [count]

section Made

variable (turns : CountStage.Turns conversation exchange.request stage exchange.reply next)
  (reacted : (coldStarting conversation).reacts exchange.request exchange.before exchange.reply
    exchange.after)

include turns reacted

/-- What a call does to the counter: nothing, and it has no range, or it starts the counter, or it raises
it and has the range in between. -/
theorem counter_cases :
    (exchange.after.liveCounter conversation = exchange.before.liveCounter conversation ∧
      exchange.counted = none) ∨
    (∃ value, exchange.before.liveCounter conversation = none ∧
      exchange.after.liveCounter conversation = some value ∧ exchange.seeds = some value ∧
      exchange.counted = none) ∨
    (∃ value last range, exchange.before.liveCounter conversation = some value ∧
      exchange.after.liveCounter conversation = some last ∧ exchange.counted = some range ∧
      value.toNat ≤ last.toNat ∧ range.numbers.map (·.value.toNat) =
        List.range' (value.toNat + 1) (last.toNat - value.toNat)) := by
  obtain ⟨place, request, reply, before, after⟩ := exchange
  obtain ⟨reacted, lasts, certain⟩ := reacted
  dsimp only at turns reacted lasts certain
  -- A call that leaves the counter alone when it takes effect does so in any case.
  have aside : (World.answer request before).2.liveCounter conversation =
      before.liveCounter conversation →
      after.liveCounter conversation = before.liveCounter conversation :=
    reacted.keeps (fun w => w.liveCounter conversation = _) rfl
  cases turns with
  | counts some lifetime last =>
    rcases reacted.increment (of_decide_eq_true lasts) certain with
      ⟨nothing, _⟩ | ⟨value, sum, same, added, alive, raised⟩ | ⟨_, failed, _⟩
    · cases nothing
    · cases same
      obtain ⟨upward, numbers⟩ := counted_numbers some added
      exact .inr (.inr ⟨value, last, _, alive, raised, rfl, upward, numbers⟩)
    · cases failed
  | misses some lifetime =>
    rcases reacted.increment (of_decide_eq_true lasts) certain with
      ⟨_, still⟩ | ⟨_, _, same, _⟩ | ⟨_, failed, _⟩
    · exact .inl ⟨still, rfl⟩
    · cases same
    · cases failed
  | countFails some lifetime failure =>
    obtain rfl : after = before := certain
    exact .inl ⟨rfl, rfl⟩
  | @seeds token floor value same lifetime reply =>
    rcases World.seed_cases conversation value (of_decide_eq_true lasts) with
      ⟨gone, started⟩ | ⟨_, _, kept⟩
    · -- The counter may have been started although the reply is a failure.
      rcases reacted.answered_or_failed with ⟨_, rfl⟩ | ⟨_, rfl | rfl⟩
      · exact .inr (.inl ⟨value, gone, started, rfl, rfl⟩)
      · exact .inl ⟨rfl, rfl⟩
      · exact .inr (.inl ⟨value, gone, started, rfl, rfl⟩)
    · exact .inl ⟨aside kept, rfl⟩
  | locks | waits | lockFails =>
    exact .inl ⟨aside (by simp only [World.answer, World.liveCounter, CounterCache.counters_lock]), rfl⟩
  | unlocks =>
    exact .inl ⟨aside (by simp only [World.answer, World.liveCounter, CounterCache.counters_unlock]), rfl⟩
  | stamps | draws | reads | readFails => exact .inl ⟨aside rfl, rfl⟩

/-- A call whose answer is that the counter is started has started it. -/
theorem starts_of_seeded (seeded : exchange.Seeded) : exchange.Starts conversation := by
  obtain ⟨place, request, reply, before, after⟩ := exchange
  obtain ⟨reacted, lasts, certain⟩ := reacted
  dsimp only at turns reacted lasts certain
  -- Only a call that was to start the counter has such an answer.
  cases turns with
  | @seeds token floor value same lifetime reply =>
    rcases reacted.answered_or_failed with ⟨answered, rfl⟩ | ⟨⟨_, failed⟩, _⟩
    · rcases World.seed_cases conversation value (of_decide_eq_true lasts) with
        ⟨gone, started⟩ | ⟨_, refused, _⟩
      · exact ⟨gone, by simp [started]⟩
      -- Where a counter lives already the answer is another one.
      · subst answered
        unfold Seeded at seeded
        simp only [refused] at seeded
    · subst failed
      exact seeded.elim
  | counts | misses | countFails | stamps | draws | locks | waits | lockFails | reads | readFails
  | unlocks => exact seeded.elim

/-- What is read from the ledger to start from is the highest number that it knows of. -/
theorem mark_eq {floor : SequenceNumber} (marked : exchange.mark = some floor) :
    floor.value = exchange.before.ledger.highWater conversation := by
  obtain ⟨place, request, reply, before, after⟩ := exchange
  obtain ⟨reacted, _⟩ := reacted
  dsimp only at turns reacted ⊢
  -- The ledger is read by one call alone, whose reply is not a failure.
  cases turns with
  | reads token watermarks =>
    rcases reacted.answered_or_failed with ⟨answered, _⟩ | ⟨⟨_, failed⟩, _⟩
    · cases answered
      cases marked
      rfl
    · cases failed
  | counts | misses | countFails | stamps | draws | locks | waits | lockFails | readFails | seeds
  | unlocks => cases marked

/-- The supply of tokens only grows, and by the token that is drawn. -/
theorem drawn_made :
    exchange.before.tokens ≤ exchange.after.tokens ∧ ∀ token, exchange.drawn = some token →
      token = .made exchange.before.tokens ∧ exchange.before.tokens < exchange.after.tokens := by
  obtain ⟨place, request, reply, before, after⟩ := exchange
  obtain ⟨reacted, _⟩ := reacted
  dsimp only at turns reacted ⊢
  -- Only the request for a token changes the supply.
  have aside : (World.answer request before).2.tokens = before.tokens →
      before.tokens ≤ after.tokens :=
    fun kept => reacted.keeps (fun w => before.tokens ≤ w.tokens) (Nat.le_refl _)
      (Nat.le_of_eq kept.symm)
  cases turns with
  | draws token =>
    rcases reacted.answered_or_failed with ⟨answered, rfl⟩ | ⟨impossible, _⟩
    · refine ⟨Nat.le_succ _, fun drawn same => ?_⟩
      cases same
      exact ⟨answered, Nat.lt_succ_self _⟩
    · exact impossible.elim
  | counts | misses | countFails | stamps | locks | waits | lockFails | reads | readFails | seeds
  | unlocks => exact ⟨aside rfl, fun _ same => by cases same⟩

/-- The lock that is found after a call was there before, or the call has put it there under the token
that its caller had drawn. -/
theorem lock_found {entry : Expiring LockToken}
    (found : exchange.after.counters.locks.entries.find? conversation = some entry) :
    exchange.before.counters.locks.entries.find? conversation = some entry ∨
      stage = .drew entry.value := by
  obtain ⟨place, request, reply, before, after⟩ := exchange
  obtain ⟨reacted, _⟩ := reacted
  dsimp only at turns reacted found ⊢
  -- Without an effect the lock is what it was, so the effect is all that matters.
  have effect : ((World.answer request before).2.counters.locks.entries.find? conversation =
      some entry → before.counters.locks.entries.find? conversation = some entry ∨
        stage = .drew entry.value) → before.counters.locks.entries.find? conversation = some entry ∨
          stage = .drew entry.value :=
    fun left => reacted.keeps (fun w =>
      w.counters.locks.entries.find? conversation = some entry → _) .inl left found
  -- Three turns ask for the lock, which the first of them gets.
  have locking : ∀ token lifetime, stage = .drew token →
      (before.counters.lock conversation token lifetime before.clock).2.locks.entries.find?
        conversation = some entry → before.counters.locks.entries.find? conversation = some entry ∨
          stage = .drew entry.value := by
    intro token lifetime drew left
    rcases CounterCache.find?_of_lock left with same | same
    · exact .inl same
    · exact .inr (same ▸ drew)
  cases turns with
  | locks token lifetime | waits token lifetime | lockFails token lifetime =>
    exact effect (locking token lifetime rfl)
  | unlocks token =>
    exact effect fun left => .inl (CounterCache.unlock_forgets token conversation entry left)
  | counts | misses | countFails =>
    exact effect fun left => .inl (by
      simpa only [World.answer, CounterCache.locks_increment] using left)
  | seeds =>
    exact effect fun left => .inl (by simpa only [World.answer, CounterCache.locks_seed] using left)
  | stamps | draws | reads | readFails => exact effect .inl

/-- After a release that has not failed no lock is found under its token. -/
theorem lock_released {token : LockToken} (unlocks : exchange.unlocks = some token)
    (succeeds : ¬ exchange.Fails) {entry : Expiring LockToken}
    (found : exchange.after.counters.locks.entries.find? conversation = some entry) :
    entry.value ≠ token := by
  -- The exchange is one of the turns, of which only one unlocks.
  obtain ⟨place, request, reply, before, after⟩ := exchange
  obtain ⟨reacted, _⟩ := reacted
  dsimp only at turns reacted found ⊢
  cases turns with
  | unlocks token =>
    cases unlocks
    -- An answered call has released the lock, and a failed one was excluded.
    rcases reacted.answered_or_failed with ⟨_, rfl⟩ | ⟨failed, _⟩
    · exact CounterCache.value_ne_of_unlock found
    · exact absurd failed succeeds
  | counts | misses | countFails | stamps | draws | locks | waits | lockFails | reads | readFails
  | seeds => cases unlocks

/-- A release leaves a lock alone that lives under another token. -/
theorem lock_spared {token owner : LockToken} (unlocks : exchange.unlocks = some token)
    (owned : exchange.before.liveLock conversation = some owner) (differ : owner ≠ token) :
    exchange.after.liveLock conversation = some owner := by
  obtain ⟨place, request, reply, before, after⟩ := exchange
  obtain ⟨reacted, _⟩ := reacted
  dsimp only at turns reacted owned ⊢
  cases turns with
  | unlocks token =>
    cases unlocks
    -- The token does not own the lock, so that the cache changes nothing.
    have spared : (World.answer (.unlock conversation token) before).2 = before := by
      obtain ⟨entry, alive, rfl⟩ := Option.map_eq_some_iff.mp owned
      simp only [World.answer, CounterCache.unlock_of_other alive differ]
    exact reacted.keeps (fun w => w.liveLock conversation = some owner) owned
      (by rw [spared]; exact owned)
  | counts | misses | countFails | stamps | draws | locks | waits | lockFails | reads | readFails
  | seeds => cases unlocks

end Made

end Exchange

end Intake
