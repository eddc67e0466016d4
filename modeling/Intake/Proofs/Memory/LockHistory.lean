import Intake.Proofs.Memory.CounterCache
import Intake.Proofs.Samples
import Intake.Proofs.Save.Log

/-! Who holds a lock: the token that took it last, until its time is up or it is released. A cache that
forgets what has expired knows no other holder, whatever calls are made on it. -/

namespace Intake

/-- A call on the cache of counters. -/
inductive CounterCall where
  | increment (conversation : Conversation) (amount : UInt64) (lifetime : Duration)
  | seed (conversation : Conversation) (value : UInt64) (lifetime : Duration)
  | lock (conversation : Conversation) (token : LockToken) (lifetime : Duration)
  | unlock (conversation : Conversation) (token : LockToken)
  | drop (conversation : Conversation)
deriving DecidableEq

/-- Whether a call is on a lock. The others are on a counter. -/
def CounterCall.isOnLock : CounterCall → Bool
  | .lock _ _ _ | .unlock _ _ => true
  | _ => false

/-- What a call on the cache of counters is answered with. -/
inductive CounterReply where
  | incremented (outcome : Except CacheError (Option UInt64))
  | seeded (done : Bool)
  | locked (done : Bool)
  | unlocked (done : Bool)
  | dropped
deriving DecidableEq

/-- A call that was made at a time, and how it was answered. -/
structure AnsweredCall where
  time : Instant
  call : CounterCall
  reply : CounterReply
deriving DecidableEq

/-- A token holds the lock of a conversation by what has happened: the lock was taken with it for a time
that is not up, and was not released with it since. -/
def HoldsLock (events : List AnsweredCall) (conversation : Conversation) (token : LockToken)
    (now : Instant) : Prop :=
  ∃ earlier taken lifetime later,
    events = earlier ++ ⟨taken, .lock conversation token lifetime, .locked true⟩ :: later ∧
      now < taken.plus lifetime ∧
      ∀ released, ⟨released, .unlock conversation token, .unlocked true⟩ ∉ later

/-- After another event a lock is held that was taken by it, or that was held before and is not released
by it. -/
theorem holdsLock_append {events : List AnsweredCall} {event : AnsweredCall}
    {conversation : Conversation} {token : LockToken} {now : Instant} :
    HoldsLock (events ++ [event]) conversation token now ↔
      (∃ lifetime, event.call = .lock conversation token lifetime ∧ event.reply = .locked true ∧
        now < event.time.plus lifetime) ∨
      (HoldsLock events conversation token now ∧
        ¬ (event.call = .unlock conversation token ∧ event.reply = .unlocked true)) := by
  constructor
  · rintro ⟨earlier, taken, lifetime, later, split, alive, unreleased⟩
    -- The lock was taken by the last event, or by one of those before it.
    rcases List.eq_nil_or_concat later with rfl | ⟨between, last, rfl⟩
    · obtain ⟨_, same⟩ := List.append_inj' split rfl
      cases same
      exact .inl ⟨lifetime, rfl, rfl, alive⟩
    · rw [List.concat_eq_append, ← List.cons_append, ← List.append_assoc] at split
      obtain ⟨before, same⟩ := List.append_inj' split rfl
      cases same
      simp only [List.concat_eq_append, List.mem_append, List.mem_singleton, not_or] at unreleased
      refine .inr ⟨⟨earlier, taken, lifetime, between, before, alive, fun time => (unreleased time).1⟩,
        fun released => (unreleased event.time).2 ?_⟩
      rw [← released.1, ← released.2]
  · rintro (⟨lifetime, called, replied, alive⟩ | ⟨⟨earlier, taken, lifetime, later, rfl, alive,
      unreleased⟩, kept⟩)
    · refine ⟨events, event.time, lifetime, [], ?_, alive, fun _ => List.not_mem_nil⟩
      rw [← called, ← replied]
    · refine ⟨earlier, taken, lifetime, later ++ [event], ?_, alive, fun time member => ?_⟩
      · rw [List.append_assoc, List.cons_append]
      · rcases List.mem_append.mp member with sooner | last
        · exact unreleased time sooner
        · cases List.mem_singleton.mp last
          exact kept ⟨rfl, rfl⟩

namespace CounterCache

variable {cache after : CounterCache} {conversation other : Conversation} {token : LockToken}
  {now later : Instant} {events : List AnsweredCall}

/-- Answers a call, and gives the cache after it. -/
def answer (cache : CounterCache) (now : Instant) : CounterCall → CounterReply × CounterCache
  | .increment conversation amount lifetime =>
    match cache.increment conversation amount lifetime now with
    | (outcome, cache) => (.incremented outcome, cache)
  | .seed conversation value lifetime =>
    match cache.seed conversation value lifetime now with
    | (done, cache) => (.seeded done, cache)
  | .lock conversation token lifetime =>
    match cache.lock conversation token lifetime now with
    | (done, cache) => (.locked done, cache)
  | .unlock conversation token =>
    match cache.unlock conversation token now with
    | (done, cache) => (.unlocked done, cache)
  | .drop conversation => (.dropped, cache.drop conversation)

/-- Makes calls at their times, one after the other: what happens, and the cache after it. -/
def follow : List (Instant × CounterCall) → CounterCache → List AnsweredCall × CounterCache :=
  inOrder fun input cache =>
    (⟨input.1, input.2, (cache.answer input.1 input.2).1⟩, (cache.answer input.1 input.2).2)

/-- The token under which the lock of a conversation is kept, as long as its time is not up. -/
def owner (cache : CounterCache) (conversation : Conversation) (now : Instant) : Option LockToken :=
  (cache.locks.liveEntry conversation now).map (·.value)

/-- A lock that is kept as it is now is kept as it is from now on. -/
theorem owner_of_kept
    (kept : after.locks.liveEntry conversation now = cache.locks.liveEntry conversation now)
    (order : now ≤ later) : after.owner conversation later = cache.owner conversation later := by
  -- What lives later is decided by what lives now, which is the same in both caches.
  unfold owner
  rw [ExpiringTable.liveEntry_later _ _ order, kept, ← ExpiringTable.liveEntry_later _ _ order]

/-- A lock that nobody owns now nobody owns from now on. -/
theorem owner_of_unowned (unowned : cache.owner conversation now = none) (order : now ≤ later) :
    cache.owner conversation later = none := by
  -- Waiting does not bring a lock back.
  unfold owner at unowned ⊢
  rw [ExpiringTable.liveEntry_later _ _ order, Option.map_eq_none_iff.mp unowned]
  rfl

/-- Who owns a lock later owns it now. -/
theorem owner_of_later (order : now ≤ later) (owned : cache.owner conversation later = some token) :
    cache.owner conversation now = some token := by
  -- A lock that lives later lived before, as time only takes entries away.
  unfold owner at owned ⊢
  rw [ExpiringTable.liveEntry_later _ _ order] at owned
  obtain ⟨entry, found, value⟩ := Option.map_eq_some_iff.mp owned
  exact Option.map_eq_some_iff.mpr ⟨entry, (Option.filter_eq_some_iff.mp found).1, value⟩

/-- A lock that someone owns is not taken, and nothing changes. -/
theorem lock_of_owned {holder : LockToken} (owned : cache.owner conversation now = some holder)
    (token : LockToken) (lifetime : Duration) :
    cache.lock conversation token lifetime now = (false, cache) := by
  -- The look-up finds the lock alive, so that nothing is dropped and nothing taken.
  obtain ⟨entry, alive, _⟩ := Option.map_eq_some_iff.mp owned
  unfold lock
  rw [ExpiringTable.live_of_alive alive]

/-- A lock that nobody owns is taken, and owned until its time is up. -/
theorem lock_of_unowned (unowned : cache.owner conversation now = none) (token : LockToken)
    (lifetime : Duration) :
    (cache.lock conversation token lifetime now).1 = true ∧
      ∀ later, (cache.lock conversation token lifetime now).2.owner conversation later =
        if later < now.plus lifetime then some token else none := by
  obtain ⟨locks, taken, found, _⟩ :=
    lock_of_gone token lifetime (Option.map_eq_none_iff.mp unowned)
  rw [taken]
  refine ⟨rfl, fun later => ?_⟩
  -- The table holds the new entry, so that only its time decides.
  unfold owner
  rw [ExpiringTable.liveEntry_of_found later found]
  by_cases alive : later < now.plus lifetime
  · simp [Option.filter, Expiring.isLive, alive]
  · simp [Option.filter, Expiring.isLive, alive]

/-- A lock is released with the token that owns it, and nobody owns it then. -/
theorem unlock_of_owner (owned : cache.owner conversation now = some token) (later : Instant) :
    (cache.unlock conversation token now).1 = true ∧
      (cache.unlock conversation token now).2.owner conversation later = none := by
  -- The lock is removed rather than shortened, which leaves no entry at any time.
  obtain ⟨⟨_, expiresAt⟩, alive, rfl⟩ := Option.map_eq_some_iff.mp owned
  unfold unlock
  rw [ExpiringTable.live_of_alive alive]
  simp only [↓reduceIte, owner, true_and]
  rw [ExpiringTable.liveEntry_of_missing (ExpiringTable.find?_remove_self _ _)]
  rfl

/-- A lock is not released with a token that does not own it, and all locks stay as they are. -/
theorem unlock_of_not_owner (foreign : cache.owner conversation now ≠ some token) :
    (cache.unlock conversation token now).1 = false ∧
      ∀ other, (cache.unlock conversation token now).2.locks.liveEntry other now =
        cache.locks.liveEntry other now := by
  obtain ⟨locks, looked, kept⟩ := cache.locks.live_keeps conversation now
  unfold unlock
  rw [looked]
  cases alive : cache.locks.liveEntry conversation now with
  | none => exact ⟨rfl, kept⟩
  | some entry =>
    -- The token that is kept is another one.
    have differ : entry.value ≠ token := by
      rintro rfl
      exact foreign (Option.map_eq_some_iff.mpr ⟨entry, alive, rfl⟩)
    simp only [differ, ↓reduceIte, true_and]
    exact kept

/-- From a time on a lock is held by what has happened exactly if it is owned in the cache. -/
def Knows (cache : CounterCache) (events : List AnsweredCall) (now : Instant) : Prop :=
  ∀ conversation token later, now ≤ later →
    (HoldsLock events conversation token later ↔ cache.owner conversation later = some token)

namespace Knows

/-- What is known of locks stays known when none is taken or released, and all that live are kept. -/
theorem keep {event : AnsweredCall} (knows : cache.Knows events now)
    (untaken : event.reply ≠ .locked true) (unreleased : event.reply ≠ .unlocked true)
    (kept : ∀ conversation,
      after.locks.liveEntry conversation now = cache.locks.liveEntry conversation now) :
    after.Knows (events ++ [event]) now := by
  -- An event that neither takes nor releases a lock changes nobody's hold, and the locks are the same.
  intro conversation token later order
  rw [holdsLock_append, owner_of_kept (kept conversation) order, ← knows conversation token later order]
  constructor
  · rintro (⟨_, _, taken, _⟩ | ⟨held, _⟩)
    · exact absurd taken untaken
    · exact held
  · exact fun held => .inr ⟨held, fun released => unreleased released.2⟩

/-- A lock that was taken is held by its token, until its time is up. -/
theorem take (knows : cache.Knows events now) (unowned : cache.owner conversation now = none)
    (token : LockToken) (lifetime : Duration) :
    (cache.lock conversation token lifetime now).2.Knows
      (events ++ [⟨now, .lock conversation token lifetime, .locked true⟩]) now := by
  intro other holder later order
  rw [holdsLock_append]
  simp only [CounterCall.lock.injEq, reduceCtorEq, false_and, not_false_eq_true, and_true, true_and]
  by_cases same : other = conversation
  · -- Nobody held it before.
    subst same
    have free : ¬ HoldsLock events other holder later := by
      rw [knows other holder later order, owner_of_unowned unowned order]
      exact Option.some_ne_none holder ∘ Eq.symm
    rw [(lock_of_unowned unowned token lifetime).2 later]
    constructor
    · rintro (⟨_, ⟨_, rfl, rfl⟩, alive⟩ | held)
      · exact if_pos alive
      · exact absurd held free
    · intro owned
      split at owned
      · rename_i alive
        exact .inl ⟨lifetime, ⟨rfl, Option.some.inj owned, rfl⟩, alive⟩
      · cases owned
  · have kept : (cache.lock conversation token lifetime now).2.owner other later =
        cache.owner other later :=
      owner_of_kept (liveEntry_lock_of_ne token lifetime same) order
    rw [kept, ← knows other holder later order]
    simp [Ne.symm same]

/-- A lock that was released is held by nobody. -/
theorem release (knows : cache.Knows events now) (owned : cache.owner conversation now = some token) :
    (cache.unlock conversation token now).2.Knows
      (events ++ [⟨now, .unlock conversation token, .unlocked true⟩]) now := by
  intro other holder later order
  rw [holdsLock_append]
  simp only [CounterCall.unlock.injEq, reduceCtorEq, false_and, and_true, exists_false, false_or]
  by_cases same : other = conversation
  · -- Whoever holds it still would have owned it, and only its owner releases it.
    subst same
    rw [(unlock_of_owner owned later).2]
    simp only [true_and, reduceCtorEq, iff_false, not_and, Decidable.not_not]
    intro held
    have owned' := owner_of_later order ((knows other holder later order).mp held)
    exact Option.some.inj (owned.symm.trans owned')
  · have kept : (cache.unlock conversation token now).2.owner other later =
        cache.owner other later :=
      owner_of_kept (liveEntry_unlock_of_ne token same) order
    rw [kept, ← knows other holder later order]
    simp [Ne.symm same]

/-- Every call is followed, so that it is known who holds a lock after it. -/
theorem answer (knows : cache.Knows events now) (call : CounterCall) :
    (cache.answer now call).2.Knows (events ++ [⟨now, call, (cache.answer now call).1⟩]) now := by
  -- A holder changes where a lock is taken that nobody owns, or released by its owner. Any other call keeps
  -- the locks that live.
  cases call with
  | increment conversation amount lifetime =>
    exact knows.keep (by simp [CounterCache.answer]) (by simp [CounterCache.answer])
      fun _ => congrArg (ExpiringTable.liveEntry · _ _) (locks_increment amount lifetime)
  | seed conversation value lifetime =>
    exact knows.keep (by simp [CounterCache.answer]) (by simp [CounterCache.answer])
      fun _ => congrArg (ExpiringTable.liveEntry · _ _) (locks_seed value lifetime)
  | drop conversation =>
    exact knows.keep (by simp [CounterCache.answer]) (by simp [CounterCache.answer]) fun _ => rfl
  | lock conversation token lifetime =>
    simp only [CounterCache.answer]
    cases owned : cache.owner conversation now with
    | some holder =>
      rw [lock_of_owned owned]
      exact knows.keep (by simp) (by simp) fun _ => rfl
    | none =>
      rw [(lock_of_unowned owned token lifetime).1]
      exact knows.take owned token lifetime
  | unlock conversation token =>
    simp only [CounterCache.answer]
    by_cases owned : cache.owner conversation now = some token
    · rw [(unlock_of_owner owned now).1]
      exact knows.release owned
    · obtain ⟨refused, kept⟩ := unlock_of_not_owner owned
      rw [refused]
      exact knows.keep (by simp) (by simp) kept

/-- What is known from a time on is known from any later one on. -/
theorem onward (knows : cache.Knows events now) (order : now ≤ later) : cache.Knows events later :=
  fun conversation token time sooner =>
    knows conversation token time (Instant.le_trans order sooner)

/-- Of a cache without locks nobody holds any. -/
theorem empty (now : Instant) : CounterCache.empty.Knows [] now := by
  intro conversation token later _
  have unowned : CounterCache.empty.owner conversation later = none := rfl
  rw [unowned]
  simp [HoldsLock]

end Knows

/-- After calls on a clock that is never set back it is known who holds a lock. -/
theorem knows_follow (calls : List (Instant × CounterCall)) :
    ∀ {cache : CounterCache} {events : List AnsweredCall} {start now : Instant},
      Instant.Ascending (start :: (calls.map (·.1) ++ [now])) → cache.Knows events start →
      (follow calls cache).2.Knows (events ++ (follow calls cache).1) now := by
  -- The calls before the first one of a list are in the events that are known when it is made.
  induction calls with
  | nil =>
    intro cache events start now ascending knows
    have order : start ≤ now := by simpa [Instant.Ascending] using ascending
    exact (List.append_nil events).symm ▸ knows.onward order
  | cons input calls ih =>
    intro cache events start now ascending knows
    obtain ⟨upTo, ascending⟩ := List.pairwise_cons.mp ascending
    have answered := (knows.onward (upTo input.1 List.mem_cons_self)).answer input.2
    have followed := ih ascending answered
    rwa [List.append_assoc] at followed

/-- While a token holds a lock, every other call to take or release it is refused. It is released exactly
with the token that holds it, and taken exactly if none does. -/
theorem locks_exclude (calls : List (Instant × CounterCall)) (now : Instant) (call : CounterCall)
    (ascending : Instant.Ascending (calls.map (·.1) ++ [now])) :
    let past := (follow calls empty).1
    let before := (follow calls empty).2
    let reply := (before.answer now call).1
    let after := (before.answer now call).2
    (∀ conversation token, HoldsLock past conversation token now →
      (∀ other, HoldsLock past conversation other now → other = token) ∧
        (∀ other lifetime, call = .lock conversation other lifetime → reply = .locked false) ∧
        ∀ other, other ≠ token → call = .unlock conversation other → reply = .unlocked false) ∧
      (∀ conversation token, call = .unlock conversation token →
        (reply = .unlocked true ↔ HoldsLock past conversation token now)) ∧
      (∀ conversation token lifetime, call = .lock conversation token lifetime →
        (reply = .locked true ↔ ∀ holder, ¬ HoldsLock past conversation holder now)) ∧
      (call.isOnLock = true → after.counters = before.counters) ∧
      (call.isOnLock = false → after.locks = before.locks) := by
  intro past before reply after
  -- Each part is about who holds a lock by the events, and is shown of who owns it in the cache.
  have start : Instant.Ascending (.earliest :: (calls.map (·.1) ++ [now])) :=
    List.pairwise_cons.mpr ⟨fun clock _ => Instant.earliest_le clock, ascending⟩
  have knows : before.Knows past now := knows_follow calls start (Knows.empty _)
  have owned : ∀ conversation token, HoldsLock past conversation token now ↔
      before.owner conversation now = some token :=
    fun conversation token => knows conversation token now (Instant.le_refl now)
  refine ⟨fun conversation token held => ⟨fun other held' => ?_, ?_, ?_⟩, ?_, ?_, ?_, ?_⟩
  · rw [owned] at held held'
    exact Option.some.inj (held'.symm.trans held)
  · rintro other lifetime rfl
    exact congrArg (CounterReply.locked ·.1) (lock_of_owned ((owned _ _).mp held) other lifetime)
  · rintro other differ rfl
    have foreign : before.owner conversation now ≠ some other := by
      rw [(owned _ _).mp held]
      exact differ ∘ Eq.symm ∘ Option.some.inj
    exact congrArg CounterReply.unlocked (unlock_of_not_owner foreign).1
  · rintro conversation token rfl
    rw [owned]
    refine ⟨fun released => ?_, fun holds => congrArg CounterReply.unlocked (unlock_of_owner holds now).1⟩
    -- A token that does not own the lock would have been refused.
    refine Classical.byContradiction fun foreign => ?_
    cases released.symm.trans (congrArg CounterReply.unlocked (unlock_of_not_owner foreign).1)
  · rintro conversation token lifetime rfl
    simp only [owned, ← Option.eq_none_iff_forall_ne_some]
    refine ⟨fun taken => ?_,
      fun unowned => congrArg CounterReply.locked (lock_of_unowned unowned token lifetime).1⟩
    cases holder : before.owner conversation now with
    | none => rfl
    | some holder =>
      -- With an owner the call would have been refused.
      have refused := congrArg (CounterReply.locked ·.1) (lock_of_owned holder token lifetime)
      cases taken.symm.trans refused
  · intro onLock
    cases call with
    | lock conversation token lifetime => exact counters_lock token lifetime
    | unlock conversation token => exact counters_unlock token
    | _ => cases onLock
  · intro onCounter
    cases call with
    | increment conversation amount lifetime => exact locks_increment amount lifetime
    | seed conversation value lifetime => exact locks_seed value lifetime
    | drop conversation => rfl
    | _ => cases onCounter

/-- A lock is taken for five seconds, and as soon as these are over it is taken with another token. -/
def takenOver : List (Instant × CounterCall) :=
  [(Sample.clock, .lock Sample.conversation (.named "first") (.ofSeconds 5)),
    (Sample.clock.plus (.ofSeconds 5), .lock Sample.conversation (.named "second") (.ofSeconds 5))]

/-- The second token holds the lock that it took over, and the first one comes too late to release it. -/
theorem takenOver_not_released :
    let now := Sample.clock.plus (.ofSeconds 6)
    let unlock := CounterCall.unlock Sample.conversation (.named "first")
    Instant.Ascending (takenOver.map (·.1) ++ [now]) ∧
      HoldsLock (follow takenOver empty).1 Sample.conversation (.named "second") now ∧
      ((follow takenOver empty).2.answer now unlock).1 = .unlocked false := by
  -- That the second owner holds the lock is shown by its event, and the rest is the theorem's.
  intro now unlock
  have ascending : Instant.Ascending (takenOver.map (·.1) ++ [now]) := by
    unfold Instant.Ascending
    decide +kernel
  have held : HoldsLock (follow takenOver empty).1 Sample.conversation (.named "second") now :=
    ⟨[⟨Sample.clock, .lock Sample.conversation (.named "first") (.ofSeconds 5), .locked true⟩],
      Sample.clock.plus (.ofSeconds 5), .ofSeconds 5, [], by decide +kernel, by decide +kernel,
      fun _ => List.not_mem_nil⟩
  have excluded := locks_exclude takenOver now unlock ascending
  exact ⟨ascending, held, (excluded.1 _ _ held).2.2 _ (by decide) rfl⟩

end CounterCache

end Intake
