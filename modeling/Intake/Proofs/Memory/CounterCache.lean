import Intake.Memory.CounterCache
import Intake.Proofs.Memory.Expiring

/-! Laws of the cache of counters: what each call does to the counter and the lock it is for. -/

namespace Intake

namespace CounterCache

variable {cache : CounterCache} {conversation : Conversation} {now : Instant}

/-- The failure of a counter that would need more than 64 bits. -/
def overflow (conversation : Conversation) : CacheError :=
  .unavailable s!"counter overflow for {conversation.text}"

/-- A live counter is raised and lives on from now, unless the sum needs more than 64 bits. -/
theorem increment_of_live {entry : Expiring UInt64} (amount : UInt64) (lifetime : Duration)
    (alive : cache.counters.liveEntry conversation now = some entry) :
    (∃ sum, Word.checkedAdd entry.value amount = some sum ∧
      cache.increment conversation amount lifetime now = (.ok (some sum), { cache with
        counters := cache.counters.update conversation ⟨sum, now.plus lifetime⟩ })) ∨
    (Word.checkedAdd entry.value amount = none ∧
      cache.increment conversation amount lifetime now =
        (.error (overflow conversation), cache)) := by
  -- The look-up answers the live counter, and the sum is checked before it is set.
  unfold increment
  rw [ExpiringTable.live_of_alive alive]
  dsimp only
  cases added : Word.checkedAdd entry.value amount with
  | some sum => exact .inl ⟨sum, rfl, rfl⟩
  | none => exact .inr ⟨rfl, rfl⟩

/-- Without a live counter there is nothing to raise, and nothing is left under the key. -/
theorem increment_of_gone (amount : UInt64) (lifetime : Duration)
    (gone : cache.counters.liveEntry conversation now = none) :
    ∃ after, cache.increment conversation amount lifetime now =
        (.ok none, { cache with counters := after }) ∧
      after.entries.find? conversation = none := by
  -- The look-up drops a counter whose time is up, so nothing is left in either case.
  obtain ⟨after, looked, lost⟩ := ExpiringTable.live_of_gone gone
  unfold increment
  rw [looked]
  exact ⟨after, rfl, lost⟩

/-- A counter is started where none is. -/
theorem seed_of_missing (value : UInt64) (lifetime : Duration)
    (missing : cache.counters.entries.find? conversation = none) :
    cache.seed conversation value lifetime now = (true, { cache with
      counters := cache.counters.insert conversation value now lifetime }) := by
  -- Without an entry there is none that could have expired.
  unfold seed ExpiringTable.live
  rw [missing]

/-- A lock that nobody holds is taken, also if one whose time is up is left. The others are forgotten at
the most, and the counters are as they were. -/
theorem lock_of_gone (token : LockToken) (lifetime : Duration)
    (gone : cache.locks.liveEntry conversation now = none) :
    ∃ locks, cache.lock conversation token lifetime now = (true, { cache with locks }) ∧
      locks.entries.find? conversation = some ⟨token, now.plus lifetime⟩ ∧
      ∀ other entry, other ≠ conversation → locks.entries.find? other = some entry →
        cache.locks.entries.find? other = some entry := by
  -- A lock that has expired is dropped by the look-up, and no other entry is touched.
  rcases cache.locks.live_cases conversation now with
    ⟨_, alive, _⟩ | ⟨after, _, looked, _, others⟩
  · cases gone.symm.trans alive
  · unfold lock
    rw [looked]
    refine ⟨_, rfl, ExpiringTable.find?_insert_self after conversation token now lifetime,
      fun other entry differ found => ?_⟩
    rw [← others other differ]
    exact ExpiringTable.find?_of_insert differ found

/-- After its owner has released it a lock is free, also if it had expired before. The others are as
they were, and so are the counters. -/
theorem unlock_of_owned {token : LockToken} {expiresAt : Instant}
    (owned : cache.locks.entries.find? conversation = some ⟨token, expiresAt⟩) :
    ∃ released after, cache.unlock conversation token now = (released, { cache with locks := after }) ∧
      after.entries.find? conversation = none ∧
      ∀ other, other ≠ conversation → after.entries.find? other = cache.locks.entries.find? other := by
  -- A lock that still lives has its owner's token. One whose time is up the look-up drops.
  unfold unlock
  rcases cache.locks.live_cases conversation now with
    ⟨entry, alive, looked⟩ | ⟨after, gone, looked, lost, others⟩
  · have stored := (ExpiringTable.liveEntry_eq_some.mp alive).1
    rw [owned] at stored
    cases stored
    rw [looked]
    simp only [↓reduceIte]
    exact ⟨true, _, rfl, ExpiringTable.find?_remove_self _ _,
      fun other differ => Table.find?_erase_of_ne _ differ⟩
  · rw [looked]
    exact ⟨false, after, rfl, lost, others⟩

/-- A lock that is found after one was to be taken was there before, or is the one that was taken. -/
theorem find?_of_lock {token : LockToken} {lifetime : Duration} {entry : Expiring LockToken}
    (found : (cache.lock conversation token lifetime now).2.locks.entries.find? conversation =
      some entry) :
    cache.locks.entries.find? conversation = some entry ∨ entry.value = token := by
  -- A lock that lives stays. Otherwise the new one takes its place.
  unfold lock at found
  rcases cache.locks.live_cases conversation now with ⟨_, _, looked⟩ | ⟨after, _, looked, _, _⟩
  · rw [looked] at found
    exact .inl found
  · rw [looked] at found
    simp only [ExpiringTable.find?_insert_self, Option.some.injEq] at found
    exact .inr (found ▸ rfl)

/-- Releasing a lock forgets it at the most. -/
theorem unlock_forgets (token : LockToken) :
    cache.locks.Forgets (cache.unlock conversation token now).2.locks := by
  -- Entries go in two ways: the lock is released, or the look-up finds it expired.
  unfold unlock
  rcases cache.locks.live_cases conversation now with
    ⟨_, _, looked⟩ | ⟨after, _, looked, lost, others⟩
  · rw [looked]
    dsimp only
    split
    · exact cache.locks.remove_forgets conversation
    · exact .refl _
  · rw [looked]
    exact .of_lost lost others

/-- After a lock was released none is found under its token, also if it had expired before. -/
theorem value_ne_of_unlock {token : LockToken} {entry : Expiring LockToken}
    (found : (cache.unlock conversation token now).2.locks.entries.find? conversation = some entry) :
    entry.value ≠ token := by
  unfold unlock at found
  rcases cache.locks.live_cases conversation now with ⟨_, alive, looked⟩ | ⟨after, _, looked, lost, _⟩
  · rw [looked] at found
    dsimp only at found
    split at found
    · simp at found
    · -- The lock belongs to someone else, and stays.
      rename_i differ
      rw [(ExpiringTable.liveEntry_eq_some.mp alive).1] at found
      cases found
      exact differ
  · rw [looked] at found
    dsimp only at found
    rw [lost] at found
    cases found

/-- A lock that lives under another token is not released. -/
theorem unlock_of_other {token : LockToken} {entry : Expiring LockToken}
    (alive : cache.locks.liveEntry conversation now = some entry) (differ : entry.value ≠ token) :
    cache.unlock conversation token now = (false, cache) := by
  -- A lock that lives and has another owner is the one case that leaves the whole cache as it is.
  unfold unlock
  rw [ExpiringTable.live_of_alive alive]
  simp only [differ, ↓reduceIte]

/-- Raising the counter of a conversation leaves the entries of the others as they were. -/
theorem find?_increment_of_ne {other : Conversation} (amount : UInt64) (lifetime : Duration)
    (differ : other ≠ conversation) :
    (cache.increment conversation amount lifetime now).2.counters.entries.find? other =
      cache.counters.entries.find? other := by
  -- The look-up concerns the conversation alone, and so does the new value.
  have looked := cache.counters.find?_live_of_ne now differ
  unfold increment
  split
  · rename_i live
    rwa [live] at looked
  · rename_i live
    rw [live] at looked
    split
    · exact (ExpiringTable.find?_update_of_ne _ _ differ).trans looked
    · exact looked

/-- Raising the counter of a conversation keeps what lives of the others. -/
theorem liveEntry_increment_of_ne {other : Conversation} (amount : UInt64) (lifetime : Duration)
    (differ : other ≠ conversation) :
    (cache.increment conversation amount lifetime now).2.counters.liveEntry other now =
      cache.counters.liveEntry other now :=
  ExpiringTable.liveEntry_of_kept now (find?_increment_of_ne amount lifetime differ)

/-- Starting the counter of a conversation forgets expired counters of the others at the most. -/
theorem find?_of_seed {other : Conversation} {value : UInt64} {lifetime : Duration}
    {entry : Expiring UInt64} (differ : other ≠ conversation)
    (found : (cache.seed conversation value lifetime now).2.counters.entries.find? other = some entry) :
    cache.counters.entries.find? other = some entry := by
  -- As with a block, the map is swept before the counter is set.
  have looked := cache.counters.find?_live_of_ne now differ
  unfold seed at found
  split at found
  · rename_i live
    rw [live] at looked
    exact looked.symm.trans found
  · rename_i live
    rw [live] at looked
    exact looked.symm.trans (ExpiringTable.find?_of_insert differ found)

/-- Starting the counter of a conversation keeps what lives of the others. -/
theorem liveEntry_seed_of_ne {other : Conversation} (value : UInt64) (lifetime : Duration)
    (differ : other ≠ conversation) :
    (cache.seed conversation value lifetime now).2.counters.liveEntry other now =
      cache.counters.liveEntry other now := by
  -- A counter is set after a look-up of its own conversation, or the one there is left as it was.
  have looked := ExpiringTable.liveEntry_of_kept now (cache.counters.find?_live_of_ne now differ)
  unfold seed
  split
  · rename_i live
    rwa [live] at looked
  · rename_i live
    rw [live] at looked
    exact (ExpiringTable.liveEntry_insert_of_ne _ _ _ _ differ).trans looked

/-- Taking a lock leaves the counters alone. -/
theorem counters_lock (token : LockToken) (lifetime : Duration) :
    (cache.lock conversation token lifetime now).2.counters = cache.counters := by
  unfold lock
  split <;> rfl

/-- Releasing a lock leaves the counters alone. -/
theorem counters_unlock (token : LockToken) :
    (cache.unlock conversation token now).2.counters = cache.counters := by
  -- Unlocking changes the table of locks at most.
  unfold unlock
  split
  · split <;> rfl
  · rfl

/-- Incrementing a counter leaves the locks alone. -/
theorem locks_increment (amount : UInt64) (lifetime : Duration) :
    (cache.increment conversation amount lifetime now).2.locks = cache.locks := by
  -- An increment changes the table of counters at most.
  unfold increment
  split
  · rfl
  · split <;> rfl

/-- Starting a counter leaves the locks alone. -/
theorem locks_seed (value : UInt64) (lifetime : Duration) :
    (cache.seed conversation value lifetime now).2.locks = cache.locks := by
  unfold seed
  split <;> rfl

/-- Taking the lock of a conversation keeps what lives of the others. -/
theorem liveEntry_lock_of_ne {other : Conversation} (token : LockToken) (lifetime : Duration)
    (differ : other ≠ conversation) :
    (cache.lock conversation token lifetime now).2.locks.liveEntry other now =
      cache.locks.liveEntry other now := by
  -- The look-up and the insertion both touch the key of the lock alone.
  have looked := ExpiringTable.liveEntry_of_kept now (cache.locks.find?_live_of_ne now differ)
  unfold lock
  split
  · rename_i live
    rwa [live] at looked
  · rename_i live
    rw [live] at looked
    exact (ExpiringTable.liveEntry_insert_of_ne _ _ _ _ differ).trans looked

/-- Releasing the lock of a conversation keeps what lives of the others. -/
theorem liveEntry_unlock_of_ne {other : Conversation} (token : LockToken)
    (differ : other ≠ conversation) :
    (cache.unlock conversation token now).2.locks.liveEntry other now =
      cache.locks.liveEntry other now := by
  -- The look-up and the removal both touch the key of the lock alone.
  have looked := ExpiringTable.liveEntry_of_kept now (cache.locks.find?_live_of_ne now differ)
  unfold unlock
  split
  · rename_i live
    rw [live] at looked
    split
    · exact (ExpiringTable.liveEntry_of_kept now (Table.find?_erase_of_ne _ differ)).trans looked
    · exact looked
  · rename_i live
    rwa [live] at looked

end CounterCache

end Intake
