import Intake.Proofs.Memory.ClaimLifecycle
import Intake.Proofs.Memory.CounterCache
import Intake.Proofs.Memory.Ledger
import Intake.Proofs.Memory.SegmentCache
import Intake.Proofs.Memory.Shelf

/-! Services that hold the same under certain keys, and may differ under all others: a call on one of the
keys is answered the same by both, and leaves them holding the same again. -/

namespace Intake

namespace ExpiringTable

variable {κ ν : Type} [DecidableEq κ] {keys : κ → Prop} {now : Instant} {t s : ExpiringTable κ ν}

/-- Two maps have the same live entries under certain keys. -/
def Agree (keys : κ → Prop) (now : Instant) (t s : ExpiringTable κ ν) : Prop :=
  ∀ key, keys key → t.liveEntry key now = s.liveEntry key now

/-- Maps that agree go on to agree while nothing but time passes. -/
theorem Agree.later (agree : Agree keys now t s) {later : Instant} (order : now ≤ later) :
    Agree keys later t s := by
  intro key own
  rw [t.liveEntry_later key order, s.liveEntry_later key order, agree key own]

/-- A look-up finds the same in maps that agree, and leaves them agreeing. -/
theorem Agree.live (agree : Agree keys now t s) {key : κ} (own : keys key) :
    ∃ t' s', t.live key now = (t.liveEntry key now, t') ∧ s.live key now = (t.liveEntry key now, s') ∧
      Agree keys now t' s' := by
  -- A look may drop what has expired, which changes no live entry on either side.
  obtain ⟨t', left, keptLeft⟩ := t.live_keeps key now
  obtain ⟨s', right, keptRight⟩ := s.live_keeps key now
  refine ⟨t', s', left, ?_, fun other ownOther => ?_⟩
  · rw [right, agree key own]
  · rw [keptLeft, keptRight, agree other ownOther]

/-- Replacing an entry in both leaves maps agreeing. -/
theorem Agree.update (agree : Agree keys now t s) (key : κ) (entry : Expiring ν) :
    Agree keys now (t.update key entry) (s.update key entry) := by
  -- The updated key has the same entry on both sides, and every other key the one that it had.
  intro other own
  by_cases same : other = key
  · subst same
    unfold liveEntry
    rw [find?_update_self, find?_update_self]
  · rw [liveEntry_of_kept now (t.find?_update_of_ne entry same),
      liveEntry_of_kept now (s.find?_update_of_ne entry same), agree other own]

/-- Setting a value in both leaves maps agreeing, whichever of them is swept for it. -/
theorem Agree.insert (agree : Agree keys now t s) (key : κ) (value : ν) (lifetime : Duration) :
    Agree keys now (t.insert key value now lifetime) (s.insert key value now lifetime) := by
  -- An insert sweeps both maps before it sets the value, and a sweep drops nothing that lives.
  have swept : Agree keys now (t.sweep now) (s.sweep now) := fun other own => by
    rw [liveEntry_sweep, liveEntry_sweep, agree other own]
  exact swept.update key ⟨value, now.plus lifetime⟩

/-- Removing an entry from both leaves maps agreeing. -/
theorem Agree.remove (agree : Agree keys now t s) (key : κ) :
    Agree keys now (t.remove key) (s.remove key) := by
  -- A removed key has no entry on either side.
  intro other own
  by_cases same : other = key
  · subst same
    unfold liveEntry
    rw [find?_remove_self, find?_remove_self]
  · have kept : ∀ t : ExpiringTable κ ν, (t.remove key).liveEntry other now = t.liveEntry other now :=
      fun t => liveEntry_of_kept now (Table.find?_erase_of_ne t.entries same)
    rw [kept, kept, agree other own]

end ExpiringTable

namespace SegmentCache

variable {keys : Conversation → Prop} {now : Instant} {cache other : SegmentCache}
  {conversation : Conversation}

/-- Taking gives the same from caches that agree, and leaves them agreeing. -/
theorem take_agree (agree : ExpiringTable.Agree keys now cache other) (own : keys conversation)
    (need : UInt64) :
    (SegmentCache.take cache conversation need now).1 =
        (SegmentCache.take other conversation need now).1 ∧
      ExpiringTable.Agree keys now (SegmentCache.take cache conversation need now).2
        (SegmentCache.take other conversation need now).2 := by
  -- Both look up the same live block, so the same is done to both.
  obtain ⟨left, right, lookedLeft, lookedRight, still⟩ := agree.live own
  unfold SegmentCache.take
  rw [lookedLeft, lookedRight]
  rcases cache.liveEntry conversation now with _ | ⟨slot, expiresAt⟩
  · exact ⟨rfl, still⟩
  · dsimp only
    rcases slot.entry.take need now with ⟨_ | _ | _, rest⟩
    · exact ⟨rfl, still.update _ _⟩
    · exact ⟨rfl, still⟩
    · exact ⟨rfl, still⟩

/-- Installing comes to the same in caches that agree, and leaves them agreeing. -/
theorem install_agree (agree : ExpiringTable.Agree keys now cache other) (own : keys conversation)
    (segment : Segment) (lifetime : Duration) :
    (SegmentCache.install cache conversation segment lifetime now).1 =
        (SegmentCache.install other conversation segment lifetime now).1 ∧
      ExpiringTable.Agree keys now (SegmentCache.install cache conversation segment lifetime now).2
        (SegmentCache.install other conversation segment lifetime now).2 := by
  -- Whether the block is superseded depends on the live block alone.
  obtain ⟨left, right, lookedLeft, lookedRight, still⟩ := agree.live own
  unfold SegmentCache.install
  rw [lookedLeft, lookedRight]
  rcases cache.liveEntry conversation now with _ | ⟨slot, expiresAt⟩
  · exact ⟨rfl, still.insert _ _ _⟩
  · dsimp only
    split
    · exact ⟨rfl, still.insert _ _ _⟩
    · exact ⟨rfl, still⟩

end SegmentCache

namespace CounterCache

/-- Two caches have the same live counters and the same live locks under certain keys. -/
structure Agree (keys : Conversation → Prop) (now : Instant) (cache other : CounterCache) : Prop where
  counters : ExpiringTable.Agree keys now cache.counters other.counters
  locks : ExpiringTable.Agree keys now cache.locks other.locks

variable {keys : Conversation → Prop} {now : Instant} {cache other : CounterCache}
  {conversation : Conversation}

/-- Incrementing comes to the same in caches that agree, and leaves them agreeing. -/
theorem increment_agree (agree : Agree keys now cache other) (own : keys conversation)
    (amount : UInt64) (lifetime : Duration) :
    (cache.increment conversation amount lifetime now).1 =
        (other.increment conversation amount lifetime now).1 ∧
      Agree keys now (cache.increment conversation amount lifetime now).2
        (other.increment conversation amount lifetime now).2 := by
  -- The locks play no part in this.
  obtain ⟨left, right, lookedLeft, lookedRight, still⟩ := agree.counters.live own
  unfold increment
  rw [lookedLeft, lookedRight]
  rcases cache.counters.liveEntry conversation now with _ | ⟨count, expiresAt⟩
  · exact ⟨rfl, still, agree.locks⟩
  · dsimp only
    cases Word.checkedAdd count amount with
    | some sum => exact ⟨rfl, still.update _ _, agree.locks⟩
    | none => exact ⟨rfl, still, agree.locks⟩

/-- Starting a counter comes to the same in caches that agree, and leaves them agreeing. -/
theorem seed_agree (agree : Agree keys now cache other) (own : keys conversation) (value : UInt64)
    (lifetime : Duration) :
    (cache.seed conversation value lifetime now).1 = (other.seed conversation value lifetime now).1 ∧
      Agree keys now (cache.seed conversation value lifetime now).2
        (other.seed conversation value lifetime now).2 := by
  -- Both caches see the same counter, so that both seed it or neither does.
  obtain ⟨left, right, lookedLeft, lookedRight, still⟩ := agree.counters.live own
  unfold seed
  rw [lookedLeft, lookedRight]
  cases cache.counters.liveEntry conversation now with
  | none => exact ⟨rfl, still.insert _ _ _, agree.locks⟩
  | some entry => exact ⟨rfl, still, agree.locks⟩

/-- Taking a lock comes to the same in caches that agree, and leaves them agreeing. -/
theorem lock_agree (agree : Agree keys now cache other) (own : keys conversation) (token : LockToken)
    (lifetime : Duration) :
    (cache.lock conversation token lifetime now).1 = (other.lock conversation token lifetime now).1 ∧
      Agree keys now (cache.lock conversation token lifetime now).2
        (other.lock conversation token lifetime now).2 := by
  -- Both caches see the same lock, so that it is free for both or for neither.
  obtain ⟨left, right, lookedLeft, lookedRight, still⟩ := agree.locks.live own
  unfold lock
  rw [lookedLeft, lookedRight]
  cases cache.locks.liveEntry conversation now with
  | none => exact ⟨rfl, agree.counters, still.insert _ _ _⟩
  | some entry => exact ⟨rfl, agree.counters, still⟩

/-- Releasing a lock comes to the same in caches that agree, and leaves them agreeing. -/
theorem unlock_agree (agree : Agree keys now cache other) (own : keys conversation)
    (token : LockToken) :
    (cache.unlock conversation token now).1 = (other.unlock conversation token now).1 ∧
      Agree keys now (cache.unlock conversation token now).2
        (other.unlock conversation token now).2 := by
  -- Both caches see the same owner, which is all that unlocking depends on.
  obtain ⟨left, right, lookedLeft, lookedRight, still⟩ := agree.locks.live own
  unfold unlock
  rw [lookedLeft, lookedRight]
  rcases cache.locks.liveEntry conversation now with _ | ⟨owner, expiresAt⟩
  · exact ⟨rfl, agree.counters, still⟩
  · dsimp only
    split
    · exact ⟨rfl, agree.counters, still.remove _⟩
    · exact ⟨rfl, agree.counters, still⟩

/-- Caches that agree go on to agree while nothing but time passes. -/
theorem Agree.later (agree : Agree keys now cache other) {later : Instant} (order : now ≤ later) :
    Agree keys later cache other :=
  ⟨agree.counters.later order, agree.locks.later order⟩

/-- Dropping a counter from both leaves caches agreeing. -/
theorem Agree.drop (agree : Agree keys now cache other) (conversation : Conversation) :
    Agree keys now (cache.drop conversation) (other.drop conversation) :=
  ⟨agree.counters.remove conversation, agree.locks⟩

end CounterCache

namespace ClaimIndex

/-- Two indexes have the same live claims under certain keys, and let claims live as long. -/
structure Agree (keys : ClaimKey → Prop) (now : Instant) (index other : ClaimIndex) : Prop where
  lifetimes : index.lifetimes = other.lifetimes
  entries : ∀ key, keys key → index.entry key now = other.entry key now

variable {keys : ClaimKey → Prop} {now : Instant} {index other : ClaimIndex}

/-- Indexes that agree go on to agree while nothing but time passes. -/
theorem Agree.later (agree : Agree keys now index other) {later : Instant} (order : now ≤ later) :
    Agree keys later index other where
  lifetimes := agree.lifetimes
  entries := ExpiringTable.Agree.later agree.entries order

/-- A call is answered the same by indexes that agree, and leaves them agreeing. -/
theorem answer_agree (agree : Agree keys now index other) {call : ClaimCall} (own : keys call.key) :
    (index.answer now call).1 = (other.answer now call).1 ∧
      Agree keys now (index.answer now call).2 (other.answer now call).2 := by
  -- The reply and the new entry are made from the live claim under the key of the call.
  have same := agree.entries call.key own
  refine ⟨?_, ⟨?_, fun key ownKey => ?_⟩⟩
  · rw [answer_reply, answer_reply, same, agree.lifetimes]
  · rw [lifetimes_answer, lifetimes_answer, agree.lifetimes]
  · by_cases named : key = call.key
    · subst named
      rw [entry_answer, entry_answer, same, agree.lifetimes]
    · rw [entry_answer_of_ne _ _ _ named, entry_answer_of_ne _ _ _ named, agree.entries key ownKey]

/-- A call leaves an index agreeing with what it was, under all keys but that of the call. -/
theorem agree_answer (index : ClaimIndex) (now : Instant) (call : ClaimCall)
    (apart : ∀ key, keys key → key ≠ call.key) : Agree keys now index (index.answer now call).2 where
  lifetimes := (index.lifetimes_answer now call).symm
  entries := fun key own => (index.entry_answer_of_ne now call (apart key own)).symm

end ClaimIndex

namespace Ledger

/-- Two ledgers have the same watermarks under certain keys. -/
def Agree (keys : Conversation → Prop) (ledger other : Ledger) : Prop :=
  ∀ conversation, keys conversation → ledger.load conversation = other.load conversation

variable {keys : Conversation → Prop} {ledger other : Ledger} {conversation : Conversation}

/-- Setting watermarks in both leaves ledgers agreeing. -/
theorem Agree.put (agree : Agree keys ledger other) (conversation : Conversation) (row : Watermarks) :
    Agree keys (ledger.put conversation row) (other.put conversation row) := by
  -- The row that is put is the same on both sides.
  intro key own
  by_cases same : key = conversation
  · subst same
    rw [load_put_self, load_put_self]
  · rw [load_put_of_ne _ _ same, load_put_of_ne _ _ same, agree key own]

/-- Ledgers that agree have the same watermarks, or make up the same ones. -/
theorem Agree.rowOrEmpty (agree : Agree keys ledger other) (own : keys conversation) (now : Instant) :
    ledger.rowOrEmpty conversation now = other.rowOrEmpty conversation now := by
  unfold Ledger.rowOrEmpty
  rw [agree conversation own]

/-- Reserving gives the same from ledgers that agree, and leaves them agreeing. -/
theorem reserve_agree (agree : Agree keys ledger other) (own : keys conversation) (count : UInt64)
    (now : Instant) :
    (ledger.reserve conversation count now).1 = (other.reserve conversation count now).1 ∧
      Agree keys (ledger.reserve conversation count now).2 (other.reserve conversation count now).2 := by
  -- How often numbers were asked for may differ, and makes no difference.
  have counted : Agree keys { ledger with reservations := ledger.reservations + 1 }
      { other with reservations := other.reservations + 1 } := agree
  unfold reserve
  dsimp only
  rw [counted.rowOrEmpty own now]
  split
  · exact ⟨rfl, counted.put conversation _⟩
  · exact ⟨rfl, counted.put conversation _⟩

/-- Raising the highest reserved number in both leaves ledgers agreeing. -/
theorem Agree.raiseIssued (agree : Agree keys ledger other) (own : keys conversation)
    (floor : SequenceNumber) (now : Instant) : Agree keys
      (ledger.raiseIssued conversation floor now) (other.raiseIssued conversation floor now) := by
  -- The new row is made from the old one alone, and that is the same on both sides.
  unfold Ledger.raiseIssued
  rw [agree.rowOrEmpty own now]
  exact agree.put conversation _

/-- Raising the highest stored number in both leaves ledgers agreeing. -/
theorem Agree.raiseCommitted (agree : Agree keys ledger other) (own : keys conversation)
    (stored : SequenceNumber) (now : Instant) : Agree keys
      (ledger.raiseCommitted conversation stored now) (other.raiseCommitted conversation stored now) := by
  -- Here too the old row determines the new one.
  unfold Ledger.raiseCommitted
  rw [agree.rowOrEmpty own now]
  exact agree.put conversation _

end Ledger

namespace MessageStore

/-- Two stores have the same messages under certain keys, and the same shelves under certain others. -/
structure Agree (keys : ClaimKey → Prop) (shelves : Conversation → Prop) (store other : MessageStore) :
    Prop where
  byKey : ∀ key, keys key → store.findByKey key = other.findByKey key
  shelf : ∀ conversation, shelves conversation → store.shelf conversation = other.shelf conversation

variable {keys : ClaimKey → Prop} {shelves : Conversation → Prop} {store other : MessageStore}
  {message : Message}

/-- The verdict on a message whose identifier is free if its key is: its key is taken, or its place is,
or it is added. -/
theorem Consistent.insert_of_named (consistent : store.Consistent)
    (named : store.findByKey message.key = none → store.findByServerId message.serverId = none) :
    store.insert message =
      if (store.findByKey message.key).isSome then
        (.error (.duplicateClientMessage message.key), store)
      else if (store.shelf message.conversation).holds message.sequence then
        (.error (.duplicateSequence message.conversation message.sequence), store)
      else (.ok (), store.add message) := by
  cases atKey : store.findByKey message.key with
  | some row => exact insert_of_taken atKey
  | none =>
    cases placed : (store.shelf message.conversation).holds message.sequence with
    | false => exact consistent.insert_of_free atKey (named atKey) placed
    | true =>
      -- The key and the identifier are free, so the place is what is looked at last.
      have keyFree : store.byKey.find? message.key = none := by
        refine Option.eq_none_iff_forall_ne_some.mpr fun serverId filed => ?_
        obtain ⟨row, backed, _⟩ := consistent.backed _ serverId filed
        rw [findByKey, filed, Option.bind_some, backed] at atKey
        cases atKey
      have idFree : store.messages.find? message.serverId = none := named atKey
      simp only [MessageStore.insert, keyFree, idFree, placed, Option.isSome_none, Bool.false_eq_true,
        ↓reduceIte]

/-- Storing a message comes to the same in stores that agree, if in each of them its identifier is free
where its key is, and leaves them agreeing. -/
theorem insert_agree (agree : Agree keys shelves store other) (consistent : store.Consistent)
    (consistent' : other.Consistent) (ownKey : keys message.key)
    (ownShelf : shelves message.conversation)
    (named : store.findByKey message.key = none → store.findByServerId message.serverId = none)
    (named' : other.findByKey message.key = none → other.findByServerId message.serverId = none) :
    (store.insert message).1 = (other.insert message).1 ∧
      Agree keys shelves (store.insert message).2 (other.insert message).2 := by
  -- The identifier decides nothing, as it is free wherever the key is.
  rw [consistent.insert_of_named named, consistent'.insert_of_named named',
    ← agree.byKey message.key ownKey, ← agree.shelf message.conversation ownShelf]
  split
  · exact ⟨rfl, agree⟩
  · rename_i free
    have keyFree : store.findByKey message.key = none := by simpa using free
    split
    · exact ⟨rfl, agree⟩
    · have idFree := named keyFree
      have idFree' := named' ((agree.byKey message.key ownKey).symm.trans keyFree)
      refine ⟨rfl, fun key own => ?_, fun conversation own => ?_⟩
      · rw [consistent.findByKey_add idFree, consistent'.findByKey_add idFree', agree.byKey key own]
      · rw [shelf_add, shelf_add, agree.shelf conversation own]

/-- Storing a message leaves the other keys and the other shelves as they were. -/
theorem insert_keeps_others (consistent : store.Consistent) (message : Message) :
    Agree (· ≠ message.key) (· ≠ message.conversation) store (store.insert message).2 := by
  -- A message that is added is found under its own key and in its own conversation only.
  rcases store.insert_adds message with ⟨failure, refused⟩ | ⟨_, idFree, added⟩
  · rw [refused]
    exact ⟨fun _ _ => rfl, fun _ _ => rfl⟩
  · rw [added]
    refine ⟨fun key differ => ?_, fun conversation differ => ?_⟩
    · rw [consistent.findByKey_add idFree, if_neg differ]
    · rw [shelf_add, if_neg differ]

end MessageStore

end Intake
