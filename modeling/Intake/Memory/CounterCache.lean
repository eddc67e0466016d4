import Intake.Failure.Services
import Intake.Memory.Expiring
import Intake.Service.Request

/-! The cache of counters in memory, and the locks under which they are started. -/

namespace Intake

/-- The counter of every conversation, and its lock. -/
structure CounterCache where
  counters : ExpiringTable Conversation UInt64
  locks : ExpiringTable Conversation LockToken

namespace CounterCache

/-- The cache without counters and locks. -/
def empty : CounterCache := ⟨ExpiringTable.empty, ExpiringTable.empty⟩

/-- Looks up the counter of a conversation. -/
def value (cache : CounterCache) (conversation : Conversation) (now : Instant) :
    Option UInt64 × CounterCache :=
  match cache.counters.live conversation now with
  | (counter, counters) => (counter.map (·.value), { cache with counters })

/-- Adds to the counter of a conversation, if there is one, and answers its new value. -/
def increment (cache : CounterCache) (conversation : Conversation) (amount : UInt64)
    (lifetime : Duration) (now : Instant) : Except CacheError (Option UInt64) × CounterCache :=
  match cache.counters.live conversation now with
  | (none, counters) => (.ok none, { cache with counters })
  | (some ⟨count, _⟩, counters) =>
    match Word.checkedAdd count amount with
    | some sum =>
      (.ok (some sum),
        { cache with counters := counters.update conversation ⟨sum, now.plus lifetime⟩ })
    | none =>
      -- A sum past the largest word leaves the counter as it was.
      (.error (.unavailable s!"counter overflow for {conversation.text}"), { cache with counters })

/-- Starts the counter of a conversation, unless there is one. -/
def seed (cache : CounterCache) (conversation : Conversation) (value : UInt64)
    (lifetime : Duration) (now : Instant) : Bool × CounterCache :=
  match cache.counters.live conversation now with
  -- Whoever started the counter first may have handed out numbers of it already.
  | (some _, counters) => (false, { cache with counters })
  | (none, counters) =>
    (true, { cache with counters := counters.insert conversation value now lifetime })

/-- Takes the lock of a conversation, if it is free. -/
def lock (cache : CounterCache) (conversation : Conversation) (token : LockToken)
    (lifetime : Duration) (now : Instant) : Bool × CounterCache :=
  match cache.locks.live conversation now with
  | (some _, locks) => (false, { cache with locks })
  | (none, locks) => (true, { cache with locks := locks.insert conversation token now lifetime })

/-- Releases the lock of a conversation, if the token still owns it. -/
def unlock (cache : CounterCache) (conversation : Conversation) (token : LockToken)
    (now : Instant) : Bool × CounterCache :=
  match cache.locks.live conversation now with
  | (some ⟨owner, _⟩, locks) =>
    -- A lock that has expired may belong to someone else by now.
    if owner = token then (true, { cache with locks := locks.remove conversation })
    else (false, { cache with locks })
  | (none, locks) => (false, { cache with locks })

/-- Drops the counter of a conversation. -/
def drop (cache : CounterCache) (conversation : Conversation) : CounterCache :=
  { cache with counters := cache.counters.remove conversation }

end CounterCache

end Intake
