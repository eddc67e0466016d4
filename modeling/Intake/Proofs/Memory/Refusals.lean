import Intake.Proofs.Concurrency.World
import Intake.Proofs.Memory.LedgerHistory
import Intake.Proofs.Memory.Shelf
import Intake.Proofs.Samples

/-! Calls that are refused: the services in memory answer every question after one as they did before it,
except that a conversation without watermarks gets empty ones. -/

namespace Intake

/-- A question to the services in memory, on what one of them holds. -/
inductive Query where
  | watermarks (conversation : Conversation)
  | counter (conversation : Conversation)
  | claim (key : ClaimKey)
  | claimCount
  | messageOfKey (key : ClaimKey)
  | messageOfId (serverId : ServerId)
  | messagesAfter (conversation : Conversation) (cursor : SequenceNumber) (limit : Nat)
  | greatestSequence (conversation : Conversation)
  | messageCount

/-- The type of the answer to a question. -/
abbrev Query.Answer : Query → Type
  | .watermarks _ => Option Watermarks
  | .counter _ => Option UInt64
  | .claim _ => Option Claim
  | .claimCount => Nat
  | .messageOfKey _ => Option Message
  | .messageOfId _ => Option Message
  | .messagesAfter _ _ _ => List Message
  | .greatestSequence _ => Option SequenceNumber
  | .messageCount => Nat

/-- What the services answer to a question at a reading of the clock. -/
def World.reads (w : World) (now : Instant) : (query : Query) → query.Answer
  | .watermarks conversation => w.ledger.load conversation
  | .counter conversation => (w.counters.value conversation now).1
  | .claim key => (w.claims.get key now).1
  | .claimCount => w.claims.size now
  | .messageOfKey key => w.store.findByKey key
  | .messageOfId serverId => w.store.findByServerId serverId
  | .messagesAfter conversation cursor limit => w.store.findAfter conversation cursor limit
  | .greatestSequence conversation => w.store.greatestSequence conversation
  | .messageCount => w.store.size

/-- A counter that is at its end stays as it was. -/
theorem CounterCache.kept_of_refused {cache : CounterCache} {conversation : Conversation}
    {amount : UInt64} {lifetime : Duration} {now : Instant} {failure : CacheError}
    (refused : (cache.increment conversation amount lifetime now).1 = .error failure) :
    (cache.increment conversation amount lifetime now).2 = cache := by
  unfold increment at refused ⊢
  -- Only a counter that is there can overflow, and the look-up of one that is there drops nothing.
  rcases cache.counters.live_cases conversation now with
    ⟨entry, _, looked⟩ | ⟨after, _, looked, _⟩
  · rw [looked] at refused ⊢
    dsimp only at refused ⊢
    split at refused
    · cases refused
    · rfl
  · rw [looked] at refused
    cases refused

/-- A claim that is committed to another message stays as it was. -/
theorem ClaimIndex.kept_of_refused {index : ClaimIndex} {key : ClaimKey} {serverId : ServerId}
    {fingerprint : Fingerprint} {now : Instant} {failure : ClaimError}
    (refused : (index.commit key serverId fingerprint now).1 = .error failure) :
    (index.commit key serverId fingerprint now).2 = index := by
  unfold commit at refused ⊢
  -- The claim was found alive, and is not replaced.
  rcases index.claims.live_cases key now with ⟨entry, _, looked⟩ | ⟨after, _, looked, _⟩
  · rw [looked] at refused ⊢
    dsimp only at refused ⊢
    split at refused
    · rename_i committed
      split at refused
      · cases refused
      · rename_i differs
        rw [if_pos committed, if_neg differs]
    · cases refused
  · rw [looked] at refused
    cases refused

namespace Ledger

variable {ledger : Ledger} {conversation : Conversation} {count : UInt64} {now : Instant}
  {failure : LedgerError}

/-- A reservation for a conversation without watermarks is refused only when it asks for no numbers. -/
theorem zero_of_refused (missing : ledger.load conversation = none)
    (refused : (ledger.reserve conversation count now).1 = .error failure) : count = 0 := by
  have start : ledger.issued conversation = 0 := by rw [issued, missing]; rfl
  have bounded := count.toNat_lt_size
  rcases ledger.reserve_cases conversation count now with
    ⟨_, _, reserved, _⟩ | ⟨_, _, zero | past, _⟩
  · rw [reserved] at refused
    cases refused
  · exact UInt64.toNat_inj.mp zero
  -- From zero on there is room for every count.
  · omega

/-- A reservation that is refused leaves the watermarks of every conversation as they were, those of its own
conversation being empty ones if it had none. -/
theorem load_of_refused_reserve (refused : (ledger.reserve conversation count now).1 = .error failure)
    (other : Conversation) : (ledger.reserve conversation count now).2.load other =
      if other = conversation then some (ledger.rowOrEmpty conversation now) else ledger.load other := by
  -- A refused reservation leaves the row that it made, and no other.
  split
  · rename_i same
    rw [same, load_of_refused refused]
  · rename_i differ
    exact load_reserve_of_ne ledger count now differ

end Ledger

namespace World

variable {w : World} {request : Service.Request}

/-- A call that fails changes nothing, but for the watermarks when it was a reservation. -/
theorem answer_of_failed (failed : Service.Failed request (answer request w).1) :
    (answer request w).2 = w ∨ ∃ conversation count failure,
      request = .reserve conversation count ∧
      (w.ledger.reserve conversation count w.clock).1 = .error failure ∧
      (answer request w).2 = { w with ledger := (w.ledger.reserve conversation count w.clock).2 } := by
  -- Four calls can fail: one of each service.
  cases request
  case reserve conversation count =>
    obtain ⟨failure, refused⟩ := failed
    exact .inr ⟨conversation, count, failure, rfl, refused, rfl⟩
  case increment conversation amount lifetime =>
    obtain ⟨failure, refused⟩ := failed
    exact .inl (congrArg (fun counters => { w with counters }) (CounterCache.kept_of_refused refused))
  case commitClaim key serverId fingerprint =>
    obtain ⟨failure, refused⟩ := failed
    exact .inl (congrArg (fun claims => { w with claims }) (ClaimIndex.kept_of_refused refused))
  case insert message =>
    obtain ⟨failure, refused⟩ := failed
    exact .inl (congrArg (fun store => { w with store }) (MessageStore.kept_of_refused refused))
  case now | freshToken | freshServerId => cases failed
  all_goals
    obtain ⟨failure, refused⟩ := failed
    cases refused

/-- A reservation of no numbers makes watermarks for a conversation that has none, all of them zero. -/
theorem load_reserve_zero {conversation : Conversation} (missing : w.ledger.load conversation = none) :
    (answer (.reserve conversation 0) w).2.ledger.load conversation =
      some (.empty conversation w.clock) := by
  -- A block of no numbers is refused as an overflow, after the row was made.
  have refused : (w.ledger.reserve conversation 0 w.clock).1 = .error (.overflow conversation) := rfl
  have made := Ledger.load_of_refused refused
  rwa [Ledger.rowOrEmpty, missing] at made

/-- After a call that failed, every question is answered as before, unless the call asked for no numbers
of a conversation without watermarks and the question is for these. -/
theorem failed_call_kept_iff (w : World) (request : Service.Request)
    (failed : Service.Failed request (answer request w).1) (query : Query) (now : Instant) :
    ((answer request w).2.reads now query = w.reads now query ↔
      ¬ ∃ conversation, request = .reserve conversation 0 ∧ query = .watermarks conversation ∧
        w.ledger.load conversation = none) ∧
    ∀ conversation, request = .reserve conversation 0 → w.ledger.load conversation = none →
      (answer request w).2.ledger.load conversation = some (.empty conversation w.clock) := by
  refine ⟨⟨?_, fun ordinary => ?_⟩, ?_⟩
  · rintro same ⟨conversation, rfl, rfl, missing⟩
    cases (load_reserve_zero missing).symm.trans (same.trans missing)
  · rcases answer_of_failed failed with same | ⟨conversation, count, failure, rfl, refused, after⟩
    · rw [same]
    · rw [after]
      cases query
      case watermarks other =>
        refine (Ledger.load_of_refused_reserve refused other).trans ?_
        split
        · rename_i same
          subst same
          -- With watermarks the row that is put back is the one that was there.
          cases loaded : w.ledger.load other with
          | some row =>
            have kept : w.ledger.rowOrEmpty other w.clock = row := by
              rw [Ledger.rowOrEmpty, loaded, Option.getD_some]
            rw [kept]
            exact loaded.symm
          | none =>
            obtain rfl := Ledger.zero_of_refused loaded refused
            exact absurd ⟨other, rfl, rfl, loaded⟩ ordinary
        · rfl
      all_goals rfl
  · rintro conversation rfl missing
    exact load_reserve_zero missing

end World

/-- A greeting as it is stored. -/
def Sample.stored : Message :=
  ⟨origin, ⟨Uuid.ofNat 1⟩, ⟨1⟩, ⟨[]⟩, hello.fingerprint, clock⟩

/-- A greeting that is stored a second time is refused, and found as it was stored the first time. -/
theorem storedTwice_found :
    let once := (World.answer (.insert Sample.stored) Sample.services).2
    let twice := World.answer (.insert Sample.stored) once
    twice.1 = .error (.duplicateClientMessage Sample.stored.key) ∧
      twice.2.reads Sample.clock (.messageOfKey Sample.stored.key) = some Sample.stored := by
  -- The second insert is refused by the key, and the theorem says that no other answer changes.
  intro once twice
  have refused : twice.1 = .error (.duplicateClientMessage Sample.stored.key) := by decide +kernel
  have kept := (World.failed_call_kept_iff once (.insert Sample.stored) ⟨_, refused⟩
    (.messageOfKey Sample.stored.key) Sample.clock).1.mpr (by rintro ⟨_, reserves, _⟩; cases reserves)
  refine ⟨refused, kept.trans ?_⟩
  decide +kernel

/-- A reservation of no numbers is refused, and yet leaves watermarks where there were none. -/
theorem emptyReservation_leaves_watermarks :
    let reserved := World.answer (.reserve Sample.conversation 0) Sample.services
    reserved.1 = .error (.overflow Sample.conversation) ∧
      Sample.services.reads Sample.clock (.watermarks Sample.conversation) = none ∧
      reserved.2.reads Sample.clock (.watermarks Sample.conversation) =
        some (.empty Sample.conversation Sample.clock) := by
  -- Both ledgers are small enough to be evaluated.
  decide +kernel

end Intake
