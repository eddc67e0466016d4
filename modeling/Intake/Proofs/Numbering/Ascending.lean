import Intake.Proofs.Concurrency.World
import Intake.Proofs.Memory.MessageStore
import Intake.Proofs.Memory.SegmentCache
import Intake.Proofs.Numbering.Cached

/-! Numbers of one saver at a time: each one it takes from a cached block lies above all that are stored
in the conversation, as long as its message is not. -/

namespace Intake

/-- What a saver holds whose turn it is: the key of its message, the number that it took last, and the
block that it has reserved and has yet to give to the cache. -/
structure Turn where
  key : ClaimKey
  number : Option Nat
  block : Option Segment

namespace Turn

/-- A block that is to be installed is out of the saver's hands, whatever comes of the call. -/
def give (conversation : Conversation) : Service.Request → Turn → Turn
  | .install other _ _, turn => if other = conversation then { turn with block := none } else turn
  | _, turn => turn

/-- What a reply puts into the saver's hands: a number that is taken, or a block that is reserved. -/
def gain (conversation : Conversation) :
    (request : Service.Request) → Service.Reply request → Turn → Turn
  | .take other _, .ok (.taken range), turn =>
    if other = conversation then { turn with number := some range.span.first } else turn
  | .reserve other _, .ok segment, turn =>
    if other = conversation then { turn with block := some segment } else turn
  | _, _, turn => turn

end Turn

/-- In a conversation savers insert only the message of their turn, and only with the number that they
took last. They install what they have reserved before they take anything. -/
def inTurn (conversation : Conversation) : Protocol services Turn where
  permits
    | .insert message, turn => message.conversation = conversation →
      message.key = turn.key ∧ turn.number = some message.sequence.value.toNat
    | .install other segment _, turn => other = conversation → turn.block = some segment
    | .take other _, turn => other = conversation → turn.block = none
    | _, _ => True
  moves request turn reply after :=
    after = (turn.give conversation request).gain conversation request reply

/-- A failed call puts nothing into the saver's hands. -/
theorem Turn.gain_of_failed (conversation : Conversation) {request : Service.Request}
    {reply : Service.Reply request} (failed : Service.Failed request reply) (turn : Turn) :
    turn.gain conversation request reply = turn := by
  -- Only replies to reservations and to requests for ranges carry numbers.
  cases request
  case reserve => obtain ⟨failure, rfl⟩ := failed; rfl
  case take => obtain ⟨failure, rfl⟩ := failed; rfl
  all_goals rfl

/-- A number of a conversation that is reserved and not to be handed out any more. -/
def World.Passed (w : World) (conversation : Conversation) (n : Nat) : Prop :=
  n ≤ w.ledger.issued conversation ∧
    ∀ slot, w.segments.entries.find? conversation = some slot → n ≤ slot.value.entry.current.toNat

/-- All rows of a conversation lie below a number. -/
def MessageStore.Below (store : MessageStore) (conversation : Conversation) (n : Nat) : Prop :=
  ∀ serverId row, store.findByServerId serverId = some row → row.conversation = conversation →
    row.sequence.value.toNat < n

/-- Taking effect, a call keeps every row where it is. -/
theorem World.findByServerId_answer {w : World} {serverId : ServerId} {row : Message}
    (found : w.store.findByServerId serverId = some row) (request : Service.Request) :
    (answer request w).2.store.findByServerId serverId = some row := by
  -- Only an insert touches the store, and it takes nothing out.
  rcases answer_store request w with same | ⟨message, _, inserted⟩
  · rwa [same]
  · rw [inserted]
    exact MessageStore.findByServerId_insert found message

/-- The numbers of all rows are passed, and so is the one that the saver has taken. A block that the saver
has reserved lies above all of them. -/
structure Ascending (conversation : Conversation) (w : World) (turn : Turn) : Prop where
  cached : w.CachedReserved conversation
  rows : ∀ serverId row, w.store.findByServerId serverId = some row →
    row.conversation = conversation → w.Passed conversation row.sequence.value.toNat
  passed : ∀ n, turn.number = some n → w.Passed conversation n
  /-- The number that was taken lies above all rows, unless its message is stored. -/
  fresh : ∀ n, turn.number = some n →
    (∃ row, w.store.findByKey turn.key = some row) ∨ w.store.Below conversation n
  block : ∀ segment, turn.block = some segment → 0 < segment.span.first ∧
    segment.span.first ≤ segment.span.last ∧ segment.span.last ≤ w.ledger.issued conversation ∧
    w.store.Below conversation segment.span.first ∧ ∀ n, turn.number = some n → n < segment.span.first

namespace Ascending

variable {conversation : Conversation} {w after : World} {turn : Turn}

/-- Where nothing is stored and nothing cached, whoever comes first may begin. -/
theorem opening (clock : Instant) (lifetimes : ClaimLifetimes) (ready : List ServerId)
    (key : ClaimKey) : Ascending conversation (.fresh clock lifetimes ready) ⟨key, none, none⟩ where
  -- Nothing is cached or stored yet, and the saver holds nothing.
  cached := fun _ found => by cases found
  rows := fun _ _ found => by cases found
  passed := fun _ taken => by cases taken
  fresh := fun _ taken => by cases taken
  block := fun _ reserved => by cases reserved

/-- Another saver may begin, without a number and without a block. -/
theorem begin (ascending : Ascending conversation w turn) (key : ClaimKey) :
    Ascending conversation w ⟨key, none, none⟩ where
  -- What is said of the services does not depend on who saves, and the new saver holds nothing.
  cached := ascending.cached
  rows := ascending.rows
  passed := fun _ taken => by cases taken
  fresh := fun _ taken => by cases taken
  block := fun _ reserved => by cases reserved

/-- A saver may lose the block that it has reserved. -/
theorem drop (ascending : Ascending conversation w turn) :
    Ascending conversation w { turn with block := none } where
  -- Only the last of the conditions speaks of the block.
  cached := ascending.cached
  rows := ascending.rows
  passed := ascending.passed
  fresh := ascending.fresh
  block := fun _ reserved => by cases reserved

/-- Where what is cached only moves on, and the highest reserved number only rises, rows and numbers
that were passed are. -/
theorem advance (ascending : Ascending conversation w turn) (store : after.store = w.store)
    (risen : w.ledger.issued conversation ≤ after.ledger.issued conversation)
    (cached : ∀ slot, after.segments.entries.find? conversation = some slot →
      slot.value.entry.current.toNat ≤ slot.value.entry.last.toNat ∧
      slot.value.entry.last.toNat ≤ after.ledger.issued conversation ∧
      ∀ n, w.Passed conversation n →
        (turn.number = some n ∨ ¬ w.store.Below conversation n) → n ≤ slot.value.entry.current.toNat) :
    Ascending conversation after turn where
  cached := fun slot found => ⟨(cached slot found).1, (cached slot found).2.1⟩
  -- A row is not below its own number, so that the cached block has to lie behind it.
  rows := by
    intro serverId row found same
    rw [store] at found
    have passed := ascending.rows serverId row found same
    refine ⟨Nat.le_trans passed.1 risen, fun slot there => (cached slot there).2.2 _ passed (.inr ?_)⟩
    exact fun below => Nat.lt_irrefl _ (below serverId row found same)
  passed := fun n taken =>
    have passed := ascending.passed n taken
    ⟨Nat.le_trans passed.1 risen, fun slot there => (cached slot there).2.2 n passed (.inl taken)⟩
  fresh := by rw [store]; exact ascending.fresh
  block := by
    rw [store]
    intro segment reserved
    obtain ⟨positive, ordered, bound, above⟩ := ascending.block segment reserved
    exact ⟨positive, ordered, Nat.le_trans bound risen, above⟩

/-- What is cached may vanish, and the highest reserved number may rise. -/
theorem forget (ascending : Ascending conversation w turn) (store : after.store = w.store)
    (cached : ∀ slot, after.segments.entries.find? conversation = some slot →
      w.segments.entries.find? conversation = some slot)
    (risen : w.ledger.issued conversation ≤ after.ledger.issued conversation) :
    Ascending conversation after turn := by
  -- A cached block that is still there was cached before, with all that was known of it.
  refine ascending.advance store risen fun slot found => ?_
  have bounds := ascending.cached slot (cached slot found)
  exact ⟨bounds.1, Nat.le_trans bounds.2 risen, fun n passed _ => passed.2 slot (cached slot found)⟩

/-- A request for a range leaves the cached block further on, or not at all. -/
theorem effect_take (ascending : Ascending conversation w turn) (other : Conversation)
    (need : UInt64) : Ascending conversation (World.answer (.take other need) w).2 turn := by
  -- Only a live block of this conversation matters, of which some numbers are gone afterwards.
  rcases SegmentCache.take_cases w.segments other need w.clock with
    ⟨slot, expiresAt, range, rest, alive, taken, answered⟩ |
    ⟨slot, expiresAt, alive, short, answered⟩ | ⟨after, gone, answered, lost, others⟩
  · simp only [World.answer, answered]
    by_cases same : other = conversation
    · subst same
      have stored := (ExpiringTable.liveEntry_eq_some.mp alive).1
      obtain ⟨ordered, bound⟩ := ascending.cached _ stored
      rcases CachedSegment.take_cases ordered need w.clock with
        ⟨_, fits, range', rest', taken', _, _, current, last⟩ | ⟨_, refused⟩
      · rw [taken] at taken'
        cases taken'
        refine ascending.advance rfl (Nat.le_refl _) fun slot' found => ?_
        rw [ExpiringTable.find?_update_self, Option.some.injEq] at found
        subst found
        dsimp only at fits current last bound ⊢
        refine ⟨by rw [last]; omega, by rw [last]; exact bound, fun n passed _ => ?_⟩
        have before := passed.2 _ stored
        dsimp only at before
        omega
      · rw [taken] at refused; cases refused
    · refine ascending.forget rfl (fun slot found => ?_) (Nat.le_refl _)
      rwa [ExpiringTable.find?_update_of_ne _ _ (Ne.symm same)] at found
  · simp only [World.answer, answered]
    exact ascending.forget rfl (fun _ found => found) (Nat.le_refl _)
  · simp only [World.answer, answered]
    exact ascending.forget rfl (ExpiringTable.Forgets.of_lost lost others conversation)
      (Nat.le_refl _)

/-- A block that the saver has reserved is cached from a number on that all rows lie below. -/
theorem effect_install (ascending : Ascending conversation w turn) (other : Conversation)
    (segment : Segment) (lifetime : Duration)
    (permitted : (inTurn conversation).permits (.install other segment lifetime) turn) :
    Ascending conversation (World.answer (.install other segment lifetime) w).2
      (turn.give conversation (.install other segment lifetime)) := by
  unfold Turn.give
  rcases SegmentCache.install_cases w.segments other segment lifetime w.clock with
    ⟨_, base, forgot, answered⟩ | ⟨slot, expiresAt, alive, older, answered⟩
  · simp only [World.answer, answered]
    by_cases same : other = conversation
    · subst same
      rw [if_pos rfl]
      obtain ⟨positive, ordered, bound, below, above⟩ := ascending.block segment (permitted rfl)
      have spans := CachedSegment.span_fresh w.clock positive
      simp only [CachedSegment.span, Segment.span, Span.mk.injEq] at spans
      simp only [Segment.span] at positive ordered bound below above
      refine ascending.drop.advance rfl (Nat.le_refl _) fun slot' found => ?_
      rw [ExpiringTable.find?_insert_self, Option.some.injEq] at found
      subst found
      dsimp only
      refine ⟨by omega, by omega, fun n passed behind => ?_⟩
      -- A number that matters is the saver's, or lies at or below some row.
      rcases behind with taken | reached
      · have bound := above n taken
        omega
      · refine Nat.le_of_not_lt fun beyond => reached fun serverId row found same => ?_
        have bound := below serverId row found same
        omega
    · rw [if_neg same]
      refine ascending.forget rfl (fun slot found => ?_) (Nat.le_refl _)
      exact forgot _ _ (ExpiringTable.find?_of_insert (Ne.symm same) found)
  · simp only [World.answer, answered]
    split
    · exact ascending.drop.forget rfl (fun _ found => found) (Nat.le_refl _)
    · exact ascending.forget rfl (fun _ found => found) (Nat.le_refl _)

/-- An insert with the number of the saver puts it above all rows, and its message is stored then. -/
theorem effect_insert (ascending : Ascending conversation w turn) (message : Message)
    (permitted : (inTurn conversation).permits (.insert message) turn) :
    Ascending conversation (World.answer (.insert message) w).2 turn where
  cached := ascending.cached
  rows := by
    intro serverId row found same
    rcases MessageStore.findByServerId_of_insert found with before | ⟨rfl, _⟩
    · exact ascending.rows serverId row before same
    · exact ascending.passed _ (permitted same).2
  passed := ascending.passed
  fresh := by
    intro n taken
    rcases ascending.fresh n taken with stored | below
    · obtain ⟨row, found⟩ := stored
      exact .inl ⟨row, MessageStore.findByKey_insert found message⟩
    by_cases same : message.conversation = conversation
    -- The message of the saver is stored if the insert succeeds, and otherwise nothing changes.
    · obtain ⟨sameKey, _⟩ := permitted same
      rcases w.store.insert_cases message with ⟨_, refused, _⟩ | ⟨_, _, later, stored, _⟩
      · refine .inr ?_
        simp only [World.answer, refused]
        exact below
      · refine .inl ⟨message, ?_⟩
        rw [← sameKey]
        exact MessageStore.findByKey_of_inserted (by rw [stored])
    · refine .inr fun serverId row found sameRow => ?_
      rcases MessageStore.findByServerId_of_insert found with before | ⟨rfl, _⟩
      · exact below serverId row before sameRow
      · exact absurd sameRow same
  block := by
    intro segment reserved
    obtain ⟨positive, ordered, bound, below, above⟩ := ascending.block segment reserved
    refine ⟨positive, ordered, bound, fun serverId row found same => ?_, above⟩
    rcases MessageStore.findByServerId_of_insert found with before | ⟨rfl, _⟩
    · exact below serverId row before same
    · exact above _ (permitted same).2

/-- Taking effect, a permitted call leaves rows and numbers passed, whether or not its reply arrives. -/
theorem effect (ascending : Ascending conversation w turn) {request : Service.Request}
    (permitted : (inTurn conversation).permits request turn) :
    Ascending conversation (World.answer request w).2 (turn.give conversation request) := by
  -- Three calls move numbers or rows. The others raise a watermark, drop a block, or touch neither.
  cases request
  case take other need => exact ascending.effect_take other need
  case install other segment lifetime => exact ascending.effect_install other segment lifetime permitted
  case insert message => exact ascending.effect_insert message permitted
  case reserve other count =>
    refine ascending.forget rfl (fun _ found => found) ?_
    exact w.ledger.issued_le_reserve other conversation count w.clock
  case raiseIssued other floor =>
    refine ascending.forget rfl (fun _ found => found) ?_
    exact w.ledger.issued_le_raiseIssued other conversation floor w.clock
  case raiseCommitted other stored =>
    refine ascending.forget rfl (fun _ found => found) ?_
    exact w.ledger.issued_le_raiseCommitted other conversation stored w.clock
  case raiseRetained other floor =>
    refine ascending.forget rfl (fun _ found => found) ?_
    exact Nat.le_of_eq (w.ledger.issued_raiseRetained other conversation floor w.clock).symm
  case dropSegment other =>
    exact ascending.forget rfl (w.segments.remove_forgets other conversation) (Nat.le_refl _)
  all_goals exact ascending.forget rfl (fun _ found => found) (Nat.le_refl _)

/-- A range that is answered starts with a number that lies above all rows. -/
theorem gain_take (ascending : Ascending conversation w turn) (other : Conversation) (need : UInt64)
    (permitted : (inTurn conversation).permits (.take other need) turn) :
    Ascending conversation (World.answer (.take other need) w).2
      (turn.gain conversation (.take other need) (World.answer (.take other need) w).1) := by
  have effect := ascending.effect_take other need
  rcases SegmentCache.take_cases w.segments other need w.clock with
    ⟨slot, expiresAt, range, rest, alive, taken, answered⟩ |
    ⟨slot, expiresAt, alive, short, answered⟩ | ⟨after, gone, answered, lost, others⟩
  · simp only [World.answer, answered, Turn.gain] at effect ⊢
    by_cases same : other = conversation
    · subst same
      have stored := (ExpiringTable.liveEntry_eq_some.mp alive).1
      obtain ⟨ordered, bound⟩ := ascending.cached _ stored
      rcases CachedSegment.take_cases ordered need w.clock with
        ⟨positive, fits, range', rest', taken', _, spans, current, _⟩ | ⟨_, refused⟩
      · rw [taken] at taken'
        cases taken'
        rw [if_pos rfl]
        refine ⟨effect.cached, effect.rows, fun n gained => ?_, fun n gained => .inr ?_, ?_⟩
        -- The number is the next one of the block, which all rows were behind.
        · cases gained
          refine ⟨?_, fun slot' found => ?_⟩
          · rw [spans]; dsimp only at fits bound ⊢; omega
          · rw [ExpiringTable.find?_update_self, Option.some.injEq] at found
            subst found
            rw [spans]; dsimp only at current ⊢; omega
        · cases gained
          intro serverId row found sameRow
          have behind := (ascending.rows serverId row found sameRow).2 _ stored
          rw [spans]; dsimp only at behind ⊢; omega
        · rw [permitted rfl]
          exact fun _ reserved => by cases reserved
      · rw [taken] at refused; cases refused
    · rw [if_neg same]
      exact effect
  -- A block with too few numbers left hands out none of them.
  · have nothing : turn.gain conversation (.take other need)
        (.ok (slot.entry.take need w.clock).1) = turn := by
      cases outcome : (slot.entry.take need w.clock).1 with
      | taken range => exact absurd outcome (short range)
      | notFound | exhausted => rfl
    simp only [World.answer, answered, nothing] at effect ⊢
    exact effect
  · simp only [World.answer, answered, Turn.gain] at effect ⊢
    exact effect

/-- A block that is reserved lies above all rows, and above the number of the saver. -/
theorem gain_reserve (ascending : Ascending conversation w turn) (other : Conversation)
    (count : UInt64) :
    Ascending conversation (World.answer (.reserve other count) w).2
      (turn.gain conversation (.reserve other count) (World.answer (.reserve other count) w).1) := by
  -- The block begins behind all that was issued, and rows and taken numbers were issued.
  have effect : Ascending conversation (World.answer (.reserve other count) w).2 turn :=
    ascending.effect trivial
  rcases w.ledger.reserve_cases other count w.clock with
    ⟨segment, after, reserved, positive, _, spans, issued⟩ | ⟨after, refused, _, _⟩
  · simp only [World.answer, reserved, Turn.gain] at effect ⊢
    -- A block of another conversation is not the saver's to hold.
    by_cases same : other = conversation
    · subst same
      rw [if_pos rfl]
      refine ⟨effect.cached, effect.rows, effect.passed, effect.fresh, fun segment' same => ?_⟩
      cases same
      rw [spans]
      dsimp only
      refine ⟨by omega, by omega, by omega, fun serverId row found sameRow => ?_, fun n taken => ?_⟩
      · have bound := (ascending.rows serverId row found sameRow).1
        omega
      · have bound := (ascending.passed n taken).1
        omega
    · rw [if_neg same]
      exact effect
  · simp only [World.answer, refused, Turn.gain] at effect ⊢
    exact effect

/-- Whatever a permitted call comes to, rows and numbers are passed. -/
theorem reacts (ascending : Ascending conversation w turn) {request : Service.Request}
    {reply : Service.Reply request} (permitted : (inTurn conversation).permits request turn)
    (reacted : World.Reacts Service.Failed request w reply after) :
    ∃ later, (inTurn conversation).moves request turn reply later ∧
      Ascending conversation after later := by
  refine ⟨_, rfl, ?_⟩
  cases reacted with
  | answers =>
    have effect := ascending.effect permitted
    cases request
    case take other need => exact ascending.gain_take other need permitted
    case reserve other count => exact ascending.gain_reserve other count
    all_goals exact effect
  -- A failure puts nothing into the saver's hands, but takes the block that was to be installed.
  | failsBefore failed =>
    rw [Turn.gain_of_failed conversation failed]
    unfold Turn.give
    split
    · split
      · exact ascending.drop
      · exact ascending
    · exact ascending
  | failsAfter failed =>
    rw [Turn.gain_of_failed conversation failed]
    exact ascending.effect permitted

/-- Changes of the services by themselves leave rows and numbers passed. -/
theorem drifts (ascending : Ascending conversation w turn) (drifted : World.Drifts w after) :
    Ascending conversation after turn :=
  ascending.forget drifted.store (drifted.segments conversation)
    (Nat.le_of_eq (by rw [drifted.ledger]))

/-- A row that the effect of a permitted call adds lies above all that were stored before. -/
theorem added_above (ascending : Ascending conversation w turn) {request : Service.Request}
    (permitted : (inTurn conversation).permits request turn) {serverId : ServerId} {row : Message}
    (found : (World.answer request w).2.store.findByServerId serverId = some row)
    (new : w.store.findByServerId serverId = none) (same : row.conversation = conversation) :
    w.store.Below conversation row.sequence.value.toNat := by
  -- Only an insert adds a row, and only under a key that is free, so that the number is above all.
  rcases World.answer_store request w with kept | ⟨message, rfl, inserted⟩
  · rw [kept, new] at found
    cases found
  · rw [inserted] at found
    rcases MessageStore.findByServerId_of_insert found with before | ⟨rfl, free⟩
    · rw [new] at before
      cases before
    · obtain ⟨sameKey, taken⟩ := permitted same
      rcases ascending.fresh _ taken with ⟨_, stored⟩ | below
      · rw [sameKey, stored] at free
        cases free
      · exact below

end Ascending

end Intake
