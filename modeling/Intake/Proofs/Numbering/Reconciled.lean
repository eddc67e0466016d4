import Intake.Proofs.Numbering.ColdStart
import Intake.Proofs.Numbering.SegmentedUnique

/-! What moving an allocator past a floor is good for: from then on no number at or below the floor is granted
in the conversation, whatever happens to the services. -/

namespace Intake

/-- Whether an allocator grants numbers from cached blocks, and not from a counter. -/
def Allocator.usesBlocks : Allocator → Bool
  | .segmented _ => true
  | .singleCounter _ => false

/-- What a call on an allocator answers. -/
abbrev NumberingCall.Answer : NumberingCall → Type
  | .allocate _ _ => Except AllocationError Grant
  | .reconcile _ _ | .recordCommitted _ _ => Except AllocationError Unit

/-- The plan of a call on an allocator. -/
def NumberingCall.begin (allocator : Allocator) : (call : NumberingCall) → Procedure call.Answer
  | .allocate conversation need => (allocator.allocate conversation need).run
  | .reconcile conversation floor => (allocator.reconcile conversation floor).run
  | .recordCommitted conversation stored => (Allocator.recordCommitted conversation stored).run

namespace World

/-- The watermarks of a conversation are as they were, and what is cached of its numbers was cached before.
All else may have changed in any way. -/
structure Spares (conversation : Conversation) (before after : World) : Prop where
  watermarks : after.ledger.load conversation = before.ledger.load conversation
  block : ∀ slot, after.segments.entries.find? conversation = some slot →
    before.segments.entries.find? conversation = some slot
  counter : ∀ entry, after.counters.counters.entries.find? conversation = some entry →
    before.counters.counters.entries.find? conversation = some entry

/-- The watermarks, blocks, counters and locks of all other conversations are the very same as before, and
so is everything that is not about numbers. -/
structure SameElsewhere (conversation : Conversation) (before after : World) : Prop where
  watermarks : ∀ other, other ≠ conversation → after.ledger.load other = before.ledger.load other
  blocks : ∀ other, other ≠ conversation →
    after.segments.entries.find? other = before.segments.entries.find? other
  counters : ∀ other, other ≠ conversation →
    after.counters.counters.entries.find? other = before.counters.counters.entries.find? other
  locks : after.counters.locks = before.counters.locks
  claims : after.claims = before.claims
  store : after.store = before.store
  clock : after.clock = before.clock

end World

/-- The conversation whose numbers a call is about, if it is about any. -/
def Service.numbersOf? : Request → Option Conversation
  | .reserve conversation _ | .raiseIssued conversation _ | .raiseCommitted conversation _
  | .raiseRetained conversation _ | .loadWatermarks conversation | .take conversation _
  | .install conversation _ _ | .dropSegment conversation | .increment conversation _ _
  | .seedCounter conversation _ _ | .dropCounter conversation => some conversation
  | _ => none

namespace World

variable {conversation : Conversation}

/-- Changes of the services by themselves spare the numbers of every conversation. -/
theorem Drifts.spares {before after : World} (drifted : Drifts before after) :
    before.Spares conversation after where
  watermarks := by rw [drifted.ledger]
  block := drifted.segments conversation
  counter := drifted.counters conversation

/-- Calls spare the numbers of all conversations but the one that they are about. -/
theorem answer_spares {request : Service.Request} (w : World)
    (elsewhere : Service.numbersOf? request ≠ some conversation) :
    w.Spares conversation (answer request w).2 := by
  have differ : ∀ other, Service.numbersOf? request = some other → conversation ≠ other :=
    fun other about same => elsewhere (same ▸ about)
  -- A call on the ledger changes the row that it names. A call on a cache changes the entry that it
  -- names, and may forget others that have expired.
  cases request
  case reserve other count =>
    exact ⟨w.ledger.load_reserve_of_ne count w.clock (differ other rfl), fun _ => id, fun _ => id⟩
  case raiseIssued other _ | raiseCommitted other _ =>
    exact ⟨Ledger.load_put_of_ne _ _ (differ other rfl), fun _ => id, fun _ => id⟩
  case raiseRetained other floor =>
    exact ⟨w.ledger.load_raiseRetained_of_ne floor w.clock (differ other rfl), fun _ => id,
      fun _ => id⟩
  case take other need =>
    exact ⟨rfl, fun _ found =>
      (w.segments.find?_take_of_ne need w.clock (differ other rfl)).symm.trans found, fun _ => id⟩
  case install other _ _ =>
    exact ⟨rfl, fun _ => SegmentCache.find?_of_install (differ other rfl), fun _ => id⟩
  case dropSegment other =>
    exact ⟨rfl, w.segments.remove_forgets other conversation, fun _ => id⟩
  case increment other amount lifetime =>
    exact ⟨rfl, fun _ => id, fun _ found =>
      (CounterCache.find?_increment_of_ne amount lifetime (differ other rfl)).symm.trans found⟩
  case seedCounter other _ _ =>
    exact ⟨rfl, fun _ => id, fun _ => CounterCache.find?_of_seed (differ other rfl)⟩
  case dropCounter other =>
    exact ⟨rfl, fun _ => id, w.counters.counters.remove_forgets other conversation⟩
  -- A lock is not about numbers, although it is kept beside the counters.
  case lock _ token lifetime =>
    exact ⟨rfl, fun _ => id, fun _ found => by rwa [← CounterCache.counters_lock token lifetime]⟩
  case unlock _ token =>
    exact ⟨rfl, fun _ => id, fun _ found => by rwa [← CounterCache.counters_unlock token]⟩
  all_goals exact ⟨rfl, fun _ => id, fun _ => id⟩

end World

/-- Calls on an allocator in any interleaving, where any call may fail before or after taking effect.
Whatever spares the numbers of one conversation may happen beside them. -/
def numbering (allocator : Allocator) (conversation : Conversation) :
    Setting services World NumberingCall.Answer where
  reacts := World.Reacts Service.Failed
  -- The clock is set, cached numbers are lost, and other conversations are served elsewhere.
  drifts := World.Spares conversation
  begins := NumberingCall.begin allocator

/-- What a call must not bring below a mark: a block that is cached, and a counter that is started. Callers
of an allocator draw from its own kind of cache only. -/
def Service.Raised (allocator : Allocator) (conversation : Conversation) (mark : Nat) :
    Request → Prop
  | .take _ _ => allocator.usesBlocks = true
  | .install other segment _ => allocator.usesBlocks = true ∧ (other = conversation →
      mark < segment.span.first ∧ segment.span.first ≤ segment.span.last)
  | .increment _ _ _ => allocator.usesBlocks = false
  | .seedCounter other value _ => allocator.usesBlocks = false ∧
      (other = conversation → mark ≤ value.toNat)
  | _ => True

/-- What a reply hands out lies above a mark, and what it tells of the watermarks does not lie below it. -/
def Service.HandsAbove (conversation : Conversation) (mark : Nat) :
    (request : Request) → Reply request → Prop
  | .reserve other _, .ok segment => other = conversation →
      mark < segment.span.first ∧ segment.span.first ≤ segment.span.last
  | .take other _, .ok (.taken range) => other = conversation → mark < range.start.value.toNat
  | .increment other amount _, .ok (some last) => other = conversation →
      mark + amount.toNat ≤ last.toNat
  | .loadWatermarks other, .ok watermarks => other = conversation →
      mark ≤ ((watermarks.map Watermarks.highWater).getD SequenceNumber.zero).value.toNat
  | _, _ => True

/-- What is handed out of other conversations may lie anywhere. -/
theorem Service.handsAbove_of_elsewhere {conversation : Conversation} {request : Request}
    (elsewhere : numbersOf? request ≠ some conversation) (mark : Nat) (reply : Reply request) :
    HandsAbove conversation mark request reply := by
  -- What a reply hands out is bounded only in the conversation itself.
  unfold HandsAbove
  split
  case h_5 => trivial
  all_goals exact fun same => absurd (congrArg some same) elsewhere

/-- Callers that bring nothing below a mark, and are handed nothing below it. -/
def raising (allocator : Allocator) (conversation : Conversation) (mark : Nat) :
    Protocol services Unit where
  permits request _ := Service.Raised allocator conversation mark request
  moves request _ reply _ := Service.HandsAbove conversation mark request reply

/-- Numbers of a conversation that are granted start above a mark. -/
def Service.GrantsAbove (conversation other : Conversation) (mark : Nat)
    (outcome : Except AllocationError Grant) : Prop :=
  ∀ grant, outcome = .ok grant → other = conversation → mark < grant.start.value.toNat

/-- What a call on an allocator grants of a conversation starts above a mark. -/
def NumberingCall.EndsAbove (conversation : Conversation) (mark : Nat) :
    (call : NumberingCall) → call.Answer → Prop
  | .allocate other _, outcome => Service.GrantsAbove conversation other mark outcome
  | .reconcile _ _, _ | .recordCommitted _ _, _ => True

open Service (GrantsAbove)

namespace Segmented

variable {conversation : Conversation} {mark : Nat} {config : SegmentConfig}

/-- What is taken starts above the mark. -/
theorem take_raises (other : Conversation) (need : UInt64) :
    (Attempt.onCache (Procedure.take other need)).run.Keeps
      (raising (.segmented config) conversation mark) (fun _ => True)
      (fun outcome _ => ∀ range, outcome = .ok (.taken range) → other = conversation →
        mark < range.start.value.toNat) () := by
  -- What a reply of the cache may be is said by the protocol, so that nothing else is needed.
  refine .adapt (.call trivial rfl fun reply _ above => ⟨trivial, fun range taken => ?_⟩)
  obtain rfl := Plan.ok_of_renamed taken
  exact above

/-- A range that starts above the mark is granted when the clock has been read. -/
theorem grant_raises {allocator : Allocator} {other : Conversation} {range : NumberRange}
    (above : other = conversation → mark < range.start.value.toNat) :
    (do return ⟨range, ← ExceptT.lift Procedure.now⟩ : Attempt AllocationError Grant).run.Keeps
      (raising allocator conversation mark) (fun _ => True)
      (fun outcome _ => GrantsAbove conversation other mark outcome) () := by
  -- Reading the clock comes after the range was taken, and changes nothing about it.
  refine .lift (.call trivial trivial fun now _ _ => ⟨trivial, trivial, ?_⟩)
  intro grant same
  cases same
  exact above

/-- A block is reserved above the mark, so that it may be cached. -/
theorem allocateIn_raises (other : Conversation) (need : UInt64) (rounds : Nat) :
    (allocateIn config other need rounds).run.Keeps
      (raising (.segmented config) conversation mark) (fun _ => True)
      (fun outcome _ => GrantsAbove conversation other mark outcome) () := by
  -- The induction is on the rounds that are left.
  induction rounds with
  | zero => exact ⟨trivial, by simp [GrantsAbove]⟩
  | succ rounds ih =>
    refine .attempt (take_raises other need) (by simp [GrantsAbove]) fun outcome _ took => ?_
    split
    · rename_i range; exact grant_raises (took range rfl)
    have reserves : (Attempt.onLedger (Procedure.reserve other
        (config.blockSize.forNeed need))).run.Keeps (raising (.segmented config) conversation mark)
        (fun _ => True) (fun outcome _ => ∀ segment, outcome = .ok segment → other = conversation →
          mark < segment.span.first ∧ segment.span.first ≤ segment.span.last) () := by
      refine .adapt (.call trivial trivial fun reply _ above => ⟨trivial, fun segment got => ?_⟩)
      obtain rfl := Plan.ok_of_renamed got
      exact above
    refine .attempt reserves (by simp [GrantsAbove]) fun segment _ reserved => ?_
    refine .attempt_any
      (.adapt (.call trivial ⟨rfl, reserved segment rfl⟩ fun _ _ _ => ⟨trivial, trivial⟩))
      (by simp [GrantsAbove]) fun _ _ => ?_
    refine .attempt (take_raises other need) (by simp [GrantsAbove]) fun outcome _ took => ?_
    split
    · rename_i range; exact grant_raises (took range rfl)
    · exact ih

end Segmented

namespace SingleCounter

variable {conversation : Conversation} {mark : Nat} {config : CounterConfig}

/-- What a counter is raised by starts above the mark. -/
theorem tryIncrement_raises (other : Conversation) {need : UInt64} (positive : 0 < need.toNat) :
    (tryIncrement config other need).run.Keeps (raising (.singleCounter config) conversation mark)
      (fun _ => True) (fun outcome _ => ∀ grant, outcome = .ok (some grant) → other = conversation →
        mark < grant.start.value.toNat) () := by
  have increments : (Attempt.onCache (Procedure.increment other need config.lifetime)).run.Keeps
      (raising (.singleCounter config) conversation mark) (fun _ => True) (fun outcome _ =>
        ∀ last, outcome = .ok (some last) → other = conversation →
          mark + need.toNat ≤ last.toNat) () := by
    refine .adapt (.call trivial rfl fun reply _ above => ⟨trivial, fun last raised => ?_⟩)
    obtain rfl := Plan.ok_of_renamed raised
    exact above
  refine .attempt increments (by simp) fun found _ above => ?_
  cases found with
  | none => exact ⟨trivial, by simp⟩
  | some last =>
    refine .lift (.call trivial trivial fun now _ _ => ⟨trivial, trivial, ?_⟩)
    intro grant same here
    cases same
    -- The range ends where the counter is, so that it starts a need above the mark.
    have reaches := above last rfl here
    have bound := last.toNat_lt_size
    show mark < (Word.saturatingSub last need + 1).toNat
    rw [Word.add_toNat] <;> rw [Word.saturatingSub_toNat, UInt64.toNat_one] <;> omega

/-- A counter is started no lower than the watermarks, which do not lie below the mark. -/
theorem seed_raises (other : Conversation) :
    (seed config other).run.Keeps (raising (.singleCounter config) conversation mark)
      (fun _ => True) (fun _ _ => True) () := by
  -- The high-water mark that is read is the floor that the counter is seeded with.
  have loads : (Attempt.onLedger (Procedure.loadWatermarks other)).run.Keeps
      (raising (.singleCounter config) conversation mark) (fun _ => True) (fun outcome _ =>
        ∀ watermarks, outcome = .ok watermarks → other = conversation →
          mark ≤ ((watermarks.map Watermarks.highWater).getD SequenceNumber.zero).value.toNat)
      () := by
    refine .adapt (.call trivial trivial fun reply _ above => ⟨trivial, fun watermarks got => ?_⟩)
    obtain rfl := Plan.ok_of_renamed got
    exact above
  refine .attempt loads (by simp) fun watermarks _ above => ?_
  exact .attempt_any
    (.adapt (.call trivial ⟨rfl, above watermarks rfl⟩ fun _ _ _ => ⟨trivial, trivial⟩))
    (by simp) fun _ _ => ⟨trivial, trivial⟩

/-- A cold start brings nothing below the mark. -/
theorem coldStart_raises (other : Conversation) :
    (coldStart config other).run.Keeps (raising (.singleCounter config) conversation mark)
      (fun _ => True) (fun _ _ => True) () := by
  -- Only the seeding touches numbers. The lock and the wait do not.
  refine .lift (.call trivial trivial fun token _ _ => ⟨trivial, ?_⟩)
  refine .attempt_any
    (.adapt (.call trivial trivial fun _ _ _ => ⟨trivial, trivial⟩)) (by simp) fun locked _ => ?_
  split
  · refine .lift ((seed_raises other).mono (fun _ _ => trivial) fun seeded _ _ => ?_)
    exact .lift (.call trivial trivial fun _ _ _ => ⟨trivial, trivial, trivial⟩)
  · exact .liftLast ⟨trivial, trivial⟩

/-- A range is counted from a counter above the mark. -/
theorem allocateIn_raises (other : Conversation) {need : UInt64} (positive : 0 < need.toNat)
    (rounds : Nat) :
    (allocateIn config other need rounds).run.Keeps
      (raising (.singleCounter config) conversation mark) (fun _ => True)
      (fun outcome _ => GrantsAbove conversation other mark outcome) () := by
  -- The induction is on the rounds. The last one is followed by one more increment.
  induction rounds with
  | zero =>
    refine .attempt (tryIncrement_raises other positive) (by simp [GrantsAbove]) ?_
    intro found _ above
    cases found with
    | none => exact ⟨trivial, by simp [GrantsAbove]⟩
    | some grant => exact ⟨trivial, fun grant' same => by cases same; exact above grant rfl⟩
  | succ rounds ih =>
    refine .attempt (tryIncrement_raises other positive) (by simp [GrantsAbove]) ?_
    intro found _ above
    cases found with
    | none =>
      exact .attempt (coldStart_raises other) (by simp [GrantsAbove]) fun _ _ _ => ih
    | some grant => exact ⟨trivial, fun grant' same => by cases same; exact above grant rfl⟩

end SingleCounter

/-- Whatever is called on an allocator, nothing is brought below the mark, and what is granted starts above it. -/
theorem NumberingCall.begin_raises (allocator : Allocator) (conversation : Conversation) (mark : Nat)
    (call : NumberingCall) :
    (call.begin allocator).Keeps (raising allocator conversation mark) (fun _ => True)
      (fun answer _ => call.EndsAbove conversation mark answer) () := by
  cases call with
  | allocate other need =>
    by_cases nothing : need = 0
    · -- Nothing is granted when nothing is asked for.
      subst nothing
      cases allocator <;> exact ⟨trivial, fun grant granted => by cases granted⟩
    · have positive := Word.toNat_pos nothing
      cases allocator with
      | segmented config =>
        show (Segmented.allocate config other need).run.Keeps _ _ _ _
        unfold Segmented.allocate
        rw [if_neg nothing]
        exact Segmented.allocateIn_raises other need _
      | singleCounter config =>
        show (SingleCounter.allocate config other need).run.Keeps _ _ _ _
        unfold SingleCounter.allocate
        rw [if_neg nothing]
        exact SingleCounter.allocateIn_raises other positive _
  | reconcile other floor =>
    refine .attempt_any
      (.adapt (.call trivial trivial fun _ _ _ => ⟨trivial, trivial⟩)) (fun _ _ => trivial)
      fun _ _ => ?_
    cases allocator <;> exact .adapt (.call trivial trivial fun _ _ _ => ⟨trivial, trivial⟩)
  | recordCommitted other stored => exact .adapt (.call trivial trivial fun _ _ _ => ⟨trivial, trivial⟩)

/-- All that may still be granted of a conversation lies above a mark: what is yet to be reserved, and
what the block or the counter of the allocator holds. -/
structure World.Marked (allocator : Allocator) (conversation : Conversation) (mark : Nat) (w : World) :
    Prop where
  issued : mark ≤ w.ledger.issued conversation
  block : allocator.usesBlocks = true → ∀ slot,
    w.segments.entries.find? conversation = some slot →
      mark ≤ slot.value.entry.current.toNat ∧
        slot.value.entry.current.toNat ≤ slot.value.entry.last.toNat
  counter : allocator.usesBlocks = false → ∀ entry,
    w.counters.counters.entries.find? conversation = some entry → mark ≤ entry.value.toNat

/-- No reserved number lies above the highest one that the ledger knows of. -/
theorem Ledger.issued_le_highWater (ledger : Ledger) (conversation : Conversation) :
    ledger.issued conversation ≤ (ledger.highWater conversation).toNat := by
  -- The high-water mark is the largest of the marks of the row.
  unfold issued highWater
  cases ledger.load conversation with
  | none => exact Nat.zero_le _
  | some row =>
    have known := row.highWater_toNat
    simp only [Option.map_some, Option.getD_some]
    omega

namespace World.Marked

variable {allocator : Allocator} {conversation : Conversation} {mark : Nat} {w after : World}

/-- The watermarks may rise, and what is cached may vanish. -/
theorem keep (marked : w.Marked allocator conversation mark)
    (risen : w.ledger.issued conversation ≤ after.ledger.issued conversation)
    (block : ∀ slot, after.segments.entries.find? conversation = some slot →
      w.segments.entries.find? conversation = some slot)
    (counter : ∀ entry, after.counters.counters.entries.find? conversation = some entry →
      w.counters.counters.entries.find? conversation = some entry) :
    after.Marked allocator conversation mark where
  -- Each mark is bounded by what is there, and nothing new is there.
  issued := Nat.le_trans marked.issued risen
  block uses slot found := marked.block uses slot (block slot found)
  counter uses entry found := marked.counter uses entry (counter entry found)

/-- Whatever spares the conversation keeps its numbers above the mark. -/
theorem spared (marked : w.Marked allocator conversation mark) (spares : w.Spares conversation after) :
    after.Marked allocator conversation mark := by
  -- Reserved numbers are read off the watermarks, which are spared.
  refine marked.keep (Nat.le_of_eq ?_) spares.block spares.counter
  unfold Ledger.issued
  rw [spares.watermarks]

/-- A block that is reserved lies above all that was reserved before. -/
theorem answer_reserve (marked : w.Marked allocator conversation mark) (count : UInt64) :
    (answer (.reserve conversation count) w).2.Marked allocator conversation mark ∧
      Service.HandsAbove conversation mark (.reserve conversation count)
        (answer (.reserve conversation count) w).1 := by
  -- A block starts behind the issued numbers, and the mark is one of them.
  have risen := w.ledger.issued_le_reserve conversation conversation count w.clock
  refine ⟨marked.keep risen (fun _ found => found) fun _ found => found, ?_⟩
  rcases w.ledger.reserve_cases conversation count w.clock with
    ⟨segment, after, reserved, positive, _, spans, _⟩ | ⟨after, refused, _, _⟩
  · simp only [answer, reserved, Service.HandsAbove]
    intro _
    have above := marked.issued
    rw [spans]
    dsimp only
    omega
  · simp only [answer, refused, Service.HandsAbove]

/-- What is taken from the cached block lies above the mark, and so does the rest. -/
theorem answer_take (marked : w.Marked allocator conversation mark) (need : UInt64)
    (uses : allocator.usesBlocks = true) :
    (answer (.take conversation need) w).2.Marked allocator conversation mark ∧
      Service.HandsAbove conversation mark (.take conversation need)
        (answer (.take conversation need) w).1 := by
  rcases SegmentCache.take_cases w.segments conversation need w.clock with
    ⟨slot, expiresAt, range, rest, alive, taken, answered⟩ |
    ⟨slot, expiresAt, alive, short, answered⟩ | ⟨after, gone, answered, lost, others⟩
  · simp only [answer, answered, Service.HandsAbove]
    obtain ⟨above, ordered⟩ := marked.block uses _ (ExpiringTable.liveEntry_eq_some.mp alive).1
    rcases CachedSegment.take_cases ordered need w.clock with
      ⟨positive, fits, range', rest', taken', _, spans, current, last⟩ | ⟨_, refused⟩
    · cases taken.symm.trans taken'
      have starts : range.start.value.toNat = slot.entry.current.toNat + 1 :=
        congrArg Span.first spans
      dsimp only at above fits current last
      refine ⟨⟨marked.issued, fun _ slot' found => ?_, marked.counter⟩, fun _ => by omega⟩
      dsimp only at found
      rw [ExpiringTable.find?_update_self] at found
      cases found
      dsimp only
      rw [last]
      omega
    · cases taken.symm.trans refused
  · -- A block with too few numbers left hands out none of them.
    refine ⟨by simpa only [answer, answered] using marked, ?_⟩
    simp only [answer, answered]
    cases outcome : (slot.entry.take need w.clock).1 with
    | taken range => exact absurd outcome (short range)
    | notFound | exhausted => trivial
  · simp only [answer, answered, Service.HandsAbove, and_true]
    exact marked.keep (Nat.le_refl _) (ExpiringTable.Forgets.of_lost lost others conversation)
      fun _ found => found

/-- A block that lies above the mark may be cached. -/
theorem answer_install (marked : w.Marked allocator conversation mark) {segment : Segment}
    (lifetime : Duration) (above : mark < segment.span.first)
    (ordered : segment.span.first ≤ segment.span.last) :
    (answer (.install conversation segment lifetime) w).2.Marked allocator conversation mark := by
  rcases SegmentCache.install_cases w.segments conversation segment lifetime w.clock with
    ⟨_, base, forgot, answered⟩ | ⟨slot, expiresAt, alive, older, answered⟩
  · simp only [answer, answered]
    refine ⟨marked.issued, fun _ slot found => ?_, marked.counter⟩
    rw [ExpiringTable.find?_insert_self] at found
    cases found
    -- The block is cached from the number before its first one.
    have spans := CachedSegment.span_fresh w.clock (Nat.zero_lt_of_lt above)
    simp only [CachedSegment.span, Segment.span, Span.mk.injEq] at spans above ordered
    dsimp only
    omega
  · simpa only [answer, answered] using marked

/-- A counter above the mark is raised from there. -/
theorem answer_increment (marked : w.Marked allocator conversation mark) (amount : UInt64)
    (lifetime : Duration) (uses : allocator.usesBlocks = false) :
    (answer (.increment conversation amount lifetime) w).2.Marked allocator conversation mark ∧
      Service.HandsAbove conversation mark (.increment conversation amount lifetime)
        (answer (.increment conversation amount lifetime) w).1 := by
  rcases w.counters.counters.live_cases conversation w.clock with
    ⟨entry, alive, _⟩ | ⟨after, _, looked, lost, others⟩
  · rcases CounterCache.increment_of_live amount lifetime alive with
      ⟨sum, added, raised⟩ | ⟨_, refused⟩
    · simp only [answer, raised, Service.HandsAbove]
      have above := marked.counter uses _ (ExpiringTable.liveEntry_eq_some.mp alive).1
      obtain ⟨_, sums⟩ := Word.checkedAdd_eq_some.mp added
      refine ⟨⟨marked.issued, marked.block, fun _ entry found => ?_⟩, fun _ => by omega⟩
      dsimp only at found
      rw [ExpiringTable.find?_update_self] at found
      cases found
      dsimp only
      omega
    · simp only [answer, refused, Service.HandsAbove, and_true]
      exact marked
  -- Where no counter lives, one whose time is up is dropped.
  · simp only [answer, CounterCache.increment, looked, Service.HandsAbove, and_true]
    exact marked.keep (Nat.le_refl _) (fun _ found => found)
      (ExpiringTable.Forgets.of_lost lost others conversation)

/-- A counter may be started no lower than the mark. -/
theorem answer_seed (marked : w.Marked allocator conversation mark) {value : UInt64}
    (lifetime : Duration) (above : mark ≤ value.toNat) :
    (answer (.seedCounter conversation value lifetime) w).2.Marked allocator conversation mark := by
  -- A counter that lives is left alone. Otherwise the one that is seeded lies above the mark as given.
  rcases w.counters.counters.live_cases conversation w.clock with
    ⟨_, _, looked⟩ | ⟨after, _, looked, lost, others⟩
  · simp only [answer, CounterCache.seed, looked]
    exact marked
  · simp only [answer, CounterCache.seed, looked]
    refine ⟨marked.issued, marked.block, fun _ entry found => ?_⟩
    dsimp only at found
    rw [ExpiringTable.find?_insert_self] at found
    cases found
    exact above

/-- Every call that brings nothing below the mark is answered with nothing below it, and keeps it. -/
theorem answer_raised (marked : w.Marked allocator conversation mark) {request : Service.Request}
    (permitted : Service.Raised allocator conversation mark request) :
    (answer request w).2.Marked allocator conversation mark ∧
      Service.HandsAbove conversation mark request (answer request w).1 := by
  by_cases about : Service.numbersOf? request = some conversation
  · -- Only calls about the numbers of this conversation need to be looked at.
    cases request
    case reserve other count => cases about; exact marked.answer_reserve count
    case take other need => cases about; exact marked.answer_take need permitted
    case install other segment lifetime =>
      cases about
      obtain ⟨above, ordered⟩ := permitted.2 rfl
      exact ⟨marked.answer_install lifetime above ordered, trivial⟩
    case increment other amount lifetime =>
      cases about
      exact marked.answer_increment amount lifetime permitted
    case seedCounter other value lifetime =>
      cases about
      exact ⟨marked.answer_seed lifetime (permitted.2 rfl), trivial⟩
    case raiseIssued other floor =>
      exact ⟨marked.keep (w.ledger.issued_le_raiseIssued other conversation floor w.clock)
        (fun _ found => found) fun _ found => found, trivial⟩
    case raiseCommitted other stored =>
      exact ⟨marked.keep (w.ledger.issued_le_raiseCommitted other conversation stored w.clock)
        (fun _ found => found) fun _ found => found, trivial⟩
    case raiseRetained other floor =>
      exact ⟨marked.keep
        (Nat.le_of_eq (w.ledger.issued_raiseRetained other conversation floor w.clock).symm)
        (fun _ found => found) fun _ found => found, trivial⟩
    case loadWatermarks other =>
      cases about
      exact ⟨marked, fun _ => Nat.le_trans marked.issued (w.ledger.issued_le_highWater conversation)⟩
    case dropSegment other =>
      exact ⟨marked.keep (Nat.le_refl _) (w.segments.remove_forgets other conversation)
        fun _ found => found, trivial⟩
    case dropCounter other =>
      exact ⟨marked.keep (Nat.le_refl _) (fun _ found => found)
        (w.counters.counters.remove_forgets other conversation), trivial⟩
    all_goals cases about
  · exact ⟨marked.spared (answer_spares w about), Service.handsAbove_of_elsewhere about mark _⟩

/-- Whatever a permitted call comes to, nothing is handed out below the mark, and it is kept. -/
theorem reacts (marked : w.Marked allocator conversation mark) {request : Service.Request}
    {reply : Service.Reply request} (permitted : Service.Raised allocator conversation mark request)
    (reacted : World.Reacts Service.Failed request w reply after) :
    after.Marked allocator conversation mark ∧
      Service.HandsAbove conversation mark request reply := by
  obtain ⟨kept, handed⟩ := marked.answer_raised permitted
  refine ⟨reacted.keeps (·.Marked allocator conversation mark) marked kept, ?_⟩
  rcases reacted.answered_or_failed with ⟨rfl, _⟩ | ⟨failed, _⟩
  · exact handed
  -- A failure hands out nothing.
  · cases request
    case reserve | take | increment | loadWatermarks =>
      obtain ⟨failure, rfl⟩ := failed
      trivial
    all_goals trivial

/-- Right behind a floor all that may still be granted lies above what is reserved then. -/
theorem of_reconciled (allocator : Allocator) (conversation : Conversation) (floor : SequenceNumber)
    (w : World) :
    (allocator.reconcile conversation floor).run.Completes answer (fun outcome after =>
      outcome = .ok () ∧
      after.ledger.issued conversation = max (w.ledger.issued conversation) floor.value.toNat ∧
      w.SameElsewhere conversation after ∧
      after.Marked allocator conversation (after.ledger.issued conversation)) w := by
  have raised : (Attempt.onLedger (Procedure.raiseIssued conversation floor)).run.Ends answer w
      (.ok ()) { w with ledger := w.ledger.raiseIssued conversation floor w.clock } :=
    .adapt_ok (.call rfl)
  apply raised.attempt
  have watermarks : ∀ other, other ≠ conversation →
      (w.ledger.raiseIssued conversation floor w.clock).load other = w.ledger.load other :=
    fun _ differ => Ledger.load_put_of_ne _ _ differ
  have issued := w.ledger.issued_raiseIssued conversation floor w.clock
  -- What was cached of the conversation is dropped, and nothing else.
  cases allocator with
  | segmented config =>
    refine ⟨rfl, issued, ⟨watermarks, fun _ differ => Table.find?_erase_of_ne _ differ,
      fun _ _ => rfl, rfl, rfl, rfl, rfl⟩, Nat.le_refl _, fun _ slot found => ?_, nofun⟩
    cases (ExpiringTable.find?_remove_self w.segments conversation).symm.trans found
  | singleCounter config =>
    refine ⟨rfl, issued, ⟨watermarks, fun _ _ => rfl,
      fun _ differ => Table.find?_erase_of_ne _ differ, rfl, rfl, rfl, rfl⟩, Nat.le_refl _,
      nofun, fun _ entry found => ?_⟩
    cases (ExpiringTable.find?_remove_self w.counters.counters conversation).symm.trans found

/-- Where all that may still be granted lies above a mark, whatever is granted starts above it. -/
theorem granted_above {site : Site services World NumberingCall.Answer}
    (marked : w.Marked allocator conversation mark)
    (reached : Site.Reached (numbering allocator conversation) w site) {place : Nat} {need : UInt64}
    {grant : Grant} (done : site.callers[place]? =
      some ⟨.allocate conversation need, .done (.ok grant)⟩) :
    mark < grant.start.value.toNat := by
  -- Calls on the allocator bring nothing below the mark, so that it is kept at every step.
  have upheld : site.Upholds (raising allocator conversation mark)
      (fun call answer _ => call.EndsAbove conversation mark answer)
      (fun services _ => services.Marked allocator conversation mark) := by
    apply Site.upholds_of_reached reached marked
    · exact fun _ _ call marked => ⟨(), call.begin_raises allocator conversation mark, marked⟩
    · intro _ _ _ _ _ _ _ marked _ permitted reacted
      obtain ⟨kept, handed⟩ := marked.reacts permitted reacted
      exact ⟨(), handed, kept⟩
    · exact fun _ _ _ marked spares => marked.spared spares
  obtain ⟨holdings, _, keep⟩ := upheld
  obtain ⟨_, _, _, ends⟩ := keep.held done
  exact ends grant rfl rfl

end World.Marked

/-- A floor is passed for good: whatever happens after an allocator was moved past it, all that is granted
in the conversation lies above it and above what was reserved then. -/
theorem reconciled_for_good (allocator : Allocator) (conversation : Conversation)
    (floor : SequenceNumber) (w : World) :
    ∃ after, w.perform (allocator.reconcile conversation floor).run = (.ok (), after) ∧
      after.ledger.issued conversation = max (w.ledger.issued conversation) floor.value.toNat ∧
      w.SameElsewhere conversation after ∧
      ∀ site, Site.Reached (numbering allocator conversation) after site →
        ∀ (place : Nat) (need : UInt64) (grant : Grant), site.callers[place]? =
          some ⟨.allocate conversation need, .done (.ok grant)⟩ →
          floor.value < grant.start.value ∧
            after.ledger.issued conversation < grant.start.value.toNat := by
  -- The call itself is run alone, and from the world that it leaves every run keeps its mark.
  obtain ⟨succeeds, issued, elsewhere, marked⟩ :=
    World.perform_of_completes (World.Marked.of_reconciled allocator conversation floor w)
  refine ⟨_, Prod.ext succeeds rfl, issued, elsewhere, fun site reached => ?_⟩
  intro place need grant done
  have above := marked.granted_above reached done
  refine ⟨?_, above⟩
  rw [UInt64.lt_iff_toNat_lt]
  omega

/-- The services after an allocator from a counter was moved past five. -/
def movedPastFive : World :=
  (World.perform ((Allocator.singleCounter .standard).reconcile Sample.conversation ⟨5⟩).run
    Sample.services).2

/-- A call for one number that has run alone after that, until it was done. -/
def grantedSix : Site services World NumberingCall.Answer :=
  .roundRobin World.answer (numbering (.singleCounter .standard) Sample.conversation).begins
    movedPastFive [.allocate Sample.conversation 1] 9

/-- The counter is lost, and a second call runs alone until it is done. -/
def grantedAfterLoss : Site services World NumberingCall.Answer :=
  [1, 1, 1, 1, 1, 1, 1, 1, 1].foldl (Site.turn World.answer)
    ⟨{ grantedSix.services with
        counters := grantedSix.services.counters.drop Sample.conversation },
      grantedSix.callers ++ [⟨.allocate Sample.conversation 1,
        (numbering (.singleCounter .standard) Sample.conversation).begins
          (.allocate Sample.conversation 1)⟩]⟩

set_option maxRecDepth 100000 in
/-- The floor outlasts the counter: a call after it was lost starts a new one, and is granted six. -/
theorem grantedAfterLoss_above_five :
    Site.Reached (numbering (.singleCounter .standard) Sample.conversation) movedPastFive
        grantedAfterLoss ∧
      grantedAfterLoss.callers[1]? =
        some ⟨.allocate Sample.conversation 1, .done (.ok ⟨⟨⟨6⟩, 1⟩, Sample.clock⟩)⟩ ∧
      movedPastFive.ledger.issued Sample.conversation < 6 := by
  -- Two allocations, with the loss of the counter in between, are a run from the reconciled world.
  have answers : ∀ request w,
      (numbering (.singleCounter .standard) Sample.conversation).reacts request w
        (World.answer request w).1 (World.answer request w).2 := fun _ _ => World.Reacts.answers
  have reached : Site.Reached (numbering (.singleCounter .standard) Sample.conversation) movedPastFive
      grantedSix := Site.reached_roundRobin answers _ _ _
  have lost : World.Drifts grantedSix.services { grantedSix.services with
      counters := grantedSix.services.counters.drop Sample.conversation } :=
    ⟨rfl, rfl, rfl, rfl, rfl, .refl _, ExpiringTable.remove_forgets _ _, .refl _, .refl _⟩
  have again : Site.Reached (numbering (.singleCounter .standard) Sample.conversation) movedPastFive
      grantedAfterLoss := by
    have begun := (reached.step (.drifts lost.spares)).step
      (.starts _ (.allocate Sample.conversation 1))
    exact begun.leads (Site.leads_of_turns answers [1, 1, 1, 1, 1, 1, 1, 1, 1] _)
  have granted : grantedAfterLoss.callers[1]? =
      some ⟨.allocate Sample.conversation 1, .done (.ok ⟨⟨⟨6⟩, 1⟩, Sample.clock⟩)⟩ := rfl
  obtain ⟨after, performed, _, _, above⟩ :=
    reconciled_for_good (.singleCounter .standard) Sample.conversation ⟨5⟩ Sample.services
  obtain rfl : movedPastFive = after := congrArg Prod.snd performed
  exact ⟨again, granted, (above grantedAfterLoss again 1 1 _ granted).2⟩

end Intake
