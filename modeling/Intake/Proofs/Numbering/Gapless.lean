import Intake.Proofs.Numbering.Calls
import Intake.Proofs.Numbering.Segmented
import Intake.Proofs.Numbering.SingleCounter

/-! Allocations that run alone on one clock: the numbers of a conversation are granted one by one and
without gaps, whatever is granted in other conversations and however large the blocks are. -/

namespace Intake

namespace World

/-- The watermarks of all other conversations are as they were, and so are the blocks and the counters
that live of them. -/
structure OthersKept (conversation : Conversation) (before after : World) : Prop where
  clock : after.clock = before.clock
  ledger : ∀ other, other ≠ conversation → after.ledger.load other = before.ledger.load other
  segments : ∀ other, other ≠ conversation →
    after.segments.liveEntry other before.clock = before.segments.liveEntry other before.clock
  counters : ∀ other, other ≠ conversation →
    after.counters.counters.liveEntry other before.clock =
      before.counters.counters.liveEntry other before.clock

/-- Where nothing has changed the others are kept. -/
theorem OthersKept.refl (conversation : Conversation) (w : World) : OthersKept conversation w w :=
  ⟨rfl, fun _ _ => rfl, fun _ _ => rfl, fun _ _ => rfl⟩

/-- Of two changes in a row that keep the others, so does the whole. -/
theorem OthersKept.trans {conversation : Conversation} {first second third : World}
    (one : OthersKept conversation first second) (two : OthersKept conversation second third) :
    OthersKept conversation first third where
  -- Entries are compared at one time, which is the same before and after, as the clock is.
  clock := two.clock.trans one.clock
  ledger other differ := (two.ledger other differ).trans (one.ledger other differ)
  segments other differ := one.clock ▸ (two.segments other differ).trans
    (one.clock.symm ▸ one.segments other differ)
  counters other differ := one.clock ▸ (two.counters other differ).trans
    (one.clock.symm ▸ one.counters other differ)

/-- A call about the numbers of one conversation keeps those of all others. -/
theorem answer_keeps_others {conversation : Conversation} (request : Service.Request) (w : World)
    (asked : Service.NumbersOf conversation request) :
    w.OthersKept conversation (answer request w).2 := by
  -- Each call touches one of the services, and there only what is kept of its conversation.
  cases request
  case now | freshToken | loadWatermarks =>
    exact ⟨rfl, fun _ _ => rfl, fun _ _ => rfl, fun _ _ => rfl⟩
  case reserve other count =>
    cases asked
    exact ⟨rfl, fun _ => w.ledger.load_reserve_of_ne count w.clock, fun _ _ => rfl, fun _ _ => rfl⟩
  case take other need =>
    cases asked
    exact ⟨rfl, fun _ _ => rfl, fun _ => w.segments.liveEntry_take_of_ne need w.clock,
      fun _ _ => rfl⟩
  case install other segment lifetime =>
    cases asked
    exact ⟨rfl, fun _ _ => rfl, fun _ => w.segments.liveEntry_install_of_ne segment lifetime w.clock,
      fun _ _ => rfl⟩
  case increment other amount lifetime =>
    cases asked
    exact ⟨rfl, fun _ _ => rfl, fun _ _ => rfl, fun _ =>
      CounterCache.liveEntry_increment_of_ne amount lifetime⟩
  case seedCounter other value lifetime =>
    cases asked
    exact ⟨rfl, fun _ _ => rfl, fun _ _ => rfl, fun _ =>
      CounterCache.liveEntry_seed_of_ne value lifetime⟩
  case lock other token lifetime =>
    exact ⟨rfl, fun _ _ => rfl, fun _ _ => rfl, fun _ _ =>
      congrArg (ExpiringTable.liveEntry · _ _) (CounterCache.counters_lock token lifetime)⟩
  case unlock other token =>
    exact ⟨rfl, fun _ _ => rfl, fun _ _ => rfl, fun _ _ =>
      congrArg (ExpiringTable.liveEntry · _ _) (CounterCache.counters_unlock token)⟩
  all_goals exact asked.elim

end World

namespace Segmented

variable {config : SegmentConfig} {conversation : Conversation} {count : Nat} {w : World}

/-- The first so many numbers of a conversation were granted from blocks: a block that lives goes on after
them, and without one all that is reserved was granted. -/
structure HasGranted (config : SegmentConfig) (conversation : Conversation) (count : Nat)
    (w : World) : Prop where
  cached : ∀ slot, w.segments.liveEntry conversation w.clock = some slot →
    slot.value.lifetime = config.lifetime ∧ slot.value.entry.current.toNat = count ∧
      slot.value.entry.last.toNat = w.ledger.issued conversation
  uncached : w.segments.liveEntry conversation w.clock = none →
    w.ledger.issued conversation = count

/-- Where no number is left in a block, all that were reserved are granted. -/
theorem HasGranted.issued_of_short (granted : HasGranted config conversation count w)
    (reserved : w.CachedReserved conversation) (short : ¬ w.HasRoom conversation 1) :
    w.ledger.issued conversation = count := by
  cases alive : w.segments.liveEntry conversation w.clock with
  | none => exact granted.uncached alive
  | some slot =>
    obtain ⟨_, current, last⟩ := granted.cached slot alive
    have ordered := (reserved slot (ExpiringTable.liveEntry_eq_some.mp alive).1).1
    -- A block with another number left would have room for it.
    refine Classical.byContradiction fun differ =>
      short ⟨slot.value.entry, World.liveSegment_of_live alive, ?_⟩
    rw [UInt64.toNat_one]
    omega

/-- After a number is taken from a block that reaches to the highest reserved one, one more is
granted. -/
theorem hasGranted_leaveRest {slot : SegmentSlot} {rest : CachedSegment}
    (fresh : w.clock < w.clock.plus config.lifetime) (lifetime : slot.lifetime = config.lifetime)
    (last : slot.entry.last.toNat = w.ledger.issued conversation)
    (current : rest.current.toNat = count) (sameLast : rest.last = slot.entry.last) :
    HasGranted config conversation count (w.leaveRest conversation slot rest) := by
  -- The rest was cached at this moment, so it lives.
  have alive : (w.leaveRest conversation slot rest).segments.liveEntry conversation w.clock =
      some ⟨{ slot with entry := rest }, w.clock.plus slot.lifetime⟩ := by
    unfold World.leaveRest
    rw [ExpiringTable.liveEntry_of_set (ExpiringTable.find?_update_self _ _ _), lifetime,
      if_pos fresh]
  constructor
  · intro slot' alive'
    cases alive.symm.trans alive'
    exact ⟨lifetime, current, sameLast ▸ last⟩
  · intro gone
    cases alive.symm.trans gone

/-- What an allocation of one number from blocks comes to: the next one is granted, unless the ledger
has no block left. -/
def GrantsNext (config : SegmentConfig) (conversation : Conversation) (count : Nat)
    (outcome : Except AllocationError Grant) (after : World) : Prop :=
  (UInt64.size ≤ count + (config.blockSize.forNeed 1).toNat ∧
      outcome = .error (.ledger (.overflow conversation))) ∨
    ∃ grant, outcome = .ok grant ∧ grant.start.value.toNat = count + 1 ∧
      HasGranted config conversation (count + 1) after

/-- An allocation of one number from blocks grants the next one. -/
theorem allocate_grants_next (fresh : w.clock < w.clock.plus config.lifetime)
    (reserved : w.CachedReserved conversation) (granted : HasGranted config conversation count w) :
    (allocate config conversation 1).run.Completes World.answer
      (GrantsNext config conversation count) w := by
  have one : 0 < (1 : UInt64).toNat := by decide
  have start : ∀ {range : NumberRange} {first last : Nat}, range.span = ⟨first, last⟩ →
      range.start.value.toNat = first := fun spans => congrArg Span.first spans
  obtain ⟨rounds, limit⟩ :=
    Nat.exists_eq_succ_of_ne_zero (Nat.ne_of_gt (roundsOf_pos config.maxAttempts))
  unfold allocate
  rw [if_neg (by decide), limit]
  by_cases room : w.HasRoom conversation 1
  -- The block that lives has the next number.
  · obtain ⟨entry, lives, room⟩ := room
    obtain ⟨slot, alive, rfl⟩ := Option.map_eq_some_iff.mp lives
    obtain ⟨lifetime, rfl, last⟩ := granted.cached slot alive
    apply (allocateIn_of_room config one reserved alive room rounds).mono
    rintro _ _ ⟨range, rest, rfl, _, spans, current, sameLast, rfl⟩
    exact .inr ⟨_, rfl, start spans, hasGranted_leaveRest fresh lifetime last current sameLast⟩
  have issued := granted.issued_of_short reserved room
  rcases Nat.lt_or_ge (w.ledger.issued conversation + (config.blockSize.forNeed 1).toNat)
    UInt64.size with fits | full
  -- The next number is the first one of a block that is reserved now.
  · refine allocateIn_of_short reserved room fits fun segment after refilled => ?_
    have alive := refilled.liveEntry
    rw [if_pos fresh] at alive
    obtain ⟨current, last⟩ := refilled.entry
    have covers := (config.blockSize.forNeed_covers 1).1
    obtain ⟨range, rest, _, spans, current', sameLast, took⟩ := take_of_room one alive
      (by dsimp only; omega) (by dsimp only; omega)
    rw [issued] at current
    rw [← refilled.issued] at last
    rw [← refilled.only.clock] at fresh
    refine took.attempt (.inr ⟨_, rfl, (start spans).trans ?_, ?_⟩)
    · exact congrArg (· + 1) current
    · exact hasGranted_leaveRest fresh rfl last (current'.trans (congrArg (· + 1) current)) sameLast
  · exact (allocateIn_of_overflow reserved room full).mono
      fun _ _ ended => .inl ⟨issued ▸ full, ended.1⟩

end Segmented

namespace SingleCounter

variable {config : CounterConfig} {conversation : Conversation} {count : Nat} {w : World}

/-- What an allocation of one number from a counter comes to: the next one is granted, unless it would
need more than 64 bits. -/
def GrantsNext (conversation : Conversation) (count : Nat)
    (outcome : Except AllocationError Grant) (after : World) : Prop :=
  (UInt64.size ≤ count + 1 ∧ outcome = .error (.cache (CounterCache.overflow conversation))) ∨
    ∃ grant, outcome = .ok grant ∧ grant.start.value.toNat = count + 1 ∧
      (after.counterBase conversation).toNat = count + 1

/-- An allocation of one number from a counter grants the next one. -/
theorem allocate_grants_next (fresh : w.clock < w.clock.plus config.lifetime)
    (unlocked : w.Unlocked) (granted : (w.counterBase conversation).toNat = count) :
    (allocate config conversation 1).run.Completes World.answer (GrantsNext conversation count) w := by
  apply (allocate_completes (by decide) unlocked).mono
  intro outcome after counted
  by_cases chance : w.CanCount config conversation 1
  · obtain ⟨grant, last, rfl, _, start, raised, left⟩ := counted.granted chance
    -- The counter that is left was set at this moment, so it lives.
    have alive : after.counters.counters.liveEntry conversation after.clock =
        some ⟨last, w.clock.plus config.lifetime⟩ := by
      rw [counted.only.clock, ExpiringTable.liveEntry_of_set left, if_pos fresh]
    rw [granted] at start raised
    refine .inr ⟨grant, rfl, start, ?_⟩
    rw [(liveCounter_of_live alive).2, raised, UInt64.toNat_one]
  · refine .inl ⟨Nat.le_of_not_lt fun fits => chance ⟨.inr fresh, ?_⟩,
      counted.overflows (.inr fresh) chance⟩
    rw [granted]
    exact fits

end SingleCounter

namespace Allocator

variable {allocator : Allocator} {conversation other : Conversation} {count : Nat} {w after : World}

/-- How long a block or a counter lives after it was used last. -/
def lifetime : Allocator → Duration
  | .segmented config => config.lifetime
  | .singleCounter config => config.lifetime

/-- The failure for want of numbers: the ledger has no block left, or a counter cannot be raised. -/
def overflow : Allocator → Conversation → AllocationError
  | .segmented _, conversation => .ledger (.overflow conversation)
  | .singleCounter _, conversation => .cache (CounterCache.overflow conversation)

/-- How many numbers are set aside when one is needed: a block of them, or the one. -/
def setAside : Allocator → Nat
  | .segmented config => (config.blockSize.forNeed 1).toNat
  | .singleCounter _ => 1

/-- So many numbers of a conversation were granted, the first ones. -/
def HasGranted : Allocator → Conversation → Nat → World → Prop
  | .segmented config, conversation, count, w => Segmented.HasGranted config conversation count w
  | .singleCounter _, conversation, count, w => (w.counterBase conversation).toNat = count

/-- What an allocation of one number comes to: the next one is granted, unless there is none, and the
numbers of other conversations are kept. -/
structure GrantsNext (allocator : Allocator) (conversation : Conversation) (count : Nat)
    (before : World) (outcome : Except AllocationError Grant) (after : World) : Prop where
  kept : before.OthersKept conversation after
  granted : (UInt64.size ≤ count + allocator.setAside ∧
      outcome = .error (allocator.overflow conversation)) ∨
    ∃ grant, outcome = .ok grant ∧ grant.start.value.toNat = count + 1 ∧
      allocator.HasGranted conversation (count + 1) after

/-- An allocation of one number grants the next one. -/
theorem allocate_grants_next (fresh : w.clock < w.clock.plus allocator.lifetime)
    (reserved : w.CachedReserved conversation) (unlocked : w.Unlocked)
    (granted : allocator.HasGranted conversation count w) :
    (allocator.allocate conversation 1).run.Completes World.answer
      (allocator.GrantsNext conversation count w) w := by
  -- All calls are about the conversation, so that the others are kept.
  have framed : ∀ {ends : Except AllocationError Grant → World → Prop},
      (allocator.allocate conversation 1).run.Completes World.answer ends w →
      (allocator.allocate conversation 1).run.Completes World.answer
        (fun outcome after => w.OthersKept conversation after ∧ True ∧ ends outcome after) w :=
    Plan.Completes.framed (.refl conversation) (fun _ _ _ => .trans) World.answer_keeps_others
      (allocator.allocate_asks conversation 1)
  cases allocator with
  | segmented config =>
    exact (framed (Segmented.allocate_grants_next fresh reserved granted)).mono
      fun _ _ ended => ⟨ended.1, ended.2.2⟩
  | singleCounter config =>
    exact (framed (SingleCounter.allocate_grants_next fresh unlocked granted)).mono
      fun _ _ ended => ⟨ended.1, ended.2.2⟩

/-- Where what allocations count with is the same, as many numbers were granted. -/
theorem HasGranted.of_same (granted : allocator.HasGranted conversation count w)
    (clock : after.clock = w.clock) (ledger : after.ledger = w.ledger)
    (segments : after.segments = w.segments) (counters : after.counters = w.counters) :
    allocator.HasGranted conversation count after := by
  -- The count speaks of these four services only, so that the worlds may differ elsewhere.
  cases w
  cases after
  cases clock
  cases ledger
  cases segments
  cases counters
  cases allocator with
  | segmented config => exact ⟨granted.cached, granted.uncached⟩
  | singleCounter config => exact granted

/-- Where the numbers of a conversation are kept, as many were granted as before. -/
theorem HasGranted.keep (granted : allocator.HasGranted other count w)
    (kept : w.OthersKept conversation after) (differ : other ≠ conversation) :
    allocator.HasGranted other count after := by
  -- What the count of a conversation depends on is exactly what is kept of it.
  have issued : after.ledger.issued other = w.ledger.issued other := by
    unfold Ledger.issued
    rw [kept.ledger other differ]
  have segments := kept.segments other differ
  have counters := kept.counters other differ
  rw [← kept.clock] at segments counters
  cases allocator with
  | segmented config =>
    refine ⟨fun slot alive => ?_, fun gone => ?_⟩
    · rw [issued]
      exact granted.cached slot (kept.clock ▸ segments ▸ alive)
    · rw [issued]
      exact granted.uncached (kept.clock ▸ segments ▸ gone)
  | singleCounter config =>
    refine Eq.trans ?_ granted
    unfold World.counterBase World.liveCounter Ledger.highWater
    rw [counters, kept.ledger other differ, kept.clock]

/-- After the last number granted is noted as stored, as many were granted as before. -/
theorem HasGranted.record {stored : SequenceNumber}
    (granted : allocator.HasGranted conversation stored.value.toNat w)
    (reserved : w.CachedReserved conversation) :
    allocator.HasGranted conversation stored.value.toNat
      { w with ledger := w.ledger.raiseCommitted conversation stored w.clock } := by
  cases allocator with
  | segmented config =>
    -- The number was reserved, so that the highest reserved one stays.
    have below : stored.value.toNat ≤ w.ledger.issued conversation := by
      cases alive : w.segments.liveEntry conversation w.clock with
      | none => exact Nat.le_of_eq (granted.uncached alive).symm
      | some slot =>
        have current := (granted.cached slot alive).2.1
        have bounds := reserved slot (ExpiringTable.liveEntry_eq_some.mp alive).1
        omega
    have issued := Ledger.issued_raiseCommitted_of_le below w.clock
    exact ⟨fun slot alive => issued.symm ▸ granted.cached slot alive,
      fun gone => issued.trans (granted.uncached gone)⟩
  | singleCounter config =>
    -- A counter that lives is left alone, and without one the number is the highest known already.
    have base : (w.counterBase conversation).toNat = stored.value.toNat := granted
    show (World.counterBase { w with ledger := _ } conversation).toNat = _
    have sameLive : World.liveCounter { w with
        ledger := w.ledger.raiseCommitted conversation stored w.clock } conversation =
          w.liveCounter conversation := rfl
    unfold World.counterBase at base ⊢
    rw [sameLive]
    cases live : w.liveCounter conversation with
    | some value =>
      rw [live] at base
      exact base
    | none =>
      rw [live] at base
      exact (Ledger.highWater_raiseCommitted_of_le (Nat.le_of_eq base.symm) w.clock).trans base

end Allocator

/-- Noting a number as stored keeps the numbers of other conversations. -/
theorem World.record_keeps_others (conversation : Conversation) (stored : SequenceNumber)
    (w : World) : w.OthersKept conversation
      { w with ledger := w.ledger.raiseCommitted conversation stored w.clock } :=
  ⟨rfl, fun _ => w.ledger.load_raiseCommitted_of_ne stored w.clock, fun _ _ => rfl, fun _ _ => rfl⟩

end Intake
