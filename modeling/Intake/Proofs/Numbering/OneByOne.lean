import Mathlib.Algebra.Order.Floor.Div
import Intake.Proofs.Numbering.Gapless
import Intake.Proofs.Numbering.Uncontended
import Intake.Proofs.Save.Log

/-! Numbers of a conversation that are asked for one by one: the same ones are granted from blocks as from
a counter, and a block is reserved only where all the ones before it are used up. -/

namespace Intake

variable {count : Nat}

/-- The range of one number. -/
def NumberRange.one (number : Nat) : NumberRange := ⟨⟨.ofNat number⟩, 1⟩

/-- A range that counts one number and starts at it is the range of that number. -/
theorem NumberRange.eq_one {range : NumberRange} {number : Nat} (counts : range.count = 1)
    (starts : range.start.value.toNat = number) : range = one number := by
  -- A range has no more to it than its start and its count.
  obtain ⟨⟨start⟩, _⟩ := range
  cases counts
  cases starts
  unfold one
  rw [UInt64.ofNat_toNat]
  rfl

/-- What is used at these times, one after the other, and lives for so long after each use, is there
whenever it is used again. -/
structure Duration.LastsThrough (lifetime : Duration) (clocks : List Instant) : Prop where
  fresh : ∀ clock ∈ clocks, clock < clock.plus lifetime
  next : clocks.IsChain fun clock next => next < clock.plus lifetime

/-- What lasts from the first of some times on is still there at the next one, and lasts from there on. -/
theorem Duration.LastsThrough.cons {lifetime : Duration} {clock : Instant} {clocks : List Instant}
    (lasts : lifetime.LastsThrough (clock :: clocks)) :
    lifetime.LastsThrough clocks ∧ ∀ next ∈ clocks.head?, next < clock.plus lifetime := by
  -- The chain of clocks loses its first link, which is the one that the second part speaks of.
  have fresh := fun later member => lasts.fresh later (List.mem_cons_of_mem clock member)
  cases clocks with
  | nil => exact ⟨⟨fresh, .nil⟩, fun _ first => by cases first⟩
  | cons next clocks =>
    obtain ⟨renewed, later⟩ := List.isChain_cons_cons.mp lasts.next
    refine ⟨⟨fresh, later⟩, fun _ first => ?_⟩
    cases first
    exact renewed

/-- The watermarks are in order, no lock is held, and nothing of a conversation is cached. -/
structure World.StartsOut (w : World) (conversation : Conversation) : Prop where
  ordered : w.ledger.InOrder
  unlocked : w.Unlocked
  noBlock : w.segments.entries.find? conversation = none
  noCounter : w.counters.counters.entries.find? conversation = none

namespace Allocator

variable {allocator : Allocator} {conversation : Conversation} {origin w : World}

/-- At least one number is set aside at a time. -/
theorem setAside_pos (allocator : Allocator) : 0 < allocator.setAside := by
  cases allocator with
  | segmented config => exact (config.blockSize.forNeed_covers 1).2
  | singleCounter config => exact Nat.one_pos

/-- How many blocks are reserved for so many numbers that are asked for one by one. -/
def refills : Allocator → Nat → Nat
  | .segmented config, count => count ⌈/⌉ (config.blockSize.forNeed 1).toNat
  | .singleCounter _, _ => 0

/-- So many blocks are enough when they hold the numbers that are asked for. -/
theorem refills_le_iff {config : SegmentConfig} {blocks : Nat} :
    (segmented config).refills count ≤ blocks ↔ count ≤ (segmented config).setAside * blocks :=
  ceilDiv_le_iff_le_mul (segmented config).setAside_pos

/-- One number more takes no other block where those before have room for it. -/
theorem refills_of_room {config : SegmentConfig}
    (room : count < (segmented config).setAside * (segmented config).refills count) :
    (segmented config).refills (count + 1) = (segmented config).refills count := by
  apply Nat.le_antisymm
  · exact refills_le_iff.mpr room
  -- Blocks that hold one number more hold those without it, too.
  · exact refills_le_iff.mpr (Nat.le_of_succ_le (refills_le_iff.mp (Nat.le_refl _)))

/-- One number more takes another block where those before are full. -/
theorem refills_of_full {config : SegmentConfig}
    (full : (segmented config).setAside * (segmented config).refills count = count) :
    (segmented config).refills (count + 1) = (segmented config).refills count + 1 := by
  have positive := (segmented config).setAside_pos
  apply Nat.le_antisymm
  · apply refills_le_iff.mpr
    rw [Nat.mul_succ, full]
    exact Nat.add_le_add_left positive count
  · -- With no more blocks than before there would be no room for it.
    refine Nat.lt_of_not_le fun few => ?_
    have held := refills_le_iff.mp few
    omega

/-- So many numbers of a conversation were granted one by one since the services were as at their
origin: the blocks for these are reserved, and nothing else is. -/
structure Stocked (allocator : Allocator) (conversation : Conversation) (origin : World) (count : Nat)
    (w : World) : Prop where
  reservations : w.ledger.reservations = origin.ledger.reservations + allocator.refills count
  issued : w.ledger.issued conversation =
    origin.ledger.issued conversation + allocator.setAside * allocator.refills count
  reserved : w.CachedReserved conversation
  unlocked : w.Unlocked

/-- The number after so many ones is granted. Until its lifetime is over what is cached of the
conversation goes on after this number. -/
structure Steps (allocator : Allocator) (conversation : Conversation) (origin : World) (count : Nat)
    (clock : Instant) (outcome : Except AllocationError Grant) (after : World) : Prop where
  granted : outcome.map (·.range) = .ok (.one (origin.ledger.issued conversation + (count + 1)))
  stocked : allocator.Stocked conversation origin (count + 1) after
  lasts : ∀ next, next < clock.plus allocator.lifetime → allocator.HasGranted conversation
    (origin.ledger.issued conversation + (count + 1)) { after with clock := next }

end Allocator

namespace Segmented

variable {config : SegmentConfig} {conversation : Conversation} {origin w : World}

/-- The block that is left of a conversation goes on after a number to the highest reserved one, until
its time is up. -/
def LeftAt (config : SegmentConfig) (conversation : Conversation) (number : Nat) (expiresAt : Instant)
    (after : World) : Prop :=
  ∃ rest, after.segments.entries.find? conversation = some ⟨⟨rest, config.lifetime⟩, expiresAt⟩ ∧
    rest.current.toNat = number ∧ rest.last.toNat = after.ledger.issued conversation

/-- As long as it lives, what is left of a block is what was granted up to. -/
theorem LeftAt.hasGranted {number : Nat} {expiresAt next : Instant}
    (left : LeftAt config conversation number expiresAt w) (alive : next < expiresAt) :
    HasGranted config conversation number { w with clock := next } := by
  obtain ⟨rest, found, current, last⟩ := left
  -- The clock may have moved on, but not past the end of the block's life.
  have lives : w.segments.liveEntry conversation next = some ⟨⟨rest, config.lifetime⟩, expiresAt⟩ :=
    ExpiringTable.liveEntry_eq_some.mpr ⟨found, decide_eq_true alive⟩
  constructor
  · intro slot lives'
    cases lives.symm.trans lives'
    exact ⟨rfl, current, last⟩
  · intro gone
    cases lives.symm.trans gone

/-- An allocation that leaves a block behind the number after those granted has stepped on, where the
blocks for one number more are reserved. -/
theorem LeftAt.steps {clock : Instant} {outcome : Except AllocationError Grant}
    (left : LeftAt config conversation (origin.ledger.issued conversation + (count + 1))
      (clock.plus config.lifetime) w)
    (granted : outcome.map (·.range) =
      .ok (.one (origin.ledger.issued conversation + (count + 1))))
    (reservations : w.ledger.reservations =
      origin.ledger.reservations + (Allocator.segmented config).refills (count + 1))
    (issued : w.ledger.issued conversation = origin.ledger.issued conversation +
      (Allocator.segmented config).setAside * (Allocator.segmented config).refills (count + 1))
    (unlocked : w.Unlocked) :
    (Allocator.segmented config).Steps conversation origin count clock outcome w := by
  refine ⟨granted, ⟨reservations, issued, fun slot found => ?_, unlocked⟩,
    fun next alive => left.hasGranted alive⟩
  -- Blocks for so many numbers hold at least these, so that what is left of them was reserved.
  have held := Allocator.refills_le_iff.mp (Nat.le_refl ((Allocator.segmented config).refills (count + 1)))
  obtain ⟨rest, found', current, last⟩ := left
  cases found'.symm.trans found
  dsimp only
  omega

/-- An allocation from a block with room steps on: the blocks that are reserved hold one number more. -/
theorem FromRest.steps {slot : SegmentSlot} {outcome : Except AllocationError Grant} {after : World}
    (ended : FromRest conversation 1 w slot outcome after)
    (stocked : (Allocator.segmented config).Stocked conversation origin count w)
    (lifetime : slot.lifetime = config.lifetime)
    (current : slot.entry.current.toNat = origin.ledger.issued conversation + count)
    (last : slot.entry.last.toNat = w.ledger.issued conversation)
    (room : slot.entry.current.toNat < slot.entry.last.toNat) :
    (Allocator.segmented config).Steps conversation origin count w.clock outcome after := by
  -- The block ends with the last number that is reserved, so that room in it is room in all blocks so far.
  have issued := stocked.issued
  have same : (Allocator.segmented config).refills (count + 1) =
    (Allocator.segmented config).refills count := Allocator.refills_of_room (by omega)
  obtain ⟨range, rfl, counts, spans⟩ := ended.granted
  obtain ⟨rest, current', last', left⟩ := ended.left
  refine LeftAt.steps ⟨rest, ?_, ?_, ?_⟩ ?_ ?_ ?_ ?_
  · rw [left, ← lifetime]
    exact ExpiringTable.find?_update_self _ _ _
  · rw [current', current, UInt64.toNat_one, Nat.add_assoc]
  · rw [last', last, ended.ledger]
  · refine congrArg Except.ok (NumberRange.eq_one counts ((congrArg Span.first spans).trans ?_))
    dsimp only
    omega
  · rw [ended.ledger, same, stocked.reservations]
  · rw [ended.ledger, same, issued]
  · rw [left]
    exact stocked.unlocked

/-- An allocation from the ledger steps on where all that is reserved is granted: one block more holds the
next number. -/
theorem FromLedger.steps {outcome : Except AllocationError Grant} {after : World}
    (ended : FromLedger config conversation 1 w outcome after)
    (stocked : (Allocator.segmented config).Stocked conversation origin count w)
    (more : (Allocator.segmented config).refills (count + 1) =
      (Allocator.segmented config).refills count + 1)
    (spent : w.ledger.issued conversation = origin.ledger.issued conversation + count) :
    (Allocator.segmented config).Steps conversation origin count w.clock outcome after := by
  obtain ⟨range, rfl, counts, spans⟩ := ended.granted
  -- The new block is entered at its first number, the one after all that was reserved before it.
  obtain ⟨rest, current, last, alive⟩ := ended.left
  refine LeftAt.steps ⟨rest, ?_, ?_, ?_⟩ ?_ ?_ ?_ ?_
  · exact (ExpiringTable.liveEntry_eq_some.mp alive).1
  · rw [current, spent, UInt64.toNat_one, Nat.add_assoc]
  · rw [last, ended.issued]
  · refine congrArg Except.ok (NumberRange.eq_one counts ((congrArg Span.first spans).trans ?_))
    dsimp only
    omega
  · rw [ended.once, more, stocked.reservations, Nat.add_assoc]
  · rw [ended.issued, more, stocked.issued, Nat.mul_succ, Nat.add_assoc]
    rfl
  · unfold World.Unlocked
    rw [ended.only.counters]
    exact stocked.unlocked

/-- An allocation from blocks steps on, as long as the blocks that it takes fit. -/
theorem allocate_steps (fresh : w.clock < w.clock.plus config.lifetime)
    (stocked : (Allocator.segmented config).Stocked conversation origin count w)
    (granted : HasGranted config conversation (origin.ledger.issued conversation + count) w)
    (fits : origin.ledger.issued conversation +
      (Allocator.segmented config).setAside * (Allocator.segmented config).refills (count + 1) <
        UInt64.size) :
    (allocate config conversation 1).run.Completes World.answer
      ((Allocator.segmented config).Steps conversation origin count w.clock) w := by
  -- Without room all that is reserved is granted, and the next number takes another block.
  have issued := stocked.issued
  have spent := granted.issued_of_short stocked.reserved
  have more (short : ¬ w.HasRoom conversation 1) : (Allocator.segmented config).refills (count + 1) =
      (Allocator.segmented config).refills count + 1 := by
    have spent := spent short
    exact Allocator.refills_of_full (by omega)
  refine (allocate_settles (by decide) fresh stocked.reserved).mono fun outcome after settled => ?_
  rcases settled with ⟨slot, alive, room, ended⟩ | ⟨short, _, ended⟩ | ⟨short, full, _⟩
  · -- A block that lives goes on after the numbers that were granted.
    obtain ⟨lifetime, current, last⟩ := granted.cached slot alive
    exact ended.steps stocked lifetime current last room
  · exact ended.steps stocked (more short) (spent short)
  · -- The ledger has no block left to give, but the one that is taken now fits.
    change UInt64.size ≤ w.ledger.issued conversation + (Allocator.segmented config).setAside at full
    rw [more short, Nat.mul_succ] at fits
    omega

end Segmented

namespace SingleCounter

variable {config : CounterConfig} {conversation : Conversation} {origin w : World}

/-- An allocation from a counter steps on: the counter is raised, or it is started at the last number that
was reserved, and nothing is reserved. -/
theorem allocate_steps (fresh : w.clock < w.clock.plus config.lifetime)
    (stocked : (Allocator.singleCounter config).Stocked conversation origin count w)
    (granted : (w.counterBase conversation).toNat = origin.ledger.issued conversation + count)
    (fits : origin.ledger.issued conversation + (count + 1) < UInt64.size) :
    (allocate config conversation 1).run.Completes World.answer
      ((Allocator.singleCounter config).Steps conversation origin count w.clock) w := by
  apply (allocate_completes (by decide) stocked.unlocked).mono
  intro outcome after counted
  -- A counter that is started now is still there to be raised, so that one attempt is enough.
  have chance : w.CanCount config conversation 1 := ⟨.inr fresh, by rw [granted]; exact fits⟩
  obtain ⟨grant, last, rfl, counts, start, raised, left⟩ := counted.granted chance
  rw [granted] at start raised
  obtain ⟨_, ledger, segments, _⟩ := counted.only
  refine ⟨congrArg Except.ok (NumberRange.eq_one counts start), ⟨?_, ?_, ?_, counted.unlocked⟩,
    fun next alive => ?_⟩
  · rw [ledger]
    exact stocked.reservations
  · rw [ledger]
    exact stocked.issued
  · unfold World.CachedReserved
    rw [ledger, segments]
    exact stocked.reserved
  · -- Until its time is up the counter stands at the number that was granted.
    have lives : after.counters.counters.liveEntry conversation next =
        some ⟨last, w.clock.plus config.lifetime⟩ :=
      ExpiringTable.liveEntry_eq_some.mpr ⟨left, decide_eq_true alive⟩
    have base := (liveCounter_of_live (w := { after with clock := next }) lives).2
    exact (congrArg UInt64.toNat base).trans raised

end SingleCounter

namespace Allocator

variable {allocator : Allocator} {conversation : Conversation} {origin w : World}

/-- How many numbers are set aside once so many are granted one by one. -/
def setAsideFor (allocator : Allocator) (count : Nat) : Nat :=
  allocator.setAside * (count ⌈/⌉ allocator.setAside)

/-- For more numbers no fewer are set aside. -/
theorem setAsideFor_mono {more : Nat} (allocator : Allocator) (grown : count ≤ more) :
    allocator.setAsideFor count ≤ allocator.setAsideFor more :=
  Nat.mul_le_mul_left _ ((gc_mul_ceilDiv allocator.setAside_pos).monotone_l grown)

/-- From a counter no number is set aside before it is granted. -/
theorem setAsideFor_singleCounter (config : CounterConfig) (count : Nat) :
    (singleCounter config).setAsideFor count = count := by
  -- Blocks of one number are as many as the numbers.
  show 1 * (count ⌈/⌉ 1) = count
  rw [Nat.ceilDiv_eq_add_pred_div]
  omega

/-- An allocation steps on, in either way. -/
theorem allocate_steps (fresh : w.clock < w.clock.plus allocator.lifetime)
    (stocked : allocator.Stocked conversation origin count w)
    (granted : allocator.HasGranted conversation (origin.ledger.issued conversation + count) w)
    (fits : origin.ledger.issued conversation + allocator.setAsideFor (count + 1) < UInt64.size) :
    (allocator.allocate conversation 1).run.Completes World.answer
      (allocator.Steps conversation origin count w.clock) w := by
  -- A counter sets aside what it grants, so that its own bound is the one without blocks.
  cases allocator with
  | segmented config => exact Segmented.allocate_steps fresh stocked granted fits
  | singleCounter config =>
    rw [setAsideFor_singleCounter] at fits
    exact SingleCounter.allocate_steps fresh stocked granted fits

/-- Allocates one number of a conversation at each of these times: what is granted, and the services after
it. -/
def allocateInTurn (allocator : Allocator) (conversation : Conversation) : List Instant → World →
    List (Except AllocationError NumberRange) × World :=
  inOrder fun clock w =>
    (World.perform (allocator.allocate conversation 1).run { w with clock }).map
      (Except.map Grant.range) id

/-- Allocations one after the other step on one by one. -/
theorem allocateInTurn_steps (clocks : List Instant) : ∀ {count : Nat} {w : World},
    allocator.lifetime.LastsThrough clocks → allocator.Stocked conversation origin count w →
    (∀ clock ∈ clocks.head?, allocator.HasGranted conversation
      (origin.ledger.issued conversation + count) { w with clock }) →
    origin.ledger.issued conversation + allocator.setAsideFor (count + clocks.length) < UInt64.size →
    let ended := allocator.allocateInTurn conversation clocks w
    ended.1 = (List.range' (origin.ledger.issued conversation + (count + 1)) clocks.length).map
      (fun number => .ok (.one number)) ∧
        allocator.Stocked conversation origin (count + clocks.length) ended.2 := by
  -- What one allocation caches lasts until the next one, if there is one.
  induction clocks with
  | nil => exact fun _ stocked _ _ => ⟨rfl, stocked⟩
  | cons clock clocks ih =>
    intro count w lasts stocked granted fits ended
    rw [List.length_cons, Nat.add_comm clocks.length, ← Nat.add_assoc] at fits
    -- What fits after all of the allocations fits after the first.
    have stepped := World.perform_of_completes (allocate_steps (w := { w with clock })
      (lasts.fresh clock List.mem_cons_self) ⟨stocked.1, stocked.2, stocked.3, stocked.4⟩
      (granted clock rfl)
      (Nat.lt_of_le_of_lt (Nat.add_le_add_left (allocator.setAsideFor_mono (Nat.le_add_right _ _)) _) fits))
    obtain ⟨later, renewed⟩ := lasts.cons
    obtain ⟨grants, stocked'⟩ := ih later stepped.stocked
      (fun next first => stepped.lasts next (renewed next first)) fits
    refine ⟨?_, ?_⟩
    · show _ :: _ = _
      rw [List.length_cons, List.range'_succ, List.map_cons]
      exact congrArg₂ List.cons stepped.granted grants
    · rw [List.length_cons, Nat.add_comm clocks.length, ← Nat.add_assoc]
      exact stocked'

end Allocator

/-- In watermarks in order the highest known number is the highest reserved one. -/
theorem Ledger.InOrder.highWater {ledger : Ledger} (order : ledger.InOrder)
    (conversation : Conversation) :
    (ledger.highWater conversation).toNat = ledger.issued conversation := by
  unfold Ledger.highWater issued
  cases loaded : ledger.load conversation with
  | none => rfl
  | some row =>
    -- No stored message has a number above the reserved ones.
    have stored := UInt64.le_iff_toNat_le.mp (order conversation row loaded).stored
    exact row.highWater_toNat.trans (Nat.max_eq_left stored)

namespace World.StartsOut

variable {conversation : Conversation} {w : World}

/-- At the start none of the numbers that are asked for one by one was granted. -/
theorem stocked (start : w.StartsOut conversation) (allocator : Allocator) :
    allocator.Stocked conversation w 0 w := by
  -- No number needs no block.
  have nothing : allocator.refills 0 = 0 := by
    cases allocator with
    | segmented config => exact zero_ceilDiv _
    | singleCounter config => rfl
  refine ⟨by rw [nothing]; rfl, by rw [nothing]; rfl, fun slot found => ?_, start.unlocked⟩
  cases start.noBlock.symm.trans found

/-- At the start the numbers up to the highest reserved one are granted, at any time. -/
theorem hasGranted (start : w.StartsOut conversation) (allocator : Allocator) (clock : Instant) :
    allocator.HasGranted conversation (w.ledger.issued conversation) { w with clock } := by
  cases allocator with
  | segmented config =>
    have gone := ExpiringTable.liveEntry_of_missing start.noBlock clock
    refine ⟨fun slot alive => ?_, fun _ => rfl⟩
    cases gone.symm.trans alive
  | singleCounter config =>
    -- A counter would be started at the highest number that is known of.
    have gone := ExpiringTable.liveEntry_of_missing start.noCounter clock
    have base : World.counterBase { w with clock } conversation = w.ledger.highWater conversation := by
      unfold World.counterBase World.liveCounter
      rw [gone]
      rfl
    exact (congrArg UInt64.toNat base).trans (start.ordered.highWater conversation)

end World.StartsOut

/-- Numbers that are asked for one by one are granted one after the other, whether from blocks of any size
or from a counter, and no more blocks are reserved than it takes. -/
theorem Allocator.allocateInTurn_grants {conversation : Conversation} {w : World}
    (start : w.StartsOut conversation) (clocks : List Instant) :
    let previous := w.ledger.issued conversation
    let successive : List (Except AllocationError NumberRange) :=
      (List.range' (previous + 1) clocks.length).map fun number => .ok (.one number)
    (∀ config : SegmentConfig, config.lifetime.LastsThrough clocks →
      let block := (config.blockSize.forNeed 1).toNat
      previous + block * (clocks.length ⌈/⌉ block) < UInt64.size →
      let ended := (segmented config).allocateInTurn conversation clocks w
      ended.1 = successive ∧
        ended.2.ledger.reservations = w.ledger.reservations + clocks.length ⌈/⌉ block) ∧
    ∀ config : CounterConfig, config.lifetime.LastsThrough clocks →
      previous + clocks.length < UInt64.size →
      let ended := (singleCounter config).allocateInTurn conversation clocks w
      ended.1 = successive ∧ ended.2.ledger.reservations = w.ledger.reservations := by
  intro previous successive
  -- The two ways to allocate differ in what they set aside, and in nothing else that is said here.
  have steps : ∀ allocator : Allocator, allocator.lifetime.LastsThrough clocks →
      previous + allocator.setAsideFor clocks.length < UInt64.size →
      (allocator.allocateInTurn conversation clocks w).1 = successive ∧
        allocator.Stocked conversation w clocks.length
          (allocator.allocateInTurn conversation clocks w).2 := by
    intro allocator lasts fits
    have ended := allocateInTurn_steps clocks lasts (start.stocked allocator)
      (fun clock _ => start.hasGranted allocator clock) (by rwa [Nat.zero_add])
    rwa [Nat.zero_add, Nat.zero_add] at ended
  constructor
  · intro config lasts block fits ended
    obtain ⟨granted, stocked⟩ := steps (segmented config) lasts fits
    exact ⟨granted, stocked.reservations⟩
  · intro config lasts fits ended
    obtain ⟨granted, stocked⟩ := steps (singleCounter config) lasts
      (by rwa [setAsideFor_singleCounter])
    exact ⟨granted, stocked.reservations⟩

/-- Three numbers that are asked for a minute apart take two blocks of two numbers, or one counter. -/
theorem Allocator.three_numbers_in_turn :
    let clocks := [Sample.clock, Sample.clock.plus (.ofSeconds 60), Sample.clock.plus (.ofSeconds 120)]
    let blocks : SegmentConfig := ⟨.fixed 2, Duration.ofSeconds 3600, 4⟩
    let fromBlocks := (segmented blocks).allocateInTurn Sample.conversation clocks Sample.services
    let fromCounter :=
      (singleCounter .standard).allocateInTurn Sample.conversation clocks Sample.services
    Sample.services.StartsOut Sample.conversation ∧
      fromBlocks.1 = [.ok (.one 1), .ok (.one 2), .ok (.one 3)] ∧
      fromBlocks.2.ledger.reservations = 2 ∧ fromCounter.1 = fromBlocks.1 ∧
      fromCounter.2.ledger.reservations = 0 := by
  intro clocks blocks fromBlocks fromCounter
  -- Nothing is cached or stored to begin with, and the clocks stay within the lives of what is cached.
  have start : Sample.services.StartsOut Sample.conversation :=
    ⟨.empty, fun _ => rfl, rfl, rfl⟩
  have lasts : (Duration.ofSeconds 3600).LastsThrough clocks := by
    refine ⟨by decide, ?_⟩
    simp only [clocks, List.isChain_cons_cons]
    exact ⟨by decide, by decide, .singleton _⟩
  obtain ⟨block, counter⟩ := allocateInTurn_grants start clocks
  obtain ⟨granted, reserved⟩ := block blocks lasts (by decide)
  obtain ⟨granted', reserved'⟩ := counter .standard lasts (by decide)
  refine ⟨start, granted, ?_, granted'.trans granted.symm, ?_⟩
  · rw [reserved]
    decide
  · rw [reserved']
    rfl

end Intake
