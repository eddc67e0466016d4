import Intake.Proofs.Memory.Ledger
import Intake.Proofs.Memory.SegmentCache
import Intake.Proofs.Numbering.Contention

/-! What is known at every point of a run of calls for one number each: where the cached block comes from,
who has taken its last number, and what each call has noted. -/

namespace Intake

namespace World

variable {w : World} {conversation : Conversation}

/-- The cached block of a conversation that lives at present, and how long it lives after each use. -/
def liveSlot (w : World) (conversation : Conversation) : Option SegmentSlot :=
  (w.segments.liveEntry conversation w.clock).map (·.value)

/-- A call for numbers is answered by the cache of blocks, which alone it changes. -/
theorem answer_take_of {need : UInt64} {outcome : TakeOutcome} {segments : SegmentCache}
    (took : SegmentCache.take w.segments conversation need w.clock = (outcome, segments)) :
    answer (.take conversation need) w = (.ok outcome, { w with segments }) := by
  simp only [answer, took]

/-- A call to cache a block is answered by the cache of blocks, which alone it changes. -/
theorem answer_install_of {segment : Segment} {lifetime : Duration} {outcome : InstallOutcome}
    {segments : SegmentCache}
    (put : SegmentCache.install w.segments conversation segment lifetime w.clock =
      (outcome, segments)) :
    answer (.install conversation segment lifetime) w = (.ok outcome, { w with segments }) := by
  -- The service answers what the cache does, and puts the cache that results in place of its own.
  simp only [answer, put]

/-- The entry of a conversation that lives is its block that lives. -/
theorem liveSlot_of_live {slot : SegmentSlot} {expiresAt : Instant}
    (alive : w.segments.liveEntry conversation w.clock = some ⟨slot, expiresAt⟩) :
    w.liveSlot conversation = some slot := by
  rw [liveSlot, alive, Option.map_some]

/-- A block that is set at present, with a lifetime that takes it past the present, is the one that
lives. -/
theorem liveSlot_of_set {segments : SegmentCache} {slot : SegmentSlot} {lifetime : Duration}
    (set : segments.entries.find? conversation = some ⟨slot, w.clock.plus lifetime⟩)
    (fresh : w.clock < w.clock.plus lifetime) :
    liveSlot { w with segments } conversation = some slot := by
  -- An entry set at this moment is live as long as its lifetime takes the clock any further.
  simp only [liveSlot]
  rw [ExpiringTable.liveEntry_of_set set, if_pos fresh, Option.map_some]

/-- A look for one number takes the next one of the block that lives, or finds none that is not used up
and leaves the block as it is. -/
theorem look_cases (sound : ∀ slot, w.liveSlot conversation = some slot →
      slot.entry.current.toNat ≤ slot.entry.last.toNat ∧ w.clock < w.clock.plus slot.lifetime) :
    (∃ slot range rest segments, w.liveSlot conversation = some slot ∧
      answer (.take conversation 1) w = (.ok (.taken range), { w with segments }) ∧
      range.count = 1 ∧ range.start.value = rest.current ∧ rest.last = slot.entry.last ∧
      rest.current.toNat ≤ rest.last.toNat ∧
      liveSlot { w with segments } conversation = some { slot with entry := rest }) ∨
    (∃ outcome segments,
      answer (.take conversation 1) w = (.ok outcome, { w with segments }) ∧
      (∀ range, outcome ≠ .taken range) ∧
      liveSlot { w with segments } conversation = w.liveSlot conversation ∧
      ∀ slot, w.liveSlot conversation = some slot → slot.entry.current = slot.entry.last) := by
  -- The block that lives has a number left or is used up, if one lives at all.
  rcases SegmentCache.take_cases w.segments conversation 1 w.clock with
    ⟨slot, expiresAt, range, rest, alive, taken, answered⟩ |
    ⟨slot, expiresAt, alive, missed, answered⟩ | ⟨after, gone, answered, lost, _⟩
  · have lives := liveSlot_of_live alive
    obtain ⟨ordered, goesOn⟩ := sound slot lives
    rcases CachedSegment.take_cases ordered 1 w.clock with
      ⟨_, room, range', rest', taken', single, spans, current, last⟩ | ⟨_, refused⟩
    · rw [taken] at taken'
      cases taken'
      rw [UInt64.toNat_one] at room current
      have first : range.start.value.toNat = slot.entry.current.toNat + 1 :=
        congrArg Span.first spans
      exact .inl ⟨slot, range, rest, _, lives, answer_take_of answered, single,
        UInt64.toNat_inj.mp (first.trans current.symm), last,
        by rw [current, last]; exact room,
        liveSlot_of_set (ExpiringTable.find?_update_self _ _ _) goesOn⟩
    · rw [taken] at refused
      cases refused
  · have lives := liveSlot_of_live alive
    obtain ⟨ordered, _⟩ := sound slot lives
    refine .inr ⟨_, _, answer_take_of answered, missed, rfl, fun other same => ?_⟩
    rw [lives] at same
    cases same
    -- A block in order that gives nothing to a look for one number is used up.
    rcases CachedSegment.take_cases ordered 1 w.clock with ⟨_, _, range, _, taken, _⟩ | ⟨short, _⟩
    · exact absurd (by rw [taken]) (missed range)
    · rw [UInt64.toNat_one] at short
      rw [← UInt64.toNat_inj]
      omega
  · have none' : w.liveSlot conversation = none := by rw [liveSlot, gone, Option.map_none]
    refine .inr ⟨_, _, answer_take_of answered, nofun, ?_, by simp [none']⟩
    rw [none', liveSlot]
    simp [ExpiringTable.liveEntry, lost]

/-- A block is cached anew, above what lives, or the block that lives reaches above its start. -/
theorem cache_cases {lifetime : Duration} (fresh : w.clock < w.clock.plus lifetime)
    (conversation : Conversation) (segment : Segment) :
    ∃ outcome segments,
      answer (.install conversation segment lifetime) w = (.ok outcome, { w with segments }) ∧
      (((∀ slot, w.liveSlot conversation = some slot →
          slot.entry.last.toNat < segment.span.first) ∧
        liveSlot { w with segments } conversation = some ⟨.fresh segment w.clock, lifetime⟩) ∨
      ∃ slot, w.liveSlot conversation = some slot ∧ segment.span.first ≤ slot.entry.last.toNat ∧
        liveSlot { w with segments } conversation = some slot) := by
  -- Whatever lives is replaced only if it ends below the start of the block.
  rcases SegmentCache.install_cases w.segments conversation segment lifetime w.clock with
    ⟨superseded, base, _, answered⟩ | ⟨slot, expiresAt, alive, newer, answered⟩
  · refine ⟨_, _, answer_install_of answered, .inl ⟨fun slot lives => ?_,
      liveSlot_of_set (ExpiringTable.find?_insert_self _ _ _ _ _) fresh⟩⟩
    obtain ⟨⟨slot, expiresAt⟩, alive, rfl⟩ := Option.map_eq_some_iff.mp lives
    have below := superseded _ _ alive
    simp only [CachedSegment.isSupersededBy, decide_eq_true_eq, UInt64.lt_iff_toNat_lt] at below
    exact below
  · have lives := liveSlot_of_live alive
    refine ⟨_, _, answer_install_of answered, .inr ⟨slot, lives, ?_, lives⟩⟩
    simp only [CachedSegment.isSupersededBy, decide_eq_false_iff_not, UInt64.lt_iff_toNat_lt] at newer
    exact Nat.not_lt.mp newer

end World

/-- Some call has taken a number. -/
def Taken (pursuits : List Pursuit) (number : SequenceNumber) : Prop :=
  ∃ pursuit ∈ pursuits, pursuit.stage = .took number

/-- A call that has taken nothing may come to anything without a taken number being lost. -/
theorem Taken.set {pursuits : List Pursuit} {number : SequenceNumber} {place : Nat}
    {pursuit : Pursuit} (taken : Taken pursuits number) (atPlace : pursuits[place]? = some pursuit)
    (untaken : ∀ number, pursuit.stage ≠ .took number) (after : Pursuit) :
    Taken (pursuits.set place after) number := by
  -- Whoever has taken the number is another call, which stays as it is.
  obtain ⟨other, member, took⟩ := taken
  obtain ⟨place', at'⟩ := List.mem_iff_getElem?.mp member
  have differ : place ≠ place' := by
    rintro rfl
    rw [atPlace] at at'
    cases at'
    exact untaken number took
  exact ⟨other, List.mem_iff_getElem?.mpr ⟨place', by rw [List.getElem?_set_ne differ, at']⟩, took⟩

/-- What is known of a cached block: its numbers are reserved, and when it is used up some call has taken
the last one. -/
structure SegmentSlot.Accounted (lifetime : Duration) (issued : Nat) (pursuits : List Pursuit)
    (slot : SegmentSlot) : Prop where
  lifetime : slot.lifetime = lifetime
  ordered : slot.entry.current.toNat ≤ slot.entry.last.toNat
  reserved : slot.entry.last.toNat ≤ issued
  usedUp : slot.entry.current = slot.entry.last → Taken pursuits ⟨slot.entry.last⟩

/-- A block is accounted for when more is reserved and no taken number is lost. -/
theorem SegmentSlot.Accounted.onward {lifetime : Duration} {issued issued' : Nat}
    {pursuits later : List Pursuit} {slot : SegmentSlot}
    (accounted : slot.Accounted lifetime issued pursuits) (risen : issued ≤ issued')
    (taken : ∀ number, Taken pursuits number → Taken later number) :
    slot.Accounted lifetime issued' later where
  -- Of what is said of a block, only the reserved and the taken numbers depend on the run.
  lifetime := accounted.lifetime
  ordered := accounted.ordered
  reserved := Nat.le_trans accounted.reserved risen
  usedUp end' := taken _ (accounted.usedUp end')

namespace Pursuit

/-- A number lies above all that was reserved when the call began, and above all that it has noted. -/
def Above (pursuit : Pursuit) (number : Nat) : Prop :=
  pursuit.since < number ∧ ∀ last ∈ pursuit.passed, last.value.toNat < number

/-- What is known of the stage of a call: a block that it holds lies above all that was before, and so does
the end of the block that it expects to find. -/
def StageSound (pursuit : Pursuit) (conversation : Conversation) (w : World) : Prop :=
  match pursuit.stage with
  | .looks => True
  | .holds segment => pursuit.Above segment.span.first ∧
      segment.span.first ≤ segment.span.last ∧ segment.span.last ≤ w.ledger.issued conversation
  | .expects segment => pursuit.Above segment.span.first ∧
      ∃ slot, w.liveSlot conversation = some slot ∧ segment.span.first ≤ slot.entry.last.toNat
  | .took number => number.value.toNat ≤ w.ledger.issued conversation

/-- What is known of a call: the numbers it has noted rise from round to round, from above what was
reserved when it began, and each of them was taken. -/
structure Sound (conversation : Conversation) (w : World) (pursuits : List Pursuit)
    (pursuit : Pursuit) : Prop where
  since : pursuit.since ≤ w.ledger.issued conversation
  passed : ∀ last ∈ pursuit.passed, pursuit.since < last.value.toNat ∧
    last.value.toNat ≤ w.ledger.issued conversation ∧ Taken pursuits last
  rising : pursuit.passed.Pairwise fun later earlier => earlier.value.toNat < later.value.toNat
  stage : pursuit.StageSound conversation w

end Pursuit

/-- From one point of a run to another no reservation and no taken number is lost, and the cached block
reaches as far as it did. -/
structure Onward (conversation : Conversation) (w after : World) (pursuits later : List Pursuit) :
    Prop where
  issued : w.ledger.issued conversation ≤ after.ledger.issued conversation
  block : ∀ slot, w.liveSlot conversation = some slot →
    ∃ slot', after.liveSlot conversation = some slot' ∧
      slot.entry.last.toNat ≤ slot'.entry.last.toNat
  taken : ∀ number, Taken pursuits number → Taken later number

/-- What is known of a call is known of it later on. -/
theorem Pursuit.Sound.onward {conversation : Conversation} {w after : World}
    {pursuits later : List Pursuit} {pursuit : Pursuit} (sound : pursuit.Sound conversation w pursuits)
    (onward : Onward conversation w after pursuits later) :
    pursuit.Sound conversation after later where
  since := Nat.le_trans sound.since onward.issued
  passed last member := by
    obtain ⟨above, reserved, taken⟩ := sound.passed last member
    exact ⟨above, Nat.le_trans reserved onward.issued, onward.taken _ taken⟩
  rising := sound.rising
  stage := by
    -- A block that is expected may have been replaced, by one that reaches further.
    have before := sound.stage
    unfold StageSound at before ⊢
    split at before
    · trivial
    · exact ⟨before.1, before.2.1, Nat.le_trans before.2.2 onward.issued⟩
    · obtain ⟨above, slot, lives, reaches⟩ := before
      obtain ⟨slot', lives', further⟩ := onward.block slot lives
      exact ⟨above, slot', lives', Nat.le_trans reaches further⟩
    · exact Nat.le_trans before onward.issued

/-- What is known of a run: cached blocks live, the one that is cached is accounted for, and so is every
call. -/
structure Contested (conversation : Conversation) (lifetime : Duration) (w : World)
    (pursuits : List Pursuit) : Prop where
  fresh : w.clock < w.clock.plus lifetime
  block : ∀ slot, w.liveSlot conversation = some slot →
    slot.Accounted lifetime (w.ledger.issued conversation) pursuits
  calls : ∀ pursuit ∈ pursuits, pursuit.Sound conversation w pursuits

namespace Contested

variable {conversation : Conversation} {lifetime : Duration} {w after : World}
  {pursuits : List Pursuit} {place : Nat} {pursuit : Pursuit}

/-- Where nothing is cached and nobody calls, all is accounted for. -/
theorem opening (fresh : w.clock < w.clock.plus lifetime)
    (empty : w.segments.entries.find? conversation = none) :
    Contested conversation lifetime w [] where
  -- With nothing cached no block is live, and with nobody calling there is no call to account for.
  fresh := fresh
  block slot lives := by
    simp [World.liveSlot, ExpiringTable.liveEntry, empty] at lives
  calls := by simp

/-- A call that begins knows what is reserved. -/
theorem join (contested : Contested conversation lifetime w pursuits) :
    Contested conversation lifetime w
      (pursuits ++ [⟨w.ledger.issued conversation, [], .looks⟩]) := by
  -- It has noted nothing and taken nothing, and the others are what they were.
  have onward : Onward conversation w w pursuits
      (pursuits ++ [⟨w.ledger.issued conversation, [], .looks⟩]) := by
    refine ⟨Nat.le_refl _, fun slot lives => ⟨slot, lives, Nat.le_refl _⟩, ?_⟩
    rintro number ⟨pursuit, member, took⟩
    exact ⟨pursuit, List.mem_append_left _ member, took⟩
  refine ⟨contested.fresh, fun slot lives => ?_, fun pursuit member => ?_⟩
  · exact (contested.block slot lives).onward (Nat.le_refl _) onward.taken
  · rcases List.mem_append.mp member with earlier | new
    · exact (contested.calls pursuit earlier).onward onward
    · obtain rfl := List.mem_singleton.mp new
      exact ⟨Nat.le_refl _, by simp, .nil, trivial⟩

/-- What is accounted for stays so while the same block lives and nothing is reserved. -/
theorem unchanged (contested : Contested conversation lifetime w pursuits)
    (fresh : after.clock < after.clock.plus lifetime)
    (issued : after.ledger.issued conversation = w.ledger.issued conversation)
    (block : after.liveSlot conversation = w.liveSlot conversation) :
    Contested conversation lifetime after pursuits where
  -- The ledger and the live block are all of the services that is spoken of.
  fresh := fresh
  block slot lives := by rw [issued]; exact contested.block slot (block ▸ lives)
  calls pursuit member := (contested.calls pursuit member).onward
    ⟨Nat.le_of_eq issued.symm, fun slot lives => ⟨slot, block.trans lives, Nat.le_refl _⟩,
      fun _ taken => taken⟩

/-- The clock may be set while nothing expires. -/
theorem ticks (contested : Contested conversation lifetime w pursuits)
    (ticked : World.Ticks conversation lifetime w after) :
    Contested conversation lifetime after pursuits := by
  -- At the new reading the blocks that live are those that lived.
  obtain ⟨reading, rfl, fresh, same⟩ := ticked
  exact contested.unchanged fresh rfl (by simp only [World.liveSlot, same])

/-- A call may stay where it is. -/
theorem stays (contested : Contested conversation lifetime w pursuits)
    (atPlace : pursuits[place]? = some pursuit) :
    Contested conversation lifetime w (pursuits.set place pursuit) := by
  -- Setting a place to what is there changes nothing.
  obtain ⟨inside, rfl⟩ := List.getElem?_eq_some_iff.mp atPlace
  rwa [List.set_getElem_self]

/-- One call that has taken nothing goes on. All are accounted for if what was reserved and cached before
is still covered, what is cached now is accounted for, and so is the call. -/
theorem goesOn {goal : Pursuit} (contested : Contested conversation lifetime w pursuits)
    (atPlace : pursuits[place]? = some pursuit) (untaken : ∀ number, pursuit.stage ≠ .took number)
    (sameClock : after.clock = w.clock)
    (issued : w.ledger.issued conversation ≤ after.ledger.issued conversation)
    (reaches : ∀ slot, w.liveSlot conversation = some slot →
      ∃ slot', after.liveSlot conversation = some slot' ∧
        slot.entry.last.toNat ≤ slot'.entry.last.toNat)
    (block : (∀ number, Taken pursuits number → Taken (pursuits.set place goal) number) →
      ∀ slot, after.liveSlot conversation = some slot →
        slot.Accounted lifetime (after.ledger.issued conversation) (pursuits.set place goal))
    (sound : pursuit.Sound conversation after (pursuits.set place goal) →
      goal.Sound conversation after (pursuits.set place goal)) :
    Contested conversation lifetime after (pursuits.set place goal) := by
  -- The numbers that were taken were taken by others, who are what they were.
  have taken : ∀ number, Taken pursuits number → Taken (pursuits.set place goal) number :=
    fun _ taken => taken.set atPlace untaken goal
  have onward : Onward conversation w after pursuits (pursuits.set place goal) :=
    ⟨issued, reaches, taken⟩
  refine ⟨by rw [sameClock]; exact contested.fresh, block taken, fun other member => ?_⟩
  rcases List.mem_or_eq_of_mem_set member with earlier | rfl
  · exact (contested.calls other earlier).onward onward
  · exact sound ((contested.calls pursuit (List.mem_of_getElem? atPlace)).onward onward)

/-- A call may take the next number of the block that lives. -/
theorem takes (contested : Contested conversation lifetime w pursuits)
    (atPlace : pursuits[place]? = some pursuit) (untaken : ∀ number, pursuit.stage ≠ .took number)
    {slot : SegmentSlot} {rest : CachedSegment} {segments : SegmentCache}
    (before : w.liveSlot conversation = some slot) (last : rest.last = slot.entry.last)
    (ordered : rest.current.toNat ≤ rest.last.toNat)
    (left : World.liveSlot { w with segments } conversation = some { slot with entry := rest }) :
    Contested conversation lifetime { w with segments }
      (pursuits.set place { pursuit with stage := .took ⟨rest.current⟩ }) := by
  have accounted := contested.block slot before
  have reserved : rest.last.toNat ≤ w.ledger.issued conversation := by
    rw [last]; exact accounted.reserved
  refine contested.goesOn atPlace untaken rfl (Nat.le_refl _) ?_ ?_ ?_
  · intro other lives
    rw [before] at lives
    cases lives
    exact ⟨_, left, Nat.le_of_eq (by rw [last])⟩
  · intro _ other lives
    rw [left] at lives
    cases lives
    refine ⟨accounted.lifetime, ordered, reserved, fun usedUp => ?_⟩
    -- If that was the last number, it is this call that has taken it.
    dsimp only at usedUp ⊢
    rw [← usedUp]
    have inside : place < pursuits.length := (List.getElem?_eq_some_iff.mp atPlace).1
    exact ⟨_, List.mem_set inside _, rfl⟩
  · intro sound
    exact { sound with stage := Nat.le_trans ordered reserved }

/-- A call whose round ends with a used-up block notes the last number of it. -/
theorem notes (contested : Contested conversation lifetime w pursuits)
    (atPlace : pursuits[place]? = some pursuit) {segment : Segment}
    (expects : pursuit.stage = .expects segment)
    (usedUp : ∀ slot, w.liveSlot conversation = some slot →
      slot.entry.current = slot.entry.last) :
    ∃ last, Contested conversation lifetime w
      (pursuits.set place { pursuit with passed := last :: pursuit.passed, stage := .looks }) := by
  -- A block lives, as the one that was expected or one above it, and it is this one that is used up.
  have sound := (contested.calls pursuit (List.mem_of_getElem? atPlace)).stage
  simp only [Pursuit.StageSound, expects] at sound
  obtain ⟨⟨since, passed⟩, slot, lives, reaches⟩ := sound
  have accounted := contested.block slot lives
  refine ⟨⟨slot.entry.last⟩, contested.goesOn atPlace (by simp [expects]) rfl (Nat.le_refl _)
    (fun slot lives => ⟨slot, lives, Nat.le_refl _⟩) (fun taken other lives => ?_) fun sound => ?_⟩
  · exact (contested.block other lives).onward (Nat.le_refl _) taken
  · -- It lies above the start of the block that the call expected, and so above all noted before.
    have new : pursuit.since < slot.entry.last.toNat ∧
        slot.entry.last.toNat ≤ w.ledger.issued conversation :=
      ⟨Nat.lt_of_lt_of_le since reaches, accounted.reserved⟩
    have taken := (accounted.usedUp (usedUp slot lives)).set atPlace (by simp [expects])
    refine ⟨sound.since, fun last member => ?_, ?_, trivial⟩
    · rcases List.mem_cons.mp member with rfl | earlier
      · exact ⟨new.1, new.2, taken _⟩
      · exact sound.passed last earlier
    · exact .cons (fun last member => Nat.lt_of_lt_of_le (passed last member) reaches) sound.rising

/-- A look takes the next number of the block that lives, or misses because it is used up. -/
theorem looks (contested : Contested conversation lifetime w pursuits)
    (atPlace : pursuits[place]? = some pursuit) (seeks : pursuit.Seeks) :
    ∃ goal, (pursuing conversation lifetime).moves (.take conversation 1) pursuit
        (World.answer (.take conversation 1) w).1 goal ∧
      Contested conversation lifetime (World.answer (.take conversation 1) w).2
        (pursuits.set place goal) := by
  -- Only a look that misses after a block was put to the cache ends a round.
  have lives : ∀ slot, w.liveSlot conversation = some slot →
      slot.entry.current.toNat ≤ slot.entry.last.toNat ∧ w.clock < w.clock.plus slot.lifetime := by
    intro slot lives
    have accounted := contested.block slot lives
    rw [accounted.lifetime]
    exact ⟨accounted.ordered, contested.fresh⟩
  rcases World.look_cases lives with
    ⟨slot, range, rest, segments, before, answered, single, start, last, ordered, left⟩ |
    ⟨outcome, segments, answered, missed, same, usedUp⟩
  · rw [answered]
    refine ⟨{ pursuit with stage := .took range.start }, ⟨single, rfl⟩, ?_⟩
    have first : range.start = ⟨rest.current⟩ := by rw [← start]
    rw [first]
    exact contested.takes atPlace seeks.untaken before last ordered left
  · rw [answered]
    have settled : Contested conversation lifetime { w with segments } pursuits :=
      contested.unchanged contested.fresh rfl same
    have moves : ∀ goal, pursuit.Misses goal →
        (pursuing conversation lifetime).moves (.take conversation 1) pursuit (.ok outcome) goal := by
      intro goal misses
      cases outcome with
      | taken range => exact absurd rfl (missed range)
      | notFound | exhausted => exact misses
    rcases seeks with looks | ⟨segment, expects⟩
    · exact ⟨pursuit, moves _ (by rw [Pursuit.Misses, looks]), settled.stays atPlace⟩
    · obtain ⟨last, noted⟩ := settled.notes atPlace expects fun slot lives =>
        usedUp slot (same ▸ lives)
      exact ⟨_, moves _ (by rw [Pursuit.Misses, expects]; exact ⟨last, rfl⟩), noted⟩

/-- A block that is reserved lies above all that was reserved before. -/
theorem reserves (contested : Contested conversation lifetime w pursuits)
    (atPlace : pursuits[place]? = some pursuit) (looks : pursuit.stage = .looks) (count : UInt64) :
    ∃ goal, (pursuing conversation lifetime).moves (.reserve conversation count) pursuit
        (World.answer (.reserve conversation count) w).1 goal ∧
      Contested conversation lifetime (World.answer (.reserve conversation count) w).2
        (pursuits.set place goal) := by
  -- A reservation that is refused changes nothing.
  rcases w.ledger.reserve_cases conversation count w.clock with
    ⟨segment, ledger, reserved, positive, _, spans, issued⟩ | ⟨ledger, refused, _, issued⟩
  · have answered : World.answer (.reserve conversation count) w =
        (.ok segment, { w with ledger }) := by simp only [World.answer, reserved]
    rw [answered]
    refine ⟨{ pursuit with stage := .holds segment }, rfl, contested.goesOn atPlace
      (by simp [looks]) rfl (by dsimp only; omega) (fun slot lives => ⟨slot, lives, Nat.le_refl _⟩)
      (fun taken slot lives => ?_) fun sound => ?_⟩
    · exact (contested.block slot lives).onward (by dsimp only; omega) taken
    · have before := contested.calls pursuit (List.mem_of_getElem? atPlace)
      refine { sound with stage := ?_ }
      simp only [Pursuit.StageSound, Pursuit.Above, spans, issued]
      have since := before.since
      refine ⟨⟨by omega, fun last member => ?_⟩, by omega, Nat.le_refl _⟩
      have reached := (before.passed last member).2.1
      omega
  · have answered : World.answer (.reserve conversation count) w =
        (.error (.overflow conversation), { w with ledger }) := by simp only [World.answer, refused]
    rw [answered]
    have settled : Contested conversation lifetime { w with ledger } pursuits :=
      contested.unchanged contested.fresh issued rfl
    exact ⟨pursuit, rfl, settled.stays atPlace⟩

/-- After a block was put to the cache, what lives there reaches above its start. -/
theorem installs (contested : Contested conversation lifetime w pursuits)
    (atPlace : pursuits[place]? = some pursuit) {segment : Segment}
    (holds : pursuit.stage = .holds segment) :
    ∃ goal, (pursuing conversation lifetime).moves (.install conversation segment lifetime) pursuit
        (World.answer (.install conversation segment lifetime) w).1 goal ∧
      Contested conversation lifetime (World.answer (.install conversation segment lifetime) w).2
        (pursuits.set place goal) := by
  -- The block is cached, or superseded by what lives.
  have before := (contested.calls pursuit (List.mem_of_getElem? atPlace)).stage
  simp only [Pursuit.StageSound, holds] at before
  obtain ⟨above, nonempty, reserved⟩ := before
  have untaken : ∀ number, pursuit.stage ≠ .took number := by simp [holds]
  obtain ⟨outcome, segments, answered, cached⟩ :=
    World.cache_cases contested.fresh conversation segment
  rw [answered]
  refine ⟨{ pursuit with stage := .expects segment }, rfl, ?_⟩
  rcases cached with ⟨below, anew⟩ | ⟨slot, lives, reaches, same⟩
  · -- The block is cached anew, with all of its numbers left.
    have spans := CachedSegment.span_fresh w.clock (Nat.zero_lt_of_lt above.1)
    have first : (CachedSegment.fresh segment w.clock).current.toNat + 1 = segment.span.first :=
      congrArg Span.first spans
    have last : (CachedSegment.fresh segment w.clock).last.toNat = segment.span.last :=
      congrArg Span.last spans
    refine contested.goesOn atPlace untaken rfl (Nat.le_refl _) (fun slot lives => ?_)
      (fun _ slot lives => ?_) fun sound => ?_
    · have passed := below slot lives
      exact ⟨_, anew, by dsimp only; omega⟩
    · rw [anew] at lives
      cases lives
      refine ⟨rfl, by dsimp only; omega, by dsimp only; omega, fun usedUp => ?_⟩
      have same := congrArg UInt64.toNat usedUp
      dsimp only at same
      omega
    · exact { sound with stage := ⟨above, _, anew, by dsimp only; omega⟩ }
  · -- The block that lives is left, which reaches above the start of the other.
    refine contested.goesOn atPlace untaken rfl (Nat.le_refl _) (fun other before => ?_)
      (fun taken other before => ?_) fun sound => ?_
    · rw [lives] at before
      cases before
      exact ⟨slot, same, Nat.le_refl _⟩
    · rw [same] at before
      cases before
      exact (contested.block slot lives).onward (Nat.le_refl _) taken
    · exact { sound with stage := ⟨above, slot, same, reaches⟩ }

/-- Every call that a caller may make at its stage is answered so that all stays accounted for. -/
theorem answer (contested : Contested conversation lifetime w pursuits)
    (atPlace : pursuits[place]? = some pursuit) {request : Service.Request}
    (permitted : (pursuing conversation lifetime).permits request pursuit) :
    ∃ goal, (pursuing conversation lifetime).moves request pursuit (World.answer request w).1 goal ∧
      Contested conversation lifetime (World.answer request w).2 (pursuits.set place goal) := by
  -- There is one case for each kind of call, and no others are made.
  cases request
  case now => exact ⟨pursuit, rfl, contested.stays atPlace⟩
  case take =>
    obtain ⟨rfl, rfl, seeks⟩ := permitted
    exact contested.looks atPlace seeks
  case reserve other count =>
    obtain ⟨rfl, looks⟩ := permitted
    exact contested.reserves atPlace looks count
  case install =>
    obtain ⟨rfl, rfl, holds⟩ := permitted
    exact contested.installs atPlace holds
  all_goals exact permitted.elim

end Contested

end Intake
