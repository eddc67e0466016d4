import Intake.Proofs.Memory.Ledger

/-! What any calls make of the ledger: its marks stay in order and only rise, each conversation is kept
apart from the others, and no number is reserved twice. -/

namespace Intake

/-- A block that starts behind a number and ends so many numbers on has so many numbers. -/
theorem Segment.length_of_span {segment : Segment} {previous : Nat} {count : UInt64}
    (positive : 0 < count.toNat) (spans : segment.span = ⟨previous + 1, previous + count.toNat⟩) :
    segment.length = count := by
  have starts : segment.first.value.toNat = previous + 1 := congrArg Span.first spans
  have ends : segment.last.value.toNat = previous + count.toNat := congrArg Span.last spans
  have ascends : segment.first.value ≤ segment.last.value := by
    rw [UInt64.le_iff_toNat_le]
    omega
  have bound := count.toNat_lt_size
  -- The distance of the ends is one less than the count, so that neither of the two steps wraps.
  have distance : (segment.last.value - segment.first.value).toNat = count.toNat - 1 := by
    rw [UInt64.toNat_sub_of_le _ _ ascends]
    omega
  unfold length
  rw [← UInt64.toNat_inj, Word.add_toNat (by rw [distance, UInt64.toNat_one]; omega), distance,
    UInt64.toNat_one]
  omega

namespace Watermarks

/-- From one set of watermarks to another none of the three marks falls. -/
structure RisesTo (before after : Watermarks) : Prop where
  issued : before.issued ≤ after.issued
  committed : before.committed ≤ after.committed
  retained : before.retained ≤ after.retained

variable {row : Watermarks}

/-- Marks that stay as they are do not fall. -/
theorem RisesTo.refl (row : Watermarks) : row.RisesTo row :=
  ⟨UInt64.le_refl _, UInt64.le_refl _, UInt64.le_refl _⟩

/-- A reservation lets no mark fall. -/
theorem rises_reserve {after : Watermarks} {count : UInt64} {now : Instant} {segment : Segment}
    (reserved : row.reserve count now = some (segment, after)) : row.RisesTo after := by
  -- The highest reserved number becomes the end of a block that lies above it.
  obtain ⟨block, built, same⟩ := Option.map_eq_some_iff.mp reserved
  cases same
  obtain ⟨_, _, spans⟩ := Segment.following?_eq_some.mp built
  have ends : segment.last.value.toNat = row.issued.toNat + count.toNat := congrArg Span.last spans
  refine ⟨?_, UInt64.le_refl _, UInt64.le_refl _⟩
  rw [UInt64.le_iff_toNat_le]
  dsimp only
  omega

/-- Raising the highest reserved number lets no mark fall. -/
theorem rises_raiseIssued (row : Watermarks) (floor : SequenceNumber) (now : Instant) :
    row.RisesTo (row.raiseIssued floor now) := by
  -- The mark is raised only past what it was.
  unfold raiseIssued
  split
  · rename_i below
    exact ⟨UInt64.le_of_lt below, UInt64.le_refl _, UInt64.le_refl _⟩
  · exact .refl row

/-- Raising the highest stored number lets no mark fall. -/
theorem rises_raiseCommitted (row : Watermarks) (stored : SequenceNumber) (now : Instant) :
    row.RisesTo (row.raiseCommitted stored now) := by
  unfold raiseCommitted
  split
  · rename_i below
    refine ⟨?_, UInt64.le_of_lt below, UInt64.le_refl _⟩
    -- The highest reserved number is moved up to a stored one that reaches it, and stays otherwise.
    dsimp only
    split
    · assumption
    · exact UInt64.le_refl _
  · exact .refl row

/-- Raising the lowest kept number lets no mark fall. -/
theorem rises_raiseRetained (row : Watermarks) (floor : SequenceNumber) (now : Instant) :
    row.RisesTo (row.raiseRetained floor now) := by
  -- Where the floor is cut down to does not matter: the mark is raised only past what it was.
  unfold raiseRetained
  dsimp only
  generalize (if floor.value ≤ row.committed then floor.value else row.committed) = target
  split
  · rename_i below
    exact ⟨UInt64.le_refl _, UInt64.le_refl _, UInt64.le_of_lt below⟩
  · exact .refl row

/-- The highest reserved number reaches a floor that it is raised to. -/
theorem le_raiseIssued (row : Watermarks) (floor : SequenceNumber) (now : Instant) :
    floor.value ≤ (row.raiseIssued floor now).issued := by
  -- A mark that was not raised had reached the floor already.
  unfold raiseIssued
  split
  · exact UInt64.le_refl _
  · rename_i reached
    exact UInt64.not_lt.mp reached

/-- The highest stored number reaches a number that it is raised to. -/
theorem le_raiseCommitted (row : Watermarks) (stored : SequenceNumber) (now : Instant) :
    stored.value ≤ (row.raiseCommitted stored now).committed := by
  -- A mark that was not raised had reached the number already.
  unfold raiseCommitted
  split
  · exact UInt64.le_refl _
  · rename_i reached
    exact UInt64.not_lt.mp reached

/-- The lowest kept number reaches a floor that it is raised to, or else what is stored. -/
theorem le_raiseRetained (row : Watermarks) (floor : SequenceNumber) (now : Instant) :
    floor.value ≤ (row.raiseRetained floor now).retained ∨
      row.committed ≤ (row.raiseRetained floor now).retained := by
  unfold raiseRetained
  dsimp only
  -- What it is raised to is the smaller of the two.
  split <;> split
  · exact .inl (UInt64.le_refl _)
  · rename_i reached
    exact .inl (UInt64.not_lt.mp reached)
  · exact .inr (UInt64.le_refl _)
  · rename_i reached
    exact .inr (UInt64.not_lt.mp reached)

end Watermarks

namespace Ledger

/-- From one ledger to another no conversation is lost, and none of its marks falls. -/
def RisesTo (before after : Ledger) : Prop :=
  ∀ conversation row, before.load conversation = some row →
    ∃ later, after.load conversation = some later ∧ row.RisesTo later

variable {ledger : Ledger}

/-- A ledger that stays as it is does not fall. -/
theorem RisesTo.refl (ledger : Ledger) : ledger.RisesTo ledger :=
  fun _ row loaded => ⟨row, loaded, .refl row⟩

/-- Setting watermarks that are no lower than those of the conversation lets nothing fall. -/
theorem rises_put {conversation : Conversation} {row : Watermarks} {now : Instant}
    (rises : (ledger.rowOrEmpty conversation now).RisesTo row) :
    ledger.RisesTo (ledger.put conversation row) := by
  -- A row that is replaced has risen as given. Where there was none, nothing had to rise.
  intro other before loaded
  by_cases same : other = conversation
  · subst same
    refine ⟨row, load_put_self _ _ _, ?_⟩
    rwa [rowOrEmpty, loaded, Option.getD_some] at rises
  · exact ⟨before, by rw [load_put_of_ne _ _ same]; exact loaded, .refl before⟩

/-- A reservation lets no mark fall. -/
theorem rises_reserve (ledger : Ledger) (conversation : Conversation) (count : UInt64) (now : Instant) :
    ledger.RisesTo (ledger.reserve conversation count now).2 := by
  -- Whether or not the block fits, the row is set to one that is no lower.
  have sets : ∀ row : Watermarks, (ledger.rowOrEmpty conversation now).RisesTo row →
      ledger.RisesTo (Ledger.put { ledger with reservations := ledger.reservations + 1 }
        conversation row) := fun _ => rises_put
  unfold reserve
  dsimp only
  split
  · rename_i reserved
    exact sets _ (Watermarks.rises_reserve reserved)
  · exact sets _ (.refl _)

/-- Raising the lowest kept number lets no mark fall. -/
theorem rises_raiseRetained (ledger : Ledger) (conversation : Conversation) (floor : SequenceNumber)
    (now : Instant) : ledger.RisesTo (ledger.raiseRetained conversation floor now) := by
  -- A conversation without watermarks is not given any.
  unfold raiseRetained
  cases loaded : ledger.load conversation with
  | none => exact .refl ledger
  | some row =>
    have rises : (ledger.rowOrEmpty conversation now).RisesTo (row.raiseRetained floor now) := by
      rw [rowOrEmpty, loaded, Option.getD_some]
      exact Watermarks.rises_raiseRetained row floor now
    exact rises_put rises

/-- A reservation that fails sets the watermarks of its conversation to what they were. -/
theorem load_of_refused {conversation : Conversation} {count : UInt64} {now : Instant}
    {failure : LedgerError} (refused : (ledger.reserve conversation count now).1 = .error failure) :
    (ledger.reserve conversation count now).2.load conversation =
      some (ledger.rowOrEmpty conversation now) := by
  -- The row is put before the reservation is tried, and a refusal does not take it back.
  unfold reserve at refused ⊢
  dsimp only at refused ⊢
  split at refused
  · cases refused
  · exact load_put_self _ _ _

/-- No mark that has not fallen is below what was reserved. -/
theorem RisesTo.issued_le {after : Ledger} (rises : ledger.RisesTo after)
    (conversation : Conversation) : ledger.issued conversation ≤ after.issued conversation := by
  -- A row that was not there counts as zero.
  unfold issued
  cases loaded : ledger.load conversation with
  | none => exact Nat.zero_le _
  | some row =>
    obtain ⟨later, found, risen⟩ := rises conversation row loaded
    rw [found]
    exact UInt64.le_iff_toNat_le.mp risen.issued

end Ledger

/-- A call that moves the marks of a conversation. -/
inductive LedgerCall where
  | reserve (count : UInt64)
  | raiseIssued (floor : SequenceNumber)
  | raiseCommitted (stored : SequenceNumber)
  | raiseRetained (floor : SequenceNumber)

/-- A call on the ledger: what for, on which conversation, and at what time. -/
structure LedgerRequest where
  conversation : Conversation
  call : LedgerCall
  now : Instant

/-- The ledger after some calls, with the blocks that were reserved, and the floors that the highest
reserved number was raised to, directly or along with the highest stored one. -/
structure LedgerHistory where
  ledger : Ledger
  reserved : List (Conversation × Segment)
  floors : List (Conversation × SequenceNumber)

namespace LedgerHistory

/-- The ledger before any call. -/
def start : LedgerHistory := ⟨.empty, [], []⟩

/-- The ledger after one more call. -/
def step (history : LedgerHistory) (request : LedgerRequest) : LedgerHistory :=
  match request.call with
  | .reserve count =>
    match history.ledger.reserve request.conversation count request.now with
    | (.ok segment, ledger) =>
      { history with ledger, reserved := (request.conversation, segment) :: history.reserved }
    | (.error _, ledger) => { history with ledger }
  | .raiseIssued floor =>
    { history with
      ledger := history.ledger.raiseIssued request.conversation floor request.now
      floors := (request.conversation, floor) :: history.floors }
  | .raiseCommitted stored =>
    { history with
      ledger := history.ledger.raiseCommitted request.conversation stored request.now
      floors := (request.conversation, stored) :: history.floors }
  | .raiseRetained floor =>
    { history with ledger := history.ledger.raiseRetained request.conversation floor request.now }

/-- The ledger after some more calls, one after the other. -/
def follow (history : LedgerHistory) (requests : List LedgerRequest) : LedgerHistory :=
  requests.foldl step history

variable (history : LedgerHistory) (request : LedgerRequest)

/-- What a call is for comes about: the block has as many numbers as were asked for, right above all that
were reserved, and a mark reaches what it is raised to. -/
def Serves : Prop :=
  let after := (history.step request).ledger
  match request.call with
  | .reserve count =>
    match (history.ledger.reserve request.conversation count request.now).1 with
    -- The block ends at the highest number reserved after it, and shares none with an earlier one.
    | .ok segment =>
      segment.length = count ∧
        segment.first.value.toNat = history.ledger.issued request.conversation + 1 ∧
        segment.last.value.toNat = history.ledger.issued request.conversation + count.toNat ∧
        segment.last.value.toNat = after.issued request.conversation ∧
        (∀ earlier, (request.conversation, earlier) ∈ history.reserved →
          earlier.last.value < segment.first.value) ∧
        ∀ floor, (request.conversation, floor) ∈ history.floors → floor.value < segment.first.value
    -- A reservation of nothing is refused as well, and the marks are then what they were.
    | .error failure =>
      failure = .overflow request.conversation ∧
        (count = 0 ∨ UInt64.size ≤ history.ledger.issued request.conversation + count.toNat) ∧
        after.load request.conversation =
          some (history.ledger.rowOrEmpty request.conversation request.now)
  | .raiseIssued floor =>
    ∃ row, after.load request.conversation = some row ∧ floor.value ≤ row.issued
  | .raiseCommitted stored =>
    ∃ row, after.load request.conversation = some row ∧
      stored.value ≤ row.committed ∧ stored.value ≤ row.issued
  -- The lowest kept number rises only as far as messages are stored.
  | .raiseRetained floor =>
    ∀ before, history.ledger.load request.conversation = some before →
      ∃ row, after.load request.conversation = some row ∧
        (floor.value ≤ row.retained ∨ before.committed ≤ row.retained)

/-- The watermarks are in order, and the highest reserved number of a conversation covers its blocks and
floors so far. -/
structure Sound : Prop where
  inOrder : history.ledger.InOrder
  reserved : ∀ conversation segment, (conversation, segment) ∈ history.reserved →
    segment.last.value.toNat ≤ history.ledger.issued conversation
  floors : ∀ conversation floor, (conversation, floor) ∈ history.floors →
    floor.value.toNat ≤ history.ledger.issued conversation

variable {history}

/-- A call keeps all watermarks in order. -/
theorem inOrder_step (order : history.ledger.InOrder) (request : LedgerRequest) :
    (history.step request).ledger.InOrder := by
  -- Whether a reservation is granted or not, the ledger that it leaves is the same.
  unfold step
  cases request.call with
  | reserve count =>
    have kept := order.reserve request.conversation count request.now
    dsimp only
    split <;> (rename_i answered; rwa [answered] at kept)
  | raiseIssued floor => exact order.raiseIssued request.conversation floor request.now
  | raiseCommitted stored => exact order.raiseCommitted request.conversation stored request.now
  | raiseRetained floor => exact order.raiseRetained request.conversation floor request.now

/-- A call lets no mark fall. -/
theorem rises_step (history : LedgerHistory) (request : LedgerRequest) :
    history.ledger.RisesTo (history.step request).ledger := by
  -- The blocks that are noted do not matter here, so that both answers of a reservation are one case.
  unfold step
  cases request.call with
  | reserve count =>
    have rises := history.ledger.rises_reserve request.conversation count request.now
    dsimp only
    split <;> (rename_i answered; rwa [answered] at rises)
  | raiseIssued floor => exact Ledger.rises_put (Watermarks.rises_raiseIssued _ floor request.now)
  | raiseCommitted stored => exact Ledger.rises_put (Watermarks.rises_raiseCommitted _ stored request.now)
  | raiseRetained floor => exact Ledger.rises_raiseRetained _ _ floor request.now

/-- A call leaves other conversations alone. -/
theorem load_step_of_ne (history : LedgerHistory) (request : LedgerRequest) {other : Conversation}
    (differ : other ≠ request.conversation) :
    (history.step request).ledger.load other = history.ledger.load other := by
  -- Each call works on the row of its own conversation.
  unfold step
  cases request.call with
  | reserve count =>
    have kept := history.ledger.load_reserve_of_ne count request.now differ
    dsimp only
    split <;> (rename_i answered; rwa [answered] at kept)
  | raiseIssued floor => exact Ledger.load_put_of_ne _ _ differ
  | raiseCommitted stored => exact Ledger.load_put_of_ne _ _ differ
  | raiseRetained floor => exact Ledger.load_raiseRetained_of_ne _ floor request.now differ

/-- Before any call there is nothing to cover. -/
theorem sound_start : start.Sound where
  inOrder := .empty
  reserved := fun _ _ member => nomatch member
  floors := fun _ _ member => nomatch member

/-- What is covered stays so as marks rise. -/
theorem Sound.rise (sound : history.Sound) {after : Ledger} (rises : history.ledger.RisesTo after)
    (order : after.InOrder) : Sound { history with ledger := after } where
  -- Blocks and floors lay below the issued numbers, which have not gone back.
  inOrder := order
  reserved := fun conversation segment member =>
    Nat.le_trans (sound.reserved conversation segment member) (rises.issued_le conversation)
  floors := fun conversation floor member =>
    Nat.le_trans (sound.floors conversation floor member) (rises.issued_le conversation)

/-- A block may be added that is covered. -/
theorem Sound.addBlock (sound : history.Sound) {conversation : Conversation} {segment : Segment}
    (covered : segment.last.value.toNat ≤ history.ledger.issued conversation) :
    Sound { history with reserved := (conversation, segment) :: history.reserved } where
  inOrder := sound.inOrder
  floors := sound.floors
  -- Only the block that is new has to be covered, and it is as given.
  reserved := fun other block member => by
    rcases List.mem_cons.mp member with new | earlier
    · cases new
      exact covered
    · exact sound.reserved other block earlier

/-- A floor may be added that is covered. -/
theorem Sound.addFloor (sound : history.Sound) {conversation : Conversation} {floor : SequenceNumber}
    (covered : floor.value.toNat ≤ history.ledger.issued conversation) :
    Sound { history with floors := (conversation, floor) :: history.floors } where
  inOrder := sound.inOrder
  reserved := sound.reserved
  -- Only the floor that is new has to be covered.
  floors := fun other raised member => by
    rcases List.mem_cons.mp member with new | earlier
    · cases new
      exact covered
    · exact sound.floors other raised earlier

/-- A call leaves covered what was covered, and covers the block or the floor of its own. -/
theorem Sound.step (sound : history.Sound) (request : LedgerRequest) : (history.step request).Sound := by
  -- The marks rise, and then the call adds what it hands out or asks for.
  have rises := rises_step history request
  have order := inOrder_step sound.inOrder request
  unfold LedgerHistory.step at rises order ⊢
  cases asked : request.call with
  | reserve count =>
    rw [asked] at rises order
    rcases history.ledger.reserve_cases request.conversation count request.now with
      ⟨segment, after, answered, _, _, spans, issued⟩ | ⟨after, answered, _, _⟩
    · simp only [answered] at rises order ⊢
      have covered : segment.last.value.toNat ≤ after.issued request.conversation := by
        rw [issued]
        exact Nat.le_of_eq (congrArg Span.last spans)
      exact (sound.rise rises order).addBlock covered
    · simp only [answered] at rises order ⊢
      exact sound.rise rises order
  | raiseIssued floor =>
    rw [asked] at rises order
    have covered : floor.value.toNat ≤ (history.ledger.raiseIssued request.conversation floor
        request.now).issued request.conversation := by
      rw [Ledger.issued_raiseIssued]
      exact Nat.le_max_right _ _
    exact (sound.rise rises order).addFloor covered
  | raiseCommitted stored =>
    rw [asked] at rises order
    -- The highest stored number is reached, and the highest reserved one lies no lower.
    have reached := history.ledger.le_raiseCommitted request.conversation stored request.now
    have covered := Nat.le_trans (UInt64.le_iff_toNat_le.mp reached)
      (Ledger.InOrder.stored_le_issued order request.conversation)
    exact (sound.rise rises order).addFloor covered
  | raiseRetained floor =>
    rw [asked] at rises order
    exact sound.rise rises order

/-- Any calls leave covered what was covered. -/
theorem Sound.follow (sound : history.Sound) (requests : List LedgerRequest) :
    (history.follow requests).Sound := by
  -- One call is made after the other.
  induction requests generalizing history with
  | nil => exact sound
  | cons request requests ih => exact ih (sound.step request)

/-- In a history that is sound, what a call is for comes about. -/
theorem Sound.serves (sound : history.Sound) (request : LedgerRequest) : history.Serves request := by
  -- There is one case for each kind of call. Only a reservation needs to know what was covered.
  have order := inOrder_step sound.inOrder request
  unfold Serves
  unfold LedgerHistory.step at order ⊢
  cases asked : request.call with
  | reserve count =>
    dsimp only
    rcases history.ledger.reserve_cases request.conversation count request.now with
      ⟨segment, after, answered, positive, _, spans, issued⟩ | ⟨after, answered, refused, _⟩
    · simp only [answered]
      have starts : segment.first.value.toNat = history.ledger.issued request.conversation + 1 :=
        congrArg Span.first spans
      have ends : segment.last.value.toNat =
        history.ledger.issued request.conversation + count.toNat := congrArg Span.last spans
      refine ⟨Segment.length_of_span positive spans, starts, ends, ends.trans issued.symm,
        fun earlier member => ?_, fun floor member => ?_⟩
      · have covered := sound.reserved _ _ member
        rw [UInt64.lt_iff_toNat_lt]
        omega
      · have covered := sound.floors _ _ member
        rw [UInt64.lt_iff_toNat_lt]
        omega
    · have kept := Ledger.load_of_refused (congrArg Prod.fst answered)
      simp only [answered] at kept ⊢
      exact ⟨trivial, refused.imp_left fun zero => UInt64.toNat_inj.mp zero, kept⟩
  | raiseIssued floor =>
    exact ⟨_, Ledger.load_put_self _ _ _, Watermarks.le_raiseIssued _ floor request.now⟩
  | raiseCommitted stored =>
    rw [asked] at order
    have loaded := Ledger.load_put_self history.ledger request.conversation
      ((history.ledger.rowOrEmpty request.conversation request.now).raiseCommitted stored request.now)
    have reached := Watermarks.le_raiseCommitted
      (history.ledger.rowOrEmpty request.conversation request.now) stored request.now
    exact ⟨_, loaded, reached, UInt64.le_trans reached (order _ _ loaded).stored⟩
  | raiseRetained floor =>
    dsimp only
    intro before loaded
    simp only [Ledger.raiseRetained, loaded]
    exact ⟨_, Ledger.load_put_self _ _ _, Watermarks.le_raiseRetained before floor request.now⟩

end LedgerHistory

/-- Whatever calls were made on the ledger, its marks are in order, and one more call lets none of them
fall, leaves other conversations alone, and gives what it is for. -/
theorem ledger_marks_rise (earlier : List LedgerRequest) (request : LedgerRequest) :
    let history := LedgerHistory.start.follow earlier
    let after := (history.step request).ledger
    history.ledger.InOrder ∧ after.InOrder ∧ history.ledger.RisesTo after ∧
      (∀ other, other ≠ request.conversation → after.load other = history.ledger.load other) ∧
      history.Serves request := by
  -- Whatever the calls before it, they leave a history that is sound.
  intro history after
  have sound : history.Sound := LedgerHistory.sound_start.follow earlier
  exact ⟨sound.inOrder, (sound.step request).inOrder, history.rises_step request,
    fun _ differ => history.load_step_of_ne request differ, sound.serves request⟩

end Intake
