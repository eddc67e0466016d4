import Intake.Memory.Ledger
import Intake.Proofs.Numbering.Span

/-! Laws of the ledger: what each call does to the marks of a conversation, and that these stay in
order. -/

namespace Intake

namespace Watermarks

/-- The highest known number is the larger of the highest reserved and the highest stored one. -/
theorem highWater_toNat (row : Watermarks) :
    row.highWater.value.toNat = max row.issued.toNat row.committed.toNat := by
  -- Words are ordered as the natural numbers that they stand for.
  unfold highWater
  dsimp only
  split <;> (rename_i order; rw [UInt64.le_iff_toNat_le] at order; omega)

/-- Raising the highest reserved number does not lower the highest known one. -/
theorem highWater_le_raiseIssued (row : Watermarks) (floor : SequenceNumber) (now : Instant) :
    row.highWater.value.toNat ≤ (row.raiseIssued floor now).highWater.value.toNat := by
  -- The larger of the two marks is known, and only one of them moves, upwards.
  rw [highWater_toNat, highWater_toNat]
  unfold raiseIssued
  split
  · rename_i below
    rw [UInt64.lt_iff_toNat_lt] at below
    dsimp only
    omega
  · exact Nat.le_refl _

/-- Raising the highest reserved number takes the highest known one no further than the floor. -/
theorem highWater_raiseIssued_le (row : Watermarks) (floor : SequenceNumber) (now : Instant) :
    (row.raiseIssued floor now).highWater.value.toNat ≤
      max row.highWater.value.toNat floor.value.toNat := by
  -- The mark is raised to the floor or not at all.
  rw [highWater_toNat, highWater_toNat]
  unfold raiseIssued
  split
  · dsimp only
    omega
  · omega

/-- Raising the highest stored number does not lower the highest known one. -/
theorem highWater_le_raiseCommitted (row : Watermarks) (stored : SequenceNumber) (now : Instant) :
    row.highWater.value.toNat ≤ (row.raiseCommitted stored now).highWater.value.toNat := by
  -- A stored number above the reserved ones raises both marks to itself.
  rw [highWater_toNat, highWater_toNat]
  unfold raiseCommitted
  split
  · rename_i below
    rw [UInt64.lt_iff_toNat_lt] at below
    dsimp only
    split <;> (rename_i order; rw [UInt64.le_iff_toNat_le] at order; omega)
  · exact Nat.le_refl _

/-- Each mark is at most the one above it. -/
structure InOrder (row : Watermarks) : Prop where
  kept : row.retained ≤ row.committed
  stored : row.committed ≤ row.issued

/-- Watermarks in order are read as they were stored. -/
theorem InOrder.ofStored {row : Watermarks} (order : row.InOrder) :
    Watermarks.ofStored row.conversation row.issued row.committed row.retained row.updatedAt =
      .ok row := by
  -- Reading a row checks two comparisons, and both hold where the marks are in order.
  have sound : ¬ (row.committed < row.retained ∨ row.issued < row.committed) := by
    simp only [not_or, UInt64.not_lt]
    exact ⟨order.kept, order.stored⟩
  unfold Watermarks.ofStored
  rw [if_neg sound]

/-- Watermarks that are all zero are in order. -/
theorem inOrder_empty (conversation : Conversation) (now : Instant) :
    (empty conversation now).InOrder :=
  ⟨UInt64.le_refl _, UInt64.le_refl _⟩

/-- A reservation keeps the marks in order. -/
theorem InOrder.reserve {row after : Watermarks} {count : UInt64} {now : Instant} {segment : Segment}
    (order : row.InOrder) (reserved : row.reserve count now = some (segment, after)) :
    after.InOrder := by
  obtain ⟨block, built, same⟩ := Option.map_eq_some_iff.mp reserved
  cases same
  -- The block starts behind the highest reserved number, so that its end lies above it.
  obtain ⟨positive, _, spans⟩ := Segment.following?_eq_some.mp built
  have ends : segment.last.value.toNat = row.issued.toNat + count.toNat := congrArg Span.last spans
  have stored := order.stored
  refine ⟨order.kept, ?_⟩
  rw [UInt64.le_iff_toNat_le] at stored ⊢
  dsimp only
  omega

/-- Raising the highest reserved number keeps the marks in order. -/
theorem InOrder.raiseIssued {row : Watermarks} (order : row.InOrder) (floor : SequenceNumber)
    (now : Instant) : (row.raiseIssued floor now).InOrder := by
  -- Only the first mark moves, and it moves away from the others.
  unfold Watermarks.raiseIssued
  split
  · rename_i below
    exact ⟨order.kept, UInt64.le_trans order.stored (UInt64.le_of_lt below)⟩
  · exact order

/-- Raising the highest stored number keeps the marks in order. -/
theorem InOrder.raiseCommitted {row : Watermarks} (order : row.InOrder) (stored : SequenceNumber)
    (now : Instant) : (row.raiseCommitted stored now).InOrder := by
  unfold Watermarks.raiseCommitted
  split
  · rename_i below
    refine ⟨UInt64.le_trans order.kept (UInt64.le_of_lt below), ?_⟩
    -- The highest reserved number moves along where it would be passed.
    dsimp only
    split
    · exact UInt64.le_refl _
    · rename_i above
      exact UInt64.le_of_lt (UInt64.not_le.mp above)
  · exact order

/-- Raising the lowest kept number keeps the marks in order. -/
theorem InOrder.raiseRetained {row : Watermarks} (order : row.InOrder) (floor : SequenceNumber)
    (now : Instant) : (row.raiseRetained floor now).InOrder := by
  -- What it is raised to is no higher than the highest stored number.
  have bounded : (if floor.value ≤ row.committed then floor.value else row.committed) ≤
      row.committed := by
    split
    · assumption
    · exact UInt64.le_refl _
  unfold Watermarks.raiseRetained
  dsimp only
  generalize (if floor.value ≤ row.committed then floor.value else row.committed) = target at bounded ⊢
  split
  · exact ⟨bounded, order.stored⟩
  · exact order

end Watermarks

namespace Ledger

/-- The highest number reserved in a conversation, zero before the first one. -/
def issued (ledger : Ledger) (conversation : Conversation) : Nat :=
  ((ledger.load conversation).map (·.issued.toNat)).getD 0

/-- The highest reserved number is a word. -/
theorem issued_lt_size (ledger : Ledger) (conversation : Conversation) :
    ledger.issued conversation < UInt64.size := by
  -- Without watermarks nothing is reserved, and otherwise the mark is a word of its own.
  unfold issued
  cases ledger.load conversation with
  | none => decide
  | some row => exact row.issued.toNat_lt_size

/-- What is set for a conversation is loaded for it. -/
@[simp] theorem load_put_self (ledger : Ledger) (conversation : Conversation) (row : Watermarks) :
    (ledger.put conversation row).load conversation = some row := Table.find?_insert_self _ _ _

/-- Setting the watermarks of a conversation keeps those of the others. -/
theorem load_put_of_ne (ledger : Ledger) {conversation other : Conversation} (row : Watermarks)
    (differ : other ≠ conversation) :
    (ledger.put conversation row).load other = ledger.load other :=
  Table.find?_insert_of_ne _ _ differ

/-- The highest reserved number after the watermarks are set. -/
@[simp] theorem issued_put_self (ledger : Ledger) (conversation : Conversation)
    (row : Watermarks) : (ledger.put conversation row).issued conversation = row.issued.toNat := by
  simp [issued]

/-- Setting watermarks that do not lower the highest reserved number lowers it nowhere. -/
theorem issued_le_put {ledger : Ledger} {conversation : Conversation} {row : Watermarks}
    (risen : ledger.issued conversation ≤ row.issued.toNat) (other : Conversation) :
    ledger.issued other ≤ (ledger.put conversation row).issued other := by
  -- Only the conversation that is set has a new mark, and the others keep theirs.
  by_cases same : other = conversation
  · subst same; rwa [issued_put_self]
  · simp only [issued, load_put_of_ne _ _ same, Nat.le_refl]

/-- A conversation without watermarks has reserved nothing. -/
theorem rowOrEmpty_issued (ledger : Ledger) (conversation : Conversation) (now : Instant) :
    (ledger.rowOrEmpty conversation now).issued.toNat = ledger.issued conversation := by
  -- Watermarks made up for a conversation start at zero, as its highest number does.
  unfold rowOrEmpty issued
  cases ledger.load conversation <;> simp [Watermarks.empty]

/-- A reservation answers the block after the highest reserved number, which then ends the block,
or fails and reserves nothing. -/
theorem reserve_cases (ledger : Ledger) (conversation : Conversation) (count : UInt64)
    (now : Instant) :
    (∃ segment after, ledger.reserve conversation count now = (.ok segment, after) ∧
      0 < count.toNat ∧ ledger.issued conversation + count.toNat < UInt64.size ∧
      segment.span =
        ⟨ledger.issued conversation + 1, ledger.issued conversation + count.toNat⟩ ∧
      after.issued conversation = ledger.issued conversation + count.toNat) ∨
    (∃ after, ledger.reserve conversation count now = (.error (.overflow conversation), after) ∧
      (count.toNat = 0 ∨ UInt64.size ≤ ledger.issued conversation + count.toNat) ∧
      after.issued conversation = ledger.issued conversation) := by
  -- The row does not depend on how often numbers were asked for.
  have row : (Ledger.rowOrEmpty { ledger with reservations := ledger.reservations + 1 }
      conversation now) = ledger.rowOrEmpty conversation now := rfl
  have start := ledger.rowOrEmpty_issued conversation now
  unfold reserve Watermarks.reserve
  dsimp only
  rw [row]
  cases built : Segment.following? (ledger.rowOrEmpty conversation now).issued count with
  -- The block starts after the mark as it stood, and its end is the new mark.
  | some segment =>
    obtain ⟨positive, fits, spans⟩ := Segment.following?_eq_some.mp built
    rw [start] at fits spans
    refine .inl ⟨segment, _, rfl, positive, fits, spans, ?_⟩
    rw [issued_put_self]
    exact congrArg Span.last spans
  -- A block that does not fit is not reserved, and the row is set as it was.
  | none =>
    have refused := Segment.following?_eq_none.mp built
    rw [start] at refused
    exact .inr ⟨_, rfl, refused, by rw [issued_put_self, start]⟩

/-- A reservation leaves other conversations alone. -/
theorem load_reserve_of_ne (ledger : Ledger) {conversation other : Conversation}
    (count : UInt64) (now : Instant) (differ : other ≠ conversation) :
    (ledger.reserve conversation count now).2.load other = ledger.load other := by
  -- Whether or not the block fits, only the watermarks of the conversation are set.
  unfold reserve
  dsimp only
  split <;> exact load_put_of_ne _ _ differ

/-- A reservation moves the highest reserved number of its own conversation only. -/
theorem issued_reserve_of_ne (ledger : Ledger) {conversation other : Conversation}
    (count : UInt64) (now : Instant) (differ : other ≠ conversation) :
    (ledger.reserve conversation count now).2.issued other = ledger.issued other := by
  unfold issued
  rw [load_reserve_of_ne _ _ _ differ]

/-- A reservation lowers the highest reserved number nowhere. -/
theorem issued_le_reserve (ledger : Ledger) (conversation other : Conversation) (count : UInt64)
    (now : Instant) : ledger.issued other ≤ (ledger.reserve conversation count now).2.issued other := by
  -- In its own conversation a reservation moves the mark to the end of the block, if it fits.
  by_cases same : other = conversation
  · subst same
    rcases ledger.reserve_cases other count now with
      ⟨_, after, reserved, _, _, _, issued⟩ | ⟨after, refused, _, issued⟩
    · rw [reserved]; dsimp only; omega
    · rw [refused]; dsimp only; omega
  · exact Nat.le_of_eq (ledger.issued_reserve_of_ne count now same).symm

/-- Raising the highest reserved number takes the larger of it and the floor. -/
theorem issued_raiseIssued (ledger : Ledger) (conversation : Conversation)
    (floor : SequenceNumber) (now : Instant) :
    (ledger.raiseIssued conversation floor now).issued conversation =
      max (ledger.issued conversation) floor.value.toNat := by
  -- A floor below the mark changes nothing.
  have start := ledger.rowOrEmpty_issued conversation now
  unfold raiseIssued Watermarks.raiseIssued
  rw [issued_put_self]
  split
  · rename_i below
    rw [UInt64.lt_iff_toNat_lt] at below
    dsimp only
    omega
  · rename_i above
    rw [UInt64.lt_iff_toNat_lt] at above
    omega

/-- Raising the highest reserved number lowers it nowhere. -/
theorem issued_le_raiseIssued (ledger : Ledger) (conversation other : Conversation)
    (floor : SequenceNumber) (now : Instant) :
    ledger.issued other ≤ (ledger.raiseIssued conversation floor now).issued other := by
  -- The mark becomes a maximum of which it was a part.
  refine issued_le_put ?_ other
  have raised := ledger.issued_raiseIssued conversation floor now
  unfold raiseIssued at raised
  rw [issued_put_self] at raised
  omega

/-- Raising the highest stored number lowers the highest reserved one nowhere. -/
theorem issued_le_raiseCommitted (ledger : Ledger) (conversation other : Conversation)
    (stored : SequenceNumber) (now : Instant) :
    ledger.issued other ≤ (ledger.raiseCommitted conversation stored now).issued other := by
  -- A stored number that was not reserved counts as reserved from then on.
  refine issued_le_put ?_ other
  have start := ledger.rowOrEmpty_issued conversation now
  unfold Watermarks.raiseCommitted
  split
  · dsimp only
    split
    · rename_i below
      rw [UInt64.le_iff_toNat_le] at below
      omega
    · omega
  · omega

/-- A stored number that was reserved leaves the highest reserved one as it is. -/
theorem issued_raiseCommitted_of_le {ledger : Ledger} {conversation : Conversation}
    {stored : SequenceNumber} (reserved : stored.value.toNat ≤ ledger.issued conversation)
    (now : Instant) :
    (ledger.raiseCommitted conversation stored now).issued conversation =
      ledger.issued conversation := by
  -- The highest reserved number only moves up to a stored one that reaches it.
  have start := ledger.rowOrEmpty_issued conversation now
  unfold raiseCommitted Watermarks.raiseCommitted
  rw [issued_put_self]
  split
  · dsimp only
    split
    · rename_i reached
      rw [UInt64.le_iff_toNat_le] at reached
      omega
    · exact start
  · exact start

/-- Raising the highest stored number leaves other conversations alone. -/
theorem load_raiseCommitted_of_ne (ledger : Ledger) {conversation other : Conversation}
    (stored : SequenceNumber) (now : Instant) (differ : other ≠ conversation) :
    (ledger.raiseCommitted conversation stored now).load other = ledger.load other :=
  load_put_of_ne _ _ differ

/-- Raising the lowest kept number leaves other conversations alone. -/
theorem load_raiseRetained_of_ne (ledger : Ledger) {conversation other : Conversation}
    (floor : SequenceNumber) (now : Instant) (differ : other ≠ conversation) :
    (ledger.raiseRetained conversation floor now).load other = ledger.load other := by
  -- The row is put only where there was one, and then under its own conversation.
  unfold raiseRetained
  split
  · exact load_put_of_ne _ _ differ
  · rfl

/-- Raising the lowest kept number leaves the highest reserved one alone. -/
theorem issued_raiseRetained (ledger : Ledger) (conversation other : Conversation)
    (floor : SequenceNumber) (now : Instant) :
    (ledger.raiseRetained conversation floor now).issued other = ledger.issued other := by
  -- The lowest kept number is another column of the row, and without a row there is none to set.
  unfold raiseRetained
  cases loaded : ledger.load conversation with
  | none => rfl
  | some row =>
    by_cases same : other = conversation
    · subst same
      dsimp only
      rw [issued_put_self]
      simp only [issued, loaded, Option.map_some, Option.getD_some, Watermarks.raiseRetained]
      split <;> split <;> rfl
    · simp only [issued, load_put_of_ne _ _ same]

/-- The highest number of a conversation that the ledger knows of, at which counters are started. -/
def highWater (ledger : Ledger) (conversation : Conversation) : UInt64 :=
  (((ledger.load conversation).map Watermarks.highWater).getD SequenceNumber.zero).value

/-- The highest number known after the watermarks are set. -/
theorem highWater_put (ledger : Ledger) (conversation : Conversation) (row : Watermarks) :
    (ledger.put conversation row).highWater conversation = row.highWater.value := by
  simp [highWater]

/-- Of a conversation without watermarks no number is known. -/
theorem rowOrEmpty_highWater (ledger : Ledger) (conversation : Conversation) (now : Instant) :
    (ledger.rowOrEmpty conversation now).highWater.value = ledger.highWater conversation := by
  -- Watermarks made up for a conversation know of no number.
  unfold rowOrEmpty highWater
  cases ledger.load conversation <;> rfl

/-- Raising the highest reserved number lowers the highest known one nowhere. -/
theorem highWater_le_raiseIssued (ledger : Ledger) (conversation : Conversation)
    (floor : SequenceNumber) (now : Instant) :
    (ledger.highWater conversation).toNat ≤
      ((ledger.raiseIssued conversation floor now).highWater conversation).toNat := by
  -- A conversation without a row counts as one that knows of no number.
  unfold raiseIssued
  rw [highWater_put, ← ledger.rowOrEmpty_highWater conversation now]
  exact Watermarks.highWater_le_raiseIssued _ _ _

/-- Raising the highest reserved number takes the highest known one no further than the floor. -/
theorem highWater_raiseIssued_le (ledger : Ledger) (conversation : Conversation)
    (floor : SequenceNumber) (now : Instant) :
    ((ledger.raiseIssued conversation floor now).highWater conversation).toNat ≤
      max (ledger.highWater conversation).toNat floor.value.toNat := by
  -- Of the marks only the reserved one moves, and that to the floor.
  unfold raiseIssued
  rw [highWater_put, ← ledger.rowOrEmpty_highWater conversation now]
  exact Watermarks.highWater_raiseIssued_le _ _ _

/-- Raising the highest stored number lowers the highest known one nowhere. -/
theorem highWater_le_raiseCommitted (ledger : Ledger) (conversation : Conversation)
    (stored : SequenceNumber) (now : Instant) :
    (ledger.highWater conversation).toNat ≤
      ((ledger.raiseCommitted conversation stored now).highWater conversation).toNat := by
  -- As before, what is raised is a row that was there or one without numbers.
  unfold raiseCommitted
  rw [highWater_put, ← ledger.rowOrEmpty_highWater conversation now]
  exact Watermarks.highWater_le_raiseCommitted _ _ _

/-- A stored number that is known leaves the highest known one as it is. -/
theorem highWater_raiseCommitted_of_le {ledger : Ledger} {conversation : Conversation}
    {stored : SequenceNumber} (known : stored.value.toNat ≤ (ledger.highWater conversation).toNat)
    (now : Instant) :
    ((ledger.raiseCommitted conversation stored now).highWater conversation).toNat =
      (ledger.highWater conversation).toNat := by
  -- Both marks are at most the larger one, and what is raised to the stored number is no larger.
  rw [← ledger.rowOrEmpty_highWater conversation now, Watermarks.highWater_toNat] at known ⊢
  unfold raiseCommitted
  rw [highWater_put, Watermarks.highWater_toNat]
  unfold Watermarks.raiseCommitted
  split
  · rename_i below
    rw [UInt64.lt_iff_toNat_lt] at below
    dsimp only
    split <;> (rename_i order; rw [UInt64.le_iff_toNat_le] at order; omega)
  · rfl

/-- The highest stored and the lowest kept number of a conversation, zero before there are any. -/
def storedMarks (ledger : Ledger) (conversation : Conversation) : UInt64 × UInt64 :=
  ((ledger.load conversation).map fun row => (row.committed, row.retained)).getD (0, 0)

/-- The marks of what is stored after the watermarks are set. -/
theorem storedMarks_put (ledger : Ledger) (conversation : Conversation) (row : Watermarks) :
    (ledger.put conversation row).storedMarks conversation = (row.committed, row.retained) := by
  simp [storedMarks]

/-- In a conversation without watermarks nothing is stored. -/
theorem rowOrEmpty_storedMarks (ledger : Ledger) (conversation : Conversation) (now : Instant) :
    ((ledger.rowOrEmpty conversation now).committed, (ledger.rowOrEmpty conversation now).retained) =
      ledger.storedMarks conversation := by
  unfold rowOrEmpty storedMarks
  cases ledger.load conversation <;> rfl

/-- A reservation leaves the marks of what is stored alone. -/
theorem storedMarks_reserve (ledger : Ledger) (conversation : Conversation) (count : UInt64)
    (now : Instant) : (ledger.reserve conversation count now).2.storedMarks conversation =
      ledger.storedMarks conversation := by
  -- Reserving counts the call and moves the mark of the issued numbers, neither of which is a stored
  -- mark.
  rw [← ledger.rowOrEmpty_storedMarks conversation now]
  unfold reserve Watermarks.reserve
  dsimp only
  cases Segment.following? (Ledger.rowOrEmpty { ledger with reservations := ledger.reservations + 1 }
    conversation now).issued count with
  | none => exact storedMarks_put _ _ _
  | some segment => exact storedMarks_put _ _ _

/-- Raising the highest reserved number leaves the marks of what is stored alone. -/
theorem storedMarks_raiseIssued (ledger : Ledger) (conversation : Conversation)
    (floor : SequenceNumber) (now : Instant) :
    (ledger.raiseIssued conversation floor now).storedMarks conversation =
      ledger.storedMarks conversation := by
  -- The mark of the issued numbers is not among the stored ones.
  rw [← ledger.rowOrEmpty_storedMarks conversation now]
  unfold raiseIssued Watermarks.raiseIssued
  rw [storedMarks_put]
  split <;> rfl

/-- Raising the highest stored number takes it to the given one at least. -/
theorem le_raiseCommitted (ledger : Ledger) (conversation : Conversation) (stored : SequenceNumber)
    (now : Instant) :
    stored.value ≤ ((ledger.raiseCommitted conversation stored now).storedMarks conversation).1 := by
  -- Either the mark is set to the number, or it was past it already.
  unfold raiseCommitted Watermarks.raiseCommitted
  rw [storedMarks_put]
  split
  · exact UInt64.le_refl _
  · rename_i reached
    exact UInt64.not_lt.mp reached

/-- The watermarks of every conversation are in order. -/
def InOrder (ledger : Ledger) : Prop :=
  ∀ conversation row, ledger.load conversation = some row → row.InOrder

namespace InOrder

variable {ledger : Ledger}

/-- Where there are no watermarks, none are out of order. -/
theorem empty : InOrder .empty := by
  intro conversation row found
  cases found

/-- The watermarks of a conversation, or those made up for it, are in order. -/
theorem rowOrEmpty (order : ledger.InOrder) (conversation : Conversation) (now : Instant) :
    (ledger.rowOrEmpty conversation now).InOrder := by
  -- A row that is not there yet starts with all marks at zero, which are in order.
  unfold Ledger.rowOrEmpty
  cases found : ledger.load conversation with
  | none => exact Watermarks.inOrder_empty conversation now
  | some row => exact order conversation row found

/-- Watermarks in order may be set. -/
theorem put (order : ledger.InOrder) {row : Watermarks} (sound : row.InOrder)
    (conversation : Conversation) : (ledger.put conversation row).InOrder := by
  -- The row that was put is in order as given, the others are as before.
  intro other found loaded
  by_cases same : other = conversation
  · subst same
    rw [load_put_self] at loaded
    cases loaded
    exact sound
  · rw [load_put_of_ne _ _ same] at loaded
    exact order other found loaded

/-- A reservation keeps all watermarks in order. -/
theorem reserve (order : ledger.InOrder) (conversation : Conversation) (count : UInt64)
    (now : Instant) : (ledger.reserve conversation count now).2.InOrder := by
  -- How often numbers were asked for makes no difference to the watermarks.
  have counted : InOrder { ledger with reservations := ledger.reservations + 1 } := order
  have sound := counted.rowOrEmpty conversation now
  unfold Ledger.reserve
  dsimp only
  split
  · rename_i reserved
    exact counted.put (sound.reserve reserved) conversation
  · exact counted.put sound conversation

/-- Raising the highest reserved number keeps all watermarks in order. -/
theorem raiseIssued (order : ledger.InOrder) (conversation : Conversation) (floor : SequenceNumber)
    (now : Instant) : (ledger.raiseIssued conversation floor now).InOrder :=
  order.put ((order.rowOrEmpty conversation now).raiseIssued floor now) conversation

/-- Raising the highest stored number keeps all watermarks in order. -/
theorem raiseCommitted (order : ledger.InOrder) (conversation : Conversation)
    (stored : SequenceNumber) (now : Instant) :
    (ledger.raiseCommitted conversation stored now).InOrder :=
  order.put ((order.rowOrEmpty conversation now).raiseCommitted stored now) conversation

/-- Raising the lowest kept number keeps all watermarks in order. -/
theorem raiseRetained (order : ledger.InOrder) (conversation : Conversation)
    (floor : SequenceNumber) (now : Instant) :
    (ledger.raiseRetained conversation floor now).InOrder := by
  -- A conversation without a row has nothing to raise.
  unfold Ledger.raiseRetained
  cases found : ledger.load conversation with
  | none => exact order
  | some row => exact order.put ((order conversation row found).raiseRetained floor now) conversation

/-- What is known to be stored was reserved. -/
theorem stored_le_issued (order : ledger.InOrder) (conversation : Conversation) :
    (ledger.storedMarks conversation).1.toNat ≤ ledger.issued conversation := by
  -- Without a row both marks are zero.
  unfold storedMarks issued
  cases found : ledger.load conversation with
  | none => exact Nat.le_refl 0
  | some row => exact UInt64.le_iff_toNat_le.mp (order conversation row found).stored

end InOrder

end Ledger

end Intake
