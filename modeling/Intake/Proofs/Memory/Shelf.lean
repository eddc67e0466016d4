import Intake.Proofs.Memory.MessageStore

/-! The shelves of the message store hold the places of exactly what is stored, so that reading a
conversation finds all of its messages. -/

namespace Intake

namespace Shelf

variable {shelf : Shelf} {sequence : SequenceNumber} {serverId : ServerId}

/-- Putting an identifier on a shelf adds it, and takes none away. -/
@[simp] theorem mem_insert {entry : SequenceNumber × ServerId} :
    entry ∈ shelf.insert sequence serverId ↔ entry = (sequence, serverId) ∨ entry ∈ shelf := by
  -- The induction is on the shelf, down to the place where the entry is put.
  induction shelf with
  | nil => simp [insert]
  | cons first rest ih =>
    unfold insert
    split
    · simp
    · simp only [List.mem_cons, ih]
      constructor
      · rintro (here | added | behind)
        · exact .inr (.inl here)
        · exact .inl added
        · exact .inr (.inr behind)
      · rintro (added | here | behind)
        · exact .inr (.inl added)
        · exact .inl here
        · exact .inr (.inr behind)

end Shelf

namespace MessageStore

variable {store : MessageStore}

/-- An insert is refused and changes nothing, or adds a message whose key and identifier were free. -/
theorem insert_adds (store : MessageStore) (message : Message) :
    (∃ failure, store.insert message = (.error failure, store)) ∨
      (store.findByKey message.key = none ∧ store.findByServerId message.serverId = none ∧
        store.insert message = (.ok (), store.add message)) := by
  -- The key, the identifier and the place are tried in this order, and only then the message is added.
  unfold insert
  dsimp only
  split
  · exact .inl ⟨_, rfl⟩
  · rename_i keyFree
    split
    · exact .inl ⟨_, rfl⟩
    · rename_i idFree
      split
      · exact .inl ⟨_, rfl⟩
      · have unfiled : store.byKey.find? message.key = none := by simpa using keyFree
        exact .inr ⟨by simp [findByKey, unfiled], by simpa [findByServerId] using idFree, rfl⟩

/-- What is refused is not stored. -/
theorem kept_of_refused {message : Message} {failure : StoreError}
    (refused : (store.insert message).1 = .error failure) : (store.insert message).2 = store := by
  -- An insert either answers a failure and leaves the store, or adds the message.
  rcases store.insert_adds message with ⟨_, same⟩ | ⟨_, _, added⟩
  · exact congrArg Prod.snd same
  · rw [added] at refused
    cases refused

/-- What is stored has a key that was free. -/
theorem free_of_stored {message : Message} (stored : (store.insert message).1 = .ok ()) :
    store.findByKey message.key = none := by
  -- Only the second of the two ways in which an insert ends is a success.
  rcases store.insert_adds message with ⟨failure, refused⟩ | ⟨keyFree, _, _⟩
  · rw [refused] at stored
    cases stored
  · exact keyFree

/-- On the shelf of a conversation stand the identifiers of its stored messages, at their numbers. -/
def Shelved (store : MessageStore) : Prop :=
  ∀ conversation sequence serverId, (sequence, serverId) ∈ store.shelf conversation ↔
    ∃ message, store.findByServerId serverId = some message ∧
      message.conversation = conversation ∧ message.sequence = sequence

/-- The shelves of the store without messages are empty. -/
theorem shelved_empty : empty.Shelved := by
  intro conversation sequence serverId
  simp [empty, shelf, findByServerId]

/-- A message that is added is put on the shelf of its conversation. -/
theorem Shelved.add (shelved : store.Shelved) {message : Message}
    (idFree : store.findByServerId message.serverId = none) : (store.add message).Shelved := by
  intro conversation sequence serverId
  rw [shelf_add, findByServerId_add]
  -- What stood on a shelf before belongs to a stored message, which has another identifier.
  have before := shelved conversation sequence serverId
  by_cases new : serverId = message.serverId
  · subst new
    have unshelved : (sequence, message.serverId) ∉ store.shelf conversation := by
      rw [before]
      rintro ⟨stored, found, _⟩
      rw [idFree] at found
      cases found
    by_cases here : conversation = message.conversation
    · subst here
      simp [unshelved, eq_comm]
    · simp [here, unshelved, Ne.symm here]
  · by_cases here : conversation = message.conversation
    · subst here
      simp [new, before]
    · simp [here, new, before]

/-- An insert leaves all that is stored on the shelves. -/
theorem Shelved.insert (shelved : store.Shelved) (message : Message) :
    (store.insert message).2.Shelved := by
  -- A refused insert leaves the shelves as they are.
  rcases store.insert_adds message with ⟨failure, refused⟩ | ⟨_, idFree, added⟩
  · rwa [refused]
  · rw [added]
    exact shelved.add idFree

/-- A stored message is listed when its conversation is read from before its number and far enough. -/
theorem Shelved.listed (shelved : store.Shelved) {message : Message}
    (found : store.findByServerId message.serverId = some message) {cursor : SequenceNumber}
    (behind : cursor.value < message.sequence.value) {limit : Nat}
    (room : (store.shelf message.conversation).length ≤ limit) :
    message ∈ store.findAfter message.conversation cursor limit := by
  have onShelf := (shelved _ _ _).mpr ⟨message, found, rfl, rfl⟩
  have after : cursor.next.value ≤ message.sequence.value := by
    have bounded := message.sequence.value.toNat_lt
    rw [UInt64.lt_iff_toNat_lt] at behind
    rw [UInt64.le_iff_toNat_le]
    unfold SequenceNumber.next Word.saturatingAdd Word.clamp
    split
    · rename_i small
      simp only [UInt64.toNat_ofNat', UInt64.toNat_one] at small ⊢
      omega
    · simp only [UInt64.toNat_one, UInt64.size] at *
      omega
  unfold findAfter
  dsimp only
  rw [List.mem_filterMap]
  refine ⟨(message.sequence, message.serverId), ?_, found⟩
  -- All that is behind the cursor fits, so none of it is left out.
  rw [List.take_of_length_le (Nat.le_trans (List.length_filter_le _ _) room), List.mem_filter]
  exact ⟨onShelf, decide_eq_true after⟩

/-- What is listed for a conversation is stored, and belongs to the conversation. -/
theorem Shelved.of_listed (shelved : store.Shelved) (consistent : store.Consistent)
    {conversation : Conversation} {cursor : SequenceNumber} {limit : Nat} {message : Message}
    (listed : message ∈ store.findAfter conversation cursor limit) :
    store.findByServerId message.serverId = some message ∧ message.conversation = conversation := by
  -- What is listed stands on the shelf, and under its identifier the store holds that very message.
  obtain ⟨⟨sequence, serverId⟩, chosen, found⟩ := List.mem_filterMap.mp listed
  have onShelf := (List.mem_filter.mp (List.mem_of_mem_take chosen)).1
  obtain ⟨stored, atId, here, _⟩ := (shelved conversation sequence serverId).mp onShelf
  obtain rfl : stored = message := Option.some.inj (atId.symm.trans found)
  have named := (consistent.filed serverId stored atId).1
  exact ⟨named ▸ atId, here⟩

end MessageStore

end Intake
