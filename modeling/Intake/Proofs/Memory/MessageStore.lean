import Intake.Memory.MessageStore

/-! Laws of the message store: its indexes agree, and what is stored stays as it is. -/

namespace Intake

namespace Shelf

variable {shelf : Shelf} {sequence : SequenceNumber}

/-- A number above all that a shelf holds is not on it. -/
theorem holds_of_above (above : ∀ entry ∈ shelf, entry.1.value < sequence.value) :
    shelf.holds sequence = false := by
  -- A place on the shelf would be below itself.
  unfold holds
  rw [List.any_eq_false]
  intro entry member same
  have below := above entry member
  rw [of_decide_eq_true same] at below
  exact UInt64.lt_irrefl _ below

/-- A number above all that a shelf holds is put at its end. -/
theorem insert_of_above (above : ∀ entry ∈ shelf, entry.1.value < sequence.value)
    (serverId : ServerId) : shelf.insert sequence serverId = shelf ++ [(sequence, serverId)] := by
  induction shelf with
  | nil => rfl
  | cons entry rest ih =>
    -- The number is not put before the first entry, and the rest holds no larger one either.
    have first := UInt64.lt_asymm (above entry List.mem_cons_self)
    have others := ih fun other member => above other (List.mem_cons_of_mem _ member)
    rw [Shelf.insert, if_neg first, others]
    rfl

end Shelf

namespace MessageStore

/-- The messages and the index by key describe the same rows. -/
structure Consistent (store : MessageStore) : Prop where
  filed : ∀ serverId message, store.messages.find? serverId = some message →
    message.serverId = serverId ∧ store.byKey.find? message.key = some serverId
  backed : ∀ key serverId, store.byKey.find? key = some serverId →
    ∃ message, store.messages.find? serverId = some message ∧ message.key = key

/-- The store without messages is consistent. -/
theorem consistent_empty : Consistent empty where
  filed := by simp [empty]
  backed := by simp [empty]

/-- What an insert answers and leaves: the store as it was with an error for something taken, or
the store with one more message, whose key and identifier were free. -/
theorem insert_cases (store : MessageStore) (message : Message) :
    (∃ failure, store.insert message = (.error failure, store) ∧
      (failure = .duplicateClientMessage message.key ∨
        failure = .duplicateServerId message.serverId ∨
        failure = .duplicateSequence message.conversation message.sequence)) ∨
    (store.byKey.find? message.key = none ∧ store.messages.find? message.serverId = none ∧
      ∃ after, store.insert message = (.ok (), after) ∧
        after.messages = store.messages.insert message.serverId message ∧
        after.byKey = store.byKey.insert message.key message.serverId) := by
  -- The checks come in this order: the key, then the identifier, then the sequence number.
  unfold insert
  dsimp only
  split
  · exact .inl ⟨_, rfl, .inl rfl⟩
  · rename_i keyFree
    split
    · exact .inl ⟨_, rfl, .inr (.inl rfl)⟩
    · rename_i idFree
      split
      · exact .inl ⟨_, rfl, .inr (.inr rfl)⟩
      · exact .inr ⟨by simpa using keyFree, by simpa using idFree, _, rfl, rfl, rfl⟩

/-- A stored message is the only one under its key. -/
theorem Consistent.unique {store : MessageStore} (consistent : store.Consistent)
    {first second : ServerId} {one two : Message} (atFirst : store.findByServerId first = some one)
    (atSecond : store.findByServerId second = some two) (sameKey : one.key = two.key) :
    first = second ∧ one = two := by
  -- Both messages are filed under the one key, which the index holds one identifier for.
  have filedOne := (consistent.filed first one atFirst).2
  have filedTwo := (consistent.filed second two atSecond).2
  rw [sameKey, filedTwo] at filedOne
  cases filedOne
  exact ⟨rfl, by simpa [findByServerId] using atFirst.symm.trans atSecond⟩

/-- A message found under a key has that key. -/
theorem Consistent.key_of_found {store : MessageStore} (consistent : store.Consistent)
    {key : ClaimKey} {row : Message} (found : store.findByKey key = some row) : row.key = key := by
  -- The identifier that the index holds for a key is backed by a message with that key.
  obtain ⟨serverId, atKey, atId⟩ := Option.bind_eq_some_iff.mp found
  obtain ⟨message, stored, same⟩ := consistent.backed key serverId atKey
  rw [stored] at atId
  cases atId
  exact same

/-- An insert keeps the store consistent. -/
theorem Consistent.insert {store : MessageStore} (consistent : store.Consistent)
    (message : Message) : (store.insert message).2.Consistent := by
  -- A refused insert changes nothing. A message that is stored enters both indexes at once.
  rcases insert_cases store message with
    ⟨failure, refused, _⟩ | ⟨keyFree, idFree, after, stored, messages, byKey⟩
  · rwa [refused]
  · rw [stored]
    constructor
    · intro serverId row found
      rw [messages] at found
      by_cases same : serverId = message.serverId
      · subst same
        simp only [Table.find?_insert_self, Option.some.injEq] at found
        subst found
        exact ⟨rfl, by rw [byKey]; simp⟩
      · rw [Table.find?_insert_of_ne _ _ same] at found
        obtain ⟨named, atKey⟩ := consistent.filed serverId row found
        -- The new key was free, so no earlier row has it.
        have differ : row.key ≠ message.key := by
          intro equal; rw [equal, keyFree] at atKey; cases atKey
        exact ⟨named, by rw [byKey, Table.find?_insert_of_ne _ _ differ]; exact atKey⟩
    -- A key stands either for the new message, or for an earlier one with another identifier.
    · intro key serverId atKey
      rw [byKey] at atKey
      by_cases same : key = message.key
      · subst same
        simp only [Table.find?_insert_self, Option.some.injEq] at atKey
        subst atKey
        exact ⟨message, by rw [messages]; simp, rfl⟩
      · rw [Table.find?_insert_of_ne _ _ same] at atKey
        obtain ⟨row, found, named⟩ := consistent.backed key serverId atKey
        have differ : serverId ≠ message.serverId := by
          intro equal; rw [equal, idFree] at found; cases found
        exact ⟨row, by rw [messages, Table.find?_insert_of_ne _ _ differ]; exact found, named⟩

/-- A message found under a key is found there after every insert. -/
theorem findByKey_insert {store : MessageStore} {key : ClaimKey} {row : Message}
    (found : store.findByKey key = some row) (message : Message) :
    (store.insert message).2.findByKey key = some row := by
  -- What is found goes from the key to an identifier to a message, and a new one has neither.
  rcases insert_cases store message with
    ⟨failure, refused, _⟩ | ⟨keyFree, idFree, after, stored, messages, byKey⟩
  · rwa [refused]
  · rw [stored]
    obtain ⟨serverId, atKey, atId⟩ := Option.bind_eq_some_iff.mp found
    have otherKey : key ≠ message.key := by intro equal; rw [equal, keyFree] at atKey; cases atKey
    have otherId : serverId ≠ message.serverId := by
      intro equal; rw [equal, idFree] at atId; cases atId
    unfold findByKey
    rw [byKey, Table.find?_insert_of_ne _ _ otherKey, atKey, Option.bind_some, messages,
      Table.find?_insert_of_ne _ _ otherId]
    exact atId

/-- A message whose insert succeeds is found under its key. -/
theorem findByKey_of_inserted {store : MessageStore} {message : Message}
    (succeeded : (store.insert message).1 = .ok ()) :
    (store.insert message).2.findByKey message.key = some message := by
  -- The message was entered in both indexes.
  rcases insert_cases store message with
    ⟨failure, refused, _⟩ | ⟨keyFree, idFree, after, stored, messages, byKey⟩
  · rw [refused] at succeeded; cases succeeded
  · rw [stored]
    simp [findByKey, messages, byKey]

/-- A message found under a key after an insert was found there before, or was inserted. -/
theorem findByKey_of_insert {store : MessageStore} (consistent : store.Consistent)
    {message : Message} {key : ClaimKey} {row : Message}
    (found : (store.insert message).2.findByKey key = some row) :
    store.findByKey key = some row ∨ (key = message.key ∧ row = message) := by
  -- The new message is what its key leads to, and every other key leads to where it did.
  rcases insert_cases store message with
    ⟨failure, refused, _⟩ | ⟨keyFree, idFree, after, stored, messages, byKey⟩
  · rw [refused] at found
    exact .inl found
  · by_cases same : key = message.key
    · subst same
      have succeeded : (store.insert message).1 = .ok () := by rw [stored]
      rw [findByKey_of_inserted succeeded] at found
      exact .inr ⟨rfl, (Option.some.inj found).symm⟩
    · obtain ⟨serverId, atKey, atId⟩ := Option.bind_eq_some_iff.mp found
      rw [stored, byKey, Table.find?_insert_of_ne _ _ same] at atKey
      obtain ⟨earlier, backed, _⟩ := consistent.backed key serverId atKey
      have otherId : serverId ≠ message.serverId := by
        intro equal; rw [equal, idFree] at backed; cases backed
      rw [stored, messages, Table.find?_insert_of_ne _ _ otherId] at atId
      exact .inl (Option.bind_eq_some_iff.mpr ⟨serverId, atKey, atId⟩)

/-- A message stored under an identifier is stored there after every insert. -/
theorem findByServerId_insert {store : MessageStore} {serverId : ServerId} {row : Message}
    (found : store.findByServerId serverId = some row) (message : Message) :
    (store.insert message).2.findByServerId serverId = some row := by
  -- A new message has an identifier that was free.
  rcases insert_cases store message with
    ⟨failure, refused, _⟩ | ⟨keyFree, idFree, after, stored, messages, byKey⟩
  · rwa [refused]
  · rw [stored]
    have otherId : serverId ≠ message.serverId := by
      rintro rfl; rw [findByServerId, idFree] at found; cases found
    unfold findByServerId
    rw [messages, Table.find?_insert_of_ne _ _ otherId]
    exact found

/-- A message stored under an identifier after an insert was stored there before, or was inserted, and
then its key was free. -/
theorem findByServerId_of_insert {store : MessageStore} {message : Message} {serverId : ServerId}
    {row : Message} (found : (store.insert message).2.findByServerId serverId = some row) :
    store.findByServerId serverId = some row ∨
      (row = message ∧ store.findByKey message.key = none) := by
  -- Only the identifier of the new message leads to another message than before.
  rcases insert_cases store message with
    ⟨failure, refused, _⟩ | ⟨keyFree, idFree, after, stored, messages, byKey⟩
  · rw [refused] at found
    exact .inl found
  · unfold findByServerId at found ⊢
    rw [stored, messages] at found
    by_cases same : serverId = message.serverId
    · subst same
      rw [Table.find?_insert_self] at found
      exact .inr ⟨(Option.some.inj found).symm, by simp [findByKey, keyFree]⟩
    · rw [Table.find?_insert_of_ne _ _ same] at found
      exact .inl found

/-- An insert under a key that is taken is refused for the key. -/
theorem insert_of_taken {store : MessageStore} {message row : Message}
    (taken : store.findByKey message.key = some row) :
    store.insert message = (.error (.duplicateClientMessage message.key), store) := by
  -- The key is the first thing that an insert checks.
  obtain ⟨serverId, atKey, _⟩ := Option.bind_eq_some_iff.mp taken
  simp [insert, atKey]

/-- An insert that is refused for its key finds a message under it. -/
theorem Consistent.taken_of_refused {store : MessageStore} (consistent : store.Consistent)
    {message : Message} {key : ClaimKey}
    (refused : (store.insert message).1 = .error (.duplicateClientMessage key)) :
    ∃ row, store.findByKey message.key = some row := by
  -- The key leads to an identifier, which is backed by a message.
  unfold MessageStore.insert at refused
  dsimp only at refused
  split at refused
  · rename_i taken
    obtain ⟨serverId, atKey⟩ := Option.isSome_iff_exists.mp taken
    obtain ⟨row, backed, _⟩ := consistent.backed _ serverId atKey
    exact ⟨row, Option.bind_eq_some_iff.mpr ⟨serverId, atKey, backed⟩⟩
  · split at refused
    · cases refused
    · split at refused <;> cases refused

/-- The store with one more message, entered in each of the indexes. -/
def add (store : MessageStore) (message : Message) : MessageStore where
  messages := store.messages.insert message.serverId message
  byKey := store.byKey.insert message.key message.serverId
  byConversation := store.byConversation.insert message.conversation
    ((store.shelf message.conversation).insert message.sequence message.serverId)

/-- A message whose key, identifier and place are free is stored. -/
theorem Consistent.insert_of_free {store : MessageStore} (consistent : store.Consistent)
    {message : Message} (keyFree : store.findByKey message.key = none)
    (idFree : store.findByServerId message.serverId = none)
    (placeFree : (store.shelf message.conversation).holds message.sequence = false) :
    store.insert message = (.ok (), store.add message) := by
  -- An identifier filed under the key would be backed by a message with that key.
  have unfiled : store.byKey.find? message.key = none := by
    refine Option.eq_none_iff_forall_ne_some.mpr fun serverId atKey => ?_
    obtain ⟨row, backed, _⟩ := consistent.backed _ serverId atKey
    rw [findByKey, atKey, Option.bind_some, backed] at keyFree
    cases keyFree
  unfold findByServerId at idFree
  simp only [MessageStore.insert, unfiled, idFree, placeFree, Option.isSome_none,
    Bool.false_eq_true, ↓reduceIte]
  rfl

/-- After a message is added it is what its key leads to, and the other keys lead to where they did. -/
theorem Consistent.findByKey_add {store : MessageStore} (consistent : store.Consistent)
    {message : Message} (idFree : store.findByServerId message.serverId = none) (key : ClaimKey) :
    (store.add message).findByKey key =
      if key = message.key then some message else store.findByKey key := by
  unfold findByKey add
  split
  · rename_i same
    rw [same, Table.find?_insert_self, Option.bind_some, Table.find?_insert_self]
  · rename_i differ
    rw [Table.find?_insert_of_ne _ _ differ]
    -- An identifier that is filed is backed by a message, which the new one is not.
    refine Option.bind_congr fun serverId atKey => ?_
    obtain ⟨row, backed, _⟩ := consistent.backed key serverId atKey
    refine Table.find?_insert_of_ne _ _ ?_
    rintro rfl
    rw [findByServerId, backed] at idFree
    cases idFree

/-- After a message is added it is found by its identifier, and the others are found by theirs. -/
theorem findByServerId_add (store : MessageStore) (message : Message) (serverId : ServerId) :
    (store.add message).findByServerId serverId =
      if serverId = message.serverId then some message else store.findByServerId serverId := by
  -- Messages are stored by their identifier, so that a new one hides what was under the same.
  unfold findByServerId add
  split
  · rename_i same
    rw [same, Table.find?_insert_self]
  · rename_i differ
    exact Table.find?_insert_of_ne _ _ differ

/-- After a message is added its conversation has one more entry, and the others have what they had. -/
theorem shelf_add (store : MessageStore) (message : Message) (conversation : Conversation) :
    (store.add message).shelf conversation =
      if conversation = message.conversation then
        (store.shelf conversation).insert message.sequence message.serverId
      else store.shelf conversation := by
  -- A message is put on the shelf of its own conversation, which may have to be made.
  unfold add
  split
  · rename_i same
    subst same
    simp only [shelf, Table.find?_insert_self, Option.getD_some]
  · rename_i differ
    simp only [shelf, Table.find?_insert_of_ne _ _ differ]

/-- The store in memory fails in no way that may pass. -/
theorem insert_permanent {store : MessageStore} {message : Message} {failure : StoreError}
    (failed : (store.insert message).1 = .error failure) :
    Transient.isTransient failure = false := by
  -- The only failures are for something taken, and what is taken stays so.
  rcases insert_cases store message with
    ⟨_, refused, rfl | rfl | rfl⟩ | ⟨_, _, _, stored, _⟩
  · rw [refused] at failed; cases failed; rfl
  · rw [refused] at failed; cases failed; rfl
  · rw [refused] at failed; cases failed; rfl
  · rw [stored] at failed; cases failed

end MessageStore

end Intake
