import Mathlib.Tactic.SplitIfs
import Intake.Proofs.Memory.Expiring
import Intake.Proofs.Memory.Shelf
import Intake.Proofs.Save.Log

/-! What a message store holds after any inserts: the messages it accepted, in each of its indexes, and
nothing else. -/

namespace Intake

/-- A value set for a key that had none makes the map larger by one entry. -/
theorem Table.size_insert_of_free {κ ν : Type} [DecidableEq κ] {t : Table κ ν} {key : κ}
    (free : t.find? key = none) (value : ν) : (t.insert key value).size = t.size + 1 := by
  -- No entry has the key, so none is replaced.
  have untouched : (t.erase key).entries = t.entries := by
    refine List.filter_eq_self.mpr fun entry member => decide_eq_true fun same => ?_
    have found : t.find? key = some entry.2 := find?_eq_some.mpr (same ▸ member)
    rw [free] at found
    cases found
  exact congrArg (fun entries => entries.length + 1) untouched

namespace Shelf

variable {shelf : Shelf} {sequence : SequenceNumber} {serverId : ServerId}

/-- The numbers on a shelf ascend, so that no number is on it twice. -/
def Ascending (shelf : Shelf) : Prop := shelf.Pairwise fun one other => one.1.value < other.1.value

/-- A number is taken if some identifier has it. -/
theorem holds_iff : shelf.holds sequence = true ↔ ∃ serverId, (sequence, serverId) ∈ shelf := by
  simp [holds]

/-- Putting an identifier on a shelf makes it longer by one. -/
theorem length_insert (shelf : Shelf) (sequence : SequenceNumber) (serverId : ServerId) :
    (shelf.insert sequence serverId).length = shelf.length + 1 := by
  -- The induction is on the shelf. Wherever the entry is put, nothing is dropped.
  induction shelf with
  | nil => rfl
  | cons entry rest ih =>
    unfold Shelf.insert
    split
    · rfl
    · rw [List.length_cons, ih, List.length_cons]

/-- A number that is not taken is put where the numbers still ascend. -/
theorem Ascending.insert (ascending : shelf.Ascending) (free : shelf.holds sequence = false) :
    (shelf.insert sequence serverId).Ascending := by
  induction shelf with
  | nil => exact List.pairwise_singleton _ _
  | cons entry rest ih =>
    obtain ⟨first, others⟩ := List.pairwise_cons.mp ascending
    have apart : entry.1 ≠ sequence ∧ Shelf.holds rest sequence = false := by
      simpa [holds] using free
    unfold Shelf.insert
    split
    -- Before the first larger number there are only smaller ones.
    · rename_i below
      refine List.pairwise_cons.mpr ⟨fun other member => ?_, ascending⟩
      rcases List.mem_cons.mp member with rfl | behind
      · exact below
      · exact UInt64.lt_trans below (first other behind)
    -- The number is not that of the entry, so the entry stays in front of it.
    · rename_i notBelow
      refine List.pairwise_cons.mpr ⟨fun other member => ?_, ih others apart.2⟩
      rcases mem_insert.mp member with rfl | behind
      · have differ : entry.1.value ≠ sequence.value := fun same =>
          apart.1 (by cases hEntry : entry.1; cases hSequence : sequence; simp_all)
        exact UInt64.lt_of_le_of_ne (UInt64.not_lt.mp notBelow) differ
      · exact first other behind

/-- The last number of a shelf that ascends is its greatest. -/
theorem Ascending.le_last (ascending : shelf.Ascending) {last : SequenceNumber × ServerId}
    (ends : shelf.getLast? = some last) {entry : SequenceNumber × ServerId}
    (member : entry ∈ shelf) : entry.1.value ≤ last.1.value := by
  -- An entry comes before the last one or is the last one.
  obtain ⟨before, rfl⟩ := List.getLast?_eq_some_iff.mp ends
  rcases List.mem_append.mp member with earlier | only
  · exact UInt64.le_of_lt
      ((List.pairwise_append.mp ascending).2.2 entry earlier last (List.mem_singleton.mpr rfl))
  · rw [List.mem_singleton.mp only]
    exact UInt64.le_refl _

end Shelf

namespace Log

variable {log : Log} {message : Message}

/-- A message that is added is in the log, with those that were in it. -/
theorem mem_add {row : Message} :
    row ∈ (log.add message).messages ↔ row ∈ log.messages ∨ row = message := by
  simp [add]

/-- A message that is added makes the log longer by one. -/
theorem length_add (log : Log) (message : Message) :
    (log.add message).messages.length = log.messages.length + 1 :=
  List.length_append

/-- No message of a log shares its key, its identifier, or its place with another message. -/
def Free (log : Log) (message : Message) : Prop :=
  ∀ row ∈ log.messages, row.key ≠ message.key ∧ row.serverId ≠ message.serverId ∧
    ¬ (row.conversation = message.conversation ∧ row.sequence = message.sequence)

/-- The answer to a message after those of a log: refused if it shares its key with one of them, or else
its identifier, or else its place, and accepted otherwise. -/
def verdict (log : Log) (message : Message) : Except StoreError Unit :=
  if ∃ row ∈ log.messages, row.key = message.key then
    .error (.duplicateClientMessage message.key)
  else if ∃ row ∈ log.messages, row.serverId = message.serverId then
    .error (.duplicateServerId message.serverId)
  else if ∃ row ∈ log.messages,
      row.conversation = message.conversation ∧ row.sequence = message.sequence then
    .error (.duplicateSequence message.conversation message.sequence)
  else .ok ()

/-- A message is accepted exactly when it shares nothing. -/
theorem verdict_eq_ok : log.verdict message = .ok () ↔ log.Free message := by
  -- The verdict asks for the three in turn, and each row must differ in all of them.
  constructor
  · intro accepted row member
    unfold verdict at accepted
    split_ifs at accepted with sameKey sameId samePlace
    exact ⟨fun same => sameKey ⟨row, member, same⟩, fun same => sameId ⟨row, member, same⟩,
      fun same => samePlace ⟨row, member, same⟩⟩
  · intro free
    unfold verdict
    rw [if_neg fun ⟨row, member, same⟩ => (free row member).1 same,
      if_neg fun ⟨row, member, same⟩ => (free row member).2.1 same,
      if_neg fun ⟨row, member, same⟩ => (free row member).2.2 same]

end Log

namespace MessageStore

/-- A store holds the messages of a log and nothing else: each index has one entry for each of them, and a
conversation stands in the order of its numbers. -/
structure Represents (store : MessageStore) (log : Log) : Prop where
  messages : ∀ serverId row, store.messages.find? serverId = some row ↔
    row ∈ log.messages ∧ row.serverId = serverId
  byKey : ∀ key serverId, store.byKey.find? key = some serverId ↔
    ∃ row ∈ log.messages, row.key = key ∧ row.serverId = serverId
  byConversation : ∀ conversation sequence serverId,
    (sequence, serverId) ∈ store.shelf conversation ↔ ∃ row ∈ log.messages,
      row.conversation = conversation ∧ row.sequence = sequence ∧ row.serverId = serverId
  ascending : ∀ conversation, (store.shelf conversation).Ascending
  occupied : ∀ conversation shelf, store.byConversation.find? conversation = some shelf → shelf ≠ []
  size : store.size = log.messages.length
  keys : store.byKey.size = log.messages.length
  places : ∀ conversation, (store.shelf conversation).length = (log.messagesOf conversation).length

/-- The store without messages holds the log without messages. -/
theorem represents_empty : empty.Represents .empty where
  -- An empty store has no keys, no shelves and no messages, and so the log has none.
  messages := by simp [empty, Log.empty]
  byKey := by simp [empty, Log.empty]
  byConversation := by simp [empty, Log.empty, shelf]
  ascending := fun _ => List.Pairwise.nil
  occupied := by simp [empty]
  size := rfl
  keys := rfl
  places := fun _ => rfl

namespace Represents

variable {store : MessageStore} {log : Log}

/-- The index by key has an entry for a key if a message of the log has the key. -/
theorem key_taken (represents : store.Represents log) (key : ClaimKey) :
    (store.byKey.find? key).isSome = true ↔ ∃ row ∈ log.messages, row.key = key := by
  -- The table of keys holds the identifiers of the messages in the log.
  rw [Option.isSome_iff_exists]
  simp only [represents.byKey]
  constructor
  · rintro ⟨_, row, member, same, _⟩
    exact ⟨row, member, same⟩
  · rintro ⟨row, member, same⟩
    exact ⟨row.serverId, row, member, same, rfl⟩

/-- The messages have an entry for an identifier if a message of the log has the identifier. -/
theorem id_taken (represents : store.Represents log) (serverId : ServerId) :
    (store.messages.find? serverId).isSome = true ↔ ∃ row ∈ log.messages, row.serverId = serverId := by
  rw [Option.isSome_iff_exists]
  simp only [represents.messages]

/-- A shelf holds a number if a message of the log has the place. -/
theorem place_taken (represents : store.Represents log) (conversation : Conversation)
    (sequence : SequenceNumber) : (store.shelf conversation).holds sequence = true ↔
      ∃ row ∈ log.messages, row.conversation = conversation ∧ row.sequence = sequence := by
  -- A place on the shelf is that of a message in the log of the conversation.
  rw [Shelf.holds_iff]
  simp only [represents.byConversation]
  constructor
  · rintro ⟨_, row, member, here, there, _⟩
    exact ⟨row, member, here, there⟩
  · rintro ⟨row, member, here, there⟩
    exact ⟨row.serverId, row, member, here, there, rfl⟩

/-- An insert is answered as the log calls for, and what is accepted is added. -/
theorem insert_eq (represents : store.Represents log) (message : Message) :
    store.insert message =
      (log.verdict message, match log.verdict message with
        | .ok () => store.add message
        | .error _ => store) := by
  -- Each index is asked what the log is asked, in the same order.
  unfold insert Log.verdict
  simp only [represents.key_taken, represents.id_taken, represents.place_taken]
  split
  · rfl
  · split
    · rfl
    · split
      · rfl
      · rfl

section Adding

variable {message : Message}

/-- A message that shares nothing with a log has a free key. -/
theorem key_free (represents : store.Represents log) (free : log.Free message) :
    store.byKey.find? message.key = none := by
  rw [← Option.not_isSome_iff_eq_none, represents.key_taken]
  exact fun ⟨row, member, same⟩ => (free row member).1 same

/-- A message that shares nothing with a log has a free identifier. -/
theorem id_free (represents : store.Represents log) (free : log.Free message) :
    store.messages.find? message.serverId = none := by
  rw [← Option.not_isSome_iff_eq_none, represents.id_taken]
  exact fun ⟨row, member, same⟩ => (free row member).2.1 same

/-- A message that shares nothing with a log has a free place. -/
theorem place_free (represents : store.Represents log) (free : log.Free message) :
    (store.shelf message.conversation).holds message.sequence = false := by
  rw [← Bool.not_eq_true, represents.place_taken]
  exact fun ⟨row, member, same⟩ => (free row member).2.2 same

/-- After a message is added, what is stored under an identifier is the message of the log that has it. -/
theorem messages_add (represents : store.Represents log) (free : log.Free message)
    (serverId : ServerId) (row : Message) :
    (store.add message).messages.find? serverId = some row ↔
      row ∈ (log.add message).messages ∧ row.serverId = serverId := by
  rw [Log.mem_add]
  by_cases same : serverId = message.serverId
  -- The identifier of the message was free, so that it leads to the message alone.
  · subst same
    simp only [MessageStore.add, Table.find?_insert_self, Option.some.injEq]
    constructor
    · rintro rfl
      exact ⟨.inr rfl, rfl⟩
    · rintro ⟨earlier | new, named⟩
      · exact absurd named (free row earlier).2.1
      · exact new.symm
  · simp only [MessageStore.add, Table.find?_insert_of_ne _ _ same, represents.messages]
    constructor
    · rintro ⟨member, named⟩
      exact ⟨.inl member, named⟩
    · rintro ⟨member | rfl, named⟩
      · exact ⟨member, named⟩
      · exact absurd named.symm same

/-- After a message is added, a key leads to the identifier of the message of the log that has it. -/
theorem byKey_add (represents : store.Represents log) (free : log.Free message) (key : ClaimKey)
    (serverId : ServerId) : (store.add message).byKey.find? key = some serverId ↔
      ∃ row ∈ (log.add message).messages, row.key = key ∧ row.serverId = serverId := by
  simp only [Log.mem_add]
  by_cases same : key = message.key
  -- The key of the message was free as well.
  · subst same
    simp only [MessageStore.add, Table.find?_insert_self, Option.some.injEq]
    constructor
    · rintro rfl
      exact ⟨message, .inr rfl, rfl, rfl⟩
    · rintro ⟨row, earlier | rfl, named, leads⟩
      · exact absurd named (free row earlier).1
      · exact leads
  · simp only [MessageStore.add, Table.find?_insert_of_ne _ _ same, represents.byKey]
    constructor
    · rintro ⟨row, member, named⟩
      exact ⟨row, .inl member, named⟩
    · rintro ⟨row, member | rfl, named, leads⟩
      · exact ⟨row, member, named, leads⟩
      · exact absurd named.symm same

/-- After a message is added, the shelves list the messages of the log at their places. -/
theorem byConversation_add (represents : store.Represents log) (conversation : Conversation)
    (sequence : SequenceNumber) (serverId : ServerId) :
    (sequence, serverId) ∈ (store.add message).shelf conversation ↔
      ∃ row ∈ (log.add message).messages,
        row.conversation = conversation ∧ row.sequence = sequence ∧ row.serverId = serverId := by
  -- Only the shelf of the message's own conversation changes, and it gains the message alone.
  simp only [Log.mem_add]
  rw [shelf_add]
  split
  · rename_i here
    subst here
    rw [Shelf.mem_insert, represents.byConversation]
    constructor
    · rintro (new | ⟨row, member, placed⟩)
      · cases new
        exact ⟨message, .inr rfl, rfl, rfl, rfl⟩
      · exact ⟨row, .inl member, placed⟩
    · rintro ⟨row, member | rfl, placed⟩
      · exact .inr ⟨row, member, placed⟩
      · obtain ⟨_, rfl, rfl⟩ := placed
        exact .inl rfl
  · rename_i elsewhere
    rw [represents.byConversation]
    constructor
    · rintro ⟨row, member, placed⟩
      exact ⟨row, .inl member, placed⟩
    · rintro ⟨row, member | rfl, placed⟩
      · exact ⟨row, member, placed⟩
      · exact absurd placed.1.symm elsewhere

/-- A message that shares nothing with a log can be added to it and to the store that holds it. -/
theorem add (represents : store.Represents log) (free : log.Free message) :
    (store.add message).Represents (log.add message) where
  -- Each table gains one entry for the message, and none loses one, as the message was free.
  messages := represents.messages_add free
  byKey := represents.byKey_add free
  byConversation := represents.byConversation_add
  -- The message goes to the shelf of its conversation, where its place was free.
  ascending := fun conversation => by
    rw [shelf_add]
    split
    · rename_i here
      subst here
      exact (represents.ascending _).insert (represents.place_free free)
    · exact represents.ascending conversation
  occupied := fun conversation shelf found => by
    by_cases here : conversation = message.conversation
    · subst here
      simp only [MessageStore.add, Table.find?_insert_self, Option.some.injEq] at found
      subst found
      exact List.ne_nil_of_length_pos (by rw [Shelf.length_insert]; exact Nat.succ_pos _)
    · simp only [MessageStore.add, Table.find?_insert_of_ne _ _ here] at found
      exact represents.occupied conversation shelf found
  size := by
    rw [Log.length_add, ← represents.size]
    exact Table.size_insert_of_free (represents.id_free free) message
  keys := by
    rw [Log.length_add, ← represents.keys]
    exact Table.size_insert_of_free (represents.key_free free) message.serverId
  places := fun conversation => by
    rw [shelf_add, Log.messagesOf_add]
    split
    · rename_i here
      subst here
      rw [Shelf.length_insert, represents.places, List.length_append, List.length_singleton]
    · exact represents.places conversation

end Adding

/-- A message of the log is found by its identifier and by its key. -/
theorem found (represents : store.Represents log) {row : Message} (member : row ∈ log.messages) :
    store.findByServerId row.serverId = some row ∧ store.findByKey row.key = some row := by
  -- The look-up by key goes by way of the identifier.
  have atId := (represents.messages row.serverId row).mpr ⟨member, rfl⟩
  have atKey := (represents.byKey row.key row.serverId).mpr ⟨row, member, rfl, rfl⟩
  exact ⟨atId, Option.bind_eq_some_iff.mpr ⟨row.serverId, atKey, atId⟩⟩

/-- The highest number stored in a conversation is the greatest among those of its messages. -/
theorem greatestSequence_eq (represents : store.Represents log) (conversation : Conversation) :
    (store.greatestSequence conversation).map (·.value.toNat) =
      ((log.messagesOf conversation).map (·.sequence.value.toNat)).max? := by
  unfold greatestSequence
  cases ends : (store.shelf conversation).getLast? with
  | none =>
    -- An empty shelf is that of a conversation without messages.
    have nothing := represents.places conversation
    rw [List.getLast?_eq_none_iff.mp ends, List.length_nil, eq_comm, List.length_eq_zero_iff] at nothing
    rw [nothing]
    rfl
  | some last =>
    obtain ⟨row, member, here, there, _⟩ :=
      (represents.byConversation conversation last.1 last.2).mp (List.mem_of_getLast? ends)
    refine (List.max?_eq_some_iff.mpr ⟨?_, ?_⟩).symm
    · exact List.mem_map.mpr ⟨row, List.mem_filter.mpr ⟨member, decide_eq_true here⟩,
        congrArg (·.value.toNat) there⟩
    · intro number listed
      obtain ⟨other, chosen, rfl⟩ := List.mem_map.mp listed
      obtain ⟨stored, same⟩ := List.mem_filter.mp chosen
      have onShelf := (represents.byConversation conversation other.sequence other.serverId).mpr
        ⟨other, stored, of_decide_eq_true same, rfl, rfl⟩
      exact UInt64.le_iff_toNat_le.mp ((represents.ascending conversation).le_last ends onShelf)

end Represents

/-- A store together with the log of the messages it has accepted. -/
structure Filed where
  store : MessageStore
  accepted : Log

namespace Filed

/-- The store without messages has accepted none. -/
def empty : Filed := ⟨.empty, .empty⟩

/-- Hands a message to the store, and logs it if the store accepts it. -/
def insert (filed : Filed) (message : Message) : Filed :=
  match filed.store.insert message with
  | (.ok (), store) => ⟨store, filed.accepted.add message⟩
  | (.error _, store) => ⟨store, filed.accepted⟩

/-- Hands messages to the store, one after the other. -/
def insertAll (filed : Filed) (messages : List Message) : Filed := messages.foldl insert filed

variable {filed : Filed}

/-- An insert leaves a store that holds what it has accepted. -/
theorem insert_represents (represents : filed.store.Represents filed.accepted) (message : Message) :
    (filed.insert message).store.Represents (filed.insert message).accepted := by
  -- The store and the log come to the same verdict, and only an accepted message changes either.
  unfold insert
  rw [represents.insert_eq]
  cases answered : filed.accepted.verdict message with
  | ok _ => exact represents.add (Log.verdict_eq_ok.mp answered)
  | error _ => exact represents

/-- What a store has accepted stays accepted. -/
theorem accepted_insert {row : Message} (member : row ∈ filed.accepted.messages) (message : Message) :
    row ∈ (filed.insert message).accepted.messages := by
  -- The log only grows.
  unfold insert
  split
  · exact List.mem_append_left _ member
  · exact member

/-- Inserts leave a store that holds what it has accepted. -/
theorem insertAll_represents (represents : filed.store.Represents filed.accepted)
    (messages : List Message) :
    (filed.insertAll messages).store.Represents (filed.insertAll messages).accepted := by
  -- One message is handed in after the other.
  induction messages generalizing filed with
  | nil => exact represents
  | cons message messages ih => exact ih (insert_represents represents message)

/-- What a store has accepted stays accepted through any inserts. -/
theorem accepted_insertAll {row : Message} (member : row ∈ filed.accepted.messages)
    (messages : List Message) : row ∈ (filed.insertAll messages).accepted.messages := by
  -- The induction is on the messages that are inserted after it.
  induction messages generalizing filed with
  | nil => exact member
  | cons message messages ih => exact ih (accepted_insert member message)

end Filed

/-- After any inserts the store holds exactly the messages it accepted, for good. The next is accepted if
it shares neither key nor identifier nor place with one of them. -/
theorem store_holds_accepted (messages later : List Message) (message : Message) :
    let filed := Filed.empty.insertAll messages
    filed.store.Represents filed.accepted ∧
      ((filed.store.insert message).1 = .ok () ↔ filed.accepted.Free message) ∧
      (filed.store.insert message).1 = filed.accepted.verdict message ∧
      (∀ row ∈ filed.accepted.messages,
        (filed.insertAll later).store.findByServerId row.serverId = some row ∧
        (filed.insertAll later).store.findByKey row.key = some row) ∧
      ∀ conversation, (filed.store.greatestSequence conversation).map (·.value.toNat) =
        ((filed.accepted.messagesOf conversation).map (·.sequence.value.toNat)).max? := by
  -- The store represents what was accepted, before the message as after the later ones.
  intro filed
  have represents : filed.store.Represents filed.accepted :=
    Filed.insertAll_represents represents_empty messages
  have answered : (filed.store.insert message).1 = filed.accepted.verdict message := by
    rw [represents.insert_eq]
  refine ⟨represents, ?_, answered, fun row member => ?_, represents.greatestSequence_eq⟩
  · rw [answered]
    exact Log.verdict_eq_ok
  · exact (Filed.insertAll_represents represents later).found (Filed.accepted_insertAll member later)

end MessageStore

end Intake
