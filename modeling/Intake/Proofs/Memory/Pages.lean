import Mathlib.Data.List.Nodup
import Mathlib.Data.List.Perm.Subperm
import Intake.Proofs.Memory.StoreContents
import Intake.Proofs.Samples

/-! Pages of a conversation: reading on from a cursor shows the next messages in order, except at the end
of the numbers. -/

namespace Intake

/-- The greatest number, which no number follows. -/
def SequenceNumber.greatest : SequenceNumber := ⟨Word.greatest⟩

/-- The number that follows is reached by what lies above, and by the greatest number itself. -/
theorem SequenceNumber.next_le_iff (cursor sequence : SequenceNumber) :
    cursor.next.value ≤ sequence.value ↔
      cursor.value < sequence.value ∨ (cursor = greatest ∧ sequence = greatest) := by
  -- Below the greatest number the next one is one more, and there it is the same one again.
  have bounded := sequence.value.toNat_lt
  have reached := cursor.value.toNat_lt
  have stops : ∀ number : SequenceNumber,
      number = greatest ↔ number.value.toNat = UInt64.size - 1 := fun number => by
    cases number
    rw [greatest, SequenceNumber.mk.injEq, ← UInt64.toNat_inj, Word.greatest_toNat]
  rw [UInt64.le_iff_toNat_le, UInt64.lt_iff_toNat_lt, stops, stops, next, Word.saturatingAdd_toNat,
    UInt64.toNat_one, UInt64.size]
  omega

/-- No number is greater than the greatest. -/
theorem SequenceNumber.not_greatest_lt (sequence : SequenceNumber) :
    ¬ greatest.value < sequence.value := by
  -- The greatest number is the largest of its words.
  have bounded := sequence.value.toNat_lt
  rw [UInt64.lt_iff_toNat_lt, greatest, Word.greatest_toNat, UInt64.size]
  omega

namespace Log

/-- The messages of a conversation in ascending order of their numbers. -/
def history (log : Log) (conversation : Conversation) : List Message :=
  (log.messagesOf conversation).mergeSort fun one other => one.sequence.value ≤ other.sequence.value

/-- The first messages of a conversation behind a cursor, as many as are asked for. -/
def page (log : Log) (conversation : Conversation) (cursor : SequenceNumber) (limit : Nat) :
    List Message :=
  ((log.history conversation).filter fun row => cursor.value < row.sequence.value).take limit

variable {log : Log} {conversation : Conversation}

/-- The history of a conversation has its messages. -/
theorem mem_history {row : Message} :
    row ∈ log.history conversation ↔ row ∈ log.messages ∧ row.conversation = conversation := by
  rw [history, List.mem_mergeSort, messagesOf, List.mem_filter, decide_eq_true_iff]

/-- The numbers in a history do not descend. -/
theorem history_ascending (log : Log) (conversation : Conversation) :
    (log.history conversation).Pairwise fun one other =>
      one.sequence.value ≤ other.sequence.value := by
  -- The history is sorted by a comparison that is transitive and total.
  refine (List.pairwise_mergeSort ?_ ?_ _).imp of_decide_eq_true
  · intro one two three first second
    exact decide_eq_true (UInt64.le_trans (of_decide_eq_true first) (of_decide_eq_true second))
  · intro one other
    simpa using UInt64.le_total one.sequence.value other.sequence.value

/-- Behind the greatest number there is nothing. -/
theorem page_greatest (log : Log) (conversation : Conversation) (limit : Nat) :
    log.page conversation .greatest limit = [] := by
  -- No number is above the greatest one.
  have nothing : (log.history conversation).filter
      (fun row => SequenceNumber.greatest.value < row.sequence.value) = [] :=
    List.filter_eq_nil_iff.mpr fun row _ above => row.sequence.not_greatest_lt (of_decide_eq_true above)
  rw [page, nothing, List.take_nil]

end Log

/-- On a shelf that ascends, a number stands for one identifier. -/
theorem Shelf.Ascending.unique {shelf : Shelf} (ascending : shelf.Ascending)
    {one other : SequenceNumber × ServerId} (first : one ∈ shelf) (second : other ∈ shelf)
    (same : one.1.value = other.1.value) : one = other := by
  -- On an ascending shelf no two places have the same number.
  have apart : (shelf.map (·.1.value)).Nodup :=
    List.pairwise_map.mpr (ascending.imp UInt64.ne_of_lt)
  exact List.inj_on_of_nodup_map apart first second same

namespace MessageStore

variable {store : MessageStore} {log : Log}

/-- A shelf lists the places of a conversation's history. -/
theorem Represents.shelf_eq (represents : store.Represents log) (conversation : Conversation) :
    store.shelf conversation =
      (log.history conversation).map fun row => (row.sequence, row.serverId) := by
  have ascending := represents.ascending conversation
  -- What is on the shelf is in the history, and as much is on the one as in the other.
  have listed : store.shelf conversation ⊆
      (log.history conversation).map fun row => (row.sequence, row.serverId) := by
    intro entry member
    obtain ⟨row, stored, here, sameNumber, sameId⟩ :=
      (represents.byConversation conversation entry.1 entry.2).mp member
    exact List.mem_map.mpr ⟨row, Log.mem_history.mpr ⟨stored, here⟩, by rw [sameNumber, sameId]⟩
  have apart : (store.shelf conversation).Nodup := by
    refine ascending.imp ?_
    rintro one _ below rfl
    exact UInt64.lt_irrefl _ below
  have long : ((log.history conversation).map fun row => (row.sequence, row.serverId)).length ≤
      (store.shelf conversation).length :=
    Nat.le_of_eq (by rw [List.length_map, Log.history, List.length_mergeSort, represents.places])
  have perm := (List.subperm_of_subset apart listed).perm_of_length_le long
  -- Both are in order, which leaves one way to arrange them.
  refine List.Perm.eq_of_pairwise (fun one other first second below above => ?_)
    (ascending.imp UInt64.le_of_lt) ?_ perm
  · exact ascending.unique first (perm.mem_iff.mpr second) (UInt64.le_antisymm below above)
  · exact List.pairwise_map.mpr (log.history_ascending conversation)

/-- The numbers in the history of what a store holds ascend. -/
theorem Represents.history_ascends (represents : store.Represents log) (conversation : Conversation) :
    (log.history conversation).Pairwise fun one other =>
      one.sequence.value < other.sequence.value := by
  -- The shelf of the conversation is its history, and a shelf ascends without repetitions.
  have ascending := represents.ascending conversation
  rw [represents.shelf_eq, Shelf.Ascending, List.pairwise_map] at ascending
  exact ascending

/-- What is read from a cursor on is the history from the number after the cursor on. -/
theorem Represents.findAfter_eq (represents : store.Represents log) (conversation : Conversation)
    (cursor : SequenceNumber) (limit : Nat) :
    store.findAfter conversation cursor limit =
      ((log.history conversation).filter fun row =>
        cursor.next.value ≤ row.sequence.value).take limit := by
  unfold findAfter
  dsimp only
  rw [represents.shelf_eq, List.filter_map, ← List.map_take, List.filterMap_map]
  -- Each place leads back to the message that stands there.
  rw [List.filterMap_congr]
  · exact List.filterMap_some
  · intro row member
    have stored := (Log.mem_history.mp (List.mem_filter.mp (List.mem_of_mem_take member)).1).1
    exact (represents.messages _ _).mpr ⟨stored, rfl⟩

/-- A page is exact when no message of the conversation has the cursor's number at the end of the
numbers. -/
theorem Represents.findAfter_exact (represents : store.Represents log) {conversation : Conversation}
    {cursor : SequenceNumber} (limit : Nat)
    (inside : ∀ row ∈ log.messages, row.conversation = conversation →
      ¬ (cursor = .greatest ∧ row.sequence = .greatest)) :
    store.findAfter conversation cursor limit = log.page conversation cursor limit := by
  -- The store starts at the number after the cursor, which only at the end is not above it.
  rw [represents.findAfter_eq, Log.page]
  congr 1
  refine List.filter_congr fun row member => decide_eq_decide.mpr ?_
  obtain ⟨stored, here⟩ := Log.mem_history.mp member
  rw [cursor.next_le_iff]
  exact or_iff_left (inside row stored here)

/-- Read from the end of the numbers, a page has the message that stands there. -/
theorem Represents.findAfter_greatest (represents : store.Represents log) {row : Message}
    (stored : row ∈ log.messages) (atEnd : row.sequence = .greatest) {limit : Nat}
    (asked : 0 < limit) : store.findAfter row.conversation .greatest limit = [row] := by
  have ascends := represents.history_ascends row.conversation
  have numbers : ((log.history row.conversation).map (·.sequence.value)).Nodup :=
    List.pairwise_map.mpr (ascends.imp UInt64.ne_of_lt)
  have listed : row ∈ log.history row.conversation := Log.mem_history.mpr ⟨stored, rfl⟩
  -- The numbers differ, so that the greatest of them belongs to this message alone.
  have only : (log.history row.conversation).filter (fun other =>
      SequenceNumber.greatest.next.value ≤ other.sequence.value) = [row] := by
    refine List.perm_singleton.mp ((List.perm_ext_iff_of_nodup
      (numbers.of_map _ |>.filter _) (List.nodup_singleton row)).mpr fun other => ?_)
    rw [List.mem_filter, List.mem_singleton, decide_eq_true_iff, SequenceNumber.next_le_iff]
    constructor
    · rintro ⟨member, above | ⟨_, same⟩⟩
      · exact absurd above other.sequence.not_greatest_lt
      · exact List.inj_on_of_nodup_map numbers member listed (by rw [same, atEnd])
    · rintro rfl
      exact ⟨listed, .inr ⟨rfl, atEnd⟩⟩
  rw [represents.findAfter_eq, only]
  exact List.take_of_length_le asked

/-- The numbers in a history ascend, and a page is the first messages behind its cursor, unless the cursor
is the greatest number and is taken: then it is that message again. -/
theorem pages_exact_iff (messages : List Message) (conversation : Conversation)
    (cursor : SequenceNumber) (limit : Nat) :
    let filed := Filed.empty.insertAll messages
    let shown := filed.store.findAfter conversation cursor limit
    let page := filed.accepted.page conversation cursor limit
    ((filed.accepted.history conversation).Pairwise fun one other =>
        one.sequence.value < other.sequence.value) ∧
      (shown = page ↔ ¬ (cursor = .greatest ∧ 0 < limit ∧ ∃ row ∈ filed.accepted.messages,
        row.conversation = conversation ∧ row.sequence = .greatest)) ∧
      (shown = page ∨ ∃ row ∈ filed.accepted.messages, row.conversation = conversation ∧
        row.sequence = .greatest ∧ shown = [row] ∧ page = []) := by
  intro filed shown page
  have represents : filed.store.Represents filed.accepted :=
    Filed.insertAll_represents represents_empty messages
  -- At the end of the numbers the page repeats what was seen, and is not the empty one asked for.
  have repeats : cursor = .greatest → 0 < limit → ∀ row ∈ filed.accepted.messages,
      row.conversation = conversation → row.sequence = .greatest → shown = [row] ∧ page = [] := by
    rintro rfl asked row stored rfl atEnd
    exact ⟨represents.findAfter_greatest stored atEnd asked, Log.page_greatest _ _ _⟩
  have agrees : ¬ (cursor = .greatest ∧ 0 < limit ∧ ∃ row ∈ filed.accepted.messages,
      row.conversation = conversation ∧ row.sequence = .greatest) → shown = page := by
    intro inside
    rcases Nat.eq_zero_or_pos limit with rfl | asked
    · exact (represents.findAfter_eq _ _ _).trans (List.take_zero.trans List.take_zero.symm)
    · exact represents.findAfter_exact limit fun row stored here ⟨atEnd, last⟩ =>
        inside ⟨atEnd, asked, row, stored, here, last⟩
  refine ⟨represents.history_ascends conversation, ⟨?_, agrees⟩, ?_⟩
  · rintro same ⟨atEnd, asked, row, stored, here, last⟩
    obtain ⟨once, nothing⟩ := repeats atEnd asked row stored here last
    cases once.symm.trans (same.trans nothing)
  · by_cases inside : cursor = .greatest ∧ 0 < limit ∧ ∃ row ∈ filed.accepted.messages,
        row.conversation = conversation ∧ row.sequence = .greatest
    · obtain ⟨atEnd, asked, row, stored, here, last⟩ := inside
      exact .inr ⟨row, stored, here, last, repeats atEnd asked row stored here last⟩
    · exact .inl (agrees inside)

/-- A message with the greatest number. -/
def lastMessage : Message where
  origin := Sample.origin
  serverId := ⟨Uuid.ofNat 1⟩
  sequence := .greatest
  payload := Sample.hello.payload
  fingerprint := Sample.hello.fingerprint
  createdAt := Sample.clock

/-- Whoever reads on from the message with the greatest number is shown the message again. -/
theorem lastMessage_listed_again :
    let filed := Filed.empty.insertAll [lastMessage]
    filed.accepted.messages = [lastMessage] ∧
      filed.store.findAfter lastMessage.conversation lastMessage.sequence 10 = [lastMessage] ∧
      filed.accepted.page lastMessage.conversation lastMessage.sequence 10 = [] := by
  -- The store is small enough to be evaluated.
  decide +kernel

end MessageStore

end Intake
