import Intake.Failure.Services
import Intake.Memory.Table

/-! The message store in memory: the messages, and an index for each thing that must be unique. -/

namespace Intake

/-- The identifiers of a conversation's messages by sequence number, in ascending order. -/
abbrev Shelf := List (SequenceNumber × ServerId)

namespace Shelf

/-- Whether a number is taken. -/
def holds (shelf : Shelf) (sequence : SequenceNumber) : Bool :=
  shelf.any fun entry => entry.1 = sequence

/-- Puts an identifier at the place of its number. -/
def insert (shelf : Shelf) (sequence : SequenceNumber) (serverId : ServerId) : Shelf :=
  match shelf with
  | [] => [(sequence, serverId)]
  | entry :: rest =>
    -- The shelf stays in ascending order, so the number goes before the first larger one.
    if sequence.value < entry.1.value then (sequence, serverId) :: entry :: rest
    else entry :: Shelf.insert rest sequence serverId

end Shelf

/-- Stored messages by identifier, and the identifiers by key and by place. -/
structure MessageStore where
  messages : Table ServerId Message
  byKey : Table ClaimKey ServerId
  byConversation : Table Conversation Shelf

namespace MessageStore

/-- The store without messages. -/
def empty : MessageStore := ⟨Table.empty, Table.empty, Table.empty⟩

/-- The number of stored messages. -/
def size (store : MessageStore) : Nat := store.messages.size

/-- The identifiers of a conversation's messages. -/
def shelf (store : MessageStore) (conversation : Conversation) : Shelf :=
  (store.byConversation.find? conversation).getD []

/-- Stores a message, unless its key, its identifier, or its place is taken, looked at in this
order. -/
def insert (store : MessageStore) (message : Message) : Except StoreError Unit × MessageStore :=
  let shelf := store.shelf message.conversation
  if (store.byKey.find? message.key).isSome then
    (.error (.duplicateClientMessage message.key), store)
  else if (store.messages.find? message.serverId).isSome then
    (.error (.duplicateServerId message.serverId), store)
  else if shelf.holds message.sequence then
    (.error (.duplicateSequence message.conversation message.sequence), store)
  else
    -- All three indexes are filled by one insert.
    (.ok (), {
      messages := store.messages.insert message.serverId message
      byKey := store.byKey.insert message.key message.serverId
      byConversation := store.byConversation.insert message.conversation
        (shelf.insert message.sequence message.serverId) })

/-- The message stored under an identifier. -/
def findByServerId (store : MessageStore) (serverId : ServerId) : Option Message :=
  store.messages.find? serverId

/-- The message stored under a key. -/
def findByKey (store : MessageStore) (key : ClaimKey) : Option Message :=
  (store.byKey.find? key).bind store.messages.find?

/-- The highest number stored in a conversation. -/
def greatestSequence (store : MessageStore) (conversation : Conversation) :
    Option SequenceNumber :=
  (store.shelf conversation).getLast?.map (·.1)

/-- At most so many messages of a conversation, in order from the number after a cursor. -/
def findAfter (store : MessageStore) (conversation : Conversation) (cursor : SequenceNumber)
    (limit : Nat) : List Message :=
  -- The cursor is the last number that was seen, so reading starts behind it.
  let from_ := (store.shelf conversation).filter fun entry => cursor.next.value ≤ entry.1.value
  (from_.take limit).filterMap fun entry => store.messages.find? entry.2

end MessageStore

end Intake
