import Intake.Database.MessageRow
import Intake.Database.Reply

/-! The message store on a database: what is checked before each statement, and how its answer is
read. -/

namespace Intake.Database

/-- The name of the constraint that keeps identifiers apart. -/
def serverIdConstraint : String := "messages_pkey"

/-- The name of the constraint that keeps places in a conversation apart. -/
def sequenceConstraint : String := "messages_conversation_seq_unique"

/-- The name of the constraint that keeps keys apart. -/
def clientMessageConstraint : String := "messages_sender_client_message_unique"

/-- The failure of a message that breaks a constraint, for the constraints of this table. -/
def duplicateOf? (constraint : String) (m : Message) : Option StoreError :=
  if constraint = serverIdConstraint then some (.duplicateServerId m.serverId)
  else if constraint = sequenceConstraint then
    some (.duplicateSequence m.conversation m.sequence)
  else if constraint = clientMessageConstraint then some (.duplicateClientMessage m.key)
  else none

/-- A failed statement as a failure of the store. -/
def storeError (failure : Failure) : StoreError :=
  if failure.mayPass then .unavailable failure.message else .database failure.message

/-- A failed insert as a failure of the store. -/
def insertError (m : Message) (failure : Failure) : StoreError :=
  match failure with
  | .rejected state _ (some constraint) =>
    if state = Failure.uniqueViolation then (duplicateOf? constraint m).getD (storeError failure)
    else storeError failure
  | _ => storeError failure

namespace MessageTable

/-- Passes the rows of a statement on, a failure as one of the store. -/
def answered {ρ : Type} (reply : Reply ρ) : Except StoreError ρ := reply.mapError storeError

/-- Stores a message. -/
def insert (m : Message) (reply : Reply Unit) : Except StoreError Unit := do
  let _ ← MessageRow.ofMessage m
  reply.mapError (insertError m)

/-- The message of the first row, if there is one. -/
def find (reply : Reply (List MessageRow)) : Except StoreError (Option Message) := do
  match ← answered reply with
  | row :: _ => return some (← row.toMessage)
  | [] => return none

/-- The highest number of a conversation. -/
def greatestSequence (reply : Reply (List (Option Int64))) :
    Except StoreError (Option SequenceNumber) := do
  match ← answered (reply.bind theRow) with
  | some column => return some (← columnSequence column)
  | none => return none

/-- A page of a conversation, from a cursor and with a limit that both need columns. -/
def findAfter (cursor : SequenceNumber) (limit : UInt64) (reply : Reply (List MessageRow)) :
    Except StoreError (List Message) := do
  let _ ← sequenceColumn cursor
  let _ ← sequenceColumn ⟨limit⟩
  (← answered reply).mapM MessageRow.toMessage

end MessageTable

end Intake.Database
