import Intake.Failure.Services
import Intake.Memory.Table

/-! The ledger in memory: the watermarks of every conversation. -/

namespace Intake

/-- The watermarks of every conversation, and how often numbers were asked for. -/
structure Ledger where
  rows : Table Conversation Watermarks
  reservations : Nat

namespace Ledger

/-- The ledger without conversations. -/
def empty : Ledger := ⟨Table.empty, 0⟩

/-- The watermarks of a conversation. -/
def load (ledger : Ledger) (conversation : Conversation) : Option Watermarks :=
  ledger.rows.find? conversation

/-- The watermarks of a conversation, all zero if it has none yet. -/
def rowOrEmpty (ledger : Ledger) (conversation : Conversation) (now : Instant) : Watermarks :=
  (ledger.load conversation).getD (.empty conversation now)

/-- Sets the watermarks of a conversation. -/
def put (ledger : Ledger) (conversation : Conversation) (row : Watermarks) : Ledger :=
  { ledger with rows := ledger.rows.insert conversation row }

/-- Reserves the next numbers of a conversation. -/
def reserve (ledger : Ledger) (conversation : Conversation) (count : UInt64) (now : Instant) :
    Except LedgerError Segment × Ledger :=
  -- Every call counts, also one that does not fit.
  let ledger := { ledger with reservations := ledger.reservations + 1 }
  let row := ledger.rowOrEmpty conversation now
  match row.reserve count now with
  | some (segment, row) => (.ok segment, ledger.put conversation row)
  | none => (.error (.overflow conversation), ledger.put conversation row)

/-- Raises the highest reserved number of a conversation. -/
def raiseIssued (ledger : Ledger) (conversation : Conversation) (floor : SequenceNumber)
    (now : Instant) : Ledger :=
  ledger.put conversation ((ledger.rowOrEmpty conversation now).raiseIssued floor now)

/-- Raises the highest stored number of a conversation. -/
def raiseCommitted (ledger : Ledger) (conversation : Conversation) (stored : SequenceNumber)
    (now : Instant) : Ledger :=
  ledger.put conversation ((ledger.rowOrEmpty conversation now).raiseCommitted stored now)

/-- Raises the lowest kept number of a conversation, if it has watermarks. -/
def raiseRetained (ledger : Ledger) (conversation : Conversation) (floor : SequenceNumber)
    (now : Instant) : Ledger :=
  match ledger.load conversation with
  | some row => ledger.put conversation (row.raiseRetained floor now)
  | none => ledger

end Ledger

end Intake
