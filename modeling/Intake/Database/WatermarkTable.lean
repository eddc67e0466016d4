import Intake.Failure.Services
import Intake.Database.Reply

/-! The ledger on a database: what is checked before each statement, and how its answer is read. -/

namespace Intake.Database

/-- The watermarks of a row of the ledger. -/
structure WatermarkRow where
  issued : Int64
  committed : Int64
  retained : Int64
  updatedAt : Instant
deriving DecidableEq

/-- The word of a column, zero standing for all that is negative. -/
def wordOrZero (column : Int64) : UInt64 := (Word.ofColumn column).toOption.getD 0

/-- The watermarks of a row, refused with what was found when they are out of order. -/
def WatermarkRow.toWatermarks (row : WatermarkRow) (conversation : Conversation) :
    Except LedgerError Watermarks :=
  let issued := wordOrZero row.issued
  let committed := wordOrZero row.committed
  let retained := wordOrZero row.retained
  if row.issued < 0 ∨ row.committed < 0 ∨ row.retained < 0 then
    .error (.inconsistent conversation ⟨issued, committed, retained⟩)
  else
    (Watermarks.ofStored conversation issued committed retained row.updatedAt).mapError
      (.inconsistent conversation)

/-- A failed statement as a failure of the ledger. -/
def ledgerError (failure : Failure) : LedgerError :=
  if failure.mayPass then .unavailable failure.message else .database failure.message

namespace WatermarkTable

/-- Reserves the next numbers. The answer is the highest reserved number after the statement. -/
def reserve (conversation : Conversation) (count : UInt64) (reply : Reply (List Int64)) :
    Except LedgerError Segment := do
  let overflow : LedgerError := .overflow conversation
  let block ← (Word.toColumn count).mapError fun _ => overflow
  let issued ← (reply.bind theRow).mapError ledgerError
  match Word.columnSub? issued block with
  | none => throw overflow
  | some before =>
    let previous ← (Word.ofColumn before).mapError fun _ => overflow
    match Segment.following? previous count with
    | some segment => return segment
    | none => throw overflow

/-- Raises one of the watermarks. -/
def raise (floor : SequenceNumber) (reply : Reply Unit) : Except LedgerError Unit := do
  let _ ← (Word.toColumn floor.value).mapError fun failure => .database failure.message
  reply.mapError ledgerError

/-- The watermarks of the first row, if there is one. -/
def load (conversation : Conversation) (reply : Reply (List WatermarkRow)) :
    Except LedgerError (Option Watermarks) := do
  match ← reply.mapError ledgerError with
  | row :: _ => return some (← row.toWatermarks conversation)
  | [] => return none

end WatermarkTable

end Intake.Database
