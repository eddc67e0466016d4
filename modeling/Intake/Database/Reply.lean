/-! How a database answers a statement: with rows, or with a failure of one of a few kinds. -/

namespace Intake.Database

/-- Why a statement gave no rows. -/
inductive Failure where
  | refused (reason : String)
  | closed (reason : String)
  | rejected (state message : String) (constraint : Option String)
  | notFound
deriving DecidableEq, Repr

/-- What a statement gives. -/
abbrev Reply (ρ : Type) := Except Failure ρ

namespace Failure

/-- The state of a statement that breaks a uniqueness constraint. -/
def uniqueViolation : String := "23505"

/-- The states after which the same statement may succeed: a transaction that could not be put in
order with others, and connections that were not made or got lost. -/
def passingStates : List String := ["40001", "08000", "08001", "08004", "08006"]

/-- The text of a failure. -/
def message : Failure → String
  | .refused reason => reason
  | .closed reason => reason
  | .rejected _ message _ => message
  | .notFound => "Record not found"

/-- Whether the same statement may succeed later. -/
def mayPass : Failure → Bool
  | .refused _ | .closed _ => true
  | .rejected state _ _ => passingStates.contains state
  | .notFound => false

end Failure

/-- The first of the rows, or the failure of a statement that had to give one. -/
def theRow {ρ : Type} (rows : List ρ) : Reply ρ :=
  match rows with
  | row :: _ => .ok row
  | [] => .error .notFound

end Intake.Database
