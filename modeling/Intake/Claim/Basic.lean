import Intake.Message.Basic

/-! Claims on keys: pending while a save is under way, committed once the message is stored. -/

namespace Intake

/-- How far the save behind a claim has come. -/
inductive ClaimStatus where
  | pending
  | committed
deriving DecidableEq, Repr

/-- A text that names no status. -/
structure StatusError where
  text : String
deriving DecidableEq, Repr

/-- The text of an unknown status. -/
def StatusError.message (e : StatusError) : String := s!"unknown idempotency status: {e.text}"

namespace ClaimStatus

/-- The name of a status. -/
def text : ClaimStatus → String
  | .pending => "pending"
  | .committed => "committed"

/-- The status of a name. -/
def ofText (text : String) : Except StatusError ClaimStatus :=
  if text = ClaimStatus.pending.text then .ok .pending
  else if text = ClaimStatus.committed.text then .ok .committed
  else .error ⟨text⟩

/-- The name of a status names it. -/
@[simp] theorem ofText_text (status : ClaimStatus) : ofText status.text = .ok status := by
  cases status <;> rfl

/-- A text names the status that has it as its name. -/
theorem ofText_eq_ok {text : String} {status : ClaimStatus} :
    ofText text = .ok status ↔ status.text = text := by
  -- Parsing tries the two names in turn, so a status that came out had its own name.
  constructor
  · intro named
    unfold ofText at named
    split at named
    · rename_i same
      cases named
      exact same.symm
    · split at named
      · rename_i same
        cases named
        exact same.symm
      · cases named
  · rintro rfl
    exact status.ofText_text

end ClaimStatus

/-- A claim: the identifier of the message and the fingerprint it was made with. -/
structure Claim where
  serverId : ServerId
  fingerprint : Fingerprint
  status : ClaimStatus
deriving DecidableEq

/-- Whether the message of a claim is stored. -/
def Claim.isCommitted (c : Claim) : Bool := c.status = .committed

/-- What claiming a key gives: a new claim, or the one that was there. -/
inductive ClaimOutcome where
  | created (serverId : ServerId)
  | existing (claim : Claim)
deriving DecidableEq

/-- How long claims live: pending ones, committed ones, and those of a failed save. -/
structure ClaimLifetimes where
  pending : Duration
  committed : Duration
  rollback : Duration
deriving DecidableEq

/-- Ten minutes, two days, and five seconds. -/
def ClaimLifetimes.standard : ClaimLifetimes :=
  ⟨Duration.ofSeconds 600, Duration.ofSeconds 172800, Duration.ofSeconds 5⟩

end Intake
