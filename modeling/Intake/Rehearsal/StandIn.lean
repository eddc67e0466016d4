import Intake.Service.Request

/-! What a rehearsal lets a call answer in the place of the service. -/

namespace Intake.Rehearsal

/-- A failure of some service, or a value of one of the kinds that calls answer. -/
inductive StandIn where
  | ledgerFailure (failure : LedgerError)
  | cacheFailure (failure : CacheError)
  | claimFailure (failure : ClaimError)
  | storeFailure (failure : StoreError)
  | nothing
  | flag (value : Bool)
  | segment (segment : Segment)
  | taking (outcome : TakeOutcome)
  | installing (outcome : InstallOutcome)
  | word (value : Option UInt64)
  | claim (standing : Option Claim)
  | message (message : Option Message)
  | watermarks (state : Option Watermarks)

namespace StandIn

/-- The failure of a ledger call, or the value that a reading finds in the stand-in. -/
def ledgerReply {α : Type} (standIn : StandIn) (read : StandIn → Option α) :
    Option (Except LedgerError α) :=
  match standIn with
  | .ledgerFailure failure => some (.error failure)
  | other => (read other).map .ok

/-- The failure of a cache call, or the value that a reading finds in the stand-in. -/
def cacheReply {α : Type} (standIn : StandIn) (read : StandIn → Option α) :
    Option (Except CacheError α) :=
  match standIn with
  | .cacheFailure failure => some (.error failure)
  | other => (read other).map .ok

/-- The failure of a call on claims, or the value that a reading finds in the stand-in. -/
def claimReply {α : Type} (standIn : StandIn) (read : StandIn → Option α) :
    Option (Except ClaimError α) :=
  match standIn with
  | .claimFailure failure => some (.error failure)
  | other => (read other).map .ok

/-- The failure of a store call, or the value that a reading finds in the stand-in. -/
def storeReply {α : Type} (standIn : StandIn) (read : StandIn → Option α) :
    Option (Except StoreError α) :=
  match standIn with
  | .storeFailure failure => some (.error failure)
  | other => (read other).map .ok

/-- Nothing, as a value. -/
def nothing? : StandIn → Option Unit
  | .nothing => some ()
  | _ => none

/-- The truth value of a stand-in. -/
def flag? : StandIn → Option Bool
  | .flag value => some value
  | _ => none

/-- The word of a stand-in, itself perhaps absent. -/
def word? : StandIn → Option (Option UInt64)
  | .word value => some value
  | _ => none

/-- The reply that a stand-in gives to a request, absent when it is of another kind. -/
def reply? (standIn : StandIn) : (request : Service.Request) → Option (Service.Reply request)
  | .now | .freshToken | .freshServerId => none
  | .reserve _ _ => standIn.ledgerReply fun
    | .segment block => some block
    | _ => none
  | .raiseIssued _ _ => standIn.ledgerReply nothing?
  | .raiseCommitted _ _ => standIn.ledgerReply nothing?
  | .raiseRetained _ _ => standIn.ledgerReply nothing?
  | .loadWatermarks _ => standIn.ledgerReply fun
    | .watermarks state => some state
    | _ => none
  | .take _ _ => standIn.cacheReply fun
    | .taking outcome => some outcome
    | _ => none
  | .install _ _ _ => standIn.cacheReply fun
    | .installing outcome => some outcome
    | _ => none
  | .dropSegment _ => standIn.cacheReply nothing?
  | .increment _ _ _ => standIn.cacheReply word?
  | .seedCounter _ _ _ => standIn.cacheReply flag?
  | .lock _ _ _ => standIn.cacheReply flag?
  | .unlock _ _ => standIn.cacheReply flag?
  | .dropCounter _ => standIn.cacheReply nothing?
  | .claim _ _ proposed => standIn.claimReply fun
    | .claim (some standing) => some (.existing standing)
    | .claim none => some (.created proposed)
    | _ => none
  | .commitClaim _ _ _ => standIn.claimReply nothing?
  | .renameClaim _ _ _ => standIn.claimReply flag?
  | .rollBackClaim _ => standIn.claimReply nothing?
  | .insert _ => standIn.storeReply nothing?
  | .findByKey _ => standIn.storeReply fun
    | .message stored => some stored
    | _ => none
  | .greatestSequence _ => standIn.storeReply fun standIn =>
    standIn.word?.map fun word => word.map SequenceNumber.mk

end StandIn

end Intake.Rehearsal
