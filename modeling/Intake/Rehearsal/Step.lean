import Intake.Allocator.Basic
import Intake.Failure.Save
import Intake.Rehearsal.Method
import Intake.Rehearsal.StandIn
import Intake.Save.Config

/-! The steps of a rehearsal, and what they answer. -/

namespace Intake.Rehearsal

/-- What happens at one call: first the given steps, then the service's own work if it is applied, then a
wait, and last the reply. -/
structure Behaviour (σ : Type) where
  /-- Steps that others might take just before the call. -/
  before : List σ
  applied : Bool
  delay : Duration
  /-- What is answered in place of the service's own reply. -/
  standIn : Option StandIn

/-- What happens at the calls of one method: a list of behaviours, then one for ever. -/
structure Script (σ : Type) where
  queue : List (Behaviour σ)
  rest : Option (Behaviour σ)

/-- The failure of a step: of its input, where a block may turn out to hold no numbers, or of one of
the parts that it ran. -/
inductive Fault where
  | identifier (source : IdentifierError)
  | fingerprint (source : FingerprintError)
  | noSegment
  | ledger (source : LedgerError)
  | cache (source : CacheError)
  | claims (source : ClaimError)
  | store (source : StoreError)
  | allocation (source : AllocationError)
  | save (source : SaveError)

/-- The text of a failed step. -/
def Fault.message : Fault → String
  | .identifier source => source.message
  | .fingerprint source => source.message
  | .noSegment => ""
  | .ledger source => source.message
  | .cache source => source.message
  | .claims source => source.message
  | .store source => source.message
  | .allocation source => source.message
  | .save source => source.message

/-- A look at what a service in memory holds. -/
inductive Query where
  | reservations
  | segment (conversation : Conversation)
  | counter (conversation : Conversation)
  | claim (key : ClaimKey)
  | claimCount
  | byServerId (serverId : ServerId)
  | after (conversation : Conversation) (cursor : SequenceNumber) (limit : Nat)
  | messageCount

/-- One step of a rehearsal. The one named `pass` does nothing. -/
inductive Step where
  | pass
  | save (submission : Submission)
  | allocate (conversation : Conversation) (need : UInt64)
  | reconcile (conversation : Conversation) (floor : SequenceNumber)
  | recordCommitted (conversation : Conversation) (stored : SequenceNumber)
  | recordRetained (conversation : Conversation) (floor : SequenceNumber)
  | watermarks (conversation : Conversation)
  | settings
  | advance (millis : Int)
  | follow (method : Method) (script : Script Step)
  | direct (request : Service.Request)
  | look (query : Query)
  | clearSegments
  | clearCounters
  | refuse (fault : Fault)

/-- Who takes part: how saves and allocations are set up. -/
structure Setup where
  saving : SaveConfig
  allocator : Allocator

/-- What a step answers. -/
inductive Answer where
  | nothing
  | flag (value : Bool)
  | word (value : Option UInt64)
  | count (number : Nat)
  | size (entries : Nat)
  | clock (now : Instant)
  | receipt (receipt : Receipt)
  | grant (grant : Grant)
  | segment (segment : Segment)
  | taking (outcome : TakeOutcome)
  | installing (outcome : InstallOutcome)
  | cached (entry : Option CachedSegment)
  | watermarks (state : Option Watermarks)
  | claiming (outcome : ClaimOutcome)
  | claim (claim : Option Claim)
  | message (message : Option Message)
  | page (messages : List Message)
  | settings (setup : Setup) (lifetimes : ClaimLifetimes)

namespace Answer

/-- The result of one of the parts as the answer of a step. -/
def ofResult {ε α : Type} (fault : ε → Fault) (answer : α → Answer) :
    Except ε α → Except Fault Answer
  | .ok value => .ok (answer value)
  | .error failure => .error (fault failure)

/-- The result of a part that answers no value. -/
def ofUnit {ε : Type} (fault : ε → Fault) (result : Except ε Unit) : Except Fault Answer :=
  ofResult fault (fun _ => .nothing) result

/-- The reply of a service as the answer of a step. -/
def ofReply : (request : Service.Request) → Service.Reply request → Except Fault Answer
  | .now, now => .ok (.clock now)
  | .freshToken, _ => .ok .nothing
  | .freshServerId, _ => .ok .nothing
  | .reserve _ _, reply => ofResult .ledger .segment reply
  | .raiseIssued _ _, reply => ofUnit .ledger reply
  | .raiseCommitted _ _, reply => ofUnit .ledger reply
  | .raiseRetained _ _, reply => ofUnit .ledger reply
  | .loadWatermarks _, reply => ofResult .ledger .watermarks reply
  | .take _ _, reply => ofResult .cache .taking reply
  | .install _ _ _, reply => ofResult .cache .installing reply
  | .dropSegment _, reply => ofUnit .cache reply
  | .increment _ _ _, reply => ofResult .cache .word reply
  | .seedCounter _ _ _, reply => ofResult .cache .flag reply
  | .lock _ _ _, reply => ofResult .cache .flag reply
  | .unlock _ _, reply => ofResult .cache .flag reply
  | .dropCounter _, reply => ofUnit .cache reply
  | .claim _ _ _, reply => ofResult .claims .claiming reply
  | .commitClaim _ _ _, reply => ofUnit .claims reply
  | .renameClaim _ _ _, reply => ofResult .claims .flag reply
  | .rollBackClaim _, reply => ofUnit .claims reply
  | .insert _, reply => ofUnit .store reply
  | .findByKey _, reply => ofResult .store .message reply
  | .greatestSequence _, reply =>
    ofResult .store (fun greatest => .word (greatest.map SequenceNumber.value)) reply

end Answer

end Intake.Rehearsal
