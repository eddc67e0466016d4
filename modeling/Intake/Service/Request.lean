import Intake.Failure.Allocation
import Intake.Plan.Basic

/-! The calls a save makes: on the clock, the ledger, the caches, the claims, and the store. -/

namespace Intake

/-- The owner of a lock: one made for the occasion, which differs from all others, or a named one. -/
inductive LockToken where
  | made (serial : Nat)
  | named (name : String)
deriving DecidableEq, Repr

namespace Service

/-- A single call on one of the services behind a save. -/
inductive Request where
  | now
  | freshToken
  | freshServerId
  | reserve (conversation : Conversation) (count : UInt64)
  | raiseIssued (conversation : Conversation) (floor : SequenceNumber)
  | raiseCommitted (conversation : Conversation) (stored : SequenceNumber)
  | raiseRetained (conversation : Conversation) (floor : SequenceNumber)
  | loadWatermarks (conversation : Conversation)
  | take (conversation : Conversation) (need : UInt64)
  | install (conversation : Conversation) (segment : Segment) (lifetime : Duration)
  | dropSegment (conversation : Conversation)
  | increment (conversation : Conversation) (amount : UInt64) (lifetime : Duration)
  | seedCounter (conversation : Conversation) (value : UInt64) (lifetime : Duration)
  | lock (conversation : Conversation) (token : LockToken) (lifetime : Duration)
  | unlock (conversation : Conversation) (token : LockToken)
  | dropCounter (conversation : Conversation)
  | claim (key : ClaimKey) (fingerprint : Fingerprint) (proposed : ServerId)
  | commitClaim (key : ClaimKey) (serverId : ServerId) (fingerprint : Fingerprint)
  | renameClaim (key : ClaimKey) (fingerprint : Fingerprint) (serverId : ServerId)
  | rollBackClaim (key : ClaimKey)
  | insert (message : Message)
  | findByKey (key : ClaimKey)
  | greatestSequence (conversation : Conversation)

/-- The type of the reply to a call. -/
abbrev Reply : Request → Type
  | .now => Instant
  | .freshToken => LockToken
  | .freshServerId => ServerId
  | .reserve _ _ => Except LedgerError Segment
  | .raiseIssued _ _ => Except LedgerError Unit
  | .raiseCommitted _ _ => Except LedgerError Unit
  | .raiseRetained _ _ => Except LedgerError Unit
  | .loadWatermarks _ => Except LedgerError (Option Watermarks)
  | .take _ _ => Except CacheError TakeOutcome
  | .install _ _ _ => Except CacheError InstallOutcome
  | .dropSegment _ => Except CacheError Unit
  | .increment _ _ _ => Except CacheError (Option UInt64)
  | .seedCounter _ _ _ => Except CacheError Bool
  | .lock _ _ _ => Except CacheError Bool
  | .unlock _ _ => Except CacheError Bool
  | .dropCounter _ => Except CacheError Unit
  | .claim _ _ _ => Except ClaimError ClaimOutcome
  | .commitClaim _ _ _ => Except ClaimError Unit
  | .renameClaim _ _ _ => Except ClaimError Bool
  | .rollBackClaim _ => Except ClaimError Unit
  | .insert _ => Except StoreError Unit
  | .findByKey _ => Except StoreError (Option Message)
  | .greatestSequence _ => Except StoreError (Option SequenceNumber)

end Service

/-- The services behind a save. -/
abbrev services : Interface := ⟨Service.Request, Service.Reply⟩

/-- A plan that calls on the services. -/
abbrev Procedure := Plan services

/-- A plan that calls on the services and may fail. -/
abbrev Attempt (ε : Type) := ExceptT ε Procedure

namespace Procedure

/-- The reading of the clock. -/
def now : Procedure Instant := .ask Service.Request.now .done

/-- A token that no one else holds. -/
def freshToken : Procedure LockToken := .ask Service.Request.freshToken .done

/-- The next candidate for a server identifier. -/
def freshServerId : Procedure ServerId := .ask Service.Request.freshServerId .done

/-- Reserves the next numbers of a conversation in the ledger. -/
def reserve (conversation : Conversation) (count : UInt64) : Procedure (Except LedgerError Segment) :=
  .ask (Service.Request.reserve conversation count) .done

/-- Raises the highest reserved number of a conversation. -/
def raiseIssued (conversation : Conversation) (floor : SequenceNumber) :
    Procedure (Except LedgerError Unit) :=
  .ask (Service.Request.raiseIssued conversation floor) .done

/-- Raises the highest stored number of a conversation. -/
def raiseCommitted (conversation : Conversation) (stored : SequenceNumber) :
    Procedure (Except LedgerError Unit) :=
  .ask (Service.Request.raiseCommitted conversation stored) .done

/-- Raises the lowest kept number of a conversation. -/
def raiseRetained (conversation : Conversation) (floor : SequenceNumber) :
    Procedure (Except LedgerError Unit) :=
  .ask (Service.Request.raiseRetained conversation floor) .done

/-- The watermarks of a conversation. -/
def loadWatermarks (conversation : Conversation) : Procedure (Except LedgerError (Option Watermarks)) :=
  .ask (Service.Request.loadWatermarks conversation) .done

/-- Takes numbers from the cached block of a conversation. -/
def take (conversation : Conversation) (need : UInt64) : Procedure (Except CacheError TakeOutcome) :=
  .ask (Service.Request.take conversation need) .done

/-- Puts a block of a conversation into the cache, unless a newer one is there. -/
def install (conversation : Conversation) (segment : Segment) (lifetime : Duration) :
    Procedure (Except CacheError InstallOutcome) :=
  .ask (Service.Request.install conversation segment lifetime) .done

/-- Drops the cached block of a conversation. -/
def dropSegment (conversation : Conversation) : Procedure (Except CacheError Unit) :=
  .ask (Service.Request.dropSegment conversation) .done

/-- Adds to the counter of a conversation, if there is one, and answers its new value. -/
def increment (conversation : Conversation) (amount : UInt64) (lifetime : Duration) :
    Procedure (Except CacheError (Option UInt64)) :=
  .ask (Service.Request.increment conversation amount lifetime) .done

/-- Starts the counter of a conversation, unless there is one. -/
def seedCounter (conversation : Conversation) (value : UInt64) (lifetime : Duration) :
    Procedure (Except CacheError Bool) :=
  .ask (Service.Request.seedCounter conversation value lifetime) .done

/-- Takes the lock of a conversation, if it is free. -/
def lock (conversation : Conversation) (token : LockToken) (lifetime : Duration) :
    Procedure (Except CacheError Bool) :=
  .ask (Service.Request.lock conversation token lifetime) .done

/-- Releases the lock of a conversation, if the token still owns it. -/
def unlock (conversation : Conversation) (token : LockToken) : Procedure (Except CacheError Bool) :=
  .ask (Service.Request.unlock conversation token) .done

/-- Drops the counter of a conversation. -/
def dropCounter (conversation : Conversation) : Procedure (Except CacheError Unit) :=
  .ask (Service.Request.dropCounter conversation) .done

/-- Claims a key with a pending claim, unless it is claimed. -/
def claim (key : ClaimKey) (fingerprint : Fingerprint) (proposed : ServerId) :
    Procedure (Except ClaimError ClaimOutcome) :=
  .ask (Service.Request.claim key fingerprint proposed) .done

/-- Marks the claim on a key as committed to a stored message. -/
def commitClaim (key : ClaimKey) (serverId : ServerId) (fingerprint : Fingerprint) :
    Procedure (Except ClaimError Unit) :=
  .ask (Service.Request.commitClaim key serverId fingerprint) .done

/-- Gives a pending claim another identifier, if its fingerprint is the given one. -/
def renameClaim (key : ClaimKey) (fingerprint : Fingerprint) (serverId : ServerId) :
    Procedure (Except ClaimError Bool) :=
  .ask (Service.Request.renameClaim key fingerprint serverId) .done

/-- Shortens the life of a pending claim. -/
def rollBackClaim (key : ClaimKey) : Procedure (Except ClaimError Unit) :=
  .ask (Service.Request.rollBackClaim key) .done

/-- Stores a message, unless something of it that must be unique is taken. -/
def insert (message : Message) : Procedure (Except StoreError Unit) :=
  .ask (Service.Request.insert message) .done

/-- The message stored under a key. -/
def findByKey (key : ClaimKey) : Procedure (Except StoreError (Option Message)) :=
  .ask (Service.Request.findByKey key) .done

/-- The highest number stored in a conversation. -/
def greatestSequence (conversation : Conversation) :
    Procedure (Except StoreError (Option SequenceNumber)) :=
  .ask (Service.Request.greatestSequence conversation) .done

end Procedure

end Intake
