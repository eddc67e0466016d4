import Intake.Service.Request

/-! The calls of which a rehearsal keeps a record, and their names. -/

namespace Intake.Rehearsal

/-- A kind of call on one of the services. -/
inductive Method where
  | reserve
  | raiseIssued
  | raiseCommitted
  | raiseRetained
  | loadWatermarks
  | take
  | install
  | dropSegment
  | increment
  | seedCounter
  | lock
  | unlock
  | dropCounter
  | claim
  | commitClaim
  | renameClaim
  | rollBackClaim
  | insert
  | findByKey
  | greatestSequence
deriving DecidableEq, Repr

namespace Method

/-- Every method. -/
def all : List Method :=
  [.reserve, .raiseIssued, .raiseCommitted, .raiseRetained, .loadWatermarks, .take, .install,
    .dropSegment, .increment, .seedCounter, .lock, .unlock, .dropCounter, .claim, .commitClaim,
    .renameClaim, .rollBackClaim, .insert, .findByKey, .greatestSequence]

/-- The service and the call of a method. -/
def name : Method → String
  | .reserve => "ledger.reserve"
  | .raiseIssued => "ledger.raise_issued"
  | .raiseCommitted => "ledger.raise_max"
  | .raiseRetained => "ledger.raise_min"
  | .loadWatermarks => "ledger.load"
  | .take => "segments.take"
  | .install => "segments.install"
  | .dropSegment => "segments.invalidate"
  | .increment => "counters.increment_existing"
  | .seedCounter => "counters.set_if_absent"
  | .lock => "counters.try_lock"
  | .unlock => "counters.unlock"
  | .dropCounter => "counters.invalidate"
  | .claim => "index.ensure_pending"
  | .commitClaim => "index.mark_committed"
  | .renameClaim => "index.update_server_id_if_pending"
  | .rollBackClaim => "index.rollback_short_ttl"
  | .insert => "store.insert"
  | .findByKey => "store.find_by_client_message"
  | .greatestSequence => "store.max_sequence"

/-- The method of a name. -/
def ofName? (name : String) : Option Method := all.find? fun method => method.name = name

/-- The name of a method names it. -/
@[simp] theorem ofName?_name (method : Method) : ofName? method.name = some method := by
  cases method <;> decide

/-- The method of a request. The clock and what is made on demand have none. -/
def ofRequest? : Service.Request → Option Method
  | .now | .freshToken | .freshServerId => none
  | .reserve _ _ => some .reserve
  | .raiseIssued _ _ => some .raiseIssued
  | .raiseCommitted _ _ => some .raiseCommitted
  | .raiseRetained _ _ => some .raiseRetained
  | .loadWatermarks _ => some .loadWatermarks
  | .take _ _ => some .take
  | .install _ _ _ => some .install
  | .dropSegment _ => some .dropSegment
  | .increment _ _ _ => some .increment
  | .seedCounter _ _ _ => some .seedCounter
  | .lock _ _ _ => some .lock
  | .unlock _ _ => some .unlock
  | .dropCounter _ => some .dropCounter
  | .claim _ _ _ => some .claim
  | .commitClaim _ _ _ => some .commitClaim
  | .renameClaim _ _ _ => some .renameClaim
  | .rollBackClaim _ => some .rollBackClaim
  | .insert _ => some .insert
  | .findByKey _ => some .findByKey
  | .greatestSequence _ => some .greatestSequence

end Method

end Intake.Rehearsal
