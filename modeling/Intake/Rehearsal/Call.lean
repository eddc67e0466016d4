import Intake.Rehearsal.Method

/-! The record of a rehearsal: each call with what tells it from others of its method. -/

namespace Intake.Rehearsal

/-- What is recorded: a call on a service, or an identifier that was made. -/
inductive Call where
  | made (id : ServerId)
  | asked (method : Method) (request : Service.Request)

namespace Call

/-- The lifetime of an entry, as it is recorded. -/
def lifetimeText (lifetime : Duration) : String := s!"ttl={lifetime.millis}"

/-- The parts of a request that are recorded. -/
def details : Service.Request → List String
  | .reserve _ count => [toString count.toNat]
  | .raiseIssued _ number | .raiseCommitted _ number | .raiseRetained _ number => [number.text]
  | .take _ need => [toString need.toNat]
  | .install _ segment lifetime =>
    [s!"{segment.first.text}..{segment.last.text}", lifetimeText lifetime]
  | .increment _ word lifetime | .seedCounter _ word lifetime =>
    [toString word.toNat, lifetimeText lifetime]
  | .lock _ _ lifetime => [lifetimeText lifetime]
  | .claim _ _ id | .commitClaim _ id _ | .renameClaim _ _ id => [id.text]
  | .insert message => [message.sequence.text, message.serverId.text]
  | _ => []

/-- A call is recorded as its name and its details, parted by blanks. -/
def text : Call → String
  | .made id => s!"ids.generate {id.text}"
  | .asked method request => String.intercalate " " (method.name :: details request)

end Call

end Intake.Rehearsal
