import Intake.Memory.World
import Intake.Proofs.Concurrency.Site
import Intake.Proofs.Memory.ClaimIndex

/-! The services in memory under load: calls that fail, entries that are lost, a clock that moves. -/

namespace Intake

namespace Service

/-- Whether a reply is a failure, whatever its cause. Readings of the clock and fresh names are not
calls on a service, and never fail. -/
def Failed : (request : Request) → Reply request → Prop
  | .now, _ | .freshToken, _ | .freshServerId, _ => False
  | .reserve _ _, reply => ∃ failure, reply = .error failure
  | .raiseIssued _ _, reply => ∃ failure, reply = .error failure
  | .raiseCommitted _ _, reply => ∃ failure, reply = .error failure
  | .raiseRetained _ _, reply => ∃ failure, reply = .error failure
  | .loadWatermarks _, reply => ∃ failure, reply = .error failure
  | .take _ _, reply => ∃ failure, reply = .error failure
  | .install _ _ _, reply => ∃ failure, reply = .error failure
  | .dropSegment _, reply => ∃ failure, reply = .error failure
  | .increment _ _ _, reply => ∃ failure, reply = .error failure
  | .seedCounter _ _ _, reply => ∃ failure, reply = .error failure
  | .lock _ _ _, reply => ∃ failure, reply = .error failure
  | .unlock _ _, reply => ∃ failure, reply = .error failure
  | .dropCounter _, reply => ∃ failure, reply = .error failure
  | .claim _ _ _, reply => ∃ failure, reply = .error failure
  | .commitClaim _ _ _, reply => ∃ failure, reply = .error failure
  | .renameClaim _ _ _, reply => ∃ failure, reply = .error failure
  | .rollBackClaim _, reply => ∃ failure, reply = .error failure
  | .insert _, reply => ∃ failure, reply = .error failure
  | .findByKey _, reply => ∃ failure, reply = .error failure
  | .greatestSequence _, reply => ∃ failure, reply = .error failure

/-- Whether a reply is a failure that says something of what a service holds: that a thing is taken, or
that a claim or the watermarks are not as they should be. -/
def Verdict : (request : Request) → Reply request → Prop
  | .insert _, .error (.duplicateSequence _ _) | .insert _, .error (.duplicateClientMessage _)
  | .insert _, .error (.duplicateServerId _) => True
  | .commitClaim _ _ _, .error (.committedMismatch _ _ _) => True
  | .reserve _ _, .error (.inconsistent _ _) | .raiseIssued _ _, .error (.inconsistent _ _)
  | .raiseCommitted _ _, .error (.inconsistent _ _)
  | .raiseRetained _ _, .error (.inconsistent _ _)
  | .loadWatermarks _, .error (.inconsistent _ _) => True
  | _, _ => False

/-- Whether a reply is the failure of a service that could not do what it was asked for, whether it may
pass or not. -/
def Disturbed (request : Request) (reply : Reply request) : Prop :=
  Failed request reply ∧ ¬ Verdict request reply

end Service

namespace World

/-- A call is answered, or it fails in one of the given ways before or after it has taken effect. -/
inductive Reacts (fails : (request : Service.Request) → Service.Reply request → Prop)
    (request : Service.Request) (w : World) : Service.Reply request → World → Prop where
  | answers : Reacts fails request w (answer request w).1 (answer request w).2
  | failsBefore {reply : Service.Reply request} :
      fails request reply → Reacts fails request w reply w
  | failsAfter {reply : Service.Reply request} :
      fails request reply → Reacts fails request w reply (answer request w).2

/-- What may change by itself: the clock is set, and entries of the caches, locks and claims are
lost. The ledger and the message store stay as they are. -/
structure Drifts (before after : World) : Prop where
  ledger : after.ledger = before.ledger
  store : after.store = before.store
  ids : after.ids = before.ids
  tokens : after.tokens = before.tokens
  lifetimes : after.claims.lifetimes = before.claims.lifetimes
  segments : before.segments.Forgets after.segments
  counters : before.counters.counters.Forgets after.counters.counters
  locks : before.counters.locks.Forgets after.counters.locks
  claims : before.claims.claims.Forgets after.claims.claims

/-- A call is answered, or its reply is a failure and it may have taken effect or not. -/
theorem Reacts.answered_or_failed {fails : (request : Service.Request) → Service.Reply request → Prop}
    {request : Service.Request} {w after : World} {reply : Service.Reply request}
    (reacted : Reacts fails request w reply after) :
    (reply = (answer request w).1 ∧ after = (answer request w).2) ∨
      (fails request reply ∧ (after = w ∨ after = (answer request w).2)) := by
  -- The two ways to fail differ only in whether the call has taken effect.
  cases reacted with
  | answers => exact .inl ⟨rfl, rfl⟩
  | failsBefore failed => exact .inr ⟨failed, .inl rfl⟩
  | failsAfter failed => exact .inr ⟨failed, .inr rfl⟩

/-- What held before a call and holds once it has taken effect holds after it in any case. -/
theorem Reacts.keeps {fails : (request : Service.Request) → Service.Reply request → Prop}
    {request : Service.Request} {w after : World} {reply : Service.Reply request}
    (reacted : Reacts fails request w reply after) (holds : World → Prop) (before : holds w)
    (effect : holds (answer request w).2) : holds after := by
  -- Whether a call fails or not, it leaves either what was there or the effect of its answer.
  rcases reacted.answered_or_failed with ⟨_, rfl⟩ | ⟨_, rfl | rfl⟩
  · exact effect
  · exact before
  · exact effect

/-- Only an insert touches the message store. -/
theorem answer_store (request : Service.Request) (w : World) :
    (answer request w).2.store = w.store ∨
      ∃ message, request = .insert message ∧
        (answer request w).2.store = (w.store.insert message).2 := by
  -- Every other request is answered by some other service.
  cases request
  case insert message => exact .inr ⟨message, rfl, rfl⟩
  all_goals exact .inl rfl

/-- Whatever a call comes to, the messages are as they were before it, or as its effect leaves them. -/
theorem Reacts.store {fails : (request : Service.Request) → Service.Reply request → Prop}
    {request : Service.Request} {w after : World} {reply : Service.Reply request}
    (reacted : Reacts fails request w reply after) :
    after.store = w.store ∨ after.store = (answer request w).2.store := by
  -- A failure before the effect is the only case that leaves the store alone for certain.
  cases reacted with
  | answers => exact .inr rfl
  | failsBefore _ => exact .inl rfl
  | failsAfter _ => exact .inr rfl

/-- A claim is one from before, which a call changes at the most in its identifier and only while it is
pending, or one that the call has made or committed. -/
theorem answer_claims {request : Service.Request} {w : World} {key : ClaimKey}
    {entry : Expiring Claim}
    (found : (answer request w).2.claims.claims.entries.find? key = some entry) :
    (∃ earlier, w.claims.claims.entries.find? key = some earlier ∧
      entry.value.fingerprint = earlier.value.fingerprint ∧
      (entry.value.status = .committed → entry.value = earlier.value)) ∨
    (∃ fingerprint proposed, request = .claim key fingerprint proposed ∧
      entry.value = ⟨proposed, fingerprint, .pending⟩) ∨
    (∃ serverId fingerprint, request = .commitClaim key serverId fingerprint ∧
      entry.value = ⟨serverId, fingerprint, .committed⟩) := by
  -- Four requests are about claims, and every other one is answered by some other service.
  have unchanged : w.claims.claims.entries.find? key = some entry →
      ∃ earlier, w.claims.claims.entries.find? key = some earlier ∧
        entry.value.fingerprint = earlier.value.fingerprint ∧
        (entry.value.status = .committed → entry.value = earlier.value) :=
    fun found => ⟨entry, found, rfl, fun _ => rfl⟩
  cases request
  case claim claimed fingerprint proposed =>
    rcases ClaimIndex.find?_of_claim found with before | ⟨rfl, made⟩
    · exact .inl (unchanged before)
    · exact .inr (.inl ⟨fingerprint, proposed, rfl, made⟩)
  case commitClaim committed serverId fingerprint =>
    rcases ClaimIndex.find?_of_commit found with before | ⟨rfl, made⟩
    · exact .inl (unchanged before)
    · exact .inr (.inr ⟨serverId, fingerprint, rfl, made⟩)
  case renameClaim renamed fingerprint serverId =>
    rcases ClaimIndex.find?_of_rename found with before | ⟨earlier, before, pending, made⟩
    · exact .inl (unchanged before)
    · refine .inl ⟨earlier, before, by rw [made], fun committed => ?_⟩
      rw [made] at committed
      rw [pending] at committed
      cases committed
  case rollBackClaim rolledBack =>
    obtain ⟨earlier, before, same⟩ := ClaimIndex.find?_of_rollBack found
    exact .inl ⟨earlier, before, by rw [same], fun _ => same⟩
  all_goals exact .inl (unchanged found)

end World

end Intake
