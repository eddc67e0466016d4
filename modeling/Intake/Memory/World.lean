import Intake.Memory.ClaimIndex
import Intake.Memory.CounterCache
import Intake.Memory.Ledger
import Intake.Memory.MessageStore
import Intake.Memory.SegmentCache
import Intake.Plan.Timed

/-! Every service in memory, on one clock, and the calls they answer. -/

namespace Intake

/-- Candidates for server identifiers: a list of them, and a count of those made after its end. -/
structure IdSupply where
  ready : List ServerId
  made : Nat

namespace IdSupply

/-- The number before the first identifier that is made. -/
def madeAfter : Nat := 0x1000

/-- The next candidate. -/
def next (supply : IdSupply) : ServerId × IdSupply :=
  match supply.ready with
  | id :: ready => (id, { supply with ready })
  | [] =>
    -- Identifiers are made in a sequence that starts above the ones that are listed.
    let made := supply.made + 1
    (⟨Uuid.ofNat (madeAfter + made)⟩, { supply with made })

end IdSupply

/-- The services in memory, and the clock they read. -/
structure World where
  clock : Instant
  ledger : Ledger
  segments : SegmentCache
  counters : CounterCache
  claims : ClaimIndex
  store : MessageStore
  ids : IdSupply
  tokens : Nat

namespace World

/-- Services that hold nothing yet. -/
def fresh (clock : Instant) (lifetimes : ClaimLifetimes) (ready : List ServerId) : World where
  clock
  ledger := .empty
  segments := .empty
  counters := .empty
  claims := .empty lifetimes
  store := .empty
  ids := ⟨ready, 0⟩
  tokens := 0

/-- Answers a call, and gives the services after it. -/
def answer : (request : Service.Request) → World → Service.Reply request × World
  -- Readings of the clock and fresh names come from the machine, and change no service.
  | .now, w => (w.clock, w)
  | .freshToken, w => (.made w.tokens, { w with tokens := w.tokens + 1 })
  | .freshServerId, w =>
    match w.ids.next with
    | (id, ids) => (id, { w with ids })
  | .reserve conversation count, w =>
    match w.ledger.reserve conversation count w.clock with
    | (reply, ledger) => (reply, { w with ledger })
  | .raiseIssued conversation floor, w =>
    (.ok (), { w with ledger := w.ledger.raiseIssued conversation floor w.clock })
  | .raiseCommitted conversation stored, w =>
    (.ok (), { w with ledger := w.ledger.raiseCommitted conversation stored w.clock })
  | .raiseRetained conversation floor, w =>
    (.ok (), { w with ledger := w.ledger.raiseRetained conversation floor w.clock })
  | .loadWatermarks conversation, w => (.ok (w.ledger.load conversation), w)
  | .take conversation need, w =>
    match SegmentCache.take w.segments conversation need w.clock with
    | (outcome, segments) => (.ok outcome, { w with segments })
  | .install conversation segment lifetime, w =>
    match SegmentCache.install w.segments conversation segment lifetime w.clock with
    | (outcome, segments) => (.ok outcome, { w with segments })
  | .dropSegment conversation, w => (.ok (), { w with segments := w.segments.remove conversation })
  | .increment conversation amount lifetime, w =>
    match w.counters.increment conversation amount lifetime w.clock with
    | (reply, counters) => (reply, { w with counters })
  | .seedCounter conversation value lifetime, w =>
    match w.counters.seed conversation value lifetime w.clock with
    | (seeded, counters) => (.ok seeded, { w with counters })
  | .lock conversation token lifetime, w =>
    match w.counters.lock conversation token lifetime w.clock with
    | (locked, counters) => (.ok locked, { w with counters })
  | .unlock conversation token, w =>
    match w.counters.unlock conversation token w.clock with
    | (unlocked, counters) => (.ok unlocked, { w with counters })
  | .dropCounter conversation, w => (.ok (), { w with counters := w.counters.drop conversation })
  | .claim key fingerprint proposed, w =>
    match w.claims.claim key fingerprint proposed w.clock with
    | (outcome, claims) => (.ok outcome, { w with claims })
  | .commitClaim key serverId fingerprint, w =>
    match w.claims.commit key serverId fingerprint w.clock with
    | (reply, claims) => (reply, { w with claims })
  | .renameClaim key fingerprint serverId, w =>
    match w.claims.rename key fingerprint serverId w.clock with
    | (renamed, claims) => (.ok renamed, { w with claims })
  | .rollBackClaim key, w => (.ok (), { w with claims := w.claims.rollBack key w.clock })
  | .insert message, w =>
    match w.store.insert message with
    | (reply, store) => (reply, { w with store })
  | .findByKey key, w => (.ok (w.store.findByKey key), w)
  | .greatestSequence conversation, w => (.ok (w.store.greatestSequence conversation), w)

/-- Runs a plan alone against the services, every call answered at once. -/
def run {α : Type} (plan : Procedure α) : Timed World α :=
  plan.run fun request => Timed.transform (answer request)

end World

end Intake
