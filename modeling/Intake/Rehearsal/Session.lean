import Intake.Memory.World
import Intake.Rehearsal.Call
import Intake.Rehearsal.Step
import Intake.Save.Commit

/-! Rehearsals: saves and allocations against the services in memory, each call recorded and open to
scripted failures, delays, and steps that others take in between. -/

namespace Intake.Rehearsal

/-- The services, what is still to happen at their calls, and the record, newest call first. -/
structure Session where
  world : World
  scripts : Table Method (Script Step)
  record : List Call

namespace Session

/-- A session with services that hold nothing, and without scripts. -/
def fresh (clock : Instant) (lifetimes : ClaimLifetimes) (ready : List ServerId) : Session :=
  ⟨World.fresh clock lifetimes ready, Table.empty, []⟩

/-- Takes the next behaviour off the script of a method. -/
def nextBehaviour (method : Method) (session : Session) : Option (Behaviour Step) × Session :=
  match session.scripts.find? method with
  | some ⟨behaviour :: queue, rest⟩ =>
    (some behaviour, { session with scripts := session.scripts.insert method ⟨queue, rest⟩ })
  | some ⟨[], rest⟩ => (rest, session)
  | none => (none, session)

/-- Looks at what a service holds. Looking an entry up removes it if its time is up. -/
def look (query : Query) (session : Session) : Answer × Session :=
  let world := session.world
  match query with
  | .reservations => (.count world.ledger.reservations, session)
  | .segment conversation =>
    match SegmentCache.entry world.segments conversation world.clock with
    | (entry, segments) => (.cached entry, { session with world := { world with segments } })
  | .counter conversation =>
    match world.counters.value conversation world.clock with
    | (value, counters) => (.word value, { session with world := { world with counters } })
  | .claim key =>
    match world.claims.get key world.clock with
    | (claim, claims) => (.claim claim, { session with world := { world with claims } })
  | .claimCount => (.size (world.claims.size world.clock), session)
  | .byServerId serverId => (.message (world.store.findByServerId serverId), session)
  | .after conversation cursor limit =>
    (.page (world.store.findAfter conversation cursor limit), session)
  | .messageCount => (.size world.store.size, session)

end Session

/-- Changes the services, and answers nothing. -/
def change (step : World → World) : Timed Session Answer :=
  Timed.transform fun session => (.nothing, { session with world := step session.world })

/-- The service's own work and reply. -/
def genuine (request : Service.Request) : Timed Session (Service.Reply request) :=
  Timed.transform fun session =>
    match World.answer request session.world with
    | (reply, world) => (reply, { session with world })

/-- Adds to the record. -/
def note (calls : List Call) : Timed Session Unit :=
  Timed.transform fun session => ((), { session with record := calls ++ session.record })

/-- What is recorded of a request without a method: an identifier that was made. -/
def madeBy : (request : Service.Request) → Service.Reply request → List Call
  | .freshServerId, id => [.made id]
  | _, _ => []

section

variable (setup : Setup)

/-- Runs an allocator's plan as a step. -/
def runAttempt {α : Type} (answer : (r : Service.Request) → Timed Session (Service.Reply r))
    (attempt : Attempt AllocationError α) (toAnswer : α → Answer) :
    Timed Session (Except Fault Answer) := do
  return Answer.ofResult .allocation toAnswer (← Plan.run answer attempt.run)

/-- Runs a step, given how the services answer the calls of a plan. -/
def runStep (answer : (r : Service.Request) → Timed Session (Service.Reply r)) :
    Step → Timed Session (Except Fault Answer)
  | .pass => return .ok .nothing
  | .save submission => do
    let plan := Intake.save setup.saving setup.allocator submission
    return Answer.ofResult .save .receipt (← Plan.run answer plan)
  | .allocate conversation need =>
    runAttempt answer (setup.allocator.allocate conversation need) .grant
  | .reconcile conversation floor =>
    runAttempt answer (setup.allocator.reconcile conversation floor) fun _ => .nothing
  | .recordCommitted conversation stored =>
    runAttempt answer (Allocator.recordCommitted conversation stored) fun _ => .nothing
  | .recordRetained conversation floor =>
    runAttempt answer (Allocator.recordRetained conversation floor) fun _ => .nothing
  | .watermarks conversation =>
    runAttempt answer (Allocator.watermarks conversation) .watermarks
  | .settings =>
    Timed.transform fun session => (.ok (.settings setup session.world.claims.lifetimes), session)
  | .advance millis =>
    Timed.transform fun session =>
      let clock := session.world.clock.shift millis
      (.ok (.clock clock), { session with world := { session.world with clock } })
  | .follow method script =>
    Timed.transform fun session =>
      (.ok .nothing, { session with scripts := session.scripts.insert method script })
  | .direct request => do return Answer.ofReply request (← genuine request)
  | .look query => do return .ok (← Timed.transform (Session.look query))
  | .clearSegments => do return .ok (← change fun world => { world with segments := .empty })
  | .clearCounters => do return .ok (← change fun world => { world with counters := .empty })
  | .refuse fault => return .error fault

/-- Answers a call as its method's script has it. Steps before a call may call in their turn, and so
on to the given depth, at which every call is answered by its service. -/
def perform : Nat → (request : Service.Request) → Timed Session (Service.Reply request)
  | depth, request =>
    match Method.ofRequest? request with
    | none => do
      let reply ← genuine request
      note (madeBy request reply)
      return reply
    | some method => do
      note [.asked method request]
      match depth with
      | 0 => genuine request
      | depth + 1 =>
        match ← Timed.transform (Session.nextBehaviour method) with
        | none => genuine request
        | some behaviour =>
          behaviour.before.forM fun step => do
            let _ ← runStep setup (perform depth) step
          -- A call that takes effect may still answer late, or with something else.
          let applied ←
            if behaviour.applied then some <$> genuine request else pure none
          Timed.wait behaviour.delay
          match behaviour.standIn.bind fun standIn => standIn.reply? request, applied with
          | some reply, _ => return reply
          | none, some reply => return reply
          | none, none => genuine request

end

/-- How deep steps before calls may nest. -/
def greatestDepth : Nat := 10000

/-- What came of a step: its answer, the calls in order, and the virtual time it took. -/
structure Report where
  answer : Except Fault Answer
  calls : List Call
  elapsed : Nat

/-- Runs one step from the start of the virtual clock. -/
def Session.report (setup : Setup) (session : Session) (step : Step) : Report × Session :=
  match (runStep setup (perform setup greatestDepth) step).start { session with record := [] } with
  | (answer, line) => (⟨answer, line.state.record.reverse, line.elapsed⟩, line.state)

/-- Runs the steps of a rehearsal in order. -/
def rehearse (setup : Setup) : Session → List Step → List Report
  | _, [] => []
  | session, step :: steps =>
    match session.report setup step with
    | (report, session) => report :: rehearse setup session steps

end Intake.Rehearsal
