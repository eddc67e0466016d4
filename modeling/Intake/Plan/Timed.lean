import Intake.Plan.Basic

/-! Plans run in virtual time, where waits are exact and a deadline cuts what still waits. -/

namespace Intake

/-- The longest wait, in milliseconds: thirty years of 365 days. -/
def Duration.longestWait : Nat := 946080000000

/-- The whole milliseconds of a duration, one begun counting as one. -/
def Duration.ticks (d : Duration) : Nat := (d.nanos + 999999) / 1000000

/-- The whole milliseconds that a wait lasts. A deadline may lie beyond the longest wait. -/
def Duration.waited (d : Duration) : Nat := min d.ticks Duration.longestWait

/-- A state and the virtual milliseconds that have passed. -/
structure Timeline (σ : Type) where
  elapsed : Nat
  state : σ

/-- The earliest of the deadlines in force and its place, the inner one where two are equal. -/
def earliestDeadline : (deadlines : List Nat) → Option (Fin deadlines.length × Nat)
  | [] => none
  | deadline :: outer =>
    match earliestDeadline outer with
    | some (place, earlier) =>
      if earlier < deadline then some (place.succ, earlier) else some (0, deadline)
    | none => some (0, deadline)

/-- A computation in virtual time. It ends with a value, or is cut by one of the deadlines in force,
which are given from the innermost outwards. -/
def Timed (σ α : Type) : Type :=
  (deadlines : List Nat) → Timeline σ → Except (Fin deadlines.length) α × Timeline σ

namespace Timed

variable {σ α β : Type}

/-- A value at once. -/
def pure (value : α) : Timed σ α := fun _ line => (.ok value, line)

/-- One computation after another, unless the first one is cut. -/
def bind (first : Timed σ α) (second : α → Timed σ β) : Timed σ β := fun deadlines line =>
  match first deadlines line with
  | (.ok value, line) => second value deadlines line
  | (.error place, line) => (.error place, line)

instance : Monad (Timed σ) where
  pure := Timed.pure
  bind := Timed.bind

/-- Reads and replaces the state, which takes no time. -/
def transform (step : σ → α × σ) : Timed σ α := fun _ line =>
  let (value, state) := step line.state
  (.ok value, { line with state })

/-- Waits, and is cut when a deadline comes before the end of the wait. -/
def wait (span : Duration) : Timed σ Unit := fun deadlines line =>
  let wakes := line.elapsed + span.waited
  match earliestDeadline deadlines with
  | some (place, deadline) =>
    if deadline < wakes then (.error place, { line with elapsed := deadline })
    else (.ok (), { line with elapsed := wakes })
  | none => (.ok (), { line with elapsed := wakes })

/-- Runs a computation with one more deadline in force, and says whether it was cut by it. -/
def within (limit : Duration) (body : Timed σ α) : Timed σ (Option α) := fun deadlines line =>
  match body ((line.elapsed + limit.ticks) :: deadlines) line with
  | (.ok value, line) => (.ok (some value), line)
  | (.error ⟨0, _⟩, line) => (.ok none, line)
  | (.error ⟨outer + 1, inForce⟩, line) =>
    (.error ⟨outer, Nat.lt_of_succ_lt_succ inForce⟩, line)

/-- Runs a computation from the start of the clock. Without a deadline in force none can cut it. -/
def start (computation : Timed σ α) (state : σ) : α × Timeline σ :=
  match computation [] ⟨0, state⟩ with
  | (.ok value, line) => (value, line)
  | (.error place, _) => place.elim0

end Timed

/-- Runs a plan, each request answered by a computation in virtual time. -/
def Plan.run {I : Interface} {σ : Type} (answer : (r : I.Request) → Timed σ (I.Reply r)) :
    {α : Type} → Plan I α → Timed σ α
  | _, .done value => Timed.pure value
  | _, .ask request next => Timed.bind (answer request) fun reply => (next reply).run answer
  | _, .sleep span next => Timed.bind (Timed.wait span) fun _ => next.run answer
  | _, .within limit body next =>
    Timed.bind (Timed.within limit (body.run answer)) fun outcome => (next outcome).run answer

end Intake
