import Intake.Plan.Timed
import Intake.Proofs.Plan.Protocol

/-! Two runs of one plan go the same way when their calls are answered alike. -/

namespace Intake

/-- How a wait ends, and when, does not depend on the state. -/
theorem Timed.wait_alike (σ : Type) (span : Duration) (deadlines : List Nat) (elapsed : Nat) :
    ∃ outcome now, ∀ s : σ, wait span deadlines ⟨elapsed, s⟩ = (outcome, ⟨now, s⟩) := by
  -- Whether a wait is cut depends on the time and the deadlines, never on what is beside them.
  unfold wait
  dsimp only
  split
  · split
    · exact ⟨_, _, fun _ => rfl⟩
    · exact ⟨_, _, fun _ => rfl⟩
  · exact ⟨_, _, fun _ => rfl⟩

namespace Plan

variable {I : Interface} {H σ α : Type} {protocol : Protocol I H}

/-- What holds where a run of a plan ends: as stated of its value, or as stated of a cut. -/
def Ended {place : Type} (cut : H → Prop) (ends : α → H → Prop) : Except place α → H → Prop
  | .ok value, after => ends value after
  | .error _, after => cut after

/-- Two states answer a caller alike: what it is permitted to ask, both answer with one reply that is
a move of the protocol, and after it they answer it alike again. -/
def AnswersAlike (protocol : Protocol I H)
    (answer : (request : I.Request) → σ → I.Reply request × σ) (alike : H → σ → σ → Prop) : Prop :=
  ∀ request held s t, protocol.permits request held → alike held s t →
    (answer request s).1 = (answer request t).1 ∧
      ∃ after, protocol.moves request held (answer request s).1 after ∧
        alike after (answer request s).2 (answer request t).2

/-- From two states that answer it alike, a plan that keeps the protocol runs to the same end at the
same time, and leaves two states that would go on to answer it alike. -/
theorem Keeps.lockstep {answer : (request : I.Request) → σ → I.Reply request × σ}
    {alike : H → σ → σ → Prop} (answers : AnswersAlike protocol answer alike) {plan : Plan I α}
    {cut : H → Prop} {ends : α → H → Prop} {held : H} (keeps : plan.Keeps protocol cut ends held)
    {s t : σ} (start : alike held s t) (deadlines : List Nat) (elapsed : Nat) :
    ∃ outcome now after s' t',
      plan.run (fun request => Timed.transform (answer request)) deadlines ⟨elapsed, s⟩ =
        (outcome, ⟨now, s'⟩) ∧
      plan.run (fun request => Timed.transform (answer request)) deadlines ⟨elapsed, t⟩ =
        (outcome, ⟨now, t'⟩) ∧
      alike after s' t' ∧ Ended cut ends outcome after := by
  -- The induction is on the plan. What a cut leads to is what its bounded part keeps.
  induction plan generalizing cut held s t deadlines elapsed with
  | done value => exact ⟨.ok value, elapsed, held, s, t, rfl, rfl, start, keeps.2⟩
  | ask request next ih =>
    obtain ⟨_, permitted, goesOn⟩ := keeps
    obtain ⟨same, after, moved, still⟩ := answers request held s t permitted start
    obtain ⟨outcome, now, last, s', t', left, right, ended⟩ :=
      ih (answer request s).1 (goesOn _ after moved) still deadlines elapsed
    refine ⟨outcome, now, last, s', t', left, ?_, ended⟩
    rw [same] at right
    exact right
  | sleep span next ih =>
    obtain ⟨woken, now, waits⟩ := Timed.wait_alike σ span deadlines elapsed
    simp only [run, Timed.bind, waits]
    cases woken with
    | error place => exact ⟨.error place, now, held, s, t, rfl, rfl, start, keeps.cut_held⟩
    | ok _ => exact ih keeps start deadlines now
  | within limit body next ihBody ihNext =>
    have bounded : body.Keeps protocol _ _ held := keeps
    obtain ⟨part, now, middle, s', t', left, right, still, reached⟩ :=
      ihBody bounded start ((elapsed + limit.ticks) :: deadlines) elapsed
    simp only [run, Timed.bind, Timed.within, left, right]
    rcases part with ⟨place, inForce⟩ | value
    · cases place with
      | zero => exact ihNext none reached still deadlines now
      -- A deadline farther out cuts the whole, which may be cut as what follows may be.
      | succ outer => exact ⟨_, now, middle, s', t', rfl, rfl, still, Keeps.cut_held reached⟩
    · exact ihNext (some value) reached still deadlines now

/-- From the start of the clock such a plan ends with one value from either of two states. -/
theorem Keeps.lockstep_start {answer : (request : I.Request) → σ → I.Reply request × σ}
    {alike : H → σ → σ → Prop} (answers : AnswersAlike protocol answer alike) {plan : Plan I α}
    {cut : H → Prop} {ends : α → H → Prop} {held : H} (keeps : plan.Keeps protocol cut ends held)
    {s t : σ} (start : alike held s t) :
    ∃ value now after s' t',
      (plan.run fun request => Timed.transform (answer request)).start s = (value, ⟨now, s'⟩) ∧
      (plan.run fun request => Timed.transform (answer request)).start t = (value, ⟨now, t'⟩) ∧
      alike after s' t' ∧ ends value after := by
  -- From the start of the clock no deadline is in force that could cut either run.
  obtain ⟨outcome, now, after, s', t', left, right, still, ended⟩ := keeps.lockstep answers start [] 0
  rcases outcome with place | value
  · exact place.elim0
  · refine ⟨value, now, after, s', t', ?_, ?_, still, ended⟩
    · simp only [Timed.start, left]
    · simp only [Timed.start, right]

end Plan

end Intake
