import Mathlib.Data.ENat.Lattice
import Intake.Failure.Services
import Intake.Plan.Retry
import Intake.Proofs.Plan.Timing

/-! Attempts repeated while their failures may pass: how many are made whatever each of them comes to, what
the last one leaves, and the waits in between. -/

namespace Intake

/-- The interface whose only request is one more attempt. -/
abbrev Attempts (ρ : Type) : Interface := ⟨Unit, fun _ => ρ⟩

namespace Attempts

/-- What is seen of a plan of attempts: one of them begins, or the plan waits. -/
inductive Seen where
  | attempt
  | wait (span : Duration)
deriving DecidableEq, Repr

/-- How a plan of attempts goes: the value that it comes to, if it comes to one, the attempts made so far,
and what is seen of it. -/
structure Course (α : Type) where
  value : Option α
  made : Nat
  seen : List Seen
deriving DecidableEq, Repr

/-- A course that goes on from what was seen before. -/
def Course.after {α : Type} (before : List Seen) (course : Course α) : Course α :=
  { course with seen := before ++ course.seen }

/-- What was seen earlier is seen first. -/
theorem Course.after_after {α : Type} (earlier before : List Seen) (course : Course α) :
    (course.after before).after earlier = course.after (earlier ++ before) := by
  simp only [Course.after, List.append_assoc]

end Attempts

namespace Plan

open Attempts

variable {ρ ε α : Type}

/-- How a plan of attempts goes when each attempt, counted from one, gives the scripted reply. One without a
reply takes longer than any deadline, so that the innermost one cuts it. -/
def play (script : Nat → Option ρ) : {α : Type} → Plan (Attempts ρ) α → Nat → Course α
  | _, .done value, made => ⟨some value, made, []⟩
  | _, .ask _ next, made =>
    match script (made + 1) with
    | some reply => ((next reply).play script (made + 1)).after [.attempt]
    -- Nothing behind a slow attempt is reached before the deadline.
    | none => ⟨none, made + 1, [.attempt]⟩
  | _, .sleep span next, made => (next.play script made).after [.wait span]
  | _, .within _ body next, made =>
    -- What was seen before the deadline has been seen, even if the deadline comes first.
    let part := body.play script made
    ((next part.value).play script part.made).after part.seen

/-- Of two plans in a row the second one goes on from what the first one comes to. -/
theorem play_bind {β : Type} {script : Nat → Option ρ} {plan : Plan (Attempts ρ) α}
    {second : α → Plan (Attempts ρ) β} {made : Nat} {value : α}
    (ends : (plan.play script made).value = some value) :
    (plan.bind second).play script made =
      ((second value).play script (plan.play script made).made).after (plan.play script made).seen := by
  -- The induction is on the plan. What is bounded by a deadline is not changed by what comes behind it.
  induction plan generalizing made with
  | done first => cases ends; rfl
  | ask request next ih =>
    simp only [Plan.bind, play] at ends ⊢
    cases replied : script (made + 1) with
    | none => rw [replied] at ends; cases ends
    | some reply =>
      rw [replied] at ends
      dsimp only
      rw [ih reply ends, Course.after_after]
      rfl
  | sleep span next ih =>
    simp only [Plan.bind, play] at ends ⊢
    rw [ih ends, Course.after_after]
    rfl
  | within limit body next _ ih =>
    simp only [Plan.bind, play] at ends ⊢
    rw [ih _ ends, Course.after_after]
    rfl

end Plan

namespace Attempts

variable {ε α : Type} [LawfulTransient ε]

/-- An attempt behind which no other is made: a success, or a failure that cannot pass. One that is too slow
does not settle anything. -/
def Settles : Option (Except ε α) → Prop
  | some (.ok _) => True
  | some (.error failure) => Transient.isTransient failure = false
  | none => False

instance : DecidablePred (Settles : Option (Except ε α) → Prop)
  | some (.ok _) => .isTrue trivial
  | some (.error _) => decEq _ _
  | none => .isFalse id

/-- What an attempt comes to: its reply, or the missed deadline when it is too slow. -/
def outcome (operation : String) (limit : Duration) (attempt : Option (Except ε α)) : Except ε α :=
  attempt.getD (.error (Transient.timedOut operation limit))

/-- The position of the first attempt that settles, infinite if there is none. -/
noncomputable def firstSettled (script : Nat → Option (Except ε α)) : ℕ∞ :=
  ⨅ number : { number : Nat // 1 ≤ number ∧ Settles (script number) }, (number.1 : ℕ∞)

/-- The number of the last attempt, when so many are made and so many are left behind the next one. -/
def last (script : Nat → Option (Except ε α)) : (left made : Nat) → Nat
  | 0, made => made + 1
  | left + 1, made =>
    if Settles (script (made + 1)) then made + 1 else last script left (made + 1)

/-- What is seen of the attempts between two numbers: a wait after each of them but the last. -/
def between (policy : RetryPolicy) (first last : Nat) : List Seen :=
  .attempt :: (List.range' first (last - first)).flatMap fun number =>
    [.wait (policy.backoffFor (.ofNat number)), .attempt]

variable {policy : RetryPolicy} {limit : Duration} {operation : String}
  {script : Nat → Option (Except ε α)} {left made : Nat}

/-- The last attempt is one of those that are left. -/
theorem last_bounds (script : Nat → Option (Except ε α)) (left made : Nat) :
    made < last script left made ∧ last script left made ≤ made + 1 + left := by
  -- The induction is on the attempts that are left, of which the first one may be the last.
  induction left generalizing made with
  | zero => exact ⟨Nat.lt_succ_self made, Nat.le_refl _⟩
  | succ left ih =>
    rw [last]
    split
    · omega
    · have bounds := ih (made + 1)
      omega

/-- No attempt before the last one settles, and the last one settles or has no other left behind it. -/
theorem last_settles (script : Nat → Option (Except ε α)) (left made : Nat) :
    (∀ number, made < number → number < last script left made → ¬ Settles (script number)) ∧
      (Settles (script (last script left made)) ∨ last script left made = made + 1 + left) := by
  induction left generalizing made with
  | zero => exact ⟨fun number _ _ => by rw [last] at *; omega, .inr rfl⟩
  | succ left ih =>
    rw [last]
    split
    · rename_i settles
      exact ⟨fun number _ _ => by omega, .inl settles⟩
    · rename_i goes
      obtain ⟨before, ends⟩ := ih (made + 1)
      refine ⟨fun number above below => ?_, ends.imp_right fun same => by omega⟩
      -- The next attempt goes on, and so do those between it and the last one.
      rcases Nat.eq_or_lt_of_le (Nat.succ_le_of_lt above) with rfl | beyond
      · exact goes
      · exact before number beyond below

/-- The last of all attempts is the first one that settles, or else the last that is allowed. -/
theorem last_eq_min (script : Nat → Option (Except ε α)) (left : Nat) :
    (last script left 0 : ℕ∞) = min (firstSettled script) (left + 1 : Nat) := by
  obtain ⟨positive, bounded⟩ := last_bounds script left 0
  obtain ⟨before, ends⟩ := last_settles script left 0
  -- It is beyond neither of the two numbers, and it is one of them.
  apply le_antisymm
  · refine le_min (le_iInf fun ⟨number, counted, settles⟩ => ?_) (by exact_mod_cast by omega)
    refine Nat.cast_le.mpr (Nat.le_of_not_lt fun earlier => ?_)
    exact before number counted earlier settles
  · rcases ends with settles | spent
    · exact min_le_of_left_le (iInf_le _ (⟨_, positive, settles⟩ : { number // _ }))
    · exact min_le_of_right_le (by exact_mod_cast by omega)

/-- Attempts of which the first one is not the last are that one, a wait, and the others. -/
theorem between_step {first last : Nat} (more : first < last) :
    between policy first last =
      [.attempt, .wait (policy.backoffFor (.ofNat first))] ++ between policy (first + 1) last := by
  -- The list of what is seen is one longer, by an attempt and the wait behind it.
  unfold between
  rw [show last - first = (last - (first + 1)) + 1 by omega, List.range'_succ]
  rfl

end Attempts

namespace Plan

open Attempts

variable {ε α : Type} [LawfulTransient ε]

/-- The plan of one attempt. -/
def attempt : Plan (Attempts (Except ε α)) (Except ε α) := request (I := Attempts (Except ε α)) ()

variable (policy : RetryPolicy) (limit : Duration) (operation : String)

/-- What follows an attempt when others are left: a wait and the others, if its failure may pass. -/
def afterAttempt (left : Nat) (number : UInt32) : Except ε α → Plan (Attempts (Except ε α)) (Except ε α)
  | .ok value => .done (.ok value)
  | .error failure =>
    if Transient.isTransient failure then
      .sleep (policy.backoffFor number) (retryFrom policy limit operation attempt left (number + 1))
    else .done (.error failure)

/-- When others are left, one attempt is made first. -/
theorem retryFrom_succ (left : Nat) (number : UInt32) :
    (retryFrom policy limit operation attempt (left + 1) number :
        Plan (Attempts (Except ε α)) (Except ε α)) =
      (withDeadline operation limit attempt).bind
        (afterAttempt policy limit operation left number) := by
  -- What follows an attempt is the same for a success and for a failure that is not tried again.
  refine congrArg (Plan.bind _) (funext fun result => ?_)
  cases result with
  | ok value => rfl
  | error failure =>
    dsimp only [afterAttempt]
    split <;> rfl

/-- Others follow an attempt if it does not settle. -/
theorem afterAttempt_outcome (left : Nat) (number : UInt32) (attempted : Option (Except ε α)) :
    afterAttempt policy limit operation left number (outcome operation limit attempted) =
      if Settles attempted then .done (outcome operation limit attempted)
      else .sleep (policy.backoffFor number)
        (retryFrom policy limit operation attempt left (number + 1)) := by
  rcases attempted with _ | failure | value
  -- An attempt that is too slow comes to a failure that may pass.
  · have late : Transient.isTransient (Transient.timedOut operation limit : ε) = true :=
      LawfulTransient.timedOut_isTransient operation limit
    simp only [afterAttempt, outcome, Settles, Option.getD_none, late, ↓reduceIte]
  · by_cases passes : Transient.isTransient failure = true
    · simp only [afterAttempt, outcome, Settles, Option.getD_some, passes, ↓reduceIte,
        Bool.true_eq_false]
    · simp only [afterAttempt, outcome, Settles, Option.getD_some, passes, ↓reduceIte,
        Bool.false_eq_true]
  · rfl

/-- An attempt with a deadline is seen once, and comes to its reply or to the missed deadline. -/
theorem play_withDeadline (script : Nat → Option (Except ε α)) (made : Nat) :
    (withDeadline operation limit attempt).play script made =
      ⟨some (outcome operation limit (script (made + 1))), made + 1, [.attempt]⟩ := by
  -- An attempt that is too slow is cut at its deadline, and the failure for that is its outcome.
  unfold withDeadline attempt request
  simp only [play]
  cases script (made + 1) <;> rfl

/-- When others are left, an attempt is the last one if it settles, and is followed by a wait if not. -/
theorem play_retryFrom_succ (script : Nat → Option (Except ε α)) (left : Nat) (number : UInt32)
    (made : Nat) :
    (retryFrom policy limit operation attempt (left + 1) number).play script made =
      if Settles (script (made + 1)) then
        ⟨some (outcome operation limit (script (made + 1))), made + 1, [.attempt]⟩
      else ((retryFrom policy limit operation attempt left (number + 1)).play script (made + 1)).after
        [.attempt, .wait (policy.backoffFor number)] := by
  -- What comes after an attempt depends on its outcome alone, which decides whether it was the last.
  have ends := play_withDeadline limit operation script made
  rw [retryFrom_succ, play_bind (congrArg Course.value ends), ends, afterAttempt_outcome]
  split <;> rfl

/-- Attempts go on up to the last one, with a wait after each but that one. -/
theorem play_retryFrom (script : Nat → Option (Except ε α)) (left made : Nat) :
    (retryFrom policy limit operation attempt left (.ofNat (made + 1))).play script made =
      ⟨some (outcome operation limit (script (last script left made))), last script left made,
        between policy (made + 1) (last script left made)⟩ := by
  -- The induction is on the attempts left, each of which is numbered one higher.
  induction left generalizing made with
  | zero =>
    rw [last, between, Nat.sub_self]
    exact play_withDeadline limit operation script made
  | succ left ih =>
    rw [play_retryFrom_succ, last]
    split
    · rw [between, Nat.sub_self]
      rfl
    · have onward : UInt32.ofNat (made + 1) + 1 = UInt32.ofNat (made + 1 + 1) :=
        (UInt32.ofNat_add (made + 1) 1).symm
      rw [onward, ih, between_step (last_bounds script left (made + 1)).1]
      rfl

end Plan

namespace Attempts

variable {ε α : Type}

/-- What comes of attempts that each take so long: its reply, unless the deadline is earlier. -/
def inTime (limit : Duration) (attempts : Nat → Duration × Except ε α) (number : Nat) :
    Option (Except ε α) :=
  if (attempts number).1.waited ≤ limit.ticks then some (attempts number).2 else none

/-- Makes the next one of some attempts, each of which takes its time. -/
def answer (attempts : Nat → Duration × Except ε α) : (request : Unit) → Timed Nat (Except ε α)
  | () => do
    let number ← Timed.transform fun made => (made + 1, made + 1)
    Timed.wait (attempts number).1
    return (attempts number).2

/-- The milliseconds that attempts take from one number to another, none of them longer than the deadline
allows, with the waits in between. -/
def lasts (policy : RetryPolicy) (limit : Duration) (attempts : Nat → Duration × Except ε α)
    (first last : Nat) : Nat :=
  min (attempts last).1.waited limit.ticks +
    ((List.range' first (last - first)).map fun number =>
      min (attempts number).1.waited limit.ticks + (policy.backoffFor (.ofNat number)).waited).sum

/-- A single attempt takes its own time. -/
theorem lasts_self (policy : RetryPolicy) (limit : Duration) (attempts : Nat → Duration × Except ε α)
    (number : Nat) :
    lasts policy limit attempts number number = min (attempts number).1.waited limit.ticks := by
  unfold lasts
  rw [Nat.sub_self, List.range'_zero, List.map_nil, List.sum_nil, Nat.add_zero]

/-- Attempts of which the first one is not the last take its time, a wait, and the time of the others. -/
theorem lasts_step (policy : RetryPolicy) (limit : Duration) (attempts : Nat → Duration × Except ε α)
    {first last : Nat} (more : first < last) :
    lasts policy limit attempts first last =
      min (attempts first).1.waited limit.ticks + (policy.backoffFor (.ofNat first)).waited +
        lasts policy limit attempts (first + 1) last := by
  -- The sum is one longer at its beginning.
  unfold lasts
  rw [show last - first = (last - (first + 1)) + 1 by omega, List.range'_succ, List.map_cons,
    List.sum_cons]
  omega

/-- The clock has not moved when an attempt is counted. -/
theorem counted (deadlines : List Nat) (elapsed made : Nat) :
    Timed.transform (fun made => (made + 1, made + 1)) deadlines ⟨elapsed, made⟩ =
      (.ok (made + 1), ⟨elapsed, made + 1⟩) := rfl

/-- An attempt that takes longer than the only deadline allows is cut by it. -/
theorem answer_of_late (attempts : Nat → Duration × Except ε α) {deadline elapsed made : Nat}
    (late : deadline < elapsed + (attempts (made + 1)).1.waited) :
    answer attempts () [deadline] ⟨elapsed, made⟩ =
      (.error ⟨0, Nat.zero_lt_succ _⟩, ⟨deadline, made + 1⟩) := by
  -- The attempt is counted before the wait that the deadline cuts.
  unfold answer
  simp only [bind, pure]
  rw [Timed.bind_of_ok (counted _ _ _), Timed.bind_of_cut (Timed.wait_of_late (made + 1) late)]

/-- An attempt that takes no longer than the only deadline allows ends with its reply. -/
theorem answer_of_early (attempts : Nat → Duration × Except ε α) {deadline elapsed made : Nat}
    (early : elapsed + (attempts (made + 1)).1.waited ≤ deadline) :
    answer attempts () [deadline] ⟨elapsed, made⟩ =
      (.ok (attempts (made + 1)).2, ⟨elapsed + (attempts (made + 1)).1.waited, made + 1⟩) := by
  -- The attempt is counted, and then its wait ends in time.
  unfold answer
  simp only [bind, pure]
  rw [Timed.bind_of_ok (counted _ _ _), Timed.bind_of_ok (Timed.wait_of_early (made + 1) early),
    Timed.pure_apply]

end Attempts

namespace Plan

open Attempts

variable {ε α : Type} [LawfulTransient ε] (policy : RetryPolicy) (limit : Duration) (operation : String)

/-- In virtual time an attempt with a deadline takes as long as it needs, or as long as it may. -/
theorem run_withDeadline (attempts : Nat → Duration × Except ε α) (elapsed made : Nat) :
    (withDeadline operation limit attempt).run (answer attempts) [] ⟨elapsed, made⟩ =
      (.ok (outcome operation limit (inTime limit attempts (made + 1))),
        ⟨elapsed + min (attempts (made + 1)).1.waited limit.ticks, made + 1⟩) := by
  unfold withDeadline attempt request inTime
  simp only [run]
  -- Either the deadline comes before the reply, or the reply is there with it at the latest.
  rcases Nat.lt_or_ge limit.ticks (attempts (made + 1)).1.waited with late | early
  · have cut := answer_of_late attempts (Nat.add_lt_add_left late elapsed)
    rw [if_neg (Nat.not_le.mpr late), Nat.min_eq_right (Nat.le_of_lt late),
      Timed.bind_of_ok (Timed.within_of_cut (Timed.bind_of_cut cut _)), Timed.pure_apply]
    rfl
  · have ended := answer_of_early attempts (Nat.add_le_add_left early elapsed)
    rw [if_pos early, Nat.min_eq_left early,
      Timed.bind_of_ok (Timed.within_of_ok (Timed.bind_of_ok ended _)), Timed.pure_apply]
    rfl

/-- When others are left, an attempt is the last one if it settles, and if not the others are made after a
wait. -/
theorem run_retryFrom_succ (attempts : Nat → Duration × Except ε α) (left : Nat) (number : UInt32)
    (elapsed made : Nat) :
    (retryFrom policy limit operation attempt (left + 1) number).run (answer attempts) []
        ⟨elapsed, made⟩ =
      let ended := elapsed + min (attempts (made + 1)).1.waited limit.ticks
      if Settles (inTime limit attempts (made + 1)) then
        (.ok (outcome operation limit (inTime limit attempts (made + 1))), ⟨ended, made + 1⟩)
      else (retryFrom policy limit operation attempt left (number + 1)).run (answer attempts) []
        ⟨ended + (policy.backoffFor number).waited, made + 1⟩ := by
  -- A single attempt takes its time, at most its deadline, and what follows depends on its outcome.
  have ran := run_withDeadline limit operation attempts elapsed made
  rw [retryFrom_succ, run_bind, Timed.bind_of_ok ran, afterAttempt_outcome]
  dsimp only
  split
  · exact Timed.pure_apply _ _ _
  · exact Timed.bind_of_ok (Timed.wait_of_free _ _ (made + 1)) _

/-- In virtual time attempts go on up to the last one, and take their time and that of the waits. -/
theorem run_retryFrom (attempts : Nat → Duration × Except ε α) (left elapsed made : Nat) :
    (retryFrom policy limit operation attempt left (.ofNat (made + 1))).run (answer attempts) []
        ⟨elapsed, made⟩ =
      (.ok (outcome operation limit (inTime limit attempts (last (inTime limit attempts) left made))),
        ⟨elapsed + lasts policy limit attempts (made + 1) (last (inTime limit attempts) left made),
          last (inTime limit attempts) left made⟩) := by
  -- The induction is on the attempts left, with the clock at the end of those made.
  induction left generalizing elapsed made with
  | zero =>
    rw [last, lasts_self]
    exact run_withDeadline limit operation attempts elapsed made
  | succ left ih =>
    rw [run_retryFrom_succ, last]
    by_cases settles : Settles (inTime limit attempts (made + 1))
    · rw [if_pos settles, if_pos settles, lasts_self]
    · have onward : UInt32.ofNat (made + 1) + 1 = UInt32.ofNat (made + 1 + 1) :=
        (UInt32.ofNat_add (made + 1) 1).symm
      rw [if_neg settles, if_neg settles, onward, ih,
        lasts_step policy limit attempts (last_bounds (inTime limit attempts) left (made + 1)).1]
      simp only [Nat.add_assoc]

/-- The number of an attempt is one of those that the policy allows, and fits its counter. -/
theorem last_fits (script : Nat → Option (Except ε α)) :
    last script (policy.maxAttempts.toNat - 1) 0 < UInt32.size := by
  have bounded := (last_bounds script (policy.maxAttempts.toNat - 1) 0).2
  have fits : policy.maxAttempts.toNat < UInt32.size := policy.maxAttempts.toNat_lt_size
  -- A policy that allows no attempt allows one all the same.
  have room : 1 < UInt32.size := by decide
  omega

/-- Attempts go on until one succeeds or fails for good, or until as many are made as the policy allows.
The last one gives the result, and before it come the waits. -/
theorem retries_until_settled :
    (∀ script : Nat → Option (Except ε α), ∃ made : Nat,
      (made : ℕ∞) = min (firstSettled script) (max 1 policy.maxAttempts.toNat : Nat) ∧
      made < UInt32.size ∧
      (retryTransient policy limit operation attempt).play script 0 =
        ⟨some (outcome operation limit (script made)), made, between policy 1 made⟩) ∧
    ∀ attempts : Nat → Duration × Except ε α, ∃ made : Nat,
      (made : ℕ∞) =
        min (firstSettled (inTime limit attempts)) (max 1 policy.maxAttempts.toNat : Nat) ∧
      made < UInt32.size ∧
      Timed.start ((retryTransient policy limit operation attempt).run (answer attempts)) 0 =
        (outcome operation limit (inTime limit attempts made),
          ⟨lasts policy limit attempts 1 made, made⟩) := by
  have counted (script : Nat → Option (Except ε α)) :
      (last script (policy.maxAttempts.toNat - 1) 0 : ℕ∞) =
        min (firstSettled script) (max 1 policy.maxAttempts.toNat : Nat) := by
    have allowed : policy.maxAttempts.toNat - 1 + 1 = max 1 policy.maxAttempts.toNat := by omega
    rw [last_eq_min, allowed]
  -- The first attempt is numbered one, which is how the numbers that follow are stated.
  have first : (retryTransient policy limit operation attempt : Plan (Attempts (Except ε α)) _) =
      retryFrom policy limit operation attempt (policy.maxAttempts.toNat - 1) (.ofNat (0 + 1)) := rfl
  refine ⟨fun script => ⟨_, counted script, last_fits policy script, ?_⟩,
    fun attempts => ⟨_, counted _, last_fits policy _, ?_⟩⟩
  · rw [first, play_retryFrom]
  · have ran := run_retryFrom policy limit operation attempts (policy.maxAttempts.toNat - 1) 0 0
    unfold Timed.start
    rw [first, ran]
    simp only [Nat.zero_add]

/-- An attempt that is too slow, one that fails for a while, and then a success. -/
def foundLate : Nat → Option (Except StoreError Nat)
  | 1 => none
  | 2 => some (.error (.unavailable "down"))
  | _ => some (.ok 7)

/-- The standard policy allows the three attempts that it takes, with the waits after the first two. -/
theorem foundLate_takes_three :
    ((3 : Nat) : ℕ∞) =
        min (firstSettled foundLate) (max 1 RetryPolicy.standard.maxAttempts.toNat : Nat) ∧
      (retryTransient .standard (.ofSeconds 1) "find" attempt).play foundLate 0 =
        ⟨some (.ok 7), 3,
          [.attempt, .wait (.ofMillis 50), .attempt, .wait (.ofMillis 100), .attempt]⟩ := by
  obtain ⟨made, counted, _, played⟩ :=
    (retries_until_settled .standard (.ofSeconds 1) "find").1 foundLate
  have goes : (retryTransient .standard (.ofSeconds 1) "find" attempt).play foundLate 0 =
      ⟨some (.ok 7), 3,
        [.attempt, .wait (.ofMillis 50), .attempt, .wait (.ofMillis 100), .attempt]⟩ := by
    decide
  -- The course counts its attempts, which is how many the theorem says are made.
  obtain rfl : 3 = made := congrArg Course.made (goes.symm.trans played)
  exact ⟨counted, goes⟩

end Plan

end Intake
