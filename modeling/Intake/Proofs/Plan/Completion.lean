import Intake.Plan.Timed
import Intake.Proofs.Plan.Protocol

/-! Plans run alone, with every call answered at once: how they end, and that no wait delays them. -/

namespace Intake

namespace Plan

variable {I : Interface} {σ α β ε : Type}

/-- Run alone from a state, a plan ends as stated, and never waits. -/
def Completes (answer : (request : I.Request) → σ → I.Reply request × σ) :
    {α : Type} → Plan I α → (α → σ → Prop) → σ → Prop
  | _, .done value, ends, s => ends value s
  | _, .ask request next, ends, s =>
    (next (answer request s).1).Completes answer ends (answer request s).2
  | _, .sleep _ _, _, _ => False
  -- What does not wait is not cut by a deadline.
  | _, .within _ body next, ends, s =>
    body.Completes answer (fun value after => (next (some value)).Completes answer ends after) s

namespace Completes

variable {answer : (request : I.Request) → σ → I.Reply request × σ} {s : σ}

/-- A plan that ends in a stronger way also ends in a weaker one. -/
theorem mono {plan : Plan I α} {ends ends' : α → σ → Prop}
    (completes : plan.Completes answer ends s)
    (weaker : ∀ value after, ends value after → ends' value after) :
    plan.Completes answer ends' s := by
  -- The induction is on the plan. A wait does not complete, so there is nothing to show for one.
  induction plan generalizing s with
  | done value => exact weaker _ _ completes
  | ask request next ih => exact ih _ completes weaker
  | sleep span next => exact completes
  | within limit body next ihBody ihNext =>
    exact ihBody completes fun value _ completes => ihNext (some value) completes weaker

/-- A plan that ends in two ways ends in both of them at once, as it has only one run. -/
theorem both {plan : Plan I α} {ends ends' : α → σ → Prop}
    (completes : plan.Completes answer ends s) (completes' : plan.Completes answer ends' s) :
    plan.Completes answer (fun value after => ends value after ∧ ends' value after) s := by
  -- The induction is on the plan, and both runs go on with the same answer.
  induction plan generalizing s with
  | done value => exact ⟨completes, completes'⟩
  | ask request next ih => exact ih _ completes completes'
  | sleep span next => exact completes
  | within limit body next ihBody ihNext =>
    exact (ihBody completes completes').mono fun value _ ended =>
      ihNext (some value) ended.1 ended.2

/-- What the answers to all calls of a plan leave alone, the plan as a whole leaves alone as well. -/
theorem framed {allowed : I.Request → Prop} {frame : σ → σ → Prop} (unmoved : ∀ s, frame s s)
    (joined : ∀ first second third, frame first second → frame second third → frame first third)
    (answers : ∀ request s, allowed request → frame s (answer request s).2)
    {plan : Plan I α} {cut : Unit → Prop} {asked : α → Unit → Prop} {ends : α → σ → Prop}
    (keeps : plan.Keeps (.only allowed) cut asked ()) (completes : plan.Completes answer ends s) :
    plan.Completes answer
      (fun value after => frame s after ∧ asked value () ∧ ends value after) s := by
  -- The induction is on the plan. What follows a bounded part makes such calls for the value it ends
  -- with, so that the frame goes on from where the part ends.
  induction plan generalizing cut s with
  | done value => exact ⟨unmoved s, keeps.2, completes⟩
  | ask request next ih =>
    refine (ih _ (keeps.2.2 (answer request s).1 () trivial) completes).mono ?_
    exact fun value after ended =>
      ⟨joined _ _ _ (answers request s keeps.2.1) ended.1, ended.2⟩
  | sleep span next => exact completes
  | within limit body next ihBody ihNext =>
    have bounded : body.Keeps (.only allowed) _ _ () := keeps
    refine (ihBody bounded completes).mono fun value middle ended => ?_
    exact (ihNext (some value) ended.2.1 ended.2.2).mono fun value' after ended' =>
      ⟨joined _ _ _ ended.1 ended'.1, ended'.2⟩

/-- Of two plans in a row the second one goes on from where the first one ends. -/
theorem bind {plan : Plan I α} {second : α → Plan I β} {middle : α → σ → Prop}
    {ends : β → σ → Prop} (completes : plan.Completes answer middle s)
    (goesOn : ∀ value after, middle value after → (second value).Completes answer ends after) :
    (plan.bind second).Completes answer ends s := by
  -- Each plan goes on from the answer it gets, and the second one behind the value of a bounded part.
  induction plan generalizing s with
  | done value => exact goesOn _ _ completes
  | ask request next ih => exact ih _ completes goesOn
  | sleep span next => exact completes
  | within limit body next ihBody ihNext =>
    have bounded : body.Completes answer _ s := completes
    exact bounded.mono fun value _ completes => ihNext (some value) completes goesOn

/-- An attempt goes on only after a success, and a failure of its first part is its own. -/
theorem attempt {first : ExceptT ε (Plan I) α} {second : α → ExceptT ε (Plan I) β}
    {middle : Except ε α → σ → Prop} {ends : Except ε β → σ → Prop}
    (completes : first.run.Completes answer middle s)
    (failed : ∀ failure after, middle (.error failure) after → ends (.error failure) after)
    (goesOn : ∀ value after, middle (.ok value) after →
      (second value).run.Completes answer ends after) :
    (first >>= second).run.Completes answer ends s := by
  -- The outcome of the first part decides whether the second one runs at all.
  refine completes.bind fun outcome after ended => ?_
  rcases outcome with failure | value
  · exact failed failure after ended
  · exact goesOn value after ended

/-- A failure renamed ends as the failure would have to under its new name. -/
theorem adapt {ε' : Type} {rename : ε → ε'} {plan : Plan I (Except ε α)}
    {ends : Except ε' α → σ → Prop}
    (completes : plan.Completes answer (fun outcome => ends (outcome.mapError rename)) s) :
    (ExceptT.adapt rename (ExceptT.mk plan)).run.Completes answer ends s :=
  completes.bind fun _ _ ended => ended

/-- A step of an attempt that cannot fail goes on from its value. -/
theorem lift {plan : Plan I α} {second : α → ExceptT ε (Plan I) β} {middle : α → σ → Prop}
    {ends : Except ε β → σ → Prop} (completes : plan.Completes answer middle s)
    (goesOn : ∀ value after, middle value after →
      (second value).run.Completes answer ends after) :
    (ExceptT.lift plan >>= second).run.Completes answer ends s := by
  -- A lifted plan has no failure to look at, so its value goes straight on.
  rw [ExceptT.run_bind_lift]
  exact completes.bind goesOn

/-- An attempt that ends with a step that cannot fail ends with the value of it. -/
theorem liftLast {plan : Plan I α} {ends : Except ε α → σ → Prop}
    (completes : plan.Completes answer (fun value => ends (.ok value)) s) :
    (ExceptT.lift plan : ExceptT ε (Plan I) α).run.Completes answer ends s :=
  completes.bind fun _ _ ended => ended

/-- A deadline makes no difference. -/
theorem withDeadline [Transient ε] {operation : String} {limit : Duration}
    {body : Plan I (Except ε α)} {ends : Except ε α → σ → Prop}
    (completes : body.Completes answer ends s) :
    (Plan.withDeadline operation limit body).Completes answer ends s :=
  completes

/-- What ends at the first attempt is attempted once. -/
theorem retryTransient [Transient ε] {policy : RetryPolicy} {limit : Duration}
    {operation : String} {attempt : Plan I (Except ε α)} {ends : Except ε α → σ → Prop}
    (completes : attempt.Completes answer
      (fun outcome after => ends outcome after ∧
        ∀ failure, outcome = .error failure → Transient.isTransient failure = false) s) :
    (Plan.retryTransient policy limit operation attempt).Completes answer ends s := by
  unfold Plan.retryTransient
  cases policy.maxAttempts.toNat - 1 with
  -- The last attempt ends as it does, whatever it comes to.
  | zero => exact completes.mono fun _ _ ended => ended.1
  | succ left =>
    refine (completes.withDeadline : Completes answer (Plan.withDeadline operation limit attempt)
      _ s).bind fun outcome after ended => ?_
    -- A failure that cannot pass is not followed by another attempt, and a success is the end.
    rcases outcome with failure | value
    · simp only [ended.2 failure rfl, Bool.false_eq_true, ↓reduceIte]
      exact ended.1
    · exact ended.1

/-- In virtual time a plan that never waits ends as stated, with no time passed. -/
theorem run {plan : Plan I α} {ends : α → σ → Prop} (completes : plan.Completes answer ends s)
    (deadlines : List Nat) (elapsed : Nat) :
    ∃ value after, plan.run (fun request => Timed.transform (answer request)) deadlines
      ⟨elapsed, s⟩ = (.ok value, ⟨elapsed, after⟩) ∧ ends value after := by
  -- No wait is left to advance the clock, and no deadline is earlier than no time at all.
  induction plan generalizing s deadlines with
  | done value => exact ⟨value, s, rfl, completes⟩
  | ask request next ih => exact ih _ completes deadlines
  | sleep span next => exact completes.elim
  | within limit body next ihBody ihNext =>
    -- The bounded part ends in time, and what follows it runs without the deadline.
    obtain ⟨value, after, ran, completes⟩ := ihBody completes ((elapsed + limit.ticks) :: deadlines)
    obtain ⟨value', after', ran', ended⟩ := ihNext (some value) completes deadlines
    refine ⟨value', after', ?_, ended⟩
    simp only [Plan.run, Timed.bind, Timed.within, ran, ran']

end Completes

/-- Run alone, a plan ends with one value in one state. -/
def Ends (answer : (request : I.Request) → σ → I.Reply request × σ) (plan : Plan I α) (s : σ)
    (value : α) (after : σ) : Prop :=
  plan.Completes answer (fun value' after' => value' = value ∧ after' = after) s

namespace Ends

variable {answer : (request : I.Request) → σ → I.Reply request × σ} {s after : σ}
  {ends : Except ε β → σ → Prop}

/-- A single call ends with the answer to it. -/
theorem call {request : I.Request} {reply : I.Reply request}
    (answered : answer request s = (reply, after)) :
    Ends answer (.ask request .done) s reply after :=
  ⟨congrArg Prod.fst answered, congrArg Prod.snd answered⟩

/-- After a success an attempt goes on from its value. -/
theorem attempt {first : ExceptT ε (Plan I) α} {second : α → ExceptT ε (Plan I) β} {value : α}
    (ended : Ends answer first.run s (.ok value) after)
    (goesOn : (second value).run.Completes answer ends after) :
    (first >>= second).run.Completes answer ends s :=
  -- The first part ends in one way only, so that the case of a failure does not arise.
  Completes.attempt ended (fun _ _ same => by cases same.1)
    fun _ _ same => by cases same.1; cases same.2; exact goesOn

/-- After a failure an attempt ends with it. -/
theorem fails {first : ExceptT ε (Plan I) α} {second : α → ExceptT ε (Plan I) β} {failure : ε}
    (ended : Ends answer first.run s (.error failure) after)
    (stops : ends (.error failure) after) :
    (first >>= second).run.Completes answer ends s :=
  -- The first part fails, so that the second one is never begun.
  Completes.attempt ended (fun _ _ same => by cases same.1; cases same.2; exact stops)
    fun _ _ same => by cases same.1

/-- A success is one whatever failures are renamed to. -/
theorem adapt_ok {ε' : Type} {rename : ε → ε'} {plan : Plan I (Except ε α)} {value : α}
    (ended : Ends answer plan s (.ok value) after) :
    Ends answer (ExceptT.adapt rename (ExceptT.mk plan)).run s (.ok value) after :=
  Completes.adapt (Completes.mono ended fun _ _ same => by cases same.1; exact ⟨rfl, same.2⟩)

/-- A failure renamed is the failure under its new name. -/
theorem adapt_error {ε' : Type} {rename : ε → ε'} {plan : Plan I (Except ε α)} {failure : ε}
    (ended : Ends answer plan s (.error failure) after) :
    Ends answer (ExceptT.adapt rename (ExceptT.mk plan)).run s (.error (rename failure)) after :=
  Completes.adapt (Completes.mono ended fun _ _ same => by cases same.1; exact ⟨rfl, same.2⟩)

/-- A step of an attempt that cannot fail goes on from its value. -/
theorem lift {plan : Plan I α} {second : α → ExceptT ε (Plan I) β} {value : α}
    (ended : Ends answer plan s value after)
    (goesOn : (second value).run.Completes answer ends after) :
    (ExceptT.lift plan >>= second).run.Completes answer ends s :=
  Completes.lift ended fun _ _ same => by cases same.1; cases same.2; exact goesOn

/-- What succeeds at the first attempt is attempted once. -/
theorem retryTransient [Transient ε] {policy : RetryPolicy} {limit : Duration}
    {operation : String} {attempt : Plan I (Except ε α)} {value : α}
    (ended : Ends answer attempt s (.ok value) after) :
    Ends answer (Plan.retryTransient policy limit operation attempt) s (.ok value) after :=
  -- An attempt that succeeds is the last one.
  Completes.retryTransient (Completes.mono ended fun _ _ same =>
    ⟨same, fun _ failed => by rw [same.1] at failed; cases failed⟩)

end Ends

end Plan

end Intake
