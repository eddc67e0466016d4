import Intake.Proofs.Plan.Protocol

/-! What plans ensure when they end, where deadlines cut only some of their parts: those that wait, or
those that have not ended. -/

namespace Intake

namespace Plan

variable {I : Interface} {H α β ε : Type}

/-- A plan goes on without a call, and a deadline cuts only what it may. -/
inductive Goes (cuts : {β : Type} → Plan I β → Prop) : {α : Type} → Plan I α → Plan I α → Prop where
  | wakes {α : Type} (span : Duration) (next : Plan I α) : Goes cuts (.sleep span next) next
  | inTime {α β : Type} (limit : Duration) (value : β) (next : Option β → Plan I α) :
      Goes cuts (.within limit (.done value) next) (next (some value))
  | cut {α β : Type} (limit : Duration) {body : Plan I β} (next : Option β → Plan I α) :
      cuts body → Goes cuts (.within limit body next) (next none)
  | within {α β : Type} {body rest : Plan I β} (limit : Duration) (next : Option β → Plan I α) :
      Goes cuts body rest → Goes cuts (.within limit body next) (.within limit rest next)

/-- A part that has not ended yet. What has ended in time is not cut. -/
def Unfinished (plan : Plan I α) : Prop := ∀ value, plan ≠ .done value

/-- A part that waits. What needs no time is not cut. -/
def Waits : {α : Type} → Plan I α → Prop
  | _, .sleep _ _ => True
  | _, .within _ body _ => body.Waits
  | _, _ => False

/-- Steps of a plan from what its caller holds: what each call moves is up to the reply. -/
inductive Runs (cuts : {β : Type} → Plan I β → Prop)
    (moves : (request : I.Request) → H → I.Reply request → H → Prop) :
    Plan I α → H → Plan I α → H → Prop where
  | stays (plan : Plan I α) (held : H) : Runs cuts moves plan held plan held
  | calls {plan middle rest : Plan I α} {held between after : H} {request : I.Request}
      {reply : I.Reply request} :
      Calls request reply plan middle → moves request held reply between →
        Runs cuts moves middle between rest after → Runs cuts moves plan held rest after
  | goes {plan middle rest : Plan I α} {held after : H} :
      Goes cuts plan middle → Runs cuts moves middle held rest after →
        Runs cuts moves plan held rest after

/-- Whenever a plan ends, it ends as stated. -/
def Ensures (cuts : {β : Type} → Plan I β → Prop)
    (moves : (request : I.Request) → H → I.Reply request → H → Prop) (plan : Plan I α)
    (ends : α → H → Prop) (held : H) : Prop :=
  ∀ value after, Runs cuts moves plan held (.done value) after → ends value after

variable {cuts : {β : Type} → Plan I β → Prop}
  {moves : (request : I.Request) → H → I.Reply request → H → Prop} {held after : H}

/-- What has ended does not wait. -/
theorem not_waits_done (value : α) : ¬ (Plan.done value : Plan I α).Waits := id

/-- What has ended is not unfinished. -/
theorem not_unfinished_done (value : α) : ¬ (Plan.done value : Plan I α).Unfinished :=
  fun unfinished => unfinished value rfl

/-- Where deadlines may cut anything, a plan that goes on without a call may do so as well. -/
theorem Goes.passes {plan rest : Plan I α} (goes : Goes cuts plan rest) : Passes plan rest := by
  -- A plan that goes on may be cut at fewer points than one that passes.
  induction goes with
  | wakes span next => exact .wakes span next
  | inTime limit value next => exact .inTime limit value next
  | cut limit next _ => exact .cut limit _ next
  | within limit next _ ih => exact .within limit next ih

/-- What has ended makes no step. -/
theorem Runs.of_done {value : α} {rest : Plan I α} (runs : Runs cuts moves (.done value) held rest after) :
    rest = .done value ∧ after = held := by
  -- A plan that is done neither calls nor waits, so that it stays where it is.
  cases runs with
  | stays => exact ⟨rfl, rfl⟩
  | calls called _ _ => nomatch called
  | goes goes _ => nomatch goes

/-- Steps may follow each other. -/
theorem Runs.trans {plan middle rest : Plan I α} {between : H}
    (first : Runs cuts moves plan held middle between)
    (second : Runs cuts moves middle between rest after) : Runs cuts moves plan held rest after := by
  -- The induction is on the first part, behind which the second one follows.
  induction first with
  | stays => exact second
  | calls called moved _ ih => exact .calls called moved (ih second)
  | goes goes _ ih => exact .goes goes (ih second)

/-- What waits is unfinished. -/
theorem Waits.unfinished {plan : Plan I α} (waits : plan.Waits) : plan.Unfinished := by
  rintro value rfl
  exact waits

/-- Where deadlines may cut more, a plan may still go on as before. -/
theorem Goes.mono {cuts' : {β : Type} → Plan I β → Prop} {plan rest : Plan I α}
    (goes : Goes cuts plan rest) (wider : ∀ {β : Type} (part : Plan I β), cuts part → cuts' part) :
    Goes cuts' plan rest := by
  -- Only a cut asks whether it may happen.
  induction goes with
  | wakes span next => exact .wakes span next
  | inTime limit value next => exact .inTime limit value next
  | cut limit next cut => exact .cut limit next (wider _ cut)
  | within limit next _ ih => exact .within limit next ih

/-- The same steps may be taken by a caller that holds less, as long as it moves along. -/
theorem Runs.map {H' : Type} {cuts' : {β : Type} → Plan I β → Prop}
    {moves' : (request : I.Request) → H' → I.Reply request → H' → Prop} {plan rest : Plan I α}
    (runs : Runs cuts moves plan held rest after) (view : H → H')
    (wider : ∀ {β : Type} (part : Plan I β), cuts part → cuts' part)
    (along : ∀ request held reply after, moves request held reply after →
      moves' request (view held) reply (view after)) :
    Runs cuts' moves' plan (view held) rest (view after) := by
  -- The induction is on the steps, each of which is also a step of the caller that holds less.
  induction runs with
  | stays => exact .stays _ _
  | calls called moved _ ih => exact .calls called (along _ _ _ _ moved) ih
  | goes goes _ ih => exact .goes (goes.mono wider) ih

/-- What every call keeps of what a caller holds is kept by all its steps. -/
theorem Runs.kept {plan rest : Plan I α} (runs : Runs cuts moves plan held rest after)
    {keeps : H → Prop} (calls : ∀ request held reply after, keeps held →
      moves request held reply after → keeps after) (start : keeps held) : keeps after := by
  -- The induction is on the run. What is held changes with the calls alone.
  induction runs with
  | stays => exact start
  | calls _ moved _ ih => exact ih (calls _ _ _ _ start moved)
  | goes _ _ ih => exact ih start

/-- What a plan runs to within a deadline is what it runs to without one. -/
theorem Runs.within {body rest : Plan I β} (runs : Runs cuts moves body held rest after)
    (limit : Duration) (next : Option β → Plan I α) :
    Runs cuts moves (.within limit body next) held (.within limit rest next) after := by
  -- Nothing of what follows the deadline is reached yet, so that every step stays within it.
  induction runs with
  | stays => exact .stays _ _
  | calls called moved _ ih => exact .calls (.within limit next called) moved ih
  | goes goes _ ih => exact .goes (.within limit next goes) ih

/-- A plan with a deadline goes on from what its bounded part ends with, or from where that is cut. -/
theorem Runs.of_within {limit : Duration} {body : Plan I β} {next : Option β → Plan I α} {value : α}
    (runs : Runs cuts moves (.within limit body next) held (.done value) after) :
    (∃ part between, Runs cuts moves body held (.done part) between ∧
      Runs cuts moves (next (some part)) between (.done value) after) ∨
    ∃ rest between, Runs cuts moves body held rest between ∧ cuts rest ∧
      Runs cuts moves (next none) between (.done value) after := by
  -- The induction is on the steps. Those of the bounded part come first.
  generalize whole : Plan.within limit body next = plan at runs
  generalize last : Plan.done value = rest at runs
  induction runs generalizing body with
  | stays => subst whole; cases last
  | calls called moved runs ih =>
    subst whole last
    cases called with
    | within limit next called =>
      rcases ih rfl rfl with ⟨part, between, bounded, goesOn⟩ | ⟨rest, between, bounded, cut, goesOn⟩
      · exact .inl ⟨part, between, .calls called moved bounded, goesOn⟩
      · exact .inr ⟨rest, between, .calls called moved bounded, cut, goesOn⟩
  | goes goes runs ih =>
    subst whole last
    cases goes with
    | inTime limit part next => exact .inl ⟨part, _, .stays _ _, runs⟩
    | cut limit next cut => exact .inr ⟨body, _, .stays _ _, cut, runs⟩
    | within limit next goes =>
      rcases ih rfl rfl with ⟨part, between, bounded, goesOn⟩ | ⟨rest, between, bounded, cut, goesOn⟩
      · exact .inl ⟨part, between, .goes goes bounded, goesOn⟩
      · exact .inr ⟨rest, between, .goes goes bounded, cut, goesOn⟩

/-- Of two plans in a row the first one ends, and then the second one. -/
theorem Runs.of_bind {plan : Plan I α} {second : α → Plan I β} {value : β}
    (runs : Runs cuts moves (plan.bind second) held (.done value) after) :
    ∃ first between, Runs cuts moves plan held (.done first) between ∧
      Runs cuts moves (second first) between (.done value) after := by
  -- The induction is on the plan. A deadline bounds its part alone, whatever comes behind it.
  induction plan generalizing held with
  | done first => exact ⟨first, held, .stays _ _, runs⟩
  | ask request next ih =>
    cases runs with
    | goes goes _ => nomatch goes
    | calls called moved runs =>
      cases called with
      | ask next' =>
        obtain ⟨first, between, ran, goesOn⟩ := ih _ runs
        exact ⟨first, between, .calls (.ask next) moved ran, goesOn⟩
  | sleep span next ih =>
    cases runs with
    | calls called _ _ => nomatch called
    | goes goes runs =>
      cases goes with
      | wakes span' next' =>
        obtain ⟨first, between, ran, goesOn⟩ := ih runs
        exact ⟨first, between, .goes (.wakes span next) ran, goesOn⟩
  | within limit body next _ ihNext =>
    rcases Runs.of_within runs with ⟨part, middle, bounded, runs⟩ | ⟨rest, middle, bounded, cut, runs⟩
    · obtain ⟨first, between, ran, goesOn⟩ := ihNext (some part) runs
      exact ⟨first, between, (bounded.within limit next).trans (.goes (.inTime limit part next) ran),
        goesOn⟩
    · obtain ⟨first, between, ran, goesOn⟩ := ihNext none runs
      exact ⟨first, between, (bounded.within limit next).trans (.goes (.cut limit next cut) ran),
        goesOn⟩

/-- A plan that keeps a protocol keeps it from wherever it has run to, whatever deadlines may cut. -/
theorem Runs.keeps {protocol : Protocol I H} {cut : H → Prop} {plan rest : Plan I α}
    {ends : α → H → Prop} (runs : Runs cuts protocol.moves plan held rest after)
    (keeps : plan.Keeps protocol cut ends held) : rest.Keeps protocol cut ends after := by
  -- A plan that keeps a protocol may be cut anywhere, so that it does not matter where it is.
  induction runs with
  | stays => exact keeps
  | calls called moved _ ih => exact ih ((keeps.calls called).2 _ moved)
  | goes goes _ ih => exact ih (keeps.passes goes.passes)

/-- What each call that a plan may make keeps, the plan keeps all along. -/
theorem Runs.of_asks {allowed : I.Request → Prop} {steady : H → Prop} {plan rest : Plan I α}
    (runs : Runs cuts moves plan held rest after) (asks : plan.Asks allowed)
    (kept : ∀ request held reply after, allowed request → steady held →
      moves request held reply after → steady after)
    (start : steady held) : steady after := by
  -- The calls that the plan may ask for keep what is steady, wherever the plan may be cut.
  have keeps : plan.Keeps ⟨fun _ _ => True, moves⟩ (fun after => steady after ∧ True)
      (fun _ after => steady after ∧ True) held :=
    asks.of_only_steady (fun request held permitted holds =>
      ⟨trivial, fun reply after => kept request held reply after permitted holds⟩) start
  exact (Runs.keeps runs keeps).cut_held.1

namespace Ensures

/-- A plan that is done ends with its value. -/
theorem done {value : α} {ends : α → H → Prop} (ended : ends value held) :
    (Plan.done value : Plan I α).Ensures cuts moves ends held := by
  -- What is done runs no further, so that it ends with its own value.
  intro last after runs
  obtain ⟨same, rfl⟩ := runs.of_done
  cases same
  exact ended

/-- A single call ends with the reply to it. -/
theorem call {request : I.Request} {ends : I.Reply request → H → Prop}
    (moved : ∀ reply after, moves request held reply after → ends reply after) :
    (Plan.ask request .done).Ensures cuts moves ends held := by
  -- A single call is followed by its value, and nothing else can happen to it.
  intro value after runs
  cases runs with
  | goes goes _ => nomatch goes
  | calls called replied runs =>
    cases called with
    | ask next =>
      obtain ⟨same, rfl⟩ := runs.of_done
      cases same
      exact moved _ _ replied

/-- A plan that ends in a stronger way also ends in a weaker one. -/
theorem mono {plan : Plan I α} {ends ends' : α → H → Prop}
    (ensures : plan.Ensures cuts moves ends held)
    (weaker : ∀ value after, ends value after → ends' value after) :
    plan.Ensures cuts moves ends' held :=
  fun value after runs => weaker value after (ensures value after runs)

/-- Of two plans in a row the second one goes on from wherever the first one ends. -/
theorem bind {plan : Plan I α} {second : α → Plan I β} {ends : β → H → Prop}
    (ensures : plan.Ensures cuts moves
      (fun value after => (second value).Ensures cuts moves ends after) held) :
    (plan.bind second).Ensures cuts moves ends held := by
  -- A run of both is a run of the first part to its end, and from there one of the second.
  intro value after runs
  obtain ⟨first, between, ran, goesOn⟩ := Runs.of_bind runs
  exact ensures first between ran value after goesOn

/-- An attempt goes on only after a success, and a failure of its first part is its own. -/
theorem attempt {first : ExceptT ε (Plan I) α} {second : α → ExceptT ε (Plan I) β}
    {middle : Except ε α → H → Prop} {ends : Except ε β → H → Prop}
    (ensures : first.run.Ensures cuts moves middle held)
    (failed : ∀ failure after, middle (.error failure) after → ends (.error failure) after)
    (goesOn : ∀ value after, middle (.ok value) after →
      (second value).run.Ensures cuts moves ends after) :
    (first >>= second).run.Ensures cuts moves ends held := by
  -- An attempt is a plan whose outcome decides what follows, so the rule for plans in a row applies.
  refine Ensures.bind (ensures.mono fun outcome after ended => ?_)
  cases outcome with
  | error failure => exact done (failed failure after ended)
  | ok value => exact goesOn value after ended

/-- A failure renamed ends as the failure would have to under its new name. -/
theorem adapt {ε' : Type} {rename : ε → ε'} {plan : Plan I (Except ε α)}
    {ends : Except ε' α → H → Prop}
    (ensures : plan.Ensures cuts moves (fun outcome after => ends (outcome.mapError rename) after)
      held) :
    (ExceptT.adapt rename (ExceptT.mk plan)).run.Ensures cuts moves ends held :=
  -- Renaming comes last and makes no call.
  bind (ensures.mono fun _ _ ended => done ended)

/-- A step of an attempt that cannot fail goes on from its value. -/
theorem lift {plan : Plan I α} {second : α → ExceptT ε (Plan I) β} {ends : Except ε β → H → Prop}
    (ensures : plan.Ensures cuts moves
      (fun value after => (second value).run.Ensures cuts moves ends after) held) :
    (ExceptT.lift plan >>= second).run.Ensures cuts moves ends held := by
  -- A step that cannot fail is a plan with the rest behind it.
  rw [ExceptT.run_bind_lift]
  exact bind ensures

/-- An attempt that ends with a step that cannot fail ends with the value of it. -/
theorem liftLast {plan : Plan I α} {ends : Except ε α → H → Prop}
    (ensures : plan.Ensures cuts moves (fun value after => ends (.ok value) after) held) :
    (ExceptT.lift plan : ExceptT ε (Plan I) α).run.Ensures cuts moves ends held :=
  bind (ensures.mono fun _ _ ended => done ended)

/-- A deadline adds one way to end: the failure of its service, where what it bounds may be cut. -/
theorem withDeadline [Transient ε] {operation : String} {limit : Duration}
    {body : Plan I (Except ε α)} {ends : Except ε α → H → Prop}
    (ensures : body.Ensures cuts moves ends held)
    (cut : ∀ rest after, Runs cuts moves body held rest after → cuts rest →
      ends (.error (Transient.timedOut operation limit)) after) :
    (Plan.withDeadline operation limit body).Ensures cuts moves ends held := by
  intro value after runs
  -- Either the bounded part ends in time, or it is cut and the deadline answers for it.
  rcases Runs.of_within runs with ⟨part, between, bounded, runs⟩ | ⟨rest, between, bounded, cuts, runs⟩
  · exact done (ensures part between bounded) value after runs
  · exact done (cut rest between bounded cuts) value after runs

/-- A deadline of a single call may pass before the call, if it may cut one at all. -/
theorem withDeadline_call [Transient ε] {operation : String} {limit : Duration}
    {request : I.Request} {call : Plan I (Except ε α)} {next : I.Reply request → Except ε α}
    {ends : Except ε α → H → Prop} (single : call = .ask request fun reply => .done (next reply))
    (uncut : ∀ {γ : Type} (value : γ), ¬ cuts (.done value : Plan I γ))
    (moved : ∀ reply after, moves request held reply after → ends (next reply) after)
    (cut : cuts call → ends (.error (Transient.timedOut operation limit)) held) :
    (Plan.withDeadline operation limit call).Ensures cuts moves ends held := by
  subst single
  apply withDeadline
  · intro value after runs
    cases runs with
    | goes goes _ => nomatch goes
    | calls called replied runs =>
      cases called with
      | ask next' =>
        obtain ⟨same, rfl⟩ := runs.of_done
        cases same
        exact moved _ _ replied
  · -- Once the call is made its part has ended, so that only the call itself may be cut.
    intro rest after runs cuts
    cases runs with
    | stays => exact cut cuts
    | goes goes _ => nomatch goes
    | calls called _ runs =>
      cases called with
      | ask next' =>
        obtain ⟨rfl, rfl⟩ := runs.of_done
        exact absurd cuts (uncut _)

/-- A plan that waits first goes on after the wait. -/
theorem sleep {span : Duration} {next : Plan I α} {ends : α → H → Prop}
    (ensures : next.Ensures cuts moves ends held) :
    (Plan.sleep span next).Ensures cuts moves ends held := by
  -- A wait is over some time, and what is held has not changed by then.
  intro value after runs
  cases runs with
  | calls called _ _ => nomatch called
  | goes goes runs =>
    cases goes with
    | wakes span next => exact ensures value after runs

/-- Attempts end as each of them may, from wherever a failed one leaves off. -/
theorem retryTransient [Transient ε] {policy : RetryPolicy} {limit : Duration} {operation : String}
    {attempt : Plan I (Except ε α)} (ready : H → Prop) {ends : Except ε α → H → Prop}
    (once : ∀ held, ready held → (Plan.withDeadline operation limit attempt).Ensures cuts moves
      (fun outcome after => ends outcome after ∧ ∀ failure, outcome = .error failure → ready after)
      held)
    (start : ready held) :
    (Plan.retryTransient policy limit operation attempt).Ensures cuts moves ends held := by
  -- The attempts that are left make no difference to how one of them ends.
  suffices all : ∀ left number held, ready held →
      (Plan.retryFrom policy limit operation attempt left number).Ensures cuts moves ends held from
    all _ _ _ start
  intro left
  induction left with
  | zero => exact fun _ held start => (once held start).mono fun _ _ ended => ended.1
  | succ left ih =>
    intro number held start
    refine Ensures.bind ((once held start).mono fun outcome after ended => ?_)
    cases outcome with
    | error failure =>
      -- A failure that may pass is followed by a wait and the attempts that are left.
      by_cases passing : Transient.isTransient failure = true
      · simp only [passing, ↓reduceIte]
        exact .sleep (ih _ _ (ended.2 failure rfl))
      · simp only [passing, Bool.false_eq_true, ↓reduceIte]
        exact .done ended.1
    | ok value => exact .done ended.1

/-- A plan that makes certain calls only keeps what each of them keeps. -/
theorem of_asks {allowed : I.Request → Prop} {steady : H → Prop} {plan : Plan I α}
    (asks : plan.Asks allowed)
    (kept : ∀ request held reply after, allowed request → steady held →
      moves request held reply after → steady after)
    (start : steady held) : plan.Ensures cuts moves (fun _ => steady) held :=
  -- However far a plan has come, it has made no other calls.
  fun _ _ runs => runs.of_asks asks kept start

/-- What is ensured however calls may move is ensured where they move in fewer ways. -/
theorem narrow {moves' : (request : I.Request) → H → I.Reply request → H → Prop} {plan : Plan I α}
    {ends : α → H → Prop} (ensures : plan.Ensures cuts moves' ends held)
    (narrower : ∀ request held reply after, moves request held reply after →
      moves' request held reply after) : plan.Ensures cuts moves ends held :=
  fun value after runs => ensures value after (runs.map id (fun _ cut => cut) narrower)

end Ensures

end Plan

end Intake
