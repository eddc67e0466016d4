import Intake.Proofs.Concurrency.Site

/-! Schedules: runs in which the callers take turns and every call is answered. -/

namespace Intake

variable {I : Interface} {σ J α : Type} {R : J → Type}

/-- The next step of a plan, its calls answered and its deadlines never missed. -/
def Plan.next (answer : (request : I.Request) → σ → I.Reply request × σ) :
    {α : Type} → Plan I α → σ → Plan I α × σ
  | _, .done value, s => (.done value, s)
  | _, .ask request next, s => (next (answer request s).1, (answer request s).2)
  | _, .sleep _ next, s => (next, s)
  | _, .within _ (.done value) next, s => (next (some value), s)
  | _, .within limit body next, s => (.within limit (body.next answer s).1 next, (body.next answer s).2)

/-- The next step of a plan is a call that is answered, or a step without a call, unless it is done. -/
theorem Plan.next_cases (answer : (request : I.Request) → σ → I.Reply request × σ)
    (plan : Plan I α) (s : σ) :
    plan.next answer s = (plan, s) ∨
    (Passes plan (plan.next answer s).1 ∧ (plan.next answer s).2 = s) ∨
    ∃ request, Calls request (answer request s).1 plan (plan.next answer s).1 ∧
      (plan.next answer s).2 = (answer request s).2 := by
  -- The induction is on the plan. Within a deadline the next step is that of the bounded part.
  induction plan with
  | done value => exact .inl rfl
  | ask request next _ => exact .inr (.inr ⟨request, .ask next, rfl⟩)
  | sleep span next _ => exact .inr (.inl ⟨.wakes span next, rfl⟩)
  | within limit body next ihBody _ =>
    -- A bounded part that is done ends in time, and any other takes its own next step.
    by_cases finished : ∃ value, body = .done value
    · obtain ⟨value, rfl⟩ := finished
      exact .inr (.inl ⟨.inTime limit value next, rfl⟩)
    · have unfolded : (Plan.within limit body next).next answer s =
          (.within limit (body.next answer s).1 next, (body.next answer s).2) := by
        cases body with
        | done value => exact absurd ⟨value, rfl⟩ finished
        | ask | sleep | within => rfl
      rw [unfolded]
      rcases ihBody with same | ⟨passed, same⟩ | ⟨request, called, same⟩
      · exact .inl (by rw [same])
      · exact .inr (.inl ⟨.within limit next passed, same⟩)
      · exact .inr (.inr ⟨request, .within limit next called, same⟩)

/-- The call that a plan makes next, unless it goes on without one or is done. -/
def Plan.nextCall : {α : Type} → Plan I α → Option I.Request
  | _, .ask request _ => some request
  | _, .within _ body _ => body.nextCall
  | _, _ => none

/-- A plan that makes a call makes its next one. -/
theorem Plan.Calls.nextCall {request : I.Request} {reply : I.Reply request} {plan rest : Plan I α}
    (called : Plan.Calls request reply plan rest) : plan.nextCall = some request := by
  -- The innermost part makes the call, so the induction is on the deadlines around it.
  induction called with
  | ask next => rfl
  | within limit next _ ih => exact ih

namespace Site

/-- The turn of one caller, who takes the next step of its plan. -/
def turn (answer : (request : I.Request) → σ → I.Reply request × σ) (site : Site I σ R)
    (place : Nat) : Site I σ R :=
  match site.callers[place]? with
  | some ⟨job, plan⟩ =>
    ⟨(plan.next answer site.services).2,
      site.callers.set place ⟨job, (plan.next answer site.services).1⟩⟩
  | none => site

/-- A caller that takes its turn takes a step of the site, or none if it is done, provided that the
services may react to its call as they are to answer it. -/
theorem leads_of_turn {setting : Setting I σ R}
    {answer : (request : I.Request) → σ → I.Reply request × σ} (place : Nat) (site : Site I σ R)
    (answers : ∀ request, (site.callers[place]?.bind (·.plan.nextCall)) = some request →
      setting.reacts request site.services (answer request site.services).1
        (answer request site.services).2) :
    Relation.ReflTransGen (Step setting) site (turn answer site place) := by
  unfold turn
  split
  · rename_i job plan atPlace
    -- A caller that is done stays done, and any other goes on or makes a call that is answered.
    rcases plan.next_cases answer site.services with same | ⟨passed, same⟩ | ⟨request, called, same⟩
    · rw [same]
      obtain ⟨inside, here⟩ := List.getElem?_eq_some_iff.mp atPlace
      rw [← here, List.set_getElem_self]
    · rw [same]
      exact .single (.passes atPlace passed)
    · rw [same]
      exact .single (.calls atPlace called (answers request (by rw [atPlace]; exact called.nextCall)))
  · exact .refl

/-- Callers that take their turns take steps of the site. -/
theorem leads_of_turns {setting : Setting I σ R}
    {answer : (request : I.Request) → σ → I.Reply request × σ}
    (answers : ∀ request s, setting.reacts request s (answer request s).1 (answer request s).2)
    (places : List Nat) (site : Site I σ R) :
    Relation.ReflTransGen (Step setting) site (places.foldl (turn answer) site) := by
  -- The induction is on the places whose turn it is, and each turn is a step of the site or none.
  induction places generalizing site with
  | nil => exact .refl
  | cons place places ih =>
    exact .trans (leads_of_turn place site fun request _ => answers request _) (ih _)

/-- Whether every call that is made in some turns passes a test. -/
def turnsPass (test : I.Request → σ → Bool)
    (answer : (request : I.Request) → σ → I.Reply request × σ) : List Nat → Site I σ R → Bool
  | [], _ => true
  | place :: places, site =>
    (site.callers[place]?.bind (·.plan.nextCall)).all (test · site.services) &&
      turnsPass test answer places (turn answer site place)

/-- Callers that take their turns take steps of the site if the services may answer every call that
passes a test, and those made do. -/
theorem leads_of_turns_passed {setting : Setting I σ R}
    {answer : (request : I.Request) → σ → I.Reply request × σ} {test : I.Request → σ → Bool}
    (answers : ∀ request s, test request s = true →
      setting.reacts request s (answer request s).1 (answer request s).2)
    (places : List Nat) (site : Site I σ R) (passed : turnsPass test answer places site = true) :
    Relation.ReflTransGen (Step setting) site (places.foldl (turn answer) site) := by
  -- The induction is on the places whose turn it is.
  induction places generalizing site with
  | nil => exact .refl
  | cons place places ih =>
    simp only [turnsPass, Bool.and_eq_true] at passed
    obtain ⟨first, others⟩ := passed
    refine .trans (leads_of_turn place site fun request next => answers request _ ?_) (ih _ others)
    simpa [next] using first

/-- Jobs may begin one after the other. -/
theorem Reached.begin {setting : Setting I σ R} {services : σ} (jobs : List J) {site : Site I σ R}
    (reached : Reached setting services site) :
    Reached setting services
      ⟨site.services, site.callers ++ jobs.map fun job => ⟨job, setting.begins job⟩⟩ := by
  -- The jobs begin one by one, each as a step of its own.
  induction jobs generalizing site with
  | nil => simpa using reached
  | cons job jobs ih => simpa using ih (reached.step (.starts site job))

/-- The site that jobs come to when they all begin and then take turns in order, so many times. -/
def roundRobin (answer : (request : I.Request) → σ → I.Reply request × σ)
    (begins : (job : J) → Plan I (R job)) (services : σ) (jobs : List J) (rounds : Nat) :
    Site I σ R :=
  (List.replicate rounds (List.range jobs.length)).flatten.foldl (turn answer)
    ⟨services, jobs.map fun job => ⟨job, begins job⟩⟩

/-- Jobs that take turns come to a site that is reached. -/
theorem reached_roundRobin {setting : Setting I σ R}
    {answer : (request : I.Request) → σ → I.Reply request × σ}
    (answers : ∀ request s, setting.reacts request s (answer request s).1 (answer request s).2)
    (services : σ) (jobs : List J) (rounds : Nat) :
    Reached setting services (roundRobin answer setting.begins services jobs rounds) :=
  -- All callers begin first, and from there every turn is a run of steps.
  (Reached.opens.begin jobs).leads (leads_of_turns answers _ _)

end Site

end Intake
