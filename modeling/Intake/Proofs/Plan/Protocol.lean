import Mathlib.Logic.Relation
import Intake.Plan.Retry

/-! Plans one call at a time, and protocols that say what a caller may ask for and what it holds. -/

namespace Intake

namespace Plan

variable {I : Interface} {H α β ε : Type}

/-- A plan makes a call, gets a reply to it, and goes on. The call may stand within a deadline. -/
inductive Calls (request : I.Request) (reply : I.Reply request) :
    {α : Type} → Plan I α → Plan I α → Prop where
  | ask {α : Type} (next : I.Reply request → Plan I α) :
      Calls request reply (.ask request next) (next reply)
  | within {α β : Type} {body rest : Plan I β} (limit : Duration) (next : Option β → Plan I α) :
      Calls request reply body rest →
        Calls request reply (.within limit body next) (.within limit rest next)

/-- A plan that makes a call goes on from any reply to it. -/
theorem Calls.any_reply {α : Type} {request : I.Request} {reply : I.Reply request}
    {plan rest : Plan I α} (called : Calls request reply plan rest) (other : I.Reply request) :
    ∃ rest', Calls request other plan rest' := by
  -- The innermost part makes the call, so the induction is on the deadlines around it.
  induction called with
  | ask next => exact ⟨_, .ask next⟩
  | within limit next _ ih =>
    obtain ⟨rest', called⟩ := ih
    exact ⟨_, .within limit next called⟩

/-- A plan goes on without a call: a wait is over, or a part of it ends in time or is cut. -/
inductive Passes : {α : Type} → Plan I α → Plan I α → Prop where
  | wakes {α : Type} (span : Duration) (next : Plan I α) : Passes (.sleep span next) next
  | inTime {α β : Type} (limit : Duration) (value : β) (next : Option β → Plan I α) :
      Passes (.within limit (.done value) next) (next (some value))
  -- The deadline may pass at any point of the part, also between a call and its reply.
  | cut {α β : Type} (limit : Duration) (body : Plan I β) (next : Option β → Plan I α) :
      Passes (.within limit body next) (next none)
  | within {α β : Type} {body rest : Plan I β} (limit : Duration) (next : Option β → Plan I α) :
      Passes body rest → Passes (.within limit body next) (.within limit rest next)

end Plan

/-- What a caller may ask for while it holds something, and what it may hold after each reply. -/
structure Protocol (I : Interface) (H : Type) where
  permits : (request : I.Request) → H → Prop
  moves : (request : I.Request) → H → I.Reply request → H → Prop

/-- The protocol of callers that make certain calls only, whatever is answered. -/
def Protocol.only {I : Interface} (allowed : I.Request → Prop) : Protocol I Unit where
  permits request _ := allowed request
  moves _ _ _ _ := True

namespace Plan

variable {I : Interface} {H α β ε : Type}

/-- A plan asks only for what the protocol permits, and ends as stated. Wherever it may be cut by a
deadline outside of it, what is held then satisfies the condition given for that. -/
def Keeps (protocol : Protocol I H) (cut : H → Prop) :
    {α : Type} → Plan I α → (α → H → Prop) → H → Prop
  | _, .done value, ends, held => cut held ∧ ends value held
  | _, .ask request next, ends, held =>
    cut held ∧ protocol.permits request held ∧
      ∀ reply after, protocol.moves request held reply after →
        (next reply).Keeps protocol cut ends after
  | _, .sleep _ next, ends, held => next.Keeps protocol cut ends held
  -- The plan goes on after a cut from what the bounded part holds at that point.
  | _, .within _ body next, ends, held =>
    body.Keeps protocol (fun after => (next none).Keeps protocol cut ends after)
      (fun value after => (next (some value)).Keeps protocol cut ends after) held

/-- What is a success once failures are renamed was one before. -/
theorem ok_of_renamed {ε' : Type} {rename : ε → ε'} {outcome : Except ε α} {value : α}
    (renamed : outcome.mapError rename = .ok value) : outcome = .ok value := by
  -- Renaming turns failures into failures, so the outcome cannot have been one.
  cases outcome <;> cases renamed
  rfl

namespace Keeps

variable {protocol : Protocol I H} {cut cut' : H → Prop} {held : H}

/-- A plan may be cut before it has begun. -/
theorem cut_held {plan : Plan I α} {ends : α → H → Prop}
    (keeps : plan.Keeps protocol cut ends held) : cut held := by
  -- A bounded part keeps what a cut of it leads to, and from there the cut of the whole is kept.
  induction plan generalizing cut held with
  | done value => exact keeps.1
  | ask request next ih => exact keeps.1
  | sleep span next ih => exact ih keeps
  | within limit body next ihBody ihNext => exact ihNext none (ihBody keeps)

/-- A plan that ends in a stronger way also ends in a weaker one. -/
theorem mono {plan : Plan I α} {ends ends' : α → H → Prop}
    (keeps : plan.Keeps protocol cut ends held) (cuts : ∀ after, cut after → cut' after)
    (weaker : ∀ value after, ends value after → ends' value after) :
    plan.Keeps protocol cut' ends' held := by
  -- The induction is on the plan. A deadline turns what follows a cut into the condition for a cut.
  induction plan generalizing cut cut' held with
  | done value => exact ⟨cuts _ keeps.1, weaker _ _ keeps.2⟩
  | ask request next ih =>
    refine ⟨cuts _ keeps.1, keeps.2.1, fun reply after moved => ?_⟩
    exact ih reply (keeps.2.2 reply after moved) cuts weaker
  | sleep span next ih => exact ih keeps cuts weaker
  | within limit body next ihBody ihNext =>
    exact ihBody keeps (fun after kept => ihNext none kept cuts weaker)
      fun value after kept => ihNext (some value) kept cuts weaker

/-- A plan may be cut at its end. -/
theorem cut_ends {plan : Plan I α} {ends : α → H → Prop}
    (keeps : plan.Keeps protocol cut ends held) :
    plan.Keeps protocol cut (fun value after => cut after ∧ ends value after) held := by
  -- Only an end has something to add, as a plan may be cut there like anywhere else.
  induction plan generalizing cut held with
  | done value => exact ⟨keeps.1, keeps⟩
  | ask request next ih =>
    exact ⟨keeps.1, keeps.2.1, fun reply after moved => ih reply (keeps.2.2 reply after moved)⟩
  | sleep span next ih => exact ih keeps
  | within limit body next ihBody ihNext =>
    have bounded : body.Keeps protocol _ _ held := keeps
    exact bounded.mono (fun _ kept => ihNext none kept) fun value _ kept =>
      ihNext (some value) kept

/-- A plan that ends in a stronger way also ends in a weaker one, cut under the same condition. -/
theorem weaken {plan : Plan I α} {ends ends' : α → H → Prop}
    (keeps : plan.Keeps protocol cut ends held)
    (weaker : ∀ value after, cut after → ends value after → ends' value after) :
    plan.Keeps protocol cut ends' held :=
  keeps.cut_ends.mono (fun _ kept => kept) fun value after ended => weaker value after ended.1 ended.2

/-- Two plans in a row keep a protocol when the second one does from wherever the first one ends. -/
theorem bind {plan : Plan I α} {second : α → Plan I β} {ends : β → H → Prop}
    (keeps : plan.Keeps protocol cut
      (fun value after => (second value).Keeps protocol cut ends after) held) :
    (plan.bind second).Keeps protocol cut ends held := by
  -- A deadline bounds its part alone, so the second plan is put behind both of its ways to end.
  induction plan generalizing cut held with
  | done value => exact keeps.2
  | ask request next ih =>
    exact ⟨keeps.1, keeps.2.1, fun reply after moved => ih reply (keeps.2.2 reply after moved)⟩
  | sleep span next ih => exact ih keeps
  | within limit body next ihBody ihNext =>
    have bounded : body.Keeps protocol _ _ held := keeps
    exact bounded.mono (fun _ kept => ihNext none kept) fun value _ kept =>
      ihNext (some value) kept

/-- What one call of a plan asks for is permitted, and after the reply the plan keeps the protocol. -/
theorem calls {plan rest : Plan I α} {ends : α → H → Prop} {request : I.Request}
    {reply : I.Reply request} (called : Calls request reply plan rest)
    (keeps : plan.Keeps protocol cut ends held) :
    protocol.permits request held ∧
      ∀ after, protocol.moves request held reply after → rest.Keeps protocol cut ends after := by
  -- The innermost part makes the call, so the induction is on the deadlines around it.
  induction called generalizing cut held with
  | ask next => exact ⟨keeps.2.1, keeps.2.2 reply⟩
  | within limit next _ ih => exact ih keeps

/-- A plan that goes on without a call keeps the protocol from what it held. -/
theorem passes {plan rest : Plan I α} {ends : α → H → Prop} (passed : Passes plan rest)
    (keeps : plan.Keeps protocol cut ends held) : rest.Keeps protocol cut ends held := by
  -- A cut goes on from what was held, which every plan admits. The other steps only follow the plan.
  induction passed generalizing cut held with
  | wakes span next => exact keeps
  | inTime limit value next => exact keeps.2
  | cut limit body next =>
    have bounded : body.Keeps protocol _ _ held := keeps
    exact bounded.cut_held
  | within limit next _ ih => exact ih keeps

/-- A plan that goes on without calls, as often as it likes, keeps the protocol. -/
theorem passes_run {plan rest : Plan I α} {ends : α → H → Prop}
    (passed : Relation.ReflTransGen Passes plan rest) (keeps : plan.Keeps protocol cut ends held) :
    rest.Keeps protocol cut ends held := by
  -- The induction is on the run, each step of which keeps the protocol.
  induction passed with
  | refl => exact keeps
  | tail _ passed ih => exact ih.passes passed

/-- A plan that makes certain calls only keeps what each of them keeps, in every protocol that permits
them as long as that holds. -/
theorem of_only_steady {allowed : I.Request → Prop} {steady : H → Prop} {plan : Plan I α}
    {cut : Unit → Prop} {ends : α → Unit → Prop} (keeps : plan.Keeps (.only allowed) cut ends ())
    (kept : ∀ request held, allowed request → steady held → protocol.permits request held ∧
      ∀ reply after, protocol.moves request held reply after → steady after)
    (start : steady held) :
    plan.Keeps protocol (fun after => steady after ∧ cut ())
      (fun value after => steady after ∧ ends value ()) held := by
  -- The induction is on the plan. Which calls are made does not depend on what is held.
  induction plan generalizing cut held with
  | done value => exact ⟨⟨start, keeps.1⟩, start, keeps.2⟩
  | ask request next ih =>
    obtain ⟨permitted, moved⟩ := kept request held keeps.2.1 start
    exact ⟨⟨start, keeps.1⟩, permitted, fun reply after move =>
      ih reply (keeps.2.2 reply () trivial) (moved reply after move)⟩
  | sleep span next ih => exact ih keeps start
  | within limit body next ihBody ihNext =>
    have bounded : body.Keeps (.only allowed) _ _ () := keeps
    exact (ihBody bounded start).mono (fun after kept => ihNext none kept.2 kept.1)
      fun value after kept => ihNext (some value) kept.2 kept.1

/-- A plan that makes certain calls only keeps every protocol that permits these and in which they move
nothing. -/
theorem of_only {allowed : I.Request → Prop} {plan : Plan I α} {cut : Unit → Prop}
    {ends : α → Unit → Prop} (keeps : plan.Keeps (.only allowed) cut ends ())
    (neutral : ∀ request, allowed request → protocol.permits request held ∧
      ∀ reply after, protocol.moves request held reply after → after = held) :
    plan.Keeps protocol (fun after => after = held ∧ cut ())
      (fun value after => after = held ∧ ends value ()) held :=
  -- To keep what is held is to keep being equal to it.
  keeps.of_only_steady (fun request _ permitted same => same ▸ neutral request permitted) rfl

/-- A plan that makes certain calls only ends as stated also where more calls are allowed. -/
theorem permits {allowed wider : I.Request → Prop} {plan : Plan I α} {cut : Unit → Prop}
    {ends : α → Unit → Prop} (keeps : plan.Keeps (.only allowed) cut ends ())
    (permitted : ∀ request, allowed request → wider request) :
    plan.Keeps (.only wider) cut ends () :=
  -- What is held by a caller of certain calls is nothing, which no call can change.
  (keeps.of_only fun request allows => ⟨permitted request allows, fun _ _ _ => rfl⟩).mono
    (fun _ kept => kept.2) fun _ _ ended => ended.2

/-- A single call keeps a protocol when it is permitted and every move after it ends as stated. -/
theorem call {request : I.Request} {ends : I.Reply request → H → Prop} (before : cut held)
    (permitted : protocol.permits request held)
    (moved : ∀ reply after, protocol.moves request held reply after →
      cut after ∧ ends reply after) :
    (Plan.ask request .done).Keeps protocol cut ends held :=
  -- The conditions are those of a request, whose reply ends the plan.
  ⟨before, permitted, moved⟩

/-- A deadline adds one way to end: the failure of its service, at any point of what it bounds. -/
theorem withDeadline [Transient ε] {operation : String} {limit : Duration}
    {body : Plan I (Except ε α)} {ends : Except ε α → H → Prop}
    (keeps : body.Keeps protocol
      (fun after => cut after ∧ ends (.error (Transient.timedOut operation limit)) after)
      (fun outcome after => cut after ∧ ends outcome after) held) :
    (Plan.withDeadline operation limit body).Keeps protocol cut ends held :=
  -- The failure of the deadline is one more way to end, at every point at which it may cut.
  keeps

/-- Attempts keep a protocol when each of them does from wherever a failed one leaves off. -/
theorem retryTransient [Transient ε] {policy : RetryPolicy} {limit : Duration}
    {operation : String} {attempt : Plan I (Except ε α)} (ready : H → Prop)
    {ends : Except ε α → H → Prop}
    (once : ∀ held, ready held → (Plan.withDeadline operation limit attempt).Keeps protocol cut
      (fun outcome after => ends outcome after ∧ ∀ failure, outcome = .error failure → ready after)
      held)
    (start : ready held) :
    (Plan.retryTransient policy limit operation attempt).Keeps protocol cut ends held := by
  -- The attempts that are left make no difference to how one of them ends.
  suffices all : ∀ left number held, ready held →
      (Plan.retryFrom policy limit operation attempt left number).Keeps protocol cut ends held from
    all _ _ _ start
  intro left
  induction left with
  | zero => exact fun _ held start => (once held start).weaken fun _ _ _ ended => ended.1
  | succ left ih =>
    intro number held start
    refine Keeps.bind ((once held start).weaken fun outcome after kept ended => ?_)
    rcases outcome with failure | value
    · -- A failure that may pass is followed by a wait and the attempts that are left.
      by_cases passing : Transient.isTransient failure = true
      · simp only [passing, ↓reduceIte]
        exact ih _ _ (ended.2 failure rfl)
      · simp only [passing, Bool.false_eq_true, ↓reduceIte]
        exact ⟨kept, ended.1⟩
    · exact ⟨kept, ended.1⟩

/-- Attempts keep a condition together that each of them keeps wherever it ends or is cut. -/
theorem retryTransient_steady [Transient ε] {policy : RetryPolicy} {limit : Duration}
    {operation : String} {attempt : Plan I (Except ε α)} {ready : H → Prop}
    (once : ∀ held, ready held → attempt.Keeps protocol ready (fun _ => ready) held)
    (start : ready held) :
    (Plan.retryTransient policy limit operation attempt).Keeps protocol ready (fun _ => ready) held :=
  -- The condition is what each attempt starts from, also after a failed one and after a cut.
  .retryTransient ready (fun held start => .withDeadline ((once held start).mono
    (fun _ kept => ⟨kept, kept, fun _ _ => kept⟩) fun _ _ kept => ⟨kept, kept, fun _ _ => kept⟩)) start

/-- An attempt goes on only after a success, and a failure of its first part is its own. -/
theorem attempt {first : ExceptT ε (Plan I) α} {second : α → ExceptT ε (Plan I) β}
    {middle : Except ε α → H → Prop} {ends : Except ε β → H → Prop}
    (keeps : first.run.Keeps protocol cut middle held)
    (failed : ∀ failure after, middle (.error failure) after → ends (.error failure) after)
    (goesOn : ∀ value after, middle (.ok value) after →
      (second value).run.Keeps protocol cut ends after) :
    (first >>= second).run.Keeps protocol cut ends held := by
  -- An attempt is a plan whose outcome decides what follows, so the rule for plans in a row applies.
  refine bind (keeps.weaken fun outcome after kept ended => ?_)
  rcases outcome with failure | value
  · exact ⟨kept, failed failure after ended⟩
  · exact goesOn value after ended

/-- An attempt whose first part may end in any way keeps a protocol when it goes on from all of them. -/
theorem attempt_any {first : ExceptT ε (Plan I) α} {second : α → ExceptT ε (Plan I) β}
    {ends : Except ε β → H → Prop} (keeps : first.run.Keeps protocol cut (fun _ _ => True) held)
    (failed : ∀ failure after, ends (.error failure) after)
    (goesOn : ∀ value after, (second value).run.Keeps protocol cut ends after) :
    (first >>= second).run.Keeps protocol cut ends held :=
  -- The first part is left with no more known than that it has ended.
  attempt keeps (fun failure after _ => failed failure after) fun value after _ => goesOn value after

/-- A failure renamed ends as the failure would have to under its new name. -/
theorem adapt {ε' : Type} {rename : ε → ε'} {plan : Plan I (Except ε α)}
    {ends : Except ε' α → H → Prop}
    (keeps : plan.Keeps protocol cut (fun outcome after => ends (outcome.mapError rename) after)
      held) :
    (ExceptT.adapt rename (ExceptT.mk plan)).run.Keeps protocol cut ends held :=
  -- Renaming comes last and makes no call.
  bind (keeps.weaken fun _ _ kept ended => ⟨kept, ended⟩)

/-- A step of an attempt that cannot fail goes on from its value. -/
theorem lift {plan : Plan I α} {second : α → ExceptT ε (Plan I) β} {ends : Except ε β → H → Prop}
    (keeps : plan.Keeps protocol cut
      (fun value after => (second value).run.Keeps protocol cut ends after) held) :
    (ExceptT.lift plan >>= second).run.Keeps protocol cut ends held := by
  -- A step that cannot fail is a plan with the rest behind it.
  rw [ExceptT.run_bind_lift]
  exact bind keeps

/-- An attempt that ends with a step that cannot fail ends with the value of it. -/
theorem liftLast {plan : Plan I α} {ends : Except ε α → H → Prop}
    (keeps : plan.Keeps protocol cut (fun value after => ends (.ok value) after) held) :
    (ExceptT.lift plan : ExceptT ε (Plan I) α).run.Keeps protocol cut ends held :=
  bind (keeps.weaken fun _ _ kept ended => ⟨kept, ended⟩)

end Keeps

/-- A plan makes certain calls only, whatever is answered. -/
def Asks (allowed : I.Request → Prop) (plan : Plan I α) : Prop :=
  plan.Keeps (.only allowed) (fun _ => True) (fun _ _ => True) ()

namespace Asks

variable {allowed : I.Request → Prop} {ε' : Type}

/-- A plan that makes certain calls only makes no others than a wider choice of them. -/
theorem permits {wider : I.Request → Prop} {plan : Plan I α} (asks : plan.Asks allowed)
    (permitted : ∀ request, allowed request → wider request) : plan.Asks wider :=
  Keeps.permits asks permitted

/-- A plan that makes one call only makes no others than a choice with that call. -/
theorem permits_one {wider : I.Request → Prop} {request : I.Request} {plan : Plan I α}
    (asks : plan.Asks (· = request)) (permitted : wider request) : plan.Asks wider :=
  asks.permits fun _ same => same ▸ permitted

/-- A plan that is done makes no call. -/
theorem done (value : α) : (Plan.done value : Plan I α).Asks allowed := ⟨trivial, trivial⟩

/-- A single call. -/
theorem call {request : I.Request} (permitted : allowed request) :
    (Plan.ask request .done : Plan I (I.Reply request)).Asks allowed :=
  ⟨trivial, permitted, fun _ _ _ => ⟨trivial, trivial⟩⟩

/-- Two plans in a row. -/
theorem bind {plan : Plan I α} {second : α → Plan I β} (asks : plan.Asks allowed)
    (goesOn : ∀ value, (second value).Asks allowed) : (plan.bind second).Asks allowed :=
  Keeps.bind (asks.weaken fun value _ _ _ => goesOn value)

/-- An attempt and what follows a success. -/
theorem attempt {first : ExceptT ε (Plan I) α} {second : α → ExceptT ε (Plan I) β}
    (asks : first.run.Asks allowed) (goesOn : ∀ value, (second value).run.Asks allowed) :
    (first >>= second).run.Asks allowed :=
  Keeps.attempt asks (fun _ _ _ => trivial) fun value _ _ => goesOn value

/-- A step that cannot fail and what follows it. -/
theorem lift {plan : Plan I α} {second : α → ExceptT ε (Plan I) β} (asks : plan.Asks allowed)
    (goesOn : ∀ value, (second value).run.Asks allowed) :
    (ExceptT.lift plan >>= second).run.Asks allowed :=
  Keeps.lift (asks.weaken fun value _ _ _ => goesOn value)

/-- A plan whose failures are renamed. -/
theorem adapt {rename : ε → ε'} {plan : Plan I (Except ε α)} (asks : plan.Asks allowed) :
    (ExceptT.adapt rename (ExceptT.mk plan)).run.Asks allowed :=
  Keeps.adapt asks

/-- A plan with a deadline. -/
theorem withDeadline [Transient ε] {operation : String} {limit : Duration}
    {plan : Plan I (Except ε α)} (asks : plan.Asks allowed) :
    (Plan.withDeadline operation limit plan).Asks allowed :=
  Keeps.withDeadline (asks.mono (fun _ _ => ⟨trivial, trivial⟩) fun _ _ _ => ⟨trivial, trivial⟩)

/-- A plan that is attempted again. -/
theorem retryTransient [Transient ε] {policy : RetryPolicy} {limit : Duration} {operation : String}
    {plan : Plan I (Except ε α)} (asks : plan.Asks allowed) :
    (Plan.retryTransient policy limit operation plan).Asks allowed :=
  Keeps.retryTransient_steady (fun _ _ => asks) trivial

end Asks

end Plan

end Intake
